import TagDispatch.Config.Json
import TagDispatch.Config.Toml
import TagDispatch.Config.Yaml
import TagDispatch.Report.Message

/-!
Configurations from texts and from files.
-/

namespace TagDispatch

namespace Config

def parse (format : Format) (text : String) : Except ConfigError Config :=
  let result := match format with
    | .json => (Json.read? text).bind Json.config?
    | .yaml => (Yaml.read? text).bind Yaml.Document.config?
    | .toml => (Toml.read? text).bind Toml.config?
  match result with
  | some c => .ok c
  | none => .error (.invalid format)

end Config

/-- What is found at a path. -/
inductive FileContent where
  | missing
  | directory
  | bytes (data : ByteArray)

def FileContent.text? : FileContent → Option String
  | missing => none
  | directory => none
  | bytes data => String.fromUTF8? data

/-- The file's name is looked at before its content. A configuration that was loaded is
reported. -/
def Config.load (path : String) (content : FileContent) :
    Except ConfigError (Config × Message) := do
  match Format.ofPath path with
  | .error extension => throw (.unsupportedFormat extension)
  | .ok format =>
    match content.text? with
    | none => throw .unreadable
    | some text =>
      let c ← Config.parse format text
      return (c, .configLoaded path format c.strict c.excludedTags.size)

end TagDispatch
