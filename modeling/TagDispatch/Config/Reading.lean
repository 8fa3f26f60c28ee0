import TagDispatch.Config.Basic
import TagDispatch.Config.Format
import TagDispatch.Pattern.Reader

/-!
Configurations from documents. A document format says how its values are read as texts, truth
values and so on; which options there are, and what each of them takes, is the same for all.
-/

namespace TagDispatch

/-- The options in the order in which they can be given without names. -/
inductive OptionKey where
  | defaultHandler
  | warnOnDefault
  | autoShiftTag
  | excludedTags
  | debugTrace
  | strict
  | expected
  | requireEmpty
  | fieldAccessors
  | captureSnapshot
  | maxRewriteRounds
  deriving DecidableEq, Repr

namespace OptionKey

def all : List OptionKey :=
  [defaultHandler, warnOnDefault, autoShiftTag, excludedTags, debugTrace, strict, expected,
   requireEmpty, fieldAccessors, captureSnapshot, maxRewriteRounds]

def name : OptionKey → String
  | defaultHandler => "default_handler"
  | warnOnDefault => "warn_on_default"
  | autoShiftTag => "auto_shift_tag"
  | excludedTags => "excluded_tags"
  | debugTrace => "debug_trace"
  | strict => "strict"
  | expected => "expected"
  | requireEmpty => "require_empty"
  | fieldAccessors => "field_accessors"
  | captureSnapshot => "capture_original"
  | maxRewriteRounds => "max_rewrite_rounds"

def ofName? (s : String) : Option OptionKey := all.find? (·.name == s)

end OptionKey

/-- How the values of a document format are read. A reading that does not apply has no result. -/
structure DocumentReader (ν : Type) where
  text? : ν → Option String
  /-- Absence is a value too. -/
  optionalText? : ν → Option (Option String)
  bool? : ν → Option Bool
  nat? : ν → Option Nat
  items? : ν → Option (List ν)
  entries? : ν → Option (List (String × ν))
  /-- The name of one of several alternatives without further content. -/
  choice? : ν → Option String

namespace DocumentReader

variable {ν : Type} (r : DocumentReader ν)

def texts? (v : ν) : Option (List String) := do (← r.items? v).mapM r.text?

def table? {α : Type} (f : ν → Option α) (v : ν) : Option (Table α) := do
  let entries ← r.entries? v
  return Table.ofList (← entries.mapM fun (k, v) => (f v).map (k, ·))

def pattern? (v : ν) : Option Pattern := (r.text? v).bind Pattern.compile?

def setting? (v : ν) : OptionKey → Option Setting
  | .defaultHandler => (r.optionalText? v).map .defaultHandler
  | .warnOnDefault => (r.bool? v).map .warnOnDefault
  | .autoShiftTag => (r.bool? v).map .autoShiftTag
  | .excludedTags => (r.texts? v).map fun tags => .excludedTags (.ofList tags)
  | .debugTrace => (r.table? r.pattern? v).map .debugTrace
  | .strict => (r.bool? v).map .strict
  | .expected => ((r.choice? v).bind ResultType.ofName?).map .expected
  | .requireEmpty => (r.bool? v).map .requireEmpty
  | .fieldAccessors => (r.table? r.texts? v).map .fieldAccessors
  | .captureSnapshot => (r.bool? v).map .captureSnapshot
  | .maxRewriteRounds => (r.nat? v).map .maxRewriteRounds

def settings? (pairs : List (OptionKey × ν)) : Option (List Setting) :=
  pairs.mapM fun (key, v) => r.setting? v key

/-- Options by name. A name that is no option's is passed over; an option is given once. -/
def configOfEntries? (entries : List (String × ν)) : Option Config := do
  let known := entries.filterMap fun (name, v) => (OptionKey.ofName? name).map (·, v)
  if (known.map Prod.fst).Nodup then
    return (← r.settings? known).foldl Config.set {}
  else none

/-- Options by place; those at the end may be left out. -/
def configOfItems? (items : List ν) : Option Config := do
  if items.length ≤ OptionKey.all.length then
    return (← r.settings? (OptionKey.all.zip items)).foldl Config.set {}
  else none

end DocumentReader

/-- The settings that an entry of a document makes, for use while a processor runs. -/
def DocumentReader.settingsOfEntries? {ν : Type} (r : DocumentReader ν)
    (entries : List (String × ν)) : Option (List Setting) :=
  r.settings? (entries.filterMap fun (name, v) => (OptionKey.ofName? name).map (·, v))

inductive ConfigError where
  | unreadable
  | invalid (format : Format)
  | invalidPattern (tag : String)
  | unsupportedFormat (extension : String)

/-- What went wrong; the particulars of a malformed document are not told. -/
def ConfigError.message : ConfigError → String
  | unreadable => "I/O error: "
  | invalid .yaml => "invalid YAML config: "
  | invalid .toml => "invalid TOML config: "
  | invalid .json => "invalid JSON config: "
  | invalidPattern tag => "invalid trace pattern for '" ++ tag ++ "': "
  | unsupportedFormat extension => "unsupported config format: '" ++ extension ++ "'"

/-- Traces nodes of a tag by the pattern that a text spells. -/
def Config.withDebugTrace (c : Config) (tag source : String) : Except ConfigError Config :=
  match Pattern.compile? source with
  | some p => .ok (c.withTrace tag p)
  | none => .error (.invalidPattern tag)

end TagDispatch
