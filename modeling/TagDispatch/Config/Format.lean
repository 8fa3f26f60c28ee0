/-!
The formats a configuration can be written in, and how a file's name tells which one.
-/

namespace TagDispatch

inductive Format where
  | yaml
  | toml
  | json
  deriving DecidableEq, Repr

namespace Format

def title : Format → String
  | yaml => "Yaml"
  | toml => "Toml"
  | json => "Json"

/-- The parts of a path between slashes; empty parts and single points name nothing. -/
def pathParts (path : String) : List (List Char) :=
  ((path.toList.splitOnP (· == '/')).filter (· ≠ [])).filter (· ≠ ['.'])

/-- What follows the last point of a name, unless the point is its first character. -/
def extensionOf (name : List Char) : List Char :=
  match name.reverse.span (· ≠ '.') with
  | (ext, _ :: _ :: _) => ext.reverse
  | _ => []

/-- The extension of the file a path names; empty if it names none. -/
def extension (path : String) : String :=
  match (pathParts path).getLast? with
  | none => ""
  | some name => if name = ['.', '.'] then "" else String.ofList (extensionOf name)

/-- An unknown extension is handed back. -/
def ofPath (path : String) : Except String Format :=
  match extension path with
  | "yaml" => .ok yaml
  | "yml" => .ok yaml
  | "toml" => .ok toml
  | "json" => .ok json
  | other => .error other

end Format

end TagDispatch
