import TagDispatch.Config.Reading
import TagDispatch.Document.Yaml.Node
import TagDispatch.Text.Ranges

/-!
Configurations in YAML. A plain scalar is read by what is wanted; a quoted one is always text. An
empty scalar passes for an empty collection.
-/

namespace TagDispatch

namespace Yaml

/-! ### Plain words -/

def isNullWord (s : String) : Bool := ["null", "Null", "NULL", "~"].contains s

def boolWord? (s : String) : Option Bool :=
  if ["true", "True", "TRUE"].contains s then some true
  else if ["false", "False", "FALSE"].contains s then some false
  else none

/-- Digits in a base of sixteen at most. -/
def natInBase? (base : Nat) : List Char → Option Nat
  | [] => none
  | cs => cs.foldlM (fun n c => do
      let d ← Text.hexDigit? c
      if d < base then some (base * n + d) else none) 0

/-- After a sign, the digits; a further sign is not among them. A number with zeros in front is
not taken for one, lest it be read as octal. -/
def natDigits? : List Char → Option Nat
  | '0' :: 'x' :: cs => natInBase? 16 cs
  | '0' :: 'o' :: cs => natInBase? 8 cs
  | '0' :: 'b' :: cs => natInBase? 2 cs
  | '0' :: c :: cs => if (c :: cs).all Char.isDigit then none else natInBase? 10 ('0' :: c :: cs)
  | cs => natInBase? 10 cs

/-- A natural number of one machine word. -/
def natWord? (s : String) : Option Nat := do
  let n ← natDigits? <| match s.toList with
    | '+' :: cs => cs
    | cs => cs
  if n < UInt64.size then some n else none

/-! ### Readings -/

def boolTag : String := "tag:yaml.org,2002:bool"

def natTag : String := "tag:yaml.org,2002:int"

def nullTag : String := "tag:yaml.org,2002:null"

/-- The text of a scalar that may be read as something else than text: a plain one, or a literal
block that says so by its tag. -/
def word? (tag : String) : Yaml → Option String
  | .scalar t s style =>
    if style == .plain || (style == .literal && t == some tag) then some s else none
  | _ => none

/-- Nothing at all is written. -/
def isBlankScalar : Yaml → Bool
  | .scalar _ s .plain => s.isEmpty
  | _ => false

def scalarText? : Yaml → Option String
  | .scalar _ s _ => some s
  | _ => none

/-- Text, unless the scalar is plain and says that there is none. -/
def scalarOptionalText? : Yaml → Option (Option String)
  | .scalar none s .plain => some (if s.isEmpty || isNullWord s then none else some s)
  | .scalar (some t) s .plain =>
    if t == nullTag then if isNullWord s then some none else none else some (some s)
  | .scalar _ s _ => some (some s)
  | _ => none

/-- The name that a local tag gives; the mark alone names itself. -/
def localName? (tag : String) : Option String :=
  match tag.toList with
  | ['!'] => some tag
  | '!' :: cs => some (String.ofList cs)
  | _ => none

/-- An alternative is named by a scalar, or by the local tag of an empty one. -/
def scalarChoice? : Yaml → Option String
  | .scalar tag s style =>
    match tag.bind localName? with
    | some name => if style == .plain && (s.isEmpty || isNullWord s) then some name else none
    | none => some s
  | _ => none

namespace Document

variable (d : Document)

def text? (v : Yaml) : Option String := (d.follow v).bind scalarText?

def items? (v : Yaml) : Option (List Yaml) := do
  match ← d.follow v with
  | .seq _ items => some items
  | v => if v.isBlankScalar then some [] else none

/-- Keys are scalars of any style. -/
def entries? (v : Yaml) : Option (List (String × Yaml)) := do
  match ← d.follow v with
  | .map _ entries => entries.mapM fun (k, v) => (d.text? k).map (·, v)
  | v => if v.isBlankScalar then some [] else none

def documentReader : DocumentReader Yaml where
  text? := d.text?
  optionalText? v := (d.follow v).bind scalarOptionalText?
  bool? v := (d.follow v).bind fun v => (v.word? boolTag).bind boolWord?
  nat? v := (d.follow v).bind fun v => (v.word? natTag).bind natWord?
  items? := d.items?
  entries? := d.entries?
  choice? v := (d.follow v).bind scalarChoice?

def config? : Option Config := (d.entries? d.root).bind d.documentReader.configOfEntries?

end Document

end Yaml

end TagDispatch
