import TagDispatch.Config.Reading
import TagDispatch.Document.Toml.Reader

/-!
Configurations in TOML: the entries of the document's root.
-/

namespace TagDispatch

namespace Toml

def text? : Toml → Option String
  | str s => some s
  | _ => none

def bool? : Toml → Option Bool
  | bool b => some b
  | _ => none

def nat? : Toml → Option Nat
  | int i => if 0 ≤ i then some i.toNat else none
  | _ => none

def items? : Toml → Option (List Toml)
  | arr items => some items
  | tables items => some (items.map (.table .defined))
  | _ => none

def entries? : Toml → Option Entries
  | inline _ es => some es
  | table _ es => some es
  | _ => none

/-- Whether a value can stand for no content. -/
def isVoid : Toml → Bool
  | arr [] => true
  | tables [] => true
  | inline _ [] => true
  | table _ [] => true
  | _ => false

/-- An alternative is named by a text, or by a table whose only key maps to nothing. -/
def choice? : Toml → Option String
  | str s => some s
  | inline _ [(k, v)] => if v.isVoid then some k else none
  | table _ [(k, v)] => if v.isVoid then some k else none
  | _ => none

def documentReader : DocumentReader Toml :=
  { text?, optionalText? := fun v => v.text?.map some, bool?, nat?, items?, entries?, choice? }

def config? (root : Entries) : Option Config := documentReader.configOfEntries? root

end Toml

end TagDispatch
