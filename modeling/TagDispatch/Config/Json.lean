import TagDispatch.Config.Reading
import TagDispatch.Document.Json

/-!
Configurations in JSON: an object of options by name, or an array of options by place.
-/

namespace TagDispatch

namespace Json

def text? : Json → Option String
  | str s => s
  | _ => none

def optionalText? : Json → Option (Option String)
  | null => some none
  | v => v.text?.map some

def bool? : Json → Option Bool
  | bool b => some b
  | _ => none

/-- Plain digits that fit into 64 bits. -/
def nat? : Json → Option Nat
  | number s =>
    if s.toList.all Char.isDigit then
      let n := s.toList.foldl (fun n d => 10 * n + (d.toNat - '0'.toNat)) 0
      if n < UInt64.size then some n else none
    else none
  | _ => none

def items? : Json → Option (List Json)
  | arr items => some items
  | _ => none

/-- All keys have to be texts. -/
def entries? : Json → Option (List (String × Json))
  | obj members => members.mapM fun (k, v) => k.map (·, v)
  | _ => none

/-- An alternative is named by a text, or by an object whose only key maps to null. -/
def choice? : Json → Option String
  | str s => s
  | obj [(some k, null)] => some k
  | _ => none

def documentReader : DocumentReader Json :=
  { text?, optionalText?, bool?, nat?, items?, entries?, choice? }

def config? : Json → Option Config
  | arr items => documentReader.configOfItems? items
  | v => v.entries?.bind documentReader.configOfEntries?

end Json

end TagDispatch
