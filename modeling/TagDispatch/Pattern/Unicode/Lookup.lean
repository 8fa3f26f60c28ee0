import TagDispatch.Pattern.CharSet
import TagDispatch.Pattern.Unicode.Age
import TagDispatch.Pattern.Unicode.Break
import TagDispatch.Pattern.Unicode.Category
import TagDispatch.Pattern.Unicode.Property
import TagDispatch.Pattern.Unicode.Script
import TagDispatch.Pattern.Unicode.ScriptExtension

/-!
Character classes by the names of properties. Names are matched loosely: case, spaces, hyphens,
underscores and a leading "is" do not count.
-/

namespace TagDispatch.Unicode

/-- Only ASCII characters count in a name. -/
def looseName (name : String) : String :=
  let cs := name.toList
  let body := match cs with
    | a :: b :: rest => if a.toLower == 'i' && b.toLower == 's' then rest else cs
    | _ => cs
  let kept := (body.filter fun c => c.toNat < 0x80 && c != ' ' && c != '_' && c != '-').map
    Char.toLower
  if body.length < cs.length && kept == ['c'] then "isc" else String.ofList kept

def findNamed (name : String) (table : List (List String × List String)) : Option CharSet :=
  (table.find? fun (names, _) => names.contains name).map fun (_, deltas) =>
    .ofRanges (.ofDeltas deltas)

/-- Categories that are unions of others: their names, and the names of their members. -/
def categoryGroups : List (List String × List String) :=
  [(["c", "other"], ["cc", "cf", "cn", "co", "cs"]),
   (["l", "letter"], ["ll", "lm", "lo", "lt", "lu"]),
   (["lc", "casedletter"], ["ll", "lt", "lu"]),
   (["m", "mark", "combiningmark"], ["mc", "me", "mn"]),
   (["n", "number"], ["nd", "nl", "no"]),
   (["p", "punctuation", "punct"], ["pc", "pd", "pe", "pf", "pi", "po", "ps"]),
   (["s", "symbol"], ["sc", "sk", "sm", "so"]),
   (["z", "separator"], ["zl", "zp", "zs"])]

def anyChar : CharSet := .interval 0 CharSet.maxCodePoint

def category? (name : String) : Option CharSet :=
  match name with
  | "any" => some anyChar
  | "assigned" => (findNamed "cn" categories).map (CharSet.complement CharSet.maxCodePoint)
  | "ascii" => some (.interval 0 0x7f)
  | _ =>
    match categoryGroups.find? fun (names, _) => names.contains name with
    | some (_, members) => some <| .ofIntervals <|
      (members.filterMap (findNamed · categories)).flatMap CharSet.intervals
    | none => findNamed name categories

def script? (name : String) : Option CharSet := findNamed name scripts

def property? (name : String) : Option CharSet := findNamed name properties

/-- What had a meaning in a version of the standard; later versions take nothing back. -/
def age? (name : String) : Option CharSet := do
  let i ← ages.findIdx? fun (names, _) => names.contains name
  return .ofIntervals <| (ages.take (i + 1)).flatMap fun (_, deltas) =>
    (Text.Ranges.ofDeltas deltas).toIntervals

/-- A single name is a property, a category or a script; three short names of categories are also
names of properties with other kinds of values, and mean the category. -/
def class? (name : String) : Option CharSet :=
  let name := looseName name
  (if name == "cf" || name == "sc" || name == "lc" then none else property? name).or
    ((category? name).or (script? name))

/-- A property with a value. -/
def classOf? (property value : String) : Option CharSet :=
  let value := looseName value
  match looseName property with
  | "gc" => category? value
  | "generalcategory" => category? value
  | "sc" => script? value
  | "script" => script? value
  | "scx" => findNamed value scriptExtensions
  | "scriptextensions" => findNamed value scriptExtensions
  | "age" => age? value
  | "gcb" => findNamed value graphemeBreaks
  | "graphemeclusterbreak" => findNamed value graphemeBreaks
  | "wb" => findNamed value wordBreaks
  | "wordbreak" => findNamed value wordBreaks
  | "sb" => findNamed value sentenceBreaks
  | "sentencebreak" => findNamed value sentenceBreaks
  | _ => none

/-- Decimal digits of all scripts. -/
def digits : CharSet := (category? "nd").getD .empty

def letters : CharSet := (property? "alphabetic").getD .empty

def numbers : CharSet := (category? "n").getD .empty

def blanks : CharSet := (property? "whitespace").getD .empty

/-- Letters, marks, digits, connectors and joiners. -/
def wordChars : CharSet :=
  .ofIntervals <| [property? "alphabetic", category? "m", category? "nd", category? "pc",
    property? "joincontrol"].flatMap fun s => (s.getD .empty).intervals

def asciiDigits : CharSet := .interval 0x30 0x39

def asciiBlanks : CharSet := .ofIntervals [(0x09, 0x0d), (0x20, 0x20)]

def asciiWordChars : CharSet :=
  .ofIntervals [(0x30, 0x39), (0x41, 0x5a), (0x5f, 0x5f), (0x61, 0x7a)]

/-- The classes that stand between colons inside a bracketed class. -/
def posixClass? : String → Option CharSet
  | "alnum" => some (.ofIntervals [(0x30, 0x39), (0x41, 0x5a), (0x61, 0x7a)])
  | "alpha" => some (.ofIntervals [(0x41, 0x5a), (0x61, 0x7a)])
  | "ascii" => some (.interval 0 0x7f)
  | "blank" => some (.ofIntervals [(0x09, 0x09), (0x20, 0x20)])
  | "cntrl" => some (.ofIntervals [(0, 0x1f), (0x7f, 0x7f)])
  | "digit" => some asciiDigits
  | "graph" => some (.interval 0x21 0x7e)
  | "lower" => some (.interval 0x61 0x7a)
  | "print" => some (.interval 0x20 0x7e)
  | "punct" => some (.ofIntervals [(0x21, 0x2f), (0x3a, 0x40), (0x5b, 0x60), (0x7b, 0x7e)])
  | "space" => some asciiBlanks
  | "upper" => some (.interval 0x41 0x5a)
  | "word" => some asciiWordChars
  | "xdigit" => some (.ofIntervals [(0x30, 0x39), (0x41, 0x46), (0x61, 0x66)])
  | _ => none

end TagDispatch.Unicode
