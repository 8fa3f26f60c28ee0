import TagDispatch.Text.Ranges

/-!
JSON texts. Reading checks the grammar of a whole text and keeps numbers as they are spelled. A
string whose escapes name half of a surrogate pair is grammatical but has no text; it is kept as
such, so that it does no harm where nobody asks for its text.
-/

namespace TagDispatch

inductive Json where
  | null
  | bool (value : Bool)
  | number (literal : String)
  | str (text : Option String)
  | arr (items : List Json)
  | obj (members : List (Option String × Json))

namespace Json

def isBlank (c : Char) : Bool := c == ' ' || c == '\n' || c == '\t' || c == '\r'

def skipBlanks (cs : List Char) : List Char := cs.dropWhile isBlank

/-! ### Numbers -/

/-- A run of at least one digit. -/
def digits1 (cs : List Char) : Option (List Char × List Char) :=
  match cs.takeWhile Char.isDigit with
  | [] => none
  | ds => some (ds, cs.dropWhile Char.isDigit)

/-- The whole part has no leading zero. -/
def wholePart : List Char → Option (List Char × List Char)
  | '0' :: rest =>
    match rest with
    | c :: _ => if c.isDigit then none else some (['0'], rest)
    | [] => some (['0'], [])
  | cs => digits1 cs

def fractionPart : List Char → Option (List Char × List Char)
  | '.' :: rest => (digits1 rest).map fun (ds, r) => ('.' :: ds, r)
  | cs => some ([], cs)

def exponentPart : List Char → Option (List Char × List Char)
  | c :: rest =>
    if c == 'e' || c == 'E' then
      match rest with
      | '+' :: r => (digits1 r).map fun (ds, r) => (c :: '+' :: ds, r)
      | '-' :: r => (digits1 r).map fun (ds, r) => (c :: '-' :: ds, r)
      | r => (digits1 r).map fun (ds, r) => (c :: ds, r)
    else some ([], c :: rest)
  | [] => some ([], [])

def unsignedNumber (cs : List Char) : Option (List Char × List Char) := do
  let (whole, cs) ← wholePart cs
  let (fraction, cs) ← fractionPart cs
  let (exponent, cs) ← exponentPart cs
  return (whole ++ fraction ++ exponent, cs)

def numberToken : List Char → Option (List Char × List Char)
  | '-' :: cs => (unsignedNumber cs).map fun (ds, r) => ('-' :: ds, r)
  | cs => unsignedNumber cs

/-! ### Strings -/

/-- Four hexadecimal digits as a code unit. -/
def codeUnit : List Char → Option (Nat × List Char)
  | a :: b :: c :: d :: rest => do
    let a ← Text.hexDigit? a
    let b ← Text.hexDigit? b
    let c ← Text.hexDigit? c
    let d ← Text.hexDigit? d
    return (((a * 16 + b) * 16 + c) * 16 + d, rest)
  | _ => none

def isHighSurrogate (u : Nat) : Bool := 0xD800 ≤ u && u < 0xDC00

def isLowSurrogate (u : Nat) : Bool := 0xDC00 ≤ u && u < 0xE000

/-- The second half of a pair, if it follows at once. -/
def lowSurrogate? : List Char → Option (Nat × List Char)
  | '\\' :: 'u' :: cs =>
    match codeUnit cs with
    | some (u, rest) => if isLowSurrogate u then some (u, rest) else none
    | none => none
  | _ => none

/-- One escape after its backslash. The character is absent where a surrogate stands alone. -/
def escape : List Char → Option (Option Char × List Char)
  | '\"' :: r => some (some '\"', r)
  | '\\' :: r => some (some '\\', r)
  | '/' :: r => some (some '/', r)
  | 'b' :: r => some (some '\x08', r)
  | 'f' :: r => some (some '\x0c', r)
  | 'n' :: r => some (some '\n', r)
  | 'r' :: r => some (some '\r', r)
  | 't' :: r => some (some '\t', r)
  | 'u' :: r =>
    match codeUnit r with
    | none => none
    | some (u, r) =>
      if isHighSurrogate u then
        match lowSurrogate? r with
        | some (v, r') => some (some (.ofNat (0x10000 + (u - 0xD800) * 0x400 + (v - 0xDC00))), r')
        | none => some (none, r)
      else if isLowSurrogate u then some (none, r)
      else some (some (.ofNat u), r)
  | _ => none

/-- The rest of a string after its opening quote; `acc` is what was read, in reverse, and absent
once a lone surrogate was met. -/
def stringBody : Nat → Option (List Char) → List Char → Option (Option String × List Char)
  | 0, _, _ => none
  | _ + 1, _, [] => none
  | fuel + 1, acc, c :: cs =>
    if c == '\"' then some (acc.map fun cs => String.ofList cs.reverse, cs)
    else if c == '\\' then
      match escape cs with
      | some (some c, cs) => stringBody fuel (acc.map (c :: ·)) cs
      | some (none, cs) => stringBody fuel none cs
      | none => none
    else if c.toNat < 0x20 then none
    else stringBody fuel (acc.map (c :: ·)) cs

def stringToken (cs : List Char) : Option (Option String × List Char) :=
  stringBody (cs.length + 1) (some []) cs

/-! ### Values -/

mutual

/-- Each call takes at least one character before the next value, so the fuel only has to exceed
twice the length of the text. -/
def value : Nat → List Char → Option (Json × List Char)
  | 0, _ => none
  | fuel + 1, cs =>
    match skipBlanks cs with
    | 'n' :: 'u' :: 'l' :: 'l' :: r => some (.null, r)
    | 't' :: 'r' :: 'u' :: 'e' :: r => some (.bool true, r)
    | 'f' :: 'a' :: 'l' :: 's' :: 'e' :: r => some (.bool false, r)
    | '\"' :: r => (stringToken r).map fun (s, r) => (.str s, r)
    | '[' :: r =>
      match skipBlanks r with
      | ']' :: r => some (.arr [], r)
      | r => (itemsFrom fuel r).map fun (vs, r) => (.arr vs, r)
    | '\x7b' :: r =>
      match skipBlanks r with
      | '\x7d' :: r => some (.obj [], r)
      | r => (membersFrom fuel r).map fun (ms, r) => (.obj ms, r)
    | cs => (numberToken cs).map fun (ds, r) => (.number (String.ofList ds), r)

def itemsFrom : Nat → List Char → Option (List Json × List Char)
  | 0, _ => none
  | fuel + 1, cs =>
    match value fuel cs with
    | none => none
    | some (v, r) =>
      match skipBlanks r with
      | ',' :: r => (itemsFrom fuel r).map fun (vs, r) => (v :: vs, r)
      | ']' :: r => some ([v], r)
      | _ => none

def membersFrom : Nat → List Char → Option (List (Option String × Json) × List Char)
  | 0, _ => none
  | fuel + 1, cs =>
    match skipBlanks cs with
    | '\"' :: r =>
      match stringToken r with
      | none => none
      | some (k, r) =>
        match skipBlanks r with
        | ':' :: r =>
          match value fuel r with
          | none => none
          | some (v, r) =>
            match skipBlanks r with
            | ',' :: r => (membersFrom fuel r).map fun (ms, r) => ((k, v) :: ms, r)
            | '\x7d' :: r => some ([(k, v)], r)
            | _ => none
        | _ => none
    | _ => none

end

/-- Reads a text that holds one value and nothing else. -/
def read? (text : String) : Option Json :=
  let cs := text.toList
  match value (2 * cs.length + 2) cs with
  | some (v, rest) => if (skipBlanks rest).isEmpty then some v else none
  | none => none

end Json

end TagDispatch
