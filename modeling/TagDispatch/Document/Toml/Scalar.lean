import TagDispatch.Document.Toml.Table
import TagDispatch.Text.Ranges

/-!
Strings, numbers and dates of TOML. Each reader takes what it needs off the front and gives back
the rest.
-/

namespace TagDispatch.Toml

abbrev Chars := List Char

/-- Characters that may stand in comments and in strings of one line. -/
def isPlain (c : Char) : Bool := c == '\t' || (0x20 ≤ c.toNat && c.toNat ≠ 0x7f)

def isBlank (c : Char) : Bool := c == ' ' || c == '\t'

def skipBlanks (cs : Chars) : Chars := cs.dropWhile isBlank

/-- A line's end: a line feed, alone or after a carriage return. -/
def newline? : Chars → Option Chars
  | '\n' :: cs => some cs
  | '\r' :: '\n' :: cs => some cs
  | _ => none

/-! ### Strings -/

def hexValue? (cs : Chars) : Option Nat :=
  cs.foldlM (fun n c => (Text.hexDigit? c).map (16 * n + ·)) 0

/-- A code point in `digits` hexadecimal digits. -/
def codePoint? (digits : Nat) (cs : Chars) : Option (Char × Chars) := do
  let ds := cs.take digits
  if ds.length < digits then none
  else
    let n ← hexValue? ds
    if n < 0xD800 || (0xE000 ≤ n && n ≤ 0x10FFFF) then some (.ofNat n, cs.drop digits) else none

/-- After a backslash. -/
def escape? : Chars → Option (Char × Chars)
  | 'b' :: cs => some ('\x08', cs)
  | 't' :: cs => some ('\t', cs)
  | 'n' :: cs => some ('\n', cs)
  | 'f' :: cs => some ('\x0c', cs)
  | 'r' :: cs => some ('\r', cs)
  | '\"' :: cs => some ('\"', cs)
  | '\\' :: cs => some ('\\', cs)
  | 'u' :: cs => codePoint? 4 cs
  | 'U' :: cs => codePoint? 8 cs
  | _ => none

def basicBody : Nat → Chars → Chars → Option (String × Chars)
  | 0, _, _ => none
  | _ + 1, _, [] => none
  | fuel + 1, acc, c :: cs =>
    if c == '\"' then some (String.ofList acc.reverse, cs)
    else if c == '\\' then
      match escape? cs with
      | some (c, cs) => basicBody fuel (c :: acc) cs
      | none => none
    else if isPlain c then basicBody fuel (c :: acc) cs
    else none

def literalBody (acc : Chars) : Chars → Option (String × Chars)
  | [] => none
  | c :: cs =>
    if c == '\x27' then some (String.ofList acc.reverse, cs)
    else if isPlain c then literalBody (c :: acc) cs
    else none

/-- Drops blanks and line ends. -/
def skipLines : Nat → Chars → Chars
  | 0, cs => cs
  | fuel + 1, cs =>
    match newline? cs with
    | some cs => skipLines fuel cs
    | none =>
      match cs with
      | c :: rest => if isBlank c then skipLines fuel rest else c :: rest
      | [] => []

/-- The body of a string over several lines. Up to two quotes can stand before the closing three,
and with escapes a backslash at the end of a line joins it to the next word. -/
def linesBody (quote : Char) (escapes : Bool) : Nat → Chars → Chars → Option (String × Chars)
  | 0, _, _ => none
  | _ + 1, _, [] => none
  | fuel + 1, acc, c :: cs =>
    if c == quote then
      let run := 1 + (cs.takeWhile (· == quote)).length
      if run < 3 then linesBody quote escapes fuel (c :: acc) cs
      else if run ≤ 5 then
        some (String.ofList (List.replicate (run - 3) quote ++ acc).reverse, cs.drop (run - 1))
      else none
    else if escapes && c == '\\' then
      match escape? cs with
      | some (c, cs) => linesBody quote escapes fuel (c :: acc) cs
      | none =>
        match newline? (skipBlanks cs) with
        | some cs => linesBody quote escapes fuel acc (skipLines (cs.length + 1) cs)
        | none => none
    else
      match newline? (c :: cs) with
      | some cs => linesBody quote escapes fuel ('\n' :: acc) cs
      | none => if isPlain c then linesBody quote escapes fuel (c :: acc) cs else none

/-- A line's end right after the opening quotes is dropped. -/
def dropNewline (cs : Chars) : Chars := (newline? cs).getD cs

/-- A string of either kind on one line. -/
def lineString? : Chars → Option (String × Chars)
  | '\"' :: cs => basicBody (cs.length + 1) [] cs
  | '\x27' :: cs => literalBody [] cs
  | _ => none

def string? : Chars → Option (String × Chars)
  | '\"' :: '\"' :: '\"' :: cs => linesBody '\"' true (cs.length + 1) [] (dropNewline cs)
  | '\x27' :: '\x27' :: '\x27' :: cs => linesBody '\x27' false (cs.length + 1) [] (dropNewline cs)
  | cs => lineString? cs

/-! ### Numbers -/

/-- Digits with single underscores between them, as a number. -/
def digitsValue? (base : Nat) (cs : Chars) : Option Nat :=
  go cs none
where
  digit? (c : Char) : Option Nat :=
    match Text.hexDigit? c with
    | some d => if d < base then some d else none
    | none => none
  go : Chars → Option Nat → Option Nat
    | [], acc => acc
    | '_' :: c :: cs, some n =>
      match digit? c with
      | some d => go cs (some (base * n + d))
      | none => none
    | c :: cs, acc =>
      match digit? c with
      | some d => go cs (some (base * acc.getD 0 + d))
      | none => none

/-- Decimal digits without a leading zero. -/
def decimalWhole? : Chars → Option Nat
  | ['0'] => some 0
  | '0' :: _ => none
  | cs => digitsValue? 10 cs

def splitSign : Chars → Bool × Chars
  | '-' :: cs => (true, cs)
  | '+' :: cs => (false, cs)
  | cs => (false, cs)

/-- Integers of 64 bits. -/
def integer? (cs : Chars) : Option Int := do
  let n : Int ← match cs with
    | '0' :: 'x' :: ds => (digitsValue? 16 ds).map Int.ofNat
    | '0' :: 'o' :: ds => (digitsValue? 8 ds).map Int.ofNat
    | '0' :: 'b' :: ds => (digitsValue? 2 ds).map Int.ofNat
    | cs =>
      let (negative, ds) := splitSign cs
      (decimalWhole? ds).map fun n => if negative then -(n : Int) else n
  if Int64.minValue.toInt ≤ n && n ≤ Int64.maxValue.toInt then some n else none

/-- Whether `digits * 10 ^ scale` is so large that the nearest double is infinite. -/
def isHuge (digits : Nat) (scale : Int) : Bool :=
  if digits = 0 then false
  else
    let places := (Nat.toDigits 10 digits).length + scale
    if places < 309 then false
    else if 310 < places then true
    else
      let least := Nat.pow 2 1024 - Nat.pow 2 970
      least * Nat.pow 10 (-scale).toNat ≤ digits * Nat.pow 10 scale.toNat

/-- The part of a number from its exponent's mark on. -/
def exponentValue? : Chars → Option Int
  | c :: cs =>
    if c == 'e' || c == 'E' then
      let (negative, ds) := splitSign cs
      (digitsValue? 10 ds).map fun n => if negative then -(n : Int) else n
    else none
  | [] => some 0

def isExponentMark (c : Char) : Bool := c == 'e' || c == 'E'

/-- A fraction or an exponent makes a number a float; one that overflows is refused. -/
def isFloat (cs : Chars) : Bool :=
  let (negative, body) := splitSign cs
  if body == ['i', 'n', 'f'] || body == ['n', 'a', 'n'] then true
  else
    let whole := body.takeWhile fun c => c != '.' && !isExponentMark c
    let rest := body.drop whole.length
    match decimalWhole? whole, rest with
    | some w, '.' :: rest =>
      let fraction := rest.takeWhile (!isExponentMark ·)
      match digitsValue? 10 fraction, exponentValue? (rest.drop fraction.length) with
      | some f, some e =>
        let places := (fraction.filter (· != '_')).length
        negative || !isHuge (w * Nat.pow 10 places + f) (e - places)
      | _, _ => false
    | some w, _ :: _ =>
      match exponentValue? rest with
      | some e => negative || !isHuge w e
      | none => false
    | _, _ => false

/-! ### Dates -/

/-- Exactly `n` digits. -/
def fixedDigits? (n : Nat) (cs : Chars) : Option (Nat × Chars) :=
  let ds := cs.take n
  if ds.length = n && ds.all Char.isDigit then (digitsValue? 10 ds).map (·, cs.drop n) else none

def expect? (c : Char) : Chars → Option Chars
  | d :: cs => if c == d then some cs else none
  | [] => none

def daysIn (year month : Nat) : Nat :=
  if month = 2 then
    if year % 4 = 0 && (year % 100 ≠ 0 || year % 400 = 0) then 29 else 28
  else if [4, 6, 9, 11].contains month then 30
  else 31

def date? (cs : Chars) : Option Chars := do
  let (year, cs) ← fixedDigits? 4 cs
  let cs ← expect? '-' cs
  let (month, cs) ← fixedDigits? 2 cs
  let cs ← expect? '-' cs
  let (day, cs) ← fixedDigits? 2 cs
  if 1 ≤ month && month ≤ 12 && 1 ≤ day && day ≤ daysIn year month then some cs else none

/-- A second more than usual is allowed for. -/
def time? (cs : Chars) : Option Chars := do
  let (hour, cs) ← fixedDigits? 2 cs
  let cs ← expect? ':' cs
  let (minute, cs) ← fixedDigits? 2 cs
  let cs ← expect? ':' cs
  let (second, cs) ← fixedDigits? 2 cs
  if hour ≤ 23 && minute ≤ 59 && second ≤ 60 then
    match cs with
    | '.' :: rest =>
      let after := rest.dropWhile Char.isDigit
      if after.length < rest.length then some after else none
    | cs => some cs
  else none

def offset? (cs : Chars) : Option Chars :=
  match cs with
  | [] => some []
  | 'Z' :: cs => some cs
  | 'z' :: cs => some cs
  | c :: cs =>
    if c == '+' || c == '-' then do
      let (hour, cs) ← fixedDigits? 2 cs
      let cs ← expect? ':' cs
      let (minute, cs) ← fixedDigits? 2 cs
      if hour ≤ 23 && minute ≤ 59 then some cs else none
    else none

/-- A date, a time, or both with an offset. -/
def isDateTime (cs : Chars) : Bool :=
  match date? cs with
  | some [] => true
  | some (c :: rest) =>
    if c == 'T' || c == 't' || c == ' ' then
      ((time? rest).bind offset?) == some []
    else false
  | none => time? cs == some []

/-! ### Words -/

/-- Characters of numbers, dates and the named values. -/
def isWordChar (c : Char) : Bool :=
  c.isAlphanum || c == '_' || c == '+' || c == '-' || c == '.' || c == ':'

/-- The next word; a date and the time after it, with one space between, are one word. -/
def word (cs : Chars) : Chars × Chars :=
  let w := cs.takeWhile isWordChar
  let rest := cs.drop w.length
  match rest with
  | ' ' :: d :: more =>
    if d.isDigit && date? w == some [] then
      let t := (d :: more).takeWhile isWordChar
      (w ++ ' ' :: t, (d :: more).drop t.length)
    else (w, rest)
  | _ => (w, rest)

/-- A value that is written as one word. -/
def wordValue? (w : Chars) : Option Toml :=
  if w == ['t', 'r', 'u', 'e'] then some (.bool true)
  else if w == ['f', 'a', 'l', 's', 'e'] then some (.bool false)
  else if isDateTime w then some .date
  else if isFloat w then some .float
  else (integer? w).map .int

end TagDispatch.Toml
