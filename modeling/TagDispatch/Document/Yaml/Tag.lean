import TagDispatch.Document.Yaml.Token
import TagDispatch.Text.Ranges

/-!
What YAML puts in front of values and documents: anchors, tags and directives.
-/

namespace TagDispatch.Yaml.Scan

/-- The name of an anchor, after its mark. -/
def anchorName : Scan String := do
  skip
  let name ← readWhile isNameChar
  check (!name.isEmpty)
  match ← peek with
  | none => pure ()
  | some c =>
    check (isBlank c || isBreak c || ['?', ':', ',', ']', '\x7d', '%', '@', '\x60'].contains c)
  return String.ofList name

/-! ### Tags -/

def isTagChar (c : Char) : Bool :=
  isNameChar c || [';', '/', '?', ':', '@', '&', '=', '+', '$', '.', '!', '~', '*', '\x27', '(',
    ')'].contains c

/-- Inside angle brackets, the marks of flow collections count too. -/
def isVerbatimTagChar (c : Char) : Bool := isTagChar c || c == ',' || c == '[' || c == ']'

/-- How many bytes a character takes, by its first byte. -/
def encodedWidth? (b : Nat) : Option Nat :=
  if b < 0x80 then some 1
  else if 0xC0 ≤ b && b < 0xE0 then some 2
  else if 0xE0 ≤ b && b < 0xF0 then some 3
  else if 0xF0 ≤ b && b < 0xF8 then some 4
  else none

/-- A byte as a percent sign and two hexadecimal digits. -/
def escapedByte : Scan UInt8 := do
  match (← get).rest with
  | '%' :: a :: b :: _ =>
    match Text.hexDigit? a, Text.hexDigit? b with
    | some x, some y =>
      skipMany 3
      return (16 * x + y).toUInt8
    | _, _ => failure
  | _ => failure

def escapedBytes : Nat → Scan (List UInt8)
  | 0 => return []
  | n + 1 => do
    let b ← escapedByte
    return b :: (← escapedBytes n)

/-- One character as the bytes that encode it. -/
def escapedChar : Scan (List Char) := do
  let b ← escapedByte
  match encodedWidth? b.toNat with
  | none => failure
  | some width =>
    let bs ← escapedBytes (width - 1)
    match String.fromUTF8? ⟨(b :: bs).toArray⟩ with
    | some s => return s.toList
    | none => failure

def tagChars (p : Char → Bool) : Nat → Scan (List Char)
  | 0 => return []
  | fuel + 1 => do
    match ← peek with
    | some '%' => return (← escapedChar) ++ (← tagChars p fuel)
    | some c =>
      if p c then
        skip
        return c :: (← tagChars p fuel)
      else return []
    | none => return []

def tagText (p : Char → Bool) : Scan (List Char) := do tagChars p ((← get).rest.length + 1)

/-- An exclamation mark, a name, and another exclamation mark if there is one. -/
def tagHandle : Scan (List Char) := do
  check ((← peek) == some '!')
  skip
  let name ← readWhile isNameChar
  if (← peek) == some '!' then
    skip
    return '!' :: name ++ ['!']
  else return '!' :: name

/-- A tag, split into its handle and the rest. One without a handle of its own has the plain one;
a lone exclamation mark is taken as it stands. -/
def tagToken : Scan Token := do
  let t ← if (← peekAt 1) == some '<' then
      skipMany 2
      let uri ← tagText isVerbatimTagChar
      check (!uri.isEmpty)
      check ((← peek) == some '>')
      skip
      pure (Token.tag "" (String.ofList uri))
    else
      let handle ← tagHandle
      let rest ← tagText isTagChar
      if 1 < handle.length && handle.getLast? == some '!' then
        check (!rest.isEmpty)
        pure (.tag (String.ofList handle) (String.ofList rest))
      else
        let suffix := handle.tail ++ rest
        pure (if suffix.isEmpty then .tag "" "!" else .tag "!" (String.ofList suffix))
  check (isBlankOrEnd (← peek) || ((← inFlow) && (← peek) == some ','))
  return t

/-! ### Directives -/

def versionNumber : Scan Nat := do
  let ds ← readWhile Char.isDigit
  check (!ds.isEmpty && ds.length ≤ 9)
  return ds.foldl (fun n c => 10 * n + (c.toNat - '0'.toNat)) 0

/-- A handle stands for what tags that use it start with. -/
def handleDirective : Scan Token := do
  skipWhile isBlank
  let handle ← tagHandle
  check (handle.getLast? == some '!')
  match ← peek with
  | some c => check (isBlank c)
  | none => failure
  skipWhile isBlank
  let start ← tagText isVerbatimTagChar
  check (!start.isEmpty)
  check (isBlankOrEnd (← peek))
  return .tagDirective (String.ofList handle) (String.ofList start)

def directive : Scan Token := do
  skip
  let name ← readWhile isNameChar
  check (isBlankOrEnd (← peek))
  let t ← match String.ofList name with
    | "YAML" => do
      skipWhile isBlank
      let major ← versionNumber
      check ((← peek) == some '.')
      skip
      let minor ← versionNumber
      pure (Token.version major minor)
    | "TAG" => handleDirective
    | _ => failure
  restOfLine
  return t

end TagDispatch.Yaml.Scan
