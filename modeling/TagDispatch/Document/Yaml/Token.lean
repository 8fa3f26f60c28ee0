/-!
The tokens of YAML texts and the state of a scan. Indentation opens and closes blocks, and a key
is recognised only when the colon after it is reached; the tokens that announce it are put in
front of it then.
-/

namespace TagDispatch.Yaml

inductive Style where
  | plain
  | singleQuoted
  | doubleQuoted
  | literal
  | folded
  deriving DecidableEq, Repr

inductive Token where
  | streamEnd
  | version (major minor : Nat)
  | tagDirective (handle pre : String)
  | documentStart
  | documentEnd
  | blockSequenceStart
  | blockMappingStart
  | blockEnd
  | flowSequenceStart
  | flowSequenceEnd
  | flowMappingStart
  | flowMappingEnd
  | blockEntry
  | flowEntry
  | key
  | value
  | reference (name : String)
  | anchor (name : String)
  | tag (handle suffix : String)
  | scalar (text : String) (style : Style)
  deriving DecidableEq, Repr

/-- A place where a key may have started: the number of the token there, and whether the block
demands that it turns out to be one. -/
structure KeyPlace where
  possible : Bool := false
  required : Bool := false
  token : Nat := 0
  index : Nat := 0
  line : Nat := 0
  column : Nat := 0

/-- `keys` has one place for each open flow collection and one for the block level, the innermost
first. The indentation is below zero outside all blocks. -/
structure Cursor where
  rest : List Char
  index : Nat := 0
  line : Nat := 0
  column : Nat := 0
  tokens : Array Token := #[]
  indent : Int := -1
  indents : List Int := []
  keys : List KeyPlace := [{}]
  keyAllowed : Bool := true

/-- A scan fails at the first character that fits nowhere. -/
abbrev Scan := StateT Cursor Option

/-! ### Character classes -/

def isBreak (c : Char) : Bool :=
  c == '\n' || c == '\r' || c == '\u0085' || c == '\u2028' || c == '\u2029'

def isBlank (c : Char) : Bool := c == ' ' || c == '\t'

/-- The end of the text counts as a break. -/
def isBreakOrEnd : Option Char → Bool
  | none => true
  | some c => isBreak c

def isBlankOrEnd : Option Char → Bool
  | none => true
  | some c => isBlank c || isBreak c

/-- Characters of anchors and tag handles. -/
def isNameChar (c : Char) : Bool := c.isAlphanum || c == '_' || c == '-'

/-- Characters that a text may hold at all. -/
def isAllowed (c : Char) : Bool :=
  let n := c.toNat
  n == 0x09 || n == 0x0a || n == 0x0d || (0x20 ≤ n && n ≤ 0x7e) || n == 0x85
    || (0xa0 ≤ n && n ≤ 0xd7ff) || (0xe000 ≤ n && n ≤ 0xfffd) || 0x10000 ≤ n

namespace Scan

def peek : Scan (Option Char) := return (← get).rest.head?

def peekAt (i : Nat) : Scan (Option Char) := return (← get).rest[i]?

def check (b : Bool) : Scan Unit := if b then pure () else failure

def skip : Scan Unit := modify fun s =>
  { s with rest := s.rest.drop 1, index := s.index + 1, column := s.column + 1 }

def skipMany : Nat → Scan Unit
  | 0 => pure ()
  | n + 1 => do
    skip
    skipMany n

/-- Takes a line's end and gives what it stands for: a line feed, or itself if it is one of the
two separators that are kept. -/
def readBreak : Scan (List Char) := do
  let s ← get
  match s.rest with
  | '\r' :: '\n' :: rest =>
    set { s with rest, index := s.index + 2, line := s.line + 1, column := 0 }
    return ['\n']
  | c :: rest =>
    if isBreak c then
      set { s with rest, index := s.index + 1, line := s.line + 1, column := 0 }
      return if c == '\u2028' || c == '\u2029' then [c] else ['\n']
    else return []
  | [] => return []

/-- Skips while a test holds. -/
def skipWhile (p : Char → Bool) : Scan Unit := do
  skipMany ((← get).rest.takeWhile p).length

def readWhile (p : Char → Bool) : Scan (List Char) := do
  let cs := (← get).rest.takeWhile p
  skipMany cs.length
  return cs

/-- Blanks and a comment up to the end of the line, and the line's end. -/
def restOfLine : Scan Unit := do
  skipWhile isBlank
  if (← peek) == some '#' then skipWhile (!isBreak ·)
  check (isBreakOrEnd (← peek))
  let _ ← readBreak

def inFlow : Scan Bool := return 1 < (← get).keys.length

def push (t : Token) : Scan Unit := modify fun s => { s with tokens := s.tokens.push t }

/-- Puts a token in front of the one with the given number. -/
def insertAt (i : Nat) (t : Token) : Scan Unit := modify fun s =>
  { s with tokens := (s.tokens.extract 0 i).push t ++ s.tokens.extract i s.tokens.size }

def allowKey (b : Bool) : Scan Unit := modify fun s => { s with keyAllowed := b }

/-- Whether the three marks of a document's start or end stand here, at the start of a line. -/
def atDocumentMark (mark : Char) : Scan Bool := do
  let s ← get
  match s.rest with
  | a :: b :: c :: rest =>
    return s.column == 0 && a == mark && b == mark && c == mark && isBlankOrEnd rest.head?
  | _ => return false

def atDocumentIndicator : Scan Bool := do
  return (← atDocumentMark '-') || (← atDocumentMark '.')

/-! ### Keys and indentation -/

/-- A key ends on the line where it starts and is not too long; one that is overdue is dropped,
unless the block needs it. -/
def expireKeys : Scan Unit := do
  let s ← get
  let stale (k : KeyPlace) : Bool :=
    k.possible && (k.line < s.line || k.index + 1024 < s.index)
  check (!s.keys.any fun k => stale k && k.required)
  set { s with keys := s.keys.map fun k => if stale k then { k with possible := false } else k }

/-- Gives up the key that may have started on this level. -/
def forgetKey : Scan Unit := do
  let s ← get
  match s.keys with
  | k :: ks =>
    check (!(k.possible && k.required))
    set { s with keys := { k with possible := false } :: ks }
  | [] => pure ()

/-- Notes that a key may start here. -/
def noteKey : Scan Unit := do
  let s ← get
  if s.keyAllowed then
    let required := !(← inFlow) && s.indent == (s.column : Int)
    let key : KeyPlace := ⟨true, required, s.tokens.size, s.index, s.line, s.column⟩
    forgetKey
    modify fun t => { t with keys := key :: t.keys.tail }

/-- Opens a block at a column further in; its token goes where the block starts. -/
def indentTo (column : Nat) (place : Option Nat) (t : Token) : Scan Unit := do
  let s ← get
  if !(← inFlow) && s.indent < (column : Int) then
    set { s with indent := column, indents := s.indent :: s.indents }
    match place with
    | some i => insertAt i t
    | none => push t

def closeBlocks (column : Int) : Nat → Scan Unit
  | 0 => pure ()
  | fuel + 1 => do
    let s ← get
    if column < s.indent then
      set { s with indent := s.indents.headD (-1), indents := s.indents.tail }
      push .blockEnd
      closeBlocks column fuel

/-- Closes the blocks that are further in than a column. -/
def dedentTo (column : Int) : Scan Unit := do
  if !(← inFlow) then closeBlocks column ((← get).indents.length + 1)

end Scan

end TagDispatch.Yaml
