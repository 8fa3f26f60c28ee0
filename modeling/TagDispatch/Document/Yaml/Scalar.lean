import TagDispatch.Document.Yaml.Token
import TagDispatch.Text.Ranges

/-!
The scalars of YAML: plain, quoted, and as blocks. Lines of a plain or quoted scalar are folded:
one line's end between words becomes a space, and of several the first is dropped.
-/

namespace TagDispatch.Yaml.Scan

/-- A folded text so far, last character first, and the blanks and line ends that were met after
it. `broken` tells that a line has ended since. -/
structure Folding where
  text : List Char := []
  blanks : List Char := []
  first : List Char := []
  more : List Char := []
  broken : Bool := false

namespace Folding

/-- Adds what the pending blanks and line ends amount to. -/
def settle (f : Folding) : Folding :=
  if f.broken then
    let joined := if f.first == ['\n'] then
        if f.more.isEmpty then [' '] else f.more
      else f.more ++ f.first
    { text := joined ++ f.text }
  else { text := f.blanks ++ f.text }

def add (f : Folding) (c : Char) : Folding := { f with text := c :: f.text }

def result (f : Folding) : String := String.ofList f.text.reverse

end Folding

/-- Takes blanks and line ends. Where `indent` is given, a tab before that column is refused on
lines after the first. -/
def gather (indent : Option Int) : Nat → Folding → Scan Folding
  | 0, f => return f
  | fuel + 1, f => do
    match ← peek with
    | none => return f
    | some c =>
      if isBlank c then
        match indent with
        | some i => check (!(f.broken && ((← get).column : Int) < i && c == '\t'))
        | none => pure ()
        skip
        gather indent fuel (if f.broken then f else { f with blanks := c :: f.blanks })
      else if isBreak c then
        let b ← readBreak
        gather indent fuel <|
          if f.broken then { f with more := b ++ f.more }
          else { f with blanks := [], first := b, broken := true }
      else return f

/-! ### Plain scalars -/

def isFlowIndicator (c : Char) : Bool := [',', '[', ']', '\x7b', '\x7d'].contains c

/-- The characters up to a blank, or to where a key or an item ends. -/
def plainWord : Nat → Folding → Scan Folding
  | 0, f => return f
  | fuel + 1, f => do
    let flow ← inFlow
    match ← peek with
    | none => return f
    | some c =>
      if isBlank c || isBreak c then return f
      else
        let next ← peekAt 1
        match next with
        | some d => check (!(flow && c == ':' && (d == '?' || isFlowIndicator d)))
        | none => pure ()
        if (c == ':' && isBlankOrEnd next) || (flow && isFlowIndicator c) then return f
        else
          skip
          plainWord fuel (f.settle.add c)

def plainLines (indent : Int) : Nat → Folding → Scan Folding
  | 0, f => return f
  | fuel + 1, f => do
    if (← atDocumentIndicator) || (← peek) == some '#' then return f
    let f ← plainWord ((← get).rest.length + 1) f
    match ← peek with
    | none => return f
    | some c =>
      if isBlank c || isBreak c then
        let f ← gather (some indent) ((← get).rest.length + 1) f
        if !(← inFlow) && ((← get).column : Int) < indent then return f
        else plainLines indent fuel f
      else return f

/-- After a line's end a key may start again. -/
def plainScalar : Scan Unit := do
  let f ← plainLines ((← get).indent + 1) ((← get).rest.length + 1) {}
  push (.scalar f.result .plain)
  if f.broken then allowKey true

/-! ### Quoted scalars -/

def isScalarValue (n : Nat) : Bool := n < 0xD800 || (0xE000 ≤ n && n ≤ 0x10FFFF)

/-- A code point in a fixed number of hexadecimal digits. -/
def hexCode (digits : Nat) : Scan Char := do
  let ds := (← get).rest.take digits
  check (ds.length == digits)
  match ds.foldlM (fun n c => (Text.hexDigit? c).map (16 * n + ·)) 0 with
  | some n =>
    check (isScalarValue n)
    skipMany digits
    return .ofNat n
  | none => failure

/-- What stands after a backslash. -/
def escapeCode (c : Char) : Scan Char :=
  match c with
  | '0' => return '\x00'
  | 'a' => return '\x07'
  | 'b' => return '\x08'
  | 't' => return '\t'
  | '\t' => return '\t'
  | 'n' => return '\n'
  | 'v' => return '\x0b'
  | 'f' => return '\x0c'
  | 'r' => return '\r'
  | 'e' => return '\x1b'
  | ' ' => return ' '
  | '\"' => return '\"'
  | '/' => return '/'
  | '\\' => return '\\'
  | 'N' => return '\u0085'
  | '_' => return '\u00a0'
  | 'L' => return '\u2028'
  | 'P' => return '\u2029'
  | 'x' => hexCode 2
  | 'u' => hexCode 4
  | 'U' => hexCode 8
  | _ => failure

/-- The characters up to a blank or to the closing quote. A backslash before a line's end joins
the lines without a space. -/
def quotedWord (single : Bool) : Nat → Folding → Scan Folding
  | 0, f => return f
  | fuel + 1, f => do
    match ← peek with
    | none => return f
    | some c =>
      if isBlank c || isBreak c then return f
      else if single then
        if c == '\x27' then
          if (← peekAt 1) == some '\x27' then
            skipMany 2
            quotedWord single fuel (f.add '\x27')
          else return f
        else
          skip
          quotedWord single fuel (f.add c)
      else if c == '\"' then return f
      else if c == '\\' then
        match ← peekAt 1 with
        | none => failure
        | some d =>
          skip
          if isBreak d then
            let _ ← readBreak
            return { f with broken := true }
          else
            skip
            let e ← escapeCode d
            quotedWord single fuel (f.add e)
      else
        skip
        quotedWord single fuel (f.add c)

def quotedLines (single : Bool) : Nat → Folding → Scan Folding
  | 0, _ => failure
  | fuel + 1, f => do
    check (!(← atDocumentIndicator))
    check (← peek).isSome
    let f ← quotedWord single ((← get).rest.length + 1) f
    if (← peek) == some (if single then '\x27' else '\"') then
      skip
      return f
    else
      let f ← gather none ((← get).rest.length + 1) f
      quotedLines single fuel f.settle

def quotedScalar (single : Bool) : Scan Unit := do
  skip
  let f ← quotedLines single ((← get).rest.length + 2) {}
  push (.scalar f.result (if single then .singleQuoted else .doubleQuoted))

/-! ### Block scalars -/

/-- How the line ends after the last line are treated. -/
inductive Chomping where
  | clip
  | strip
  | keep
  deriving DecidableEq

def chomping? (c : Option Char) : Option Chomping :=
  match c with
  | some '+' => some .keep
  | some '-' => some .strip
  | _ => none

/-- An indentation of one to nine, as a digit. -/
def indentDigit : Scan (Option Nat) := do
  match ← peek with
  | some c =>
    if c.isDigit then
      check (c != '0')
      skip
      return some (c.toNat - '0'.toNat)
    else return none
  | none => return none

/-- The marks after the indicator, in either order. -/
def blockHeader : Scan (Chomping × Option Nat) := do
  match chomping? (← peek) with
  | some chomp =>
    skip
    return (chomp, ← indentDigit)
  | none =>
    match ← indentDigit with
    | some n =>
      match chomping? (← peek) with
      | some chomp =>
        skip
        return (chomp, some n)
      | none => return (.clip, some n)
    | none => return (.clip, none)

/-- Indentation and empty lines; without a known indentation, as deep as it goes. Gives the line
ends, last first, and the deepest column met. -/
def blockBreaks (indent : Option Nat) : Nat → List Char → Nat → Scan (List Char × Nat)
  | 0, breaks, deepest => return (breaks, deepest)
  | fuel + 1, breaks, deepest => do
    let s ← get
    let spaces := (s.rest.takeWhile (· == ' ')).length
    skipMany <| match indent with
      | some i => min spaces (i - s.column)
      | none => spaces
    let column := (← get).column
    let deepest := max deepest column
    let short := match indent with
      | some i => decide (column < i)
      | none => true
    check (!(short && (← peek) == some '\t'))
    match ← peek with
    | some c =>
      if isBreak c then
        let b ← readBreak
        blockBreaks indent fuel (b ++ breaks) deepest
      else return (breaks, deepest)
    | none => return (breaks, deepest)

/-- A block scalar so far, last character first; `first` is the end of its last line, and `more`
the ends of the empty lines since. -/
structure BlockText where
  text : List Char := []
  first : List Char := []
  more : List Char := []
  blankBefore : Bool := false

/-- Lines at the block's indentation. In a folded one the end of a line between two lines that
start with no blank becomes a space. -/
def blockLines (literal : Bool) (indent : Nat) : Nat → BlockText → Scan BlockText
  | 0, b => return b
  | fuel + 1, b => do
    let s ← get
    match s.rest with
    | [] => return b
    | c :: _ =>
      if s.column ≠ indent then return b
      else
        let blank := isBlank c
        let joined := if !literal && b.first == ['\n'] && !b.blankBefore && !blank then
            if b.more.isEmpty then [' '] else []
          else b.first
        let line ← readWhile (!isBreak ·)
        let first ← readBreak
        let (more, _) ← blockBreaks (some indent) ((← get).rest.length + 1) [] 0
        blockLines literal indent fuel
          { text := line.reverse ++ b.more ++ joined ++ b.text, first, more, blankBefore := blank }

def blockScalar (literal : Bool) : Scan Unit := do
  skip
  let (chomp, increment) ← blockHeader
  restOfLine
  let around := (← get).indent
  let given := increment.map fun n => around.toNat + n
  let (breaks, deepest) ← blockBreaks given ((← get).rest.length + 1) [] 0
  let indent := given.getD (max deepest (max (around + 1).toNat 1))
  let b ← blockLines literal indent ((← get).rest.length + 1) { more := breaks }
  let tail := match chomp with
    | .strip => []
    | .clip => b.first
    | .keep => b.more ++ b.first
  push (.scalar (String.ofList (tail ++ b.text).reverse) (if literal then .literal else .folded))

end TagDispatch.Yaml.Scan
