import TagDispatch.Document.Yaml.Scalar
import TagDispatch.Document.Yaml.Tag

/-!
The tokens of a YAML text, one after the other.
-/

namespace TagDispatch.Yaml

namespace Scan

/-- Skips blanks, comments and line ends. A tab does not pass for indentation, so it is skipped
only where no key can start. Outside flow collections a key may start on a new line. -/
def skipFiller : Nat → Scan Unit
  | 0 => pure ()
  | fuel + 1 => do
    if (← get).column == 0 && (← peek) == some '\ufeff' then skip
    let tabs := (← inFlow) || !(← get).keyAllowed
    skipWhile fun c => c == ' ' || (tabs && c == '\t')
    if (← peek) == some '#' then skipWhile (!isBreak ·)
    match ← peek with
    | some c =>
      if isBreak c then
        let _ ← readBreak
        if !(← inFlow) then allowKey true
        skipFiller fuel
    | none => pure ()

/-! ### Marks -/

def documentMark (t : Token) : Scan Unit := do
  dedentTo (-1)
  forgetKey
  allowKey false
  skipMany 3
  push t

def openFlow (t : Token) : Scan Unit := do
  noteKey
  modify fun s => { s with keys := {} :: s.keys }
  allowKey true
  skip
  push t

def closeFlow (t : Token) : Scan Unit := do
  forgetKey
  if ← inFlow then modify fun s => { s with keys := s.keys.tail }
  allowKey false
  skip
  push t

def flowEntry : Scan Unit := do
  forgetKey
  allowKey true
  skip
  push .flowEntry

/-- Opens a block at this column, if a block can start here. -/
def startBlock (t : Token) : Scan Unit := do
  if !(← inFlow) then
    check (← get).keyAllowed
    indentTo (← get).column none t

def blockEntry : Scan Unit := do
  startBlock .blockSequenceStart
  forgetKey
  allowKey true
  skip
  push .blockEntry

def explicitKey : Scan Unit := do
  startBlock .blockMappingStart
  forgetKey
  allowKey !(← inFlow)
  skip
  push .key

/-- The colon after a key. What was noted as a possible key is one now. -/
def value : Scan Unit := do
  match (← get).keys with
  | k :: ks =>
    if k.possible then
      insertAt k.token .key
      indentTo k.column (some k.token) .blockMappingStart
      modify fun s => { s with keys := { k with possible := false } :: ks }
      allowKey false
    else
      startBlock .blockMappingStart
      allowKey !(← inFlow)
  | [] => pure ()
  skip
  push .value

/-- Whether a plain scalar starts with a character, given the one after it. -/
def startsPlain (flow : Bool) (c : Char) (next : Option Char) : Bool :=
  !(isBlank c || isBreak c || ['-', '?', ':', ',', '[', ']', '\x7b', '\x7d', '#', '&', '*', '!',
      '|', '>', '\x27', '\"', '%', '@', '\x60'].contains c)
    || (c == '-' && !(next.any isBlank))
    || (!flow && (c == '?' || c == ':') && !isBlankOrEnd next)

def scalar (scan : Scan Unit) : Scan Unit := do
  noteKey
  allowKey false
  scan

/-- Takes the next token; tells whether there are more. -/
def next : Scan Bool := do
  skipFiller ((← get).rest.length + 1)
  expireKeys
  dedentTo (← get).column
  let flow ← inFlow
  match ← peek with
  | none =>
    dedentTo (-1)
    forgetKey
    push .streamEnd
    return false
  | some c =>
    let following ← peekAt 1
    let apart := flow || isBlankOrEnd following
    if c == '%' && (← get).column == 0 then
      dedentTo (-1)
      forgetKey
      allowKey false
      push (← directive)
    else if ← atDocumentMark '-' then documentMark .documentStart
    else if ← atDocumentMark '.' then documentMark .documentEnd
    else if c == '[' then openFlow .flowSequenceStart
    else if c == '\x7b' then openFlow .flowMappingStart
    else if c == ']' then closeFlow .flowSequenceEnd
    else if c == '\x7d' then closeFlow .flowMappingEnd
    else if c == ',' then flowEntry
    else if c == '-' && isBlankOrEnd following then blockEntry
    else if c == '?' && apart then explicitKey
    else if c == ':' && apart then value
    else if c == '*' then scalar do push (.reference (← anchorName))
    else if c == '&' then scalar do push (.anchor (← anchorName))
    else if c == '!' then scalar do push (← tagToken)
    else if (c == '|' || c == '>') && !flow then
      forgetKey
      allowKey true
      blockScalar (c == '|')
    else if c == '\x27' then scalar (quotedScalar true)
    else if c == '\"' then scalar (quotedScalar false)
    else if startsPlain flow c following then scalar plainScalar
    else failure
    return true

def all : Nat → Scan Unit
  | 0 => failure
  | fuel + 1 => do if ← next then all fuel

end Scan

/-- The tokens of a text, ending with the end of the stream. -/
def tokens? (text : String) : Option (List Token) :=
  let cs := text.toList
  if cs.all isAllowed then
    ((Scan.all (cs.length + 1)).run { rest := cs }).map fun (_, s) => s.tokens.toList
  else none

end TagDispatch.Yaml
