import TagDispatch.Document.Yaml.Lexer

/-!
YAML documents as values: scalars, sequences and mappings, with aliases left as references. A
text holds one document at most.
-/

namespace TagDispatch

inductive Yaml where
  | scalar (tag : Option String) (text : String) (style : Yaml.Style)
  | seq (tag : Option String) (items : List Yaml)
  | map (tag : Option String) (entries : List (Yaml × Yaml))
  | reference (id : Nat)

namespace Yaml

/-- Where nothing is written, an empty scalar is meant. -/
def empty : Yaml := .scalar none "" .plain

/-- `anchored` gives what an alias refers to. An anchor that is set again may share its number
with another one; the one that starts last in the text counts. -/
structure Document where
  root : Yaml
  anchored : Nat → Option Yaml

/-- What stands for a value once aliases are followed. Aliases do not refer to aliases. -/
def Document.follow (d : Document) : Yaml → Option Yaml
  | .reference id => d.anchored id
  | v => some v

/-- `names` gives each anchor's number, `started` the numbers in the order in which the anchored
values start, last first, and `done` the values by their place in that order. -/
structure Assembly where
  tokens : List Token
  handles : List (String × String) := []
  names : List (String × Nat) := []
  started : List Nat := []
  done : List (Nat × Yaml) := []

namespace Assembly

/-- The value with a number, as far as it is known. -/
def anchored (c : Assembly) (id : Nat) : Option Yaml := do
  let i ← c.started.findIdx? (· == id)
  c.done.lookup (c.started.length - 1 - i)

end Assembly

/-- Assembly fails at the first token that fits nowhere. -/
abbrev Assemble := StateT Assembly Option

namespace Assemble

def peek : Assemble Token := return (← get).tokens.headD .streamEnd

def skip : Assemble Unit := modify fun c => { c with tokens := c.tokens.tail }

def check (b : Bool) : Assemble Unit := if b then pure () else failure

/-- Takes a token that has to be there. -/
def expect (t : Token) : Assemble Unit := do
  check ((← peek) == t)
  skip

def atOneOf (ts : List Token) : Assemble Bool := return ts.contains (← peek)

/-! ### Properties -/

structure Properties where
  anchor : Option String := none
  tag : Option (String × String) := none

/-- An anchor and a tag, in either order, each at most once. -/
def properties : Assemble Properties := do
  match ← peek with
  | .anchor a =>
    skip
    match ← peek with
    | .tag h s =>
      skip
      return { anchor := a, tag := (h, s) }
    | _ => return { anchor := a }
  | .tag h s =>
    skip
    match ← peek with
    | .anchor a =>
      skip
      return { anchor := a, tag := (h, s) }
    | _ => return { tag := (h, s) }
  | _ => return {}

def standardHandles : List (String × String) := [("!", "!"), ("!!", "tag:yaml.org,2002:")]

/-- The full text of a tag. -/
def resolveTag : Option (String × String) → Assemble (Option String)
  | none => return none
  | some ("", suffix) => return some suffix
  | some (handle, suffix) => do
    match ((← get).handles ++ standardHandles).lookup handle with
    | some start => return some (start ++ suffix)
    | none => failure

/-- A new anchor gets the number of names known so far. -/
def startAnchor (name : String) : Assemble Nat := do
  let c ← get
  let id := c.names.length
  set { c with
    names := (name, id) :: c.names.filter (·.1 != name)
    started := id :: c.started }
  return c.started.length

def finishAnchor (place : Nat) (v : Yaml) : Assemble Unit := modify fun c =>
  { c with done := (place, v) :: c.done }

/-! ### Collections -/

/-- With an anchor or a tag, a value need not be written. -/
def missing (tag : Option String) (isAnchored : Bool) : Assemble Yaml := do
  check (isAnchored || tag.isSome)
  return .scalar tag "" .plain

mutual

/-- A value. Block collections are read only where `block` says so, and a sequence without
indentation of its own only as a key or value of a block mapping. -/
def node (block indentless : Bool) : Nat → Assemble Yaml
  | 0 => failure
  | fuel + 1 => do
    match ← peek with
    | .reference name =>
      skip
      match (← get).names.lookup name with
      | some id => return .reference id
      | none => failure
    | _ =>
      let p ← properties
      let tag ← resolveTag p.tag
      match p.anchor with
      | none => content block indentless tag false fuel
      | some name =>
        let place ← startAnchor name
        let v ← content block indentless tag true fuel
        finishAnchor place v
        return v

def content (block indentless : Bool) (tag : Option String) (isAnchored : Bool) :
    Nat → Assemble Yaml
  | 0 => failure
  | fuel + 1 => do
    match ← peek with
    | .blockEntry =>
      if indentless then return .seq tag (← indentlessItems fuel)
      else missing tag isAnchored
    | .scalar text style =>
      skip
      return .scalar tag text style
    | .flowSequenceStart =>
      skip
      return .seq tag (← flowItems true fuel)
    | .flowMappingStart =>
      skip
      return .map tag (← flowEntries true fuel)
    | .blockSequenceStart =>
      if block then
        skip
        return .seq tag (← blockItems fuel)
      else missing tag isAnchored
    | .blockMappingStart =>
      if block then
        skip
        return .map tag (← blockEntries fuel)
      else missing tag isAnchored
    | _ => missing tag isAnchored

def blockItems : Nat → Assemble (List Yaml)
  | 0 => failure
  | fuel + 1 => do
    if (← peek) == .blockEnd then
      skip
      return []
    else
      expect .blockEntry
      let item ← if ← atOneOf [.blockEntry, .blockEnd] then pure empty else node true false fuel
      return item :: (← blockItems fuel)

def indentlessItems : Nat → Assemble (List Yaml)
  | 0 => failure
  | fuel + 1 => do
    if (← peek) == .blockEntry then
      skip
      let item ← if ← atOneOf [.blockEntry, .key, .value, .blockEnd] then pure empty
        else node true false fuel
      return item :: (← indentlessItems fuel)
    else return []

def blockEntries : Nat → Assemble (List (Yaml × Yaml))
  | 0 => failure
  | fuel + 1 => do
    if (← peek) == .blockEnd then
      skip
      return []
    else
      expect .key
      let key ← blockPart fuel
      let value ← if (← peek) == .value then do
          skip
          blockPart fuel
        else pure empty
      return (key, value) :: (← blockEntries fuel)

/-- A key or a value of a block mapping. -/
def blockPart : Nat → Assemble Yaml
  | 0 => failure
  | fuel + 1 => do
    if ← atOneOf [.key, .value, .blockEnd] then return empty else node true true fuel

def flowItems (first : Bool) : Nat → Assemble (List Yaml)
  | 0 => failure
  | fuel + 1 => do
    if (← peek) == .flowSequenceEnd then
      skip
      return []
    else
      if !first then expect .flowEntry
      if (← peek) == .flowSequenceEnd then
        skip
        return []
      else
        let item ← if (← peek) == .key then do
            skip
            pair fuel
          else node false false fuel
        return item :: (← flowItems false fuel)

/-- A mapping of one entry, written as an item of a flow sequence. A missing key takes the place
of the token that shows it missing. -/
def pair : Nat → Assemble Yaml
  | 0 => failure
  | fuel + 1 => do
    let key ← if ← atOneOf [.value, .flowEntry, .flowSequenceEnd] then do
        skip
        pure empty
      else node false false fuel
    let value ← flowValue .flowSequenceEnd fuel
    return .map none [(key, value)]

/-- What follows the colon in a flow collection, up to a comma or the collection's end. -/
def flowValue (close : Token) : Nat → Assemble Yaml
  | 0 => failure
  | fuel + 1 => do
    if (← peek) == .value then
      skip
      if ← atOneOf [.flowEntry, close] then return empty else node false false fuel
    else return empty

def flowEntries (first : Bool) : Nat → Assemble (List (Yaml × Yaml))
  | 0 => failure
  | fuel + 1 => do
    if (← peek) == .flowMappingEnd then
      skip
      return []
    else
      if !first then expect .flowEntry
      if (← peek) == .flowMappingEnd then
        skip
        return []
      else
        let entry ← flowMapEntry fuel
        return entry :: (← flowEntries false fuel)

/-- Without the mark of a key, the entry is a key with nothing for its value. -/
def flowMapEntry : Nat → Assemble (Yaml × Yaml)
  | 0 => failure
  | fuel + 1 => do
    if (← peek) == .key then
      skip
      let key ← if ← atOneOf [.value, .flowEntry, .flowMappingEnd] then pure empty
        else node false false fuel
      return (key, ← flowValue .flowMappingEnd fuel)
    else return (← node false false fuel, empty)

end

/-! ### Documents -/

/-- Directives in front of a document. The version is given once, and so is each handle. -/
def directives : Nat → Bool → Assemble Unit
  | 0, _ => failure
  | fuel + 1, versioned => do
    match ← peek with
    | .version major minor =>
      skip
      check (!versioned && major == 1 && (minor == 1 || minor == 2))
      directives fuel true
    | .tagDirective handle start =>
      skip
      let c ← get
      check (c.handles.lookup handle).isNone
      set { c with handles := (handle, start) :: c.handles }
      directives fuel versioned
    | _ => pure ()

def isDirective : Token → Bool
  | .version _ _ => true
  | .tagDirective _ _ => true
  | _ => false

def skipDocumentEnds : Nat → Assemble Unit
  | 0 => pure ()
  | fuel + 1 => do
    if (← peek) == .documentEnd then
      skip
      skipDocumentEnds fuel

/-- The one document of a text, or nothing at all. -/
def document (fuel : Nat) : Assemble Yaml := do
  let t ← peek
  let root ←
    if t == .streamEnd then pure empty
    else if isDirective t || t == .documentStart then do
      directives fuel false
      expect .documentStart
      let t ← peek
      if isDirective t || (← atOneOf [.documentStart, .documentEnd, .streamEnd]) then pure empty
      else node true false fuel
    else node true false fuel
  skipDocumentEnds fuel
  expect .streamEnd
  return root

end Assemble

/-- The document that a text spells. -/
def read? (text : String) : Option Document := do
  let tokens ← tokens? text
  let (root, c) ← (Assemble.document (8 * tokens.length + 8)).run { tokens }
  return ⟨root, c.anchored⟩

end Yaml

end TagDispatch
