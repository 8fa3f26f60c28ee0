import TagDispatch.Pattern.Basic
import TagDispatch.Pattern.Expr

/-!
The written form of regular expressions. Reading is one pass from left to right: flags hold from
where they are set to the end of the group around them, so every character class can be built for
the flags in force where it stands.
-/

namespace TagDispatch

namespace Regex

/-- The flags `i`, `m`, `s`, `u`, `R` and `x`. -/
structure Flags where
  caseless : Bool := false
  multiLine : Bool := false
  dotAll : Bool := false
  unicode : Bool := true
  crlf : Bool := false
  spaced : Bool := false

/-- What is left to read, the flags in force, and the group names so far. -/
structure Cursor where
  rest : List Char
  flags : Flags := {}
  names : List (List Char) := []

abbrev Reader := StateT Cursor Option

namespace Reader

def isSpace (c : Char) : Bool := Unicode.blanks.contains c.toNat

def flags : Reader Flags := return (← get).flags

def setFlags (flags : Flags) : Reader Unit := modify fun c => { c with flags }

def rest : Reader (List Char) := return (← get).rest

def setRest (rest : List Char) : Reader Unit := modify fun c => { c with rest }

def peek : Reader (Option Char) := return (← rest).head?

def current : Reader Char := do
  match ← peek with
  | some c => return c
  | none => failure

def bump : Reader Unit := do setRest ((← rest).drop 1)

/-- Drops blanks, and comments from `#` to the end of the line. -/
def dropSpace : Bool → List Char → List Char
  | _, [] => []
  | true, c :: cs => dropSpace (c != '\n') cs
  | false, c :: cs =>
    if isSpace c then dropSpace false cs
    else if c == '#' then dropSpace true cs
    else c :: cs

/-- Skips blanks and comments where the flag `x` allows them. -/
def skipSpace : Reader Unit := do
  if (← flags).spaced then setRest (dropSpace false (← rest))

def advance : Reader Unit := do
  bump
  skipSpace

/-- Takes a fixed text, if it comes next. -/
def accept (s : List Char) : Reader Bool := do
  let cs ← rest
  if s.isPrefixOf cs then
    setRest (cs.drop s.length)
    return true
  else return false

def check (b : Bool) : Reader Unit := if b then pure () else failure

def orFail {α : Type} : Option α → Reader α
  | some a => pure a
  | none => failure

/-! ### Characters -/

/-- A character that stands for itself; `isByte` if it was spelled as a single byte. -/
structure Literal where
  code : Nat
  isByte : Bool := false

/-- What one escape or plain character can mean. -/
inductive Primitive where
  | literal (l : Literal)
  | set (s : CharSet)
  | look (l : Look)

def isScalar (n : Nat) : Bool := n < 0xD800 || (0xE000 ≤ n && n ≤ 0x10FFFF)

def hexFixed : Nat → Nat → Reader Nat
  | 0, acc => pure acc
  | k + 1, acc => do
    let d ← orFail (Text.hexDigit? (← current))
    advance
    hexFixed k (16 * acc + d)

/-- Digits up to the closing brace, which is taken too. -/
def hexBraced : Nat → Option Nat → Reader Nat
  | 0, _ => failure
  | fuel + 1, acc => do
    let c ← current
    if c == '\x7d' then
      advance
      orFail acc
    else
      let d ← orFail (Text.hexDigit? c)
      advance
      hexBraced fuel (some (16 * acc.getD 0 + d))

/-- A code point after `x`, `u` or `U`, with its fixed number of digits or in braces. -/
def hexEscape (digits : Nat) : Reader Literal := do
  advance
  let c ← current
  let braced := c == '\x7b'
  let n ← if braced then do
      advance
      hexBraced ((← rest).length + 1) none
    else hexFixed digits 0
  check (isScalar n)
  return { code := n, isByte := !braced && digits == 2 }

/-- Without the flag `u`, a set must keep to ASCII. -/
def keepAscii (s : CharSet) : Reader CharSet := do
  check ((← flags).unicode || s.isWithin 0x7f)
  return s

/-- Closes a set under case and complements it, as the flags demand. -/
def foldAndNegate (negated : Bool) (s : CharSet) : Reader CharSet := do
  let f ← flags
  let s := if f.caseless then
      if f.unicode then s.closeUnderCase else s.closeUnderAsciiCase
    else s
  keepAscii (if negated then s.complement (if f.unicode then CharSet.maxCodePoint else 0xff) else s)

/-- The classes `d`, `s` and `w`, and their complements in upper case. -/
def shorthandClass (c : Char) : Reader CharSet := do
  let f ← flags
  let s := match c.toLower with
    | 'd' => if f.unicode then Unicode.digits else Unicode.asciiDigits
    | 's' => if f.unicode then Unicode.blanks else Unicode.asciiBlanks
    | _ => if f.unicode then Unicode.wordChars else Unicode.asciiWordChars
  let top := if f.unicode then CharSet.maxCodePoint else 0xff
  keepAscii (if c.isUpper then s.complement top else s)

/-- Everything up to the closing brace, which is taken too. -/
def bracedName : Nat → List Char → Reader (List Char)
  | 0, _ => failure
  | fuel + 1, acc => do
    let c ← current
    if c == '\x7d' then
      bump
      return acc.reverse
    else
      advance
      bracedName fuel (c :: acc)

/-- Splits a text at the first occurrence of `sep`. -/
def splitAt? (sep : List Char) : List Char → Option (List Char × List Char)
  | [] => none
  | c :: cs =>
    if sep.isPrefixOf (c :: cs) then some ([], (c :: cs).drop sep.length)
    else (splitAt? sep cs).map fun (a, b) => (c :: a, b)

/-- The set that a property name, or a name with a value, stands for. -/
def namedClass? (name : List Char) : Option CharSet :=
  match splitAt? ['!', '='] name with
  | some (k, v) => (Unicode.classOf? (String.ofList k) (String.ofList v)).map
    (CharSet.complement CharSet.maxCodePoint)
  | none =>
    match (splitAt? [':'] name).or (splitAt? ['='] name) with
    | some (k, v) => Unicode.classOf? (String.ofList k) (String.ofList v)
    | none => Unicode.class? (String.ofList name)

/-- A class by the name of a property, after `p` or `P`. -/
def propertyClass (negated : Bool) : Reader CharSet := do
  advance
  let c ← current
  let name ← if c == '\x7b' then do
      advance
      bracedName ((← rest).length + 1) []
    else do
      check (c != '\\')
      bump
      pure [c]
  check (← flags).unicode
  foldAndNegate negated (← orFail (namedClass? name))

def boundaryName : Nat → List Char → Reader (List Char)
  | 0, _ => failure
  | fuel + 1, acc => do
    let c ← current
    if c.isAlpha || c == '-' then
      advance
      boundaryName fuel (c :: acc)
    else
      check (c == '\x7d')
      bump
      return acc.reverse

/-- What follows `b`: a kind of boundary in braces, unless the braces hold a count. -/
def wordBoundary : Reader Look := do
  let u := (← flags).unicode
  if (← peek) == some '\x7b' then
    let before ← rest
    advance
    let c ← current
    if c.isAlpha || c == '-' then
      match String.ofList (← boundaryName ((← rest).length + 1) []) with
      | "start" => return .wordStart u
      | "end" => return .wordEnd u
      | "start-half" => return .wordStartHalf u
      | "end-half" => return .wordEndHalf u
      | _ => failure
    else
      setRest before
      return .wordBoundary u
  else return .wordBoundary u

/-- Characters that an escape turns into themselves: all of ASCII but letters, digits and angle
brackets. -/
def isEscapable (c : Char) : Bool :=
  c.toNat < 0x80 && !c.isAlphanum && c != '<' && c != '>'

/-- After a backslash. -/
def escape : Reader Primitive := do
  bump
  let c ← current
  match c with
  | 'x' => return .literal (← hexEscape 2)
  | 'u' => return .literal (← hexEscape 4)
  | 'U' => return .literal (← hexEscape 8)
  | 'p' => return .set (← propertyClass false)
  | 'P' => return .set (← propertyClass true)
  | _ =>
    bump
    if isEscapable c then return .literal { code := c.toNat }
    else if ['d', 's', 'w', 'D', 'S', 'W'].contains c then return .set (← shorthandClass c)
    else
      let u := (← flags).unicode
      match c with
      | 'a' => return .literal { code := 0x07 }
      | 'f' => return .literal { code := 0x0c }
      | 't' => return .literal { code := 0x09 }
      | 'n' => return .literal { code := 0x0a }
      | 'r' => return .literal { code := 0x0d }
      | 'v' => return .literal { code := 0x0b }
      | 'A' => return .look .startText
      | 'z' => return .look .endText
      | 'b' => return .look (← wordBoundary)
      | 'B' => return .look (.notWordBoundary u)
      | '<' => return .look (.wordStart u)
      | '>' => return .look (.wordEnd u)
      | _ => failure

/-! ### Bracketed classes -/

inductive SetOp where
  | inter
  | diff
  | symmDiff

def SetOp.apply : SetOp → CharSet → CharSet → CharSet
  | .inter, s, t => s.inter t
  | .diff, s, t => s.diff t
  | .symmDiff, s, t => s.symmDiff t

/-- Letters between colons, as in `[:alpha:]`. -/
def posixName (cs : List Char) : Option (Bool × String × List Char) :=
  match cs with
  | '[' :: ':' :: cs =>
    let (negated, cs) := match cs with
      | '^' :: cs => (true, cs)
      | cs => (false, cs)
    match splitAt? [':'] cs with
    | some (name, ']' :: rest) => some (negated, String.ofList name, rest)
    | _ => none
  | _ => none

def posixClass? : Reader (Option CharSet) := do
  match posixName (← rest) with
  | none => return none
  | some (negated, name, after) =>
    match Unicode.posixClass? name with
    | none => return none
    | some s =>
      setRest after
      return some (← foldAndNegate negated s)

def classItem : Reader Primitive := do
  let c ← current
  if c == '\\' then escape
  else
    bump
    return .literal { code := c.toNat }

/-- Without the flag `u`, members are bytes. -/
def classLiteral (l : Literal) : Reader Nat := do
  check ((← flags).unicode || l.isByte || l.code < 0x80)
  return l.code

/-- One member, or an interval from one to another. A hyphen before a closing bracket or before
another hyphen makes no interval. -/
def classRange : Reader CharSet := do
  let first ← classItem
  skipSpace
  let c ← current
  let next ← if c == '-' then do
      let cs := (← rest).drop 1
      pure (if (← flags).spaced then dropSpace false cs else cs).head?
    else pure none
  if c != '-' || next == some ']' || next == some '-' then
    match first with
    | .literal l => return .singleton (← classLiteral l)
    | .set s => return s
    | .look _ => failure
  else
    advance
    match first, ← classItem with
    | .literal a, .literal b => do
      check (a.code ≤ b.code)
      return .interval (← classLiteral a) (← classLiteral b)
    | _, _ => failure

/-- The operand to the left of a set operation, if there is one, and the operation. -/
abbrev Pending := Option (CharSet × SetOp)

def combine (pending : Pending) (s : CharSet) : Reader CharSet := do
  match pending with
  | none => return s
  | some (lhs, op) => return op.apply (← foldAndNegate false lhs) (← foldAndNegate false s)

/-- Hyphens in front stand for themselves. -/
def leadingHyphens : Nat → Reader Bool
  | 0 => failure
  | fuel + 1 => do
    if (← current) == '-' then
      advance
      let _ ← leadingHyphens fuel
      return true
    else return false

mutual

/-- A class from its opening bracket on, with the depth of the classes inside it. -/
def bracketClass : Nat → Reader (CharSet × Nat)
  | 0 => failure
  | fuel + 1 => do
    advance
    let negated := (← current) == '^'
    if negated then advance
    let hyphens ← leadingHyphens ((← rest).length + 1)
    let start := if hyphens then CharSet.singleton '-'.toNat else .empty
    let closing := !hyphens && (← current) == ']'
    if closing then
      advance
      let _ ← current
    let start := if closing then CharSet.singleton ']'.toNat else start
    let (s, depth) ← classBody fuel start none 0
    return (← foldAndNegate negated s, depth + 1)

/-- The members up to the closing bracket, which is taken too. -/
def classBody : Nat → CharSet → Pending → Nat → Reader (CharSet × Nat)
  | 0, _, _, _ => failure
  | fuel + 1, s, pending, depth => do
    skipSpace
    match ← rest with
    | [] => failure
    | ']' :: _ =>
      bump
      return (← combine pending s, depth)
    | '[' :: _ =>
      match ← posixClass? with
      | some t => classBody fuel (s.union t) pending depth
      | none =>
        let (t, d) ← bracketClass fuel
        classBody fuel (s.union t) pending (max depth d)
    | '&' :: '&' :: rest =>
      setRest rest
      classBody fuel .empty (some (← combine pending s, .inter)) depth
    | '-' :: '-' :: rest =>
      setRest rest
      classBody fuel .empty (some (← combine pending s, .diff)) depth
    | '~' :: '~' :: rest =>
      setRest rest
      classBody fuel .empty (some (← combine pending s, .symmDiff)) depth
    | _ => classBody fuel (s.union (← classRange)) pending depth

end

/-! ### Groups -/

/-- A list of flags up to `:` or `)`; each flag counts once, and one hyphen turns the rest off. -/
def readFlags (off dangling : Bool) (acc : List (Char × Bool)) :
    List Char → Option (List (Char × Bool) × Char × List Char)
  | [] => none
  | c :: cs =>
    if c == ':' || c == ')' then if dangling then none else some (acc, c, cs)
    else if c == '-' then if off then none else readFlags true true acc cs
    else if ['i', 'm', 's', 'U', 'u', 'R', 'x'].contains c && !(acc.any (·.1 == c)) then
      readFlags off false ((c, !off) :: acc) cs
    else none

def Flags.set (f : Flags) : Char × Bool → Flags
  | ('i', b) => { f with caseless := b }
  | ('m', b) => { f with multiLine := b }
  | ('s', b) => { f with dotAll := b }
  | ('u', b) => { f with unicode := b }
  | ('R', b) => { f with crlf := b }
  | ('x', b) => { f with spaced := b }
  | _ => f

def isNameChar (first : Bool) (c : Char) : Bool :=
  c == '_' || Unicode.letters.contains c.toNat ||
    (!first && (c == '.' || c == '[' || c == ']' || Unicode.numbers.contains c.toNat))

/-- A group's name and its closing bracket; no two groups share a name. -/
def groupName : Reader Unit := do
  let cs ← rest
  let name := cs.takeWhile (· != '>')
  let after := cs.drop name.length
  match name, after with
  | c :: more, _ :: after =>
    check (isNameChar true c && more.all (isNameChar false))
    let cursor ← get
    check (!cursor.names.contains name)
    set { cursor with rest := after, names := name :: cursor.names }
  | _, _ => failure

/-- How a group starts. -/
inductive Opening where
  | group (flags : Flags)
  | setFlags (flags : Flags)

def opening : Reader Opening := do
  bump
  skipSpace
  let f ← flags
  for look in [['?', '='], ['?', '!'], ['?', '<', '='], ['?', '<', '!']] do
    check (!look.isPrefixOf (← rest))
  if ← accept ['?', 'P', '<'] then
    groupName
    return .group f
  else if ← accept ['?', '<'] then
    groupName
    return .group f
  else if ← accept ['?'] then
    let (items, close, after) ← orFail (readFlags false false [] (← rest))
    setRest after
    let changed := items.foldl Flags.set f
    if close == ')' then
      check (!items.isEmpty)
      return .setFlags changed
    else return .group changed
  else return .group f

/-! ### Expressions -/

/-- An expression and how deeply its parts are nested. -/
structure Parsed where
  expr : Regex
  nesting : Nat := 0

/-- Parts of a sequence; a change of flags has a place in it but cannot be repeated. -/
inductive Item where
  | part (p : Parsed)
  | flags

def Item.parsed : Item → Parsed
  | .part p => p
  | .flags => ⟨.empty, 0⟩

/-- The parts come last first. -/
def sequence (items : List Item) : Parsed :=
  match items with
  | [] => ⟨.empty, 0⟩
  | [i] => i.parsed
  | i :: rest =>
    let all := rest.foldl (fun (acc : Parsed) i =>
      ⟨.seq i.parsed.expr acc.expr, max i.parsed.nesting acc.nesting⟩) i.parsed
    ⟨all.expr, all.nesting + 1⟩

/-- The branches come last first. -/
def alternation (branches : List Parsed) : Parsed :=
  match branches with
  | [] => ⟨.empty, 0⟩
  | [p] => p
  | p :: rest =>
    let all := rest.foldl
      (fun (acc : Parsed) q => ⟨.alt q.expr acc.expr, max q.nesting acc.nesting⟩) p
    ⟨all.expr, all.nesting + 1⟩

def literalExpr (l : Literal) : Reader Regex := do
  let f ← flags
  check (f.unicode || !l.isByte || l.code < 0x80)
  let s := CharSet.singleton l.code
  return .char <|
    if !f.caseless then s
    else if f.unicode then s.closeUnderCase
    else s.closeUnderAsciiCase

/-- Any character but a line's end; with the flag `s`, any character. -/
def dot : Reader Regex := do
  let f ← flags
  check f.unicode
  let excluded := if f.dotAll then CharSet.empty
    else if f.crlf then .ofIntervals [(0x0a, 0x0a), (0x0d, 0x0d)]
    else .singleton 0x0a
  return .char (excluded.complement CharSet.maxCodePoint)

def primitive : Reader Regex := do
  let c ← current
  let f ← flags
  match c with
  | '\\' =>
    match ← escape with
    | .literal l => literalExpr l
    | .set s => return .char s
    | .look l => return .look l
  | '.' =>
    bump
    dot
  | '^' =>
    bump
    return .look (if f.multiLine then .startLine f.crlf else .startText)
  | '$' =>
    bump
    return .look (if f.multiLine then .endLine f.crlf else .endText)
  | c =>
    bump
    literalExpr { code := c.toNat }

def skipBlanks : Reader Unit := do setRest ((← rest).dropWhile isSpace)

def decimalDigits : Nat → List Char → Reader (List Char)
  | 0, _ => failure
  | fuel + 1, acc => do
    match ← peek with
    | some c =>
      if c.isDigit then
        advance
        decimalDigits fuel (c :: acc)
      else return acc.reverse
    | none => return acc.reverse

/-- A count of up to 32 bits with blanks around it, if there is one. -/
def decimal? : Reader (Option Nat) := do
  skipBlanks
  let ds ← decimalDigits ((← rest).length + 1) []
  skipBlanks
  skipSpace
  if ds.isEmpty then return none
  let n := ds.foldl (fun n d => 10 * n + (d.toNat - '0'.toNat)) 0
  check (n < UInt32.size)
  return some n

/-- The counts between braces, from the opening brace on. -/
def counts : Reader (Nat × Option Nat) := do
  advance
  let _ ← current
  let least ← decimal?
  let c ← current
  let range ← if c == ',' then do
      advance
      if (← current) == '\x7d' then do
        pure (← orFail least, none)
      else do
        let least ← orFail least
        let most ← orFail (← decimal?)
        pure (least, some most)
    else do
      let least ← orFail least
      pure (least, some least)
  check ((← current) == '\x7d')
  advance
  match range with
  | (least, some most) => check (least ≤ most)
  | _ => pure ()
  return range

/-- Applies a repetition to the part before it, and takes the mark that makes it reluctant. -/
def repeatLast (items : List Item) (least : Nat) (most : Option Nat) : Reader (List Item) := do
  match items with
  | .part p :: rest =>
    let _ ← accept ['?']
    return .part ⟨.repeated p.expr least most, p.nesting + 1⟩ :: rest
  | _ => failure

/-- Reads branches up to the end of the group, or of the text outside all groups. -/
def branches (inGroup : Bool) : Nat → List Item → List Parsed → Reader Parsed
  | 0, _, _ => failure
  | fuel + 1, items, done => do
    skipSpace
    match ← peek with
    | none =>
      check (!inGroup)
      return alternation (sequence items :: done)
    | some ')' =>
      check inGroup
      bump
      return alternation (sequence items :: done)
    | some '|' =>
      bump
      branches inGroup fuel [] (sequence items :: done)
    | some '(' =>
      let outer ← flags
      match ← opening with
      | .setFlags f =>
        setFlags f
        branches inGroup fuel (.flags :: items) done
      | .group f =>
        setFlags f
        let p ← branches true fuel [] []
        setFlags outer
        branches inGroup fuel (.part ⟨p.expr, p.nesting + 1⟩ :: items) done
    | some '[' =>
      let (s, depth) ← bracketClass fuel
      branches inGroup fuel (.part ⟨.char s, depth⟩ :: items) done
    | some '?' =>
      bump
      branches inGroup fuel (← repeatLast items 0 (some 1)) done
    | some '*' =>
      bump
      branches inGroup fuel (← repeatLast items 0 none) done
    | some '+' =>
      bump
      branches inGroup fuel (← repeatLast items 1 none) done
    | some '\x7b' =>
      let (least, most) ← counts
      branches inGroup fuel (← repeatLast items least most) done
    | some _ =>
      let e ← primitive
      branches inGroup fuel (.part ⟨e, 0⟩ :: items) done

end Reader

/-- How deeply the parts of an expression may be nested. -/
def nestingLimit : Nat := 250

/-- Reads an expression, unless it is malformed, nested too deeply or too large. -/
def read? (source : String) : Option Regex := do
  let cs := source.toList
  let (p, _) ← (Reader.branches false (2 * cs.length + 2) [] []).run { rest := cs }
  if p.nesting ≤ nestingLimit && p.expr.cost ≤ costLimit then some p.expr else none

end Regex

/-- The pattern that a text spells. -/
def Pattern.compile? (source : String) : Option Pattern :=
  (Regex.read? source).map fun e => ⟨source, e.isMatch⟩

end TagDispatch
