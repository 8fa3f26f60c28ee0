import TagDispatch.Document.Toml.Scalar

/-!
The grammar of TOML: keys, values, and the statements of a document, one to a line.
-/

namespace TagDispatch.Toml

/-- How deeply values may be nested, and how many parts a key may have. -/
def depthLimit : Nat := 80

/-- A comment, up to the end of its line; control characters are refused. -/
def skipComment : Chars → Option Chars
  | '#' :: cs =>
    let rest := cs.dropWhile isPlain
    match rest with
    | [] => some []
    | _ => if (newline? rest).isSome then some rest else none
  | cs => some cs

/-- Blanks, comments and line ends between the items of an array. -/
def skipFiller : Nat → Chars → Option Chars
  | 0, _ => none
  | fuel + 1, cs =>
    let cs := skipBlanks cs
    match newline? cs with
    | some cs => skipFiller fuel cs
    | none =>
      match cs with
      | '#' :: _ =>
        match (skipComment cs).bind newline? with
        | some cs => skipFiller fuel cs
        | none => none
      | cs => some cs

def isKeyChar (c : Char) : Bool := c.isAlphanum || c == '_' || c == '-'

def simpleKey? (cs : Chars) : Option (String × Chars) :=
  match lineString? cs with
  | some r => some r
  | none =>
    match cs.takeWhile isKeyChar with
    | [] => none
    | ks => some (String.ofList ks, cs.drop ks.length)

/-- The parts of a dotted key, with blanks around each. -/
def keyParts : Nat → Chars → Option (List String × Chars)
  | 0, _ => none
  | fuel + 1, cs => do
    let (k, cs) ← simpleKey? (skipBlanks cs)
    match skipBlanks cs with
    | '.' :: cs =>
      let (ks, cs) ← keyParts fuel cs
      return (k :: ks, cs)
    | cs => return ([k], cs)

def key? (cs : Chars) : Option (List String × Chars) := do
  let (ks, cs) ← keyParts (cs.length + 1) cs
  if ks.length < depthLimit then some (ks, cs) else none

mutual

/-- A value; `depth` is how many arrays and tables are open around it. -/
def value : Nat → Nat → Chars → Option (Toml × Chars)
  | 0, _, _ => none
  | fuel + 1, depth, cs =>
    match cs with
    | '\"' :: _ => (string? cs).map fun (s, cs) => (.str s, cs)
    | '\x27' :: _ => (string? cs).map fun (s, cs) => (.str s, cs)
    | '[' :: rest =>
      if depth + 1 < depthLimit then
        (arrayItems fuel (depth + 1) rest).map fun (vs, cs) => (.arr vs, cs)
      else none
    | '\x7b' :: rest =>
      if depth + 1 < depthLimit then
        match skipBlanks rest with
        | '\x7d' :: cs => some (.inline .defined [], cs)
        | _ =>
          (inlineEntries fuel (depth + 1) [] rest).map fun (es, cs) => (.inline .defined es, cs)
      else none
    | cs =>
      let (w, rest) := word cs
      (wordValue? w).map (·, rest)

/-- The items of an array and its closing bracket; a comma may stand after the last. -/
def arrayItems : Nat → Nat → Chars → Option (List Toml × Chars)
  | 0, _, _ => none
  | fuel + 1, depth, cs =>
    match skipFiller (cs.length + 1) cs with
    | none => none
    | some (']' :: cs) => some ([], cs)
    | some cs =>
      match value fuel depth cs with
      | none => none
      | some (v, cs) =>
        match skipFiller (cs.length + 1) cs with
        | some (',' :: cs) => (arrayItems fuel depth cs).map fun (vs, cs) => (v :: vs, cs)
        | some (']' :: cs) => some ([v], cs)
        | _ => none

/-- The entries of an inline table and its closing brace. -/
def inlineEntries : Nat → Nat → Entries → Chars → Option (Entries × Chars)
  | 0, _, _, _ => none
  | fuel + 1, depth, es, cs =>
    match key? cs with
    | none => none
    | some (ks, cs) =>
      match Builder.splitLast ks, cs with
      | some (path, key), '=' :: cs =>
        match value fuel depth (skipBlanks cs) with
        | none => none
        | some (v, cs) =>
          match addInline v key path es, skipBlanks cs with
          | some es, ',' :: cs => inlineEntries fuel depth es cs
          | some es, '\x7d' :: cs => some (es, cs)
          | _, _ => none
      | _, _ => none

end

/-- What may follow a statement on its line. -/
def endLine? (cs : Chars) : Option Chars := do
  let cs ← skipComment (skipBlanks cs)
  match cs with
  | [] => some []
  | cs => newline? cs

def statement (b : Builder) (cs : Chars) : Option (Builder × Chars) :=
  match cs with
  | '[' :: '[' :: cs => do
    let (ks, cs) ← key? cs
    match cs with
    | ']' :: ']' :: cs => return (← b.openArrayTable ks, cs)
    | _ => none
  | '[' :: cs => do
    let (ks, cs) ← key? cs
    match cs with
    | ']' :: cs => return (← b.openTable ks, cs)
    | _ => none
  | cs => do
    let (ks, cs) ← key? cs
    let (path, key) ← Builder.splitLast ks
    match cs with
    | '=' :: cs =>
      let cs := skipBlanks cs
      let (v, cs) ← value (2 * cs.length + 2) 0 cs
      return (← b.add path key v, cs)
    | _ => none

/-- Each round takes at least one character. -/
def statements : Nat → Builder → Chars → Option Builder
  | 0, _, _ => none
  | fuel + 1, b, cs =>
    match skipBlanks cs with
    | [] => some b
    | cs =>
      match newline? cs with
      | some cs => statements fuel b cs
      | none =>
        match cs with
        | '#' :: _ =>
          match endLine? cs with
          | some cs => statements fuel b cs
          | none => none
        | cs =>
          match statement b cs with
          | none => none
          | some (b, cs) =>
            match endLine? cs with
            | some cs => statements fuel b cs
            | none => none

/-- The entries of a document's root; a byte order mark in front is dropped. -/
def read? (text : String) : Option Entries :=
  let cs := match text.toList with
    | '\ufeff' :: cs => cs
    | cs => cs
  (statements (cs.length + 1) {} cs).bind Builder.close

end TagDispatch.Toml
