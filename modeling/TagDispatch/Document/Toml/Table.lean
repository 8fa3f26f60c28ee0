/-!
TOML documents as nested tables, and how statements add to them. Where a table came from decides
what may be added to it later: a table with a header of its own is closed to dotted keys, one that
only a header's path implied can still get its header, and one that dotted keys built cannot.
-/

namespace TagDispatch

inductive TableOrigin where
  | defined
  | implied
  | dotted
  deriving DecidableEq, Repr

/-- The values of floats and dates are checked when they are read and not kept. -/
inductive Toml where
  | str (text : String)
  | int (value : Int)
  | bool (value : Bool)
  | float
  | date
  | arr (items : List Toml)
  | inline (origin : TableOrigin) (entries : List (String × Toml))
  | table (origin : TableOrigin) (entries : List (String × Toml))
  | tables (items : List (List (String × Toml)))

namespace Toml

abbrev Entries := List (String × Toml)

def Entries.find? (es : Entries) (key : String) : Option Toml := es.lookup key

def Entries.put (es : Entries) (key : String) (v : Toml) : Entries :=
  if (es.lookup key).isSome then es.map fun (k, old) => if k == key then (k, v) else (k, old)
  else es ++ [(key, v)]

def Entries.erase (es : Entries) (key : String) : Entries := es.filter (·.1 != key)

/-- Applies `f` to the last item. -/
def modifyLast (f : Entries → Option Entries) : List Entries → Option (List Entries)
  | [] => none
  | [x] => (f x).map fun y => [y]
  | x :: xs => (modifyLast f xs).map (x :: ·)

/-- Adds a key, below the tables that the parts of a dotted key before it name. A table that the
key ends in must itself have been built by dotted keys. -/
def addDotted (value : Toml) (key : String) : List String → Entries → Option Entries
  | [], es => if (es.find? key).isSome then none else some (es ++ [(key, value)])
  | part :: parts, es =>
    match es.find? part with
    | none => do
      let sub ← addDotted value key parts []
      return es ++ [(part, .table .dotted sub)]
    | some (.table origin sub) =>
      if origin = .defined || (parts.isEmpty && origin ≠ .dotted) then none
      else (addDotted value key parts sub).map fun sub => es.put part (.table origin sub)
    | some (.tables items) =>
      if parts.isEmpty then none
      else
        (modifyLast (addDotted value key parts) items).map fun items =>
          es.put part (.tables items)
    | some _ => none

/-- The same inside an inline table. -/
def addInline (value : Toml) (key : String) : List String → Entries → Option Entries
  | [], es => if (es.find? key).isSome then none else some (es ++ [(key, value)])
  | part :: parts, es =>
    match es.find? part with
    | none => do
      let sub ← addInline value key parts []
      return es ++ [(part, .inline .dotted sub)]
    | some (.inline .dotted sub) =>
      (addInline value key parts sub).map fun sub => es.put part (.inline .dotted sub)
    | some _ => none

/-- Applies `f` to the table that a header's path leads to; tables on the way that are not there
yet are implied. In an array of tables the way leads through the last one. -/
def descend (f : Entries → Option Entries) : List String → Entries → Option Entries
  | [], es => f es
  | part :: parts, es =>
    match es.find? part with
    | none => (descend f parts []).map fun sub => es ++ [(part, .table .implied sub)]
    | some (.table origin sub) =>
      (descend f parts sub).map fun sub => es.put part (.table origin sub)
    | some (.tables items) =>
      (modifyLast (descend f parts) items).map fun items => es.put part (.tables items)
    | some _ => none

/-- What a header's path finds, if it leads anywhere yet. -/
def lookup : List String → Entries → Option Toml
  | [], _ => none
  | [key], es => es.find? key
  | part :: parts, es =>
    match es.find? part with
    | some (.table _ sub) => lookup parts sub
    | some (.tables items) => items.getLast?.bind (lookup parts)
    | _ => none

/-- The table that statements go to: its header's path, and whether it is one of an array. -/
structure Section where
  path : List String := []
  isArray : Bool := false
  entries : Entries := []

/-- A document so far: the sections that are complete, and the open one. -/
structure Builder where
  root : Entries := []
  current : Section := {}

namespace Builder

def splitLast (path : List String) : Option (List String × String) :=
  path.getLast?.map fun key => (path.dropLast, key)

/-- Puts the open section in its place. -/
def close (b : Builder) : Option Entries :=
  match splitLast b.current.path with
  | none => some b.current.entries
  | some (parents, key) =>
    descend (fun es =>
      if b.current.isArray then
        match es.find? key with
        | none => some (es ++ [(key, .tables [b.current.entries])])
        | some (.tables items) => some (es.put key (.tables (items ++ [b.current.entries])))
        | some _ => none
      else
        match es.find? key with
        | none => some (es ++ [(key, .table .defined b.current.entries)])
        | some (.table .implied _) => some (es.put key (.table .defined b.current.entries))
        | some _ => none) parents b.root

/-- Opens the section of a header. A table that was only implied keeps what is in it. -/
def openTable (b : Builder) (path : List String) : Option Builder := do
  let root ← b.close
  let (parents, key) ← splitLast path
  let root' ← descend (fun es =>
    match es.find? key with
    | none => some es
    | some (.table .implied _) => some (es.erase key)
    | some _ => none) parents root
  let entries := match lookup path root with
    | some (.table .implied sub) => sub
    | _ => []
  return { root := root', current := { path, entries } }

/-- Opens one more table of an array. -/
def openArrayTable (b : Builder) (path : List String) : Option Builder := do
  let root ← b.close
  let (parents, key) ← splitLast path
  let root ← descend (fun es =>
    match es.find? key with
    | none => some (es ++ [(key, .tables [])])
    | some (.tables _) => some es
    | some _ => none) parents root
  return { root, current := { path, isArray := true } }

def add (b : Builder) (path : List String) (key : String) (value : Toml) : Option Builder := do
  let entries ← addDotted value key path b.current.entries
  return { b with current := { b.current with entries } }

end Builder

end Toml

end TagDispatch
