import TagDispatch.Pattern.Basic
import TagDispatch.ResultType
import TagDispatch.Table
import TagDispatch.Tree.Render

/-!
What a processor can be told: which handler stands in for missing ones, what is refused, what a
result must look like, and what is reported on the way.
-/

namespace TagDispatch

structure Config where
  /-- The tag whose handler serves tags without one. -/
  defaultHandler : Option String := none
  warnOnDefault : Bool := true
  /-- Take the tag off before a handler of its own sees the node. -/
  autoShiftTag : Bool := false
  excludedTags : NameSet := ∅
  /-- Nodes of these tags are traced when their text matches. -/
  debugTrace : Table Pattern := ∅
  /-- Refuse tags that no handler serves. -/
  strict : Bool := false
  expected : ResultType := .sexp
  /-- Demand that a handler consumes its node to the end. -/
  requireEmpty : Bool := true
  fieldAccessors : Table (List String) := ∅
  /-- Keep a copy of the node in errors about its result. -/
  captureSnapshot : Bool := false
  maxRewriteRounds : Nat := 64

instance : Inhabited Config := ⟨{}⟩

/-- One option and its new value. Where an option is a table, one entry can be set as well. -/
inductive Setting where
  | defaultHandler (tag : Option String)
  | warnOnDefault (b : Bool)
  | autoShiftTag (b : Bool)
  | excludedTags (tags : NameSet)
  | excludedTag (tag : String) (excluded : Bool)
  | debugTrace (patterns : Table Pattern)
  | debugTraceOf (tag : String) (pattern : Option Pattern)
  | strict (b : Bool)
  | expected (t : ResultType)
  | requireEmpty (b : Bool)
  | fieldAccessors (fields : Table (List String))
  | fieldAccessorsOf (tag : String) (fields : Option (List String))
  | captureSnapshot (b : Bool)
  | maxRewriteRounds (n : Nat)

namespace Config

/-- For handlers that compute values: any result will do, and nodes may be left unconsumed. -/
def interpreter : Config := { expected := .any, requireEmpty := false }

def set (c : Config) : Setting → Config
  | .defaultHandler tag => { c with defaultHandler := tag }
  | .warnOnDefault b => { c with warnOnDefault := b }
  | .autoShiftTag b => { c with autoShiftTag := b }
  | .excludedTags tags => { c with excludedTags := tags }
  | .excludedTag tag excluded =>
    { c with excludedTags := c.excludedTags.put tag (if excluded then some () else none) }
  | .debugTrace patterns => { c with debugTrace := patterns }
  | .debugTraceOf tag pattern => { c with debugTrace := c.debugTrace.put tag pattern }
  | .strict b => { c with strict := b }
  | .expected t => { c with expected := t }
  | .requireEmpty b => { c with requireEmpty := b }
  | .fieldAccessors fields => { c with fieldAccessors := fields }
  | .fieldAccessorsOf tag fields => { c with fieldAccessors := c.fieldAccessors.put tag fields }
  | .captureSnapshot b => { c with captureSnapshot := b }
  | .maxRewriteRounds n => { c with maxRewriteRounds := n }

def withDefaultHandler (c : Config) (tag : String) : Config :=
  { c with defaultHandler := some tag }

def withExcluded (c : Config) (tag : String) : Config :=
  { c with excludedTags := c.excludedTags.insert tag () }

def withFields (c : Config) (tag : String) (names : List String) : Config :=
  { c with fieldAccessors := c.fieldAccessors.insert tag names }

def withTrace (c : Config) (tag : String) (p : Pattern) : Config :=
  { c with debugTrace := c.debugTrace.insert tag p }

/-- Which tags have a pattern, and whether it matches a given text. -/
def traces? (c : Config) (tag text : String) : Option Bool :=
  (c.debugTrace.find? tag).map (·.accepts text)

end Config

/-! ### Options in print -/

def writeBool (b : Bool) : String := if b then "true" else "false"

private def braced (items : List String) : String := "\x7b" ++ ", ".intercalate items ++ "\x7d"

/-- Quoted texts between square brackets. -/
def writeNames (names : List String) : String :=
  "[" ++ ", ".intercalate (names.map Text.quote) ++ "]"

private def writeEntries {α : Type} (t : Table α) (f : α → String) : String :=
  braced (t.entries.map fun (k, v) => Text.quote k ++ ": " ++ f v)

def Pattern.describe (p : Pattern) : String :=
  "TracePattern(Regex(" ++ Text.quote p.source ++ "))"

def Config.describe (c : Config) : String :=
  let handler := match c.defaultHandler with
    | some tag => "Some(" ++ Text.quote tag ++ ")"
    | none => "None"
  "ProcessorConfig " ++ "\x7b" ++ " " ++ ", ".intercalate
    ["default_handler: " ++ handler,
     "warn_on_default: " ++ writeBool c.warnOnDefault,
     "auto_shift_tag: " ++ writeBool c.autoShiftTag,
     "excluded_tags: " ++ braced (c.excludedTags.keys.map Text.quote),
     "debug_trace: " ++ writeEntries c.debugTrace Pattern.describe,
     "strict: " ++ writeBool c.strict,
     "expected: " ++ c.expected.title,
     "require_empty: " ++ writeBool c.requireEmpty,
     "field_accessors: " ++ writeEntries c.fieldAccessors writeNames,
     "capture_original: " ++ writeBool c.captureSnapshot,
     "max_rewrite_rounds: " ++ writeNat c.maxRewriteRounds] ++ " " ++ "\x7d"

end TagDispatch
