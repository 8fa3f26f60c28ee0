import TagDispatch.Config.Basic
import TagDispatch.Config.Format
import TagDispatch.Dispatch.Error

/-!
What is reported, at which level, and in which words. A message can be logged as an event, or
opened as a span that covers what follows.
-/

namespace TagDispatch

/-- The three kinds of code that can be attached to a tag. -/
inductive Role where
  | handler
  | rewriter
  | recovery
  deriving DecidableEq, Repr

def Role.name : Role → String
  | .handler => "handler"
  | .rewriter => "rewriter"
  | .recovery => "recovery"

/-- Before a node is dispatched, or after. -/
inductive Stage where
  | before
  | after
  deriving DecidableEq, Repr

def Stage.name : Stage → String
  | .before => "original"
  | .after => "processed"

inductive Level where
  | warn
  | info
  | debug
  | trace
  deriving DecidableEq, Repr

namespace Level

def name : Level → String
  | warn => "WARN"
  | info => "INFO"
  | debug => "DEBUG"
  | trace => "TRACE"

def verbosity : Level → Nat
  | warn => 1
  | info => 2
  | debug => 3
  | trace => 4

end Level

inductive Message where
  | processorBuilt (kind : String) (handlers : Nat) (strict : Bool) (expected : ResultType)
  | nodeDispatched (tag : String) (depth : Nat)
  | defaultHandlerUsed (tag kind : String)
  | traceMatched (tag : String) (stage : Stage) (rendered : String)
  | replaced (tag : String) (role : Role)
  | recovered (tag kind : String) (error : ProcessError)
  | rewritten (source target : String)
  | configLoaded (path : String) (format : Format) (strict : Bool) (excluded : Nat)

namespace Message

def level : Message → Level
  | processorBuilt _ _ _ _ => .debug
  | nodeDispatched _ _ => .trace
  | defaultHandlerUsed _ _ => .warn
  | traceMatched _ _ _ => .debug
  | replaced _ _ => .warn
  | recovered _ _ _ => .warn
  | rewritten _ _ => .trace
  | configLoaded _ _ _ _ => .info

def text : Message → String
  | processorBuilt kind handlers strict expected =>
    "Built " ++ kind ++ " processor: " ++ writeNat handlers ++ " handlers, strict="
      ++ writeBool strict ++ ", expected=" ++ expected.name
  | nodeDispatched tag depth => "Dispatching :" ++ tag ++ " at depth " ++ writeNat depth
  | defaultHandlerUsed tag kind =>
    "No handler for :" ++ tag ++ " in " ++ kind ++ ", using default handler"
  | traceMatched tag stage rendered => ":" ++ tag ++ " " ++ stage.name ++ ": " ++ rendered
  | replaced tag role => "Replaced existing " ++ role.name ++ " for :" ++ tag
  | recovered tag kind error =>
    "Recovering from error in :" ++ tag ++ " (" ++ kind ++ "): " ++ error.message
  | rewritten source target => "Rewrote :" ++ source ++ " to :" ++ target
  | configLoaded path format strict excluded =>
    "Loaded " ++ format.title ++ " processor config from " ++ path ++ ": strict="
      ++ writeBool strict ++ ", " ++ writeNat excluded ++ " excluded tags"

/-- The named values that go with a message. -/
def fields : Message → List (String × String)
  | processorBuilt kind handlers strict expected =>
    [("kind", kind), ("handler_count", writeNat handlers), ("strict", writeBool strict),
     ("expected", expected.name)]
  | nodeDispatched tag depth => [("tag", tag), ("depth", writeNat depth)]
  | defaultHandlerUsed tag kind => [("tag", tag), ("kind", kind)]
  | traceMatched tag stage _ => [("tag", tag), ("stage", stage.name)]
  | replaced tag role => [("tag", tag), ("table", role.name)]
  | recovered tag kind error => [("tag", tag), ("kind", kind), ("error", error.message)]
  | rewritten source target => [("from", source), ("to", target)]
  | configLoaded path format strict excluded =>
    [("path", path), ("format", format.title), ("strict", writeBool strict),
     ("excluded_count", writeNat excluded)]

def spanName : Message → String
  | processorBuilt _ _ _ _ => "processor_built"
  | nodeDispatched _ _ => "dispatch"
  | defaultHandlerUsed _ _ => "default_handler"
  | traceMatched _ _ _ => "debug_trace"
  | replaced _ _ => "handler_replaced"
  | recovered _ _ _ => "error_recovered"
  | rewritten _ _ => "rewrite"
  | configLoaded _ _ _ _ => "config_loaded"

/-- A span names the operation it covers and leaves out what only a full event tells. -/
def spanFields (name : String) : Message → List (String × String)
  | processorBuilt kind handlers _ _ =>
    [("span_name", name), ("kind", kind), ("handler_count", writeNat handlers)]
  | configLoaded path format _ _ =>
    [("span_name", name), ("path", path), ("format", format.title)]
  | m => ("span_name", name) :: m.fields

end Message

/-- One line of a log. -/
inductive LogEntry where
  | event (m : Message)
  | span (name : String) (m : Message)

def LogEntry.level : LogEntry → Level
  | .event m => m.level
  | .span _ m => m.level

end TagDispatch
