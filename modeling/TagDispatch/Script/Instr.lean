import TagDispatch.Config.Basic

/-!
A small stack language in which handlers, rewriters and recovery hooks can be written down. Code
works on the node it was given and on a stack of elements.
-/

namespace TagDispatch

inductive Instr where
  -- Consuming and changing the node
  | shift
  | shiftAtom
  | shiftNode
  | clear
  | clone
  | len
  | append
  | unshift
  | setTag (tag : Atom)
  | setLine (line : Option Nat)
  | field (name : String)
  | setField (name : String)
  | fields
  | assertTag (tag : String)
  | replace (old new : Atom)
  -- The stack
  | push (e : Element)
  | pop
  | dup
  | node (tag : String) (count : Nat)
  | nodeAll (tag : String)
  | group (count : Nat)
  | arith (tag : String)
  -- Control
  | each (body : List Instr)
  | ifTag (tag : String) (yes no : List Instr)
  | ifTop (e : Element) (yes no : List Instr)
  | ifLen (count : Nat) (yes no : List Instr)
  | fail (tag message : String)
  | raise
  | errorSnapshot
  -- Calling the processor
  | process
  | processKeep
  | tryProcess
  | processSelf
  | processRest
  | rewrite
  | dummy
  | context
  | parent
  | kind
  | setConfig (settings : List Setting)
  -- Notes
  | note (text : String)
  | noteTop
  | notes
  -- Bindings
  | envGet (name : String)
  | envSet (name : String)
  | envDefine (name : String)
  | envDepth
  | envPush
  | envPop
  | envAll
  | localGet
  | localSet
  | scope (body : List Instr)

end TagDispatch
