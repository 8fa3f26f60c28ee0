import TagDispatch.Dispatch.Error

/-!
Integer arithmetic with an operator given by name. A result outside the range of 64-bit integers
is refused.
-/

namespace TagDispatch

inductive Operator where
  | add
  | sub
  | mul
  deriving DecidableEq, Repr

namespace Operator

def ofName? : String → Option Operator
  | "+" => some add
  | "-" => some sub
  | "*" => some mul
  | _ => none

def apply : Operator → Int → Int → Int
  | add, x, y => x + y
  | sub, x, y => x - y
  | mul, x, y => x * y

end Operator

def fitsInt64 (x : Int) : Bool := Int64.minValue.toInt ≤ x && x ≤ Int64.maxValue.toInt

/-- The operands are looked at before the operator, the left one first. -/
def evalArith (tag : String) (lhs op rhs : Element) : Except ProcessError Element :=
  match lhs, rhs with
  | .atom (.int x), .atom (.int y) =>
    match op.name?.bind Operator.ofName? with
    | none => .error (.handlerFailed tag ("unknown operator " ++ op.render))
    | some o =>
      let r := o.apply x.toInt y.toInt
      if fitsInt64 r then .ok (.atom (.int (Int64.ofInt r)))
      else .error (.handlerFailed tag
        (writeInt x.toInt ++ " " ++ op.render ++ " " ++ writeInt y.toInt ++ " overflows"))
  | .atom (.int _), _ => .error (.handlerFailed tag (rhs.render ++ " is not an integer"))
  | _, _ => .error (.handlerFailed tag (lhs.render ++ " is not an integer"))

end TagDispatch
