/-!
Double-precision numbers as bit patterns. A pattern is kept exactly, whatever a number's
arithmetic would do to it: the sign of zero and the payload of a NaN are part of the value.
-/

namespace TagDispatch

structure Binary64 where
  bits : UInt64
  deriving DecidableEq, Repr

namespace Binary64

def isNegative (x : Binary64) : Bool := x.bits.toNat / 0x8000000000000000 == 1

def exponentField (x : Binary64) : Nat := x.bits.toNat / 0x10000000000000 % 0x800

def fraction (x : Binary64) : Nat := x.bits.toNat % 0x10000000000000

def isNaN (x : Binary64) : Bool := x.exponentField == 2047 && x.fraction != 0

def isInfinite (x : Binary64) : Bool := x.exponentField == 2047 && x.fraction == 0

def isZero (x : Binary64) : Bool := x.exponentField == 0 && x.fraction == 0

/-- A finite number's magnitude is `mantissa * 2 ^ exponent`. -/
def mantissa (x : Binary64) : Nat :=
  if x.exponentField = 0 then x.fraction else 0x10000000000000 + x.fraction

def exponent (x : Binary64) : Int := max 1 x.exponentField - 1075

/-- Numeric equality: a NaN equals nothing and the two zeros are equal. -/
def numEq (x y : Binary64) : Bool :=
  !x.isNaN && !y.isNaN && (x.bits == y.bits || (x.isZero && y.isZero))

end Binary64

end TagDispatch
