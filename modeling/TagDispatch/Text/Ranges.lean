/-!
Sets of code points given by the points where membership changes. Such a set is written down as
the hexadecimal distances from each change to the next, the first one counted from zero.
-/

namespace TagDispatch.Text

/-- The value of a hexadecimal digit, either case. -/
def hexDigit? (c : Char) : Option Nat :=
  if '0' ≤ c ∧ c ≤ '9' then some (c.toNat - '0'.toNat)
  else if 'a' ≤ c ∧ c ≤ 'f' then some (c.toNat - 'a'.toNat + 10)
  else if 'A' ≤ c ∧ c ≤ 'F' then some (c.toNat - 'A'.toNat + 10)
  else none

/-- `bounds` increases; a code point is a member iff an odd number of bounds are at most it. -/
structure Ranges where
  bounds : Array Nat

namespace Ranges

/-- Distances are separated by anything that is not a hexadecimal digit. -/
private def readDeltas : List Char → Option Nat → Nat → Array Nat → Array Nat
  | [], none, _, acc => acc
  | [], some d, last, acc => acc.push (last + d)
  | c :: cs, current, last, acc =>
    match hexDigit? c, current with
    | some v, some d => readDeltas cs (some (16 * d + v)) last acc
    | some v, none => readDeltas cs (some v) last acc
    | none, some d => readDeltas cs none (last + d) (acc.push (last + d))
    | none, none => readDeltas cs none last acc

/-- A distance does not run on from one line into the next. -/
def ofDeltas (lines : List String) : Ranges :=
  ⟨readDeltas (" ".intercalate lines).toList none 0 #[]⟩

/-- How many of `bounds[lo..hi)` are at most `n`, added to `lo`; each step halves the window. -/
private def countUpTo (bounds : Array Nat) (n : Nat) : Nat → Nat → Nat → Nat
  | 0, lo, _ => lo
  | fuel + 1, lo, hi =>
    if lo < hi then
      let mid := (lo + hi) / 2
      if bounds.getD mid 0 ≤ n then countUpTo bounds n fuel (mid + 1) hi
      else countUpTo bounds n fuel lo mid
    else lo

def contains (r : Ranges) (n : Nat) : Bool :=
  countUpTo r.bounds n (r.bounds.size + 1) 0 r.bounds.size % 2 == 1

/-- The members as inclusive intervals in increasing order. -/
def toIntervals (r : Ranges) : List (Nat × Nat) :=
  pairUp r.bounds.toList
where
  pairUp : List Nat → List (Nat × Nat)
    | lo :: hi :: rest => (lo, hi - 1) :: pairUp rest
    | _ => []

end Ranges

end TagDispatch.Text
