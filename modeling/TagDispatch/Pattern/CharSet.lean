import TagDispatch.Pattern.Unicode.Fold
import TagDispatch.Text.Ranges

/-!
Sets of code points as inclusive intervals, with the operations of character classes. The
intervals are kept in increasing order and apart from each other.
-/

namespace TagDispatch

structure CharSet where
  intervals : List (Nat × Nat)

namespace CharSet

def maxCodePoint : Nat := 0x10FFFF

def empty : CharSet := ⟨[]⟩

/-- Joins intervals that touch; the input is ordered by lower ends. -/
def mergeSorted : List (Nat × Nat) → List (Nat × Nat)
  | [] => []
  | [r] => [r]
  | (lo, hi) :: (lo', hi') :: rest =>
    if lo' ≤ hi + 1 then mergeSorted ((lo, max hi hi') :: rest)
    else (lo, hi) :: mergeSorted ((lo', hi') :: rest)
  termination_by rs => rs.length

def ofIntervals (rs : List (Nat × Nat)) : CharSet :=
  ⟨mergeSorted ((rs.filter fun r => r.1 ≤ r.2).mergeSort fun a b => a.1 ≤ b.1)⟩

def ofRanges (r : Text.Ranges) : CharSet := ⟨r.toIntervals⟩

def singleton (c : Nat) : CharSet := ⟨[(c, c)]⟩

def interval (lo hi : Nat) : CharSet := ofIntervals [(lo, hi)]

def contains (s : CharSet) (c : Nat) : Bool := s.intervals.any fun (lo, hi) => lo ≤ c && c ≤ hi

def union (s t : CharSet) : CharSet := ofIntervals (s.intervals ++ t.intervals)

/-- The gaps between `from` and `top`. -/
def gaps (top : Nat) : Nat → List (Nat × Nat) → List (Nat × Nat)
  | start, [] => if start ≤ top then [(start, top)] else []
  | start, (lo, hi) :: rest =>
    if start < lo then (start, lo - 1) :: gaps top (hi + 1) rest else gaps top (hi + 1) rest

/-- What is missing among the code points up to `top`. -/
def complement (top : Nat) (s : CharSet) : CharSet := ⟨gaps top 0 s.intervals⟩

def inter (s t : CharSet) : CharSet :=
  complement maxCodePoint ((complement maxCodePoint s).union (complement maxCodePoint t))

def diff (s t : CharSet) : CharSet := s.inter (complement maxCodePoint t)

def symmDiff (s t : CharSet) : CharSet := (s.diff t).union (t.diff s)

def isWithin (s : CharSet) (top : Nat) : Bool := s.intervals.all fun r => r.2 ≤ top

/-- Every code point that folds to another, with the one it folds to. -/
def foldPairs : List (Nat × Nat) :=
  Unicode.foldRuns.flatMap fun (first, count, step, image) =>
    (List.range count).map fun i => (first + i * step, image + i * step)

/-- Adds everything that folds to the same code point as a member. -/
def closeUnderCase (s : CharSet) : CharSet :=
  let images := foldPairs.filterMap fun (c, f) => if s.contains c then some (f, f) else none
  let folded := s.union (ofIntervals images)
  let sources := foldPairs.filterMap fun (c, f) => if folded.contains f then some (c, c) else none
  folded.union (ofIntervals sources)

/-- The same for the letters of ASCII alone. -/
def closeUnderAsciiCase (s : CharSet) : CharSet :=
  let lower := (s.inter (interval 0x41 0x5a)).intervals.map fun (a, b) => (a + 32, b + 32)
  let upper := (s.inter (interval 0x61 0x7a)).intervals.map fun (a, b) => (a - 32, b - 32)
  ofIntervals (s.intervals ++ lower ++ upper)

end CharSet

end TagDispatch
