import TagDispatch.Pattern.Unicode.Lookup

/-!
Regular expressions and the texts they match. An expression takes a set of positions in a text to
the set of positions where a match that starts at one of them can end; which of several matches a
search would report plays no part in whether there is one.
-/

namespace TagDispatch

/-- Conditions on a position. Those on words go by all scripts, or by ASCII alone. -/
inductive Look where
  | startText
  | endText
  | startLine (crlf : Bool)
  | endLine (crlf : Bool)
  | wordBoundary (unicode : Bool)
  | notWordBoundary (unicode : Bool)
  | wordStart (unicode : Bool)
  | wordEnd (unicode : Bool)
  | wordStartHalf (unicode : Bool)
  | wordEndHalf (unicode : Bool)

/-- `repeated` takes from `least` to `most` copies; without `most`, any number from `least` on. -/
inductive Regex where
  | empty
  | char (s : CharSet)
  | look (l : Look)
  | seq (a b : Regex)
  | alt (a b : Regex)
  | repeated (e : Regex) (least : Nat) (most : Option Nat)

/-! ### Matching -/

def isWordChar (unicode : Bool) (c : Option Char) : Bool :=
  match c with
  | none => false
  | some c =>
    if c.toNat < 0x80 then Unicode.asciiWordChars.contains c.toNat
    else unicode && Unicode.wordChars.contains c.toNat

/-- Whether a condition holds between two neighbouring characters. -/
def Look.holds (before after : Option Char) : Look → Bool
  | startText => before.isNone
  | endText => after.isNone
  | startLine false => before.isNone || before == some '\n'
  | startLine true =>
    before.isNone || before == some '\n' || (before == some '\r' && after != some '\n')
  | endLine false => after.isNone || after == some '\n'
  | endLine true =>
    after.isNone || after == some '\r' || (after == some '\n' && before != some '\r')
  | wordBoundary u => isWordChar u before != isWordChar u after
  | notWordBoundary u => isWordChar u before == isWordChar u after
  | wordStart u => !isWordChar u before && isWordChar u after
  | wordEnd u => isWordChar u before && !isWordChar u after
  | wordStartHalf u => !isWordChar u before
  | wordEndHalf u => !isWordChar u after

/-- Positions in increasing order. -/
abbrev Positions := List Nat

namespace Positions

/-- `fuel` bounds the steps of the merge. -/
def mergeWith : Nat → Positions → Positions → Positions
  | 0, ps, _ => ps
  | _ + 1, [], qs => qs
  | _ + 1, ps, [] => ps
  | fuel + 1, p :: ps, q :: qs =>
    if p < q then p :: mergeWith fuel ps (q :: qs)
    else if q < p then q :: mergeWith fuel (p :: ps) qs
    else p :: mergeWith fuel ps qs

def union (ps qs : Positions) : Positions := mergeWith (ps.length + qs.length + 1) ps qs

/-- Exactly `count` rounds; once nothing is reached, nothing more can be. -/
def iterate (step : Positions → Positions) : Nat → Positions → Positions
  | 0, ps => ps
  | count + 1, ps =>
    match step ps with
    | [] => []
    | qs => if qs = ps then ps else iterate step count qs

/-- Everything reached in up to `count` rounds; it ends early when a round adds nothing. -/
def reach (step : Positions → Positions) : Nat → Positions → Positions
  | 0, ps => ps
  | count + 1, ps =>
    let qs := union ps (step ps)
    if qs.length = ps.length then ps else reach step count qs

end Positions

namespace Regex

/-- Rounds beyond the number of positions reach nothing new. -/
def ends (text : Array Char) : Regex → Positions → Positions
  | empty, ps => ps
  | char s, ps =>
    (ps.filter fun p => match text[p]? with
      | some c => s.contains c.toNat
      | none => false).map (· + 1)
  | look l, ps =>
    ps.filter fun p => l.holds (if p = 0 then none else text[p - 1]?) text[p]?
  | seq a b, ps => b.ends text (a.ends text ps)
  | alt a b, ps => (a.ends text ps).union (b.ends text ps)
  | repeated e least most, ps =>
    let start := Positions.iterate (e.ends text) least ps
    match most with
    | none => Positions.reach (e.ends text) (text.size + 1) start
    | some m => Positions.reach (e.ends text) (m - least) start

/-- Whether some part of a text matches. -/
def isMatch (e : Regex) (text : String) : Bool :=
  let chars := text.toList.toArray
  !(e.ends chars (List.range (chars.size + 1))).isEmpty

/-! ### Size -/

/-- What one character class costs in a compiled expression, in bytes. -/
def charCost (s : CharSet) : Nat :=
  if s.isWithin 0x7f then 32 + 8 * s.intervals.length else 300 + 56 * s.intervals.length

/-- What a compiled expression takes up, in bytes: counted repetition copies its body. -/
def cost : Regex → Nat
  | empty => 32
  | char s => charCost s
  | look _ => 32
  | seq a b => a.cost + b.cost
  | alt a b => a.cost + b.cost + 40
  | repeated e least most =>
    match most with
    | none => max 1 least * e.cost + 40
    | some m => least * e.cost + (m - least) * (e.cost + 40)

/-- Expressions beyond this cost are refused. -/
def costLimit : Nat := 10 * 1048576

end Regex

end TagDispatch
