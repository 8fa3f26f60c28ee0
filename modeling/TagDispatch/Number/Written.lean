import TagDispatch.Number.Shortest

/-!
How numbers are written in a tree's text. Integers are plain decimals. Other numbers show their
shortest digits: positionally from `1e-4` up to `1e16`, always with a point, and with an exponent
outside that range.
-/

namespace TagDispatch

def writeNat (n : Nat) : String := String.ofList (Nat.toDigits 10 n)

def writeInt : Int → String
  | .ofNat n => writeNat n
  | .negSucc n => "-" ++ writeNat (n + 1)

namespace Decimal

private def zeros (n : Nat) : List Char := List.replicate n '0'

/-- `e` is the position of the point, counted from before the first digit. -/
def writePositional (digits : List Char) (e : Int) : List Char :=
  if e ≤ 0 then '0' :: '.' :: zeros (-e).toNat ++ digits
  else if digits.length ≤ e.toNat then digits ++ zeros (e.toNat - digits.length) ++ ['.', '0']
  else digits.take e.toNat ++ '.' :: digits.drop e.toNat

def writeExponent (digits : List Char) (e : Int) : List Char :=
  let body := match digits with
    | d :: [] => [d]
    | d :: rest => d :: '.' :: rest
    | [] => ['0']
  body ++ 'e' :: (writeInt (e - 1)).toList

def write (d : Decimal) : List Char :=
  if d.digits = 0 then ['0', '.', '0']
  else
    let digits := Nat.toDigits 10 d.digits
    let e := d.scale + digits.length
    if -3 ≤ e ∧ e ≤ 16 then writePositional digits e else writeExponent digits e

end Decimal

def Binary64.write (x : Binary64) : String :=
  if x.isNaN then "NaN"
  else
    let sign := if x.isNegative then ['-'] else []
    if x.isInfinite then String.ofList (sign ++ ['i', 'n', 'f'])
    else String.ofList (sign ++ x.shortest.write)

end TagDispatch
