/-!
# The shortest decimal of a binary number

A binary number `m · 2 ^ q` stands for every real that rounds to it: an interval whose ends belong to
it exactly when `m` is even.  `shortest` looks for the coarsest decimal grid that has a point in the
interval, testing on each grid the two neighbours of the number itself; of two hits the nearer one
wins, and a tie goes up.  All comparisons are exact, on natural numbers.
-/

namespace ObjectProtocol

structure Decimal where
  digits : Nat
  exponent : Int
deriving DecidableEq, Repr

/-- A positive number `value / denominator` together with the ends of the interval of reals that round to
it, over the same denominator. -/
structure Neighbourhood where
  value : Nat
  low : Nat
  high : Nat
  denominator : Nat
  /-- Whether the ends themselves round to the number. -/
  closed : Bool

namespace Neighbourhood

/-- The neighbourhood of `m · 2 ^ q`. Below a power of two the binary grid is twice as fine, unless `q` is
already the least exponent. -/
def ofBinary (m : Nat) (q : Int) (least : Int) : Neighbourhood :=
  let below := if m = 0x10000000000000 ∧ q ≠ least then 1 else 2
  let up := Nat.pow 2 (q - 2).toNat
  { value := 4 * m * up
    low := (4 * m - below) * up
    high := (4 * m + 2) * up
    denominator := Nat.pow 2 (2 - q).toNat
    closed := m % 2 = 0 }

/-- Whether `n · 10 ^ k` lies in the interval. -/
def holds (x : Neighbourhood) (n : Nat) (k : Int) : Bool :=
  let point := n * Nat.pow 10 k.toNat * x.denominator
  let scale := Nat.pow 10 (-k).toNat
  if x.closed then x.low * scale ≤ point && point ≤ x.high * scale
  else x.low * scale < point && point < x.high * scale

/-- The greatest `n` with `n · 10 ^ k` at most the number. -/
def floorOn (x : Neighbourhood) (k : Int) : Nat :=
  x.value * Nat.pow 10 (-k).toNat / (x.denominator * Nat.pow 10 k.toNat)

def nearerBelow (x : Neighbourhood) (n : Nat) (k : Int) : Bool :=
  2 * x.value * Nat.pow 10 (-k).toNat < (2 * n + 1) * Nat.pow 10 k.toNat * x.denominator

/-- The point of the grid `10 ^ k` that stands for the number, if one lies in the interval. -/
def pointOn (x : Neighbourhood) (k : Int) : Option Decimal :=
  let n := x.floorOn k
  match x.holds n k, x.holds (n + 1) k with
  | false, false => none
  | true, false => some ⟨n, k⟩
  | false, true => some ⟨n + 1, k⟩
  | true, true => some (if x.nearerBelow n k then ⟨n, k⟩ else ⟨n + 1, k⟩)

def leading (x : Neighbourhood) : Int :=
  if x.denominator ≤ x.value then (Nat.toDigits 10 (x.value / x.denominator)).length - 1
  else
    -- Below one, the reciprocal rounded up has one digit per place up to the leading digit, unless
    -- the number is a power of ten itself.
    let reciprocal := (x.denominator + x.value - 1) / x.value
    Int.negOfNat (Nat.toDigits 10 (reciprocal - 1)).length

/-- The first grid on which `pointOn` has a hit wins; seventeen digits always suffice for a double. -/
def shortest (x : Neighbourhood) : Decimal :=
  ((List.range 17).findSome? fun (n : Nat) => x.pointOn (x.leading - n)).getD ⟨x.floorOn 0, 0⟩

end Neighbourhood

def Decimal.trim (d : Decimal) : Decimal :=
  let digits := Nat.toDigits 10 d.digits
  let zeros := (digits.reverse.takeWhile (· = '0')).length
  if zeros < digits.length then ⟨d.digits / Nat.pow 10 zeros, d.exponent + zeros⟩ else d

def Decimal.ofBits (bits : UInt64) : Decimal :=
  let biased : Nat := (bits >>> 52).toNat % 0x800
  let fraction := bits.toNat % 0x10000000000000
  let m := if biased = 0 then fraction else fraction + 0x10000000000000
  let q : Int := if biased = 0 then -1074 else (biased : Int) - 1075
  (Neighbourhood.ofBinary m q (-1074)).shortest.trim

end ObjectProtocol
