import NodeKit.Binary64

/-!
The shortest decimal that reads back as a given double. A positive finite double `v` owns the
interval of reals that round to it: half the gap to each neighbour on either side, the ends
included exactly when its significand is even (a tie rounds to the even neighbour). For one,
two, … seventeen significant digits the search looks at the two multiples of the digit grid that
surround `v`; the first grid with a multiple inside the interval gives the digits, the nearer of
two multiples inside wins, and an exact tie between them goes as the caller's `Tie` says. All
arithmetic is exact on `Nat`.
-/

namespace NodeKit.Decimal

/-- A decimal number `digits * 10 ^ exponent`. -/
structure Scientific where
  digits : Nat
  exponent : Int
deriving DecidableEq, Repr, Inhabited

/-- How a tie between two equally near decimals of the same length is broken. -/
inductive Tie where
  /-- The one whose last digit is even. -/
  | even
  /-- The larger one. -/
  | up
deriving DecidableEq, Repr

/-- Compares `a * 10 ^ s` with `b * 2 ^ t` exactly. -/
def compareScaled (a : Nat) (s : Int) (b : Nat) (t : Int) : Ordering :=
  compare (a * Nat.pow 10 s.toNat * Nat.pow 2 (-t).toNat)
    (b * Nat.pow 2 t.toNat * Nat.pow 10 (-s).toNat)

/-- The number of decimal digits of `n` (one for zero). -/
def digitCount (n : Nat) : Nat := (Nat.toDigits 10 n).length

/-- `⌊log₁₀ (num / den)⌋` for positive `num` and `den`. -/
def floorLog10 (num den : Nat) : Int :=
  let guess : Int := (digitCount num : Int) - digitCount den
  -- the quotient lies in [10 ^ (guess - 1), 10 ^ (guess + 1))
  if den * Nat.pow 10 guess.toNat ≤ num * Nat.pow 10 (-guess).toNat then guess else guess - 1

/-- Drops trailing zero digits, raising the exponent to match. -/
def Scientific.normalize (x : Scientific) : Scientific :=
  go x.digits x.exponent x.digits
where
  /-- Each step removes one digit; `fuel` is the digit value, which bounds their number. -/
  go (d : Nat) (e : Int) : Nat → Scientific
    | 0 => ⟨d, e⟩
    | fuel + 1 => if d ≠ 0 ∧ d % 10 = 0 then go (d / 10) (e + 1) fuel else ⟨d, e⟩

/-- The rounding interval of a positive finite double, scaled by `2 ^ (exponent - 2)`:
the value is `4 * significand`, the interval runs from `low` to `high`, and `closed` tells
whether its ends belong to it. -/
structure Interval where
  value : Nat
  low : Nat
  high : Nat
  scale : Int
  closed : Bool

/-- The interval of reals that round to the double `x` (positive and finite). -/
def Interval.of (x : Binary64) : Interval :=
  let m := x.significand
  -- at a power of two the neighbour below is twice as close
  let below := if x.fraction = 0 ∧ 1 < x.biasedExponent then 1 else 2
  { value := 4 * m, low := 4 * m - below, high := 4 * m + 2, scale := x.exponent - 2,
    closed := m % 2 = 0 }

/-- Whether `c * 10 ^ s` lies in the interval. -/
def Interval.contains (i : Interval) (c : Nat) (s : Int) : Bool :=
  let aboveLow := match compareScaled c s i.low i.scale with
    | .gt => true
    | .eq => i.closed
    | .lt => false
  let belowHigh := match compareScaled c s i.high i.scale with
    | .lt => true
    | .eq => i.closed
    | .gt => false
  aboveLow && belowHigh

/-- The multiples `q * 10 ^ s ≤ v < (q + 1) * 10 ^ s` of the grid `10 ^ s` around the value. -/
def Interval.floorOn (i : Interval) (s : Int) : Nat :=
  (i.value * Nat.pow 2 i.scale.toNat * Nat.pow 10 (-s).toNat) /
    (Nat.pow 2 (-i.scale).toNat * Nat.pow 10 s.toNat)

/-- Of the two grid neighbours `q` and `q + 1` (both in the interval), the nearer; a tie goes as
`tie` says. -/
def Interval.nearer (i : Interval) (tie : Tie) (q : Nat) (s : Int) : Nat :=
  match compareScaled (2 * q + 1) s (2 * i.value) i.scale with
  | .gt => q
  | .lt => q + 1
  | .eq => match tie with
    | .even => if q % 2 = 0 then q else q + 1
    | .up => q + 1

/-- The decimal with `n` significant digits chosen from the grid around the value, if any of its
two neighbours lies in the interval. `top` is the decimal exponent of the value. -/
def Interval.onGrid (i : Interval) (tie : Tie) (top : Int) (n : Nat) : Option Scientific :=
  let s := top - n + 1
  let q := i.floorOn s
  match i.contains q s, i.contains (q + 1) s with
  | true, true => some ⟨i.nearer tie q s, s⟩
  | true, false => some ⟨q, s⟩
  | false, true => some ⟨q + 1, s⟩
  | false, false => none

/-- The shortest decimal that reads back as the positive finite double `x`, with trailing zeros
removed. Seventeen digits always suffice; the last grid is a fallback that is never reached. -/
def shortest (x : Binary64) (tie : Tie) : Scientific :=
  let i := Interval.of x
  let top := floorLog10 (i.value * Nat.pow 2 i.scale.toNat) (Nat.pow 2 (-i.scale).toNat)
  let found := (List.range 17).findSome? fun k => i.onGrid tie top (k + 1)
  (found.getD ⟨i.floorOn (top - 16), top - 16⟩).normalize


end NodeKit.Decimal
