/-!
Doubles held by their IEEE-754 binary64 bit pattern: one sign bit, eleven exponent bits and
fifty-two fraction bits. Holding the bits lets doubles compare structurally, and lets the text of
a double be computed from its fields in exact `Nat` arithmetic. `ofNat` rounds a natural number
to the nearest double, a tie going to the even significand, as a conversion of a machine integer
to a double does.
-/

namespace NodeKit

/-- A double, by its bit pattern. -/
structure Binary64 where
  bits : UInt64
deriving DecidableEq, Inhabited, Repr

namespace Binary64

/-- Positive zero. -/
def zero : Binary64 := ⟨0⟩

/-- Positive infinity. -/
def infinity : Binary64 := ⟨0x7FF0000000000000⟩

/-- The sign bit is set (also for `-0.0`). -/
def negative (x : Binary64) : Bool := x.bits >>> 63 == 1

/-- The eleven exponent bits, as stored. -/
def biasedExponent (x : Binary64) : Nat := ((x.bits >>> 52) &&& 0x7FF).toNat

/-- The fifty-two fraction bits. -/
def fraction (x : Binary64) : Nat := (x.bits &&& 0xFFFFFFFFFFFFF).toNat

/-- Neither an infinity nor a NaN. -/
def isFinite (x : Binary64) : Bool := x.biasedExponent != 0x7FF

/-- Positive or negative zero. -/
def isZero (x : Binary64) : Bool := x.biasedExponent == 0 && x.fraction == 0

/-- The integer significand: a finite double is `significand * 2 ^ exponent`, up to its sign. -/
def significand (x : Binary64) : Nat :=
  if x.biasedExponent == 0 then x.fraction else x.fraction + Nat.pow 2 52

/-- The binary exponent that goes with `significand`. -/
def exponent (x : Binary64) : Int :=
  if x.biasedExponent == 0 then -1074 else (x.biasedExponent : Int) - 1075

/-- The same magnitude with the sign bit flipped. -/
def neg (x : Binary64) : Binary64 := ⟨x.bits ^^^ 0x8000000000000000⟩

/-- The machine double with these bits. -/
def toFloat (x : Binary64) : Float := Float.ofBits x.bits

/-- The bits of a machine double. -/
def ofFloat (f : Float) : Binary64 := ⟨f.toBits⟩

/-- Packs a normal double from the position `l` of its leading bit and a 53-bit significand
`m`; an exponent beyond the largest finite one gives infinity. -/
def packNormal (l m : Nat) : Binary64 :=
  if 2047 ≤ l + 1023 then infinity
  else ⟨UInt64.ofNat ((l + 1023) * Nat.pow 2 52 + (m - Nat.pow 2 52))⟩

/-- The double nearest to `n`; of two equally near, the one with an even significand. -/
def ofNat (n : Nat) : Binary64 :=
  if n = 0 then zero
  else
    let l := n.log2
    if l ≤ 52 then packNormal l (n <<< (52 - l))
    else
      let shift := l - 52
      let q := n >>> shift
      let r := n % Nat.pow 2 shift
      let half := Nat.pow 2 (shift - 1)
      let rounded := if half < r ∨ (r = half ∧ q % 2 = 1) then q + 1 else q
      if rounded = Nat.pow 2 53 then packNormal (l + 1) (rounded / 2) else packNormal l rounded

example : ofNat 1 = ⟨0x3FF0000000000000⟩ := by decide
example : ofNat (2 ^ 53 + 1) = ⟨0x4340000000000000⟩ := by decide

end Binary64

end NodeKit
