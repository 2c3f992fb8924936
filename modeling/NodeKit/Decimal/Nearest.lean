import NodeKit.Decimal.Shortest

/-!
Reading a decimal as a double: the double nearest to its value, a tie going to the one with an
even significand, and infinity past the largest finite double. This is how a compiler reads a
float literal. The rounding is done on the exact ratio in `Nat`: the binary exponent of the
ratio fixes the spacing of the doubles around it, the quotient by that spacing gives the
significand, and the remainder decides the rounding.
-/

namespace NodeKit

namespace Binary64

/-- The double nearest to the ratio `num / den`; of two equally near, the one with an even
significand; past the largest finite double, infinity. A zero ratio is zero. -/
def ofRatio (num den : Nat) : Binary64 :=
  if num = 0 ∨ den = 0 then zero
  else
    let a : Int := num.log2
    let b : Int := den.log2
    -- the binary exponent of the ratio, `⌊log₂ (num / den)⌋`, is `a - b` or one less
    let l : Int :=
      if den * Nat.pow 2 (a - b).toNat ≤ num * Nat.pow 2 (b - a).toNat then a - b else a - b - 1
    -- the spacing of the doubles there: 53 significant bits, or the subnormal spacing
    let e : Int := max l (-1022) - 52
    let n := num * Nat.pow 2 (-e).toNat
    let d := den * Nat.pow 2 e.toNat
    let q := n / d
    let r := n % d
    let q := if d < 2 * r ∨ (2 * r = d ∧ q % 2 = 1) then q + 1 else q
    let (q, e) := if q = Nat.pow 2 53 then (q / 2, e + 1) else (q, e)
    if q < Nat.pow 2 52 then ⟨UInt64.ofNat q⟩
    else if 2047 ≤ e + 1075 then infinity
    else ⟨UInt64.ofNat ((e + 1075).toNat * Nat.pow 2 52 + (q - Nat.pow 2 52))⟩

example : ofRatio 1 2 = ⟨0x3FE0000000000000⟩ := by decide
example : ofRatio (Nat.pow 2 53 + 1) 1 = ofNat (Nat.pow 2 53) := by decide

end Binary64

/-- The double nearest to a decimal. -/
def Decimal.Scientific.toBinary64 (d : Decimal.Scientific) : Binary64 :=
  if 0 ≤ d.exponent then Binary64.ofRatio (d.digits * Nat.pow 10 d.exponent.toNat) 1
  else Binary64.ofRatio d.digits (Nat.pow 10 (-d.exponent).toNat)

end NodeKit
