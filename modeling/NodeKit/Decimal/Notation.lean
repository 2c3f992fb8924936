import NodeKit.Decimal.Shortest

/-!
How a double is written once its shortest digits are known. A `Notation` says which magnitudes are
written positionally, whether a positive exponent carries `+`, whether an integral positional
number keeps a `.0`, and how a tie between two shortest decimals is broken. One renderer serves
every notation: positional text places the point among the digits, padding with zeros, and
scientific text writes one digit before the point and the exponent after an `e`.
-/

namespace NodeKit.Decimal

/-- The choices that tell one way of writing doubles from another. -/
structure Notation where
  /-- Positional text is used for magnitudes in `[10 ^ lo, 10 ^ hi)`; `none` means always. -/
  positional : Option (Int × Int)
  /-- A positive exponent is written with `+`. -/
  plusExponent : Bool
  /-- An integral number written positionally ends in `.0`. -/
  pointZero : Bool
  /-- How a tie between two shortest decimals is broken. -/
  tie : Tie

/-- `n` zeros. -/
def zeros (n : Nat) : String := String.ofList (List.replicate n '0')

/-- The digits `ds` with `point` of them before the decimal point (`point` may lie outside the
digits, which adds zeros). -/
def placePoint (ds : String) (point : Int) (pointZero : Bool) : String :=
  let n : Int := ds.length
  if point ≤ 0 then "0." ++ zeros (-point).toNat ++ ds
  else if n ≤ point then
    ds ++ zeros (point - n).toNat ++ (if pointZero then ".0" else "")
  else
    let cs := ds.toList
    String.ofList (cs.take point.toNat) ++ "." ++ String.ofList (cs.drop point.toNat)

/-- Digits `ds` read as `d.ddd` times `10 ^ power`. -/
def scientificText (ds : String) (power : Int) (plus : Bool) : String :=
  let cs := ds.toList
  let mantissa := match cs with
    | [] => "0"
    | [d] => String.singleton d
    | d :: rest => String.singleton d ++ "." ++ String.ofList rest
  let sign := if power < 0 then "-" else if plus then "+" else ""
  mantissa ++ "e" ++ sign ++ toString power.natAbs

/-- The text of a finite double in the notation `fmt`; infinities and NaN get the usual names. -/
def Notation.render (fmt : Notation) (x : Binary64) : String :=
  let sign := if x.negative then "-" else ""
  if !x.isFinite then
    if x.fraction ≠ 0 then "NaN" else sign ++ "inf"
  else if x.isZero then
    sign ++ (if fmt.pointZero then "0.0" else "0")
  else
    let d := shortest x fmt.tie
    let ds := toString d.digits
    -- the value lies in [10 ^ (point - 1), 10 ^ point)
    let point : Int := d.exponent + ds.length
    let positional := match fmt.positional with
      | none => true
      | some (lo, hi) => lo < point ∧ point ≤ hi
    if positional then sign ++ placePoint ds point fmt.pointZero
    else sign ++ scientificText ds (point - 1) fmt.plusExponent

end NodeKit.Decimal
