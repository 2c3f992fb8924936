import NodeKit.Json.Cursor

/-!
Reading JSON numbers, as the digits come. An integer stays an integer while it fits in 64 bits;
further digits only raise a decimal exponent. A number with a fraction or an exponent becomes a
double: its significand (at most 64 bits, later digits dropped) is scaled by one multiplication
or division by a power of ten in double arithmetic, after divisions by `1e308` when the exponent
is below `-308`. A product that overflows, or an exponent past `2 ^ 31 - 1` on a non-zero number,
is out of range; an exponent that small gives zero. `-0` is the double `-0.0`, and a negative
integer below `-2 ^ 63` is a double.
-/

namespace NodeKit.Json

/-- The largest 64-bit unsigned integer. -/
def maxU64 : Nat := Nat.pow 2 64 - 1

/-- The largest 32-bit signed integer. -/
def maxI32 : Int := Int.pow 2 31 - 1

/-- Clamps to the 32-bit signed range. -/
def clampI32 (i : Int) : Int := max (-Int.pow 2 31) (min maxI32 i)

/-- The doubles `10 ^ 0` to `10 ^ 308`, each rounded to nearest. -/
def powersOfTen : Array Float :=
  (Array.range 309).map fun k => (Binary64.ofNat (Nat.pow 10 k)).toFloat

/-- The double `1e308`. -/
def tenTo308 : Float := (Binary64.ofNat (Nat.pow 10 308)).toFloat

/-- `significand * 10 ^ exponent` in double arithmetic: one multiplication or division by a
power of ten up to `10 ^ 308`; beyond that, divisions by `1e308` first. A product that overflows
is out of range. The result is negated for a negative number. -/
def scaleByTen (negative : Bool) (significand : Nat) (exponent : Int) :
    Except SyntaxCode Binary64 :=
  let sign (f : Float) : Binary64 := if negative then (Binary64.ofFloat f).neg else .ofFloat f
  go (Binary64.ofNat significand).toFloat exponent (exponent.natAbs / 308 + 2)
    |>.map sign
where
  /-- Each step that cannot finish raises a negative exponent by 308. -/
  go (f : Float) (e : Int) : Nat → Except SyntaxCode Float
    | 0 => .ok f
    | fuel + 1 =>
      match powersOfTen[e.natAbs]? with
      | some p =>
        if 0 ≤ e then
          let g := f * p
          if g.isInf then .error .numberOutOfRange else .ok g
        else .ok (f / p)
      | none =>
        if f == 0 then .ok f
        else if 0 ≤ e then .error .numberOutOfRange
        else go (f / tenTo308) (e + 308) fuel

/-- The double for `significand * 10 ^ exponent`, a fault pointing at `offset`. -/
def doubleAt (negative : Bool) (significand : Nat) (exponent : Int) (offset : Nat)
    (path : Path) (c : Cursor) : Reading Number :=
  match scaleByTen negative significand exponent with
  | .ok x => .ok (.double x, c)
  | .error code => fault code offset path

/-- Skips digits. -/
def skipDigits : List Char → Nat → Cursor
  | ch :: r, off => if (digitValue? ch).isSome then skipDigits r (off + 1) else ⟨ch :: r, off⟩
  | [], off => ⟨[], off⟩

/-- The digits of an exponent after the first, with an overflow past `2 ^ 31 - 1` ending the
reading: then the value is out of range if it would be large, and zero if it would be small. -/
def exponentDigits (negative positiveExp : Bool) (significand : Nat) (start : Int) (path : Path) :
    Int → List Char → Nat → Reading Number
  | exp, ch :: r, off =>
    match digitValue? ch with
    | some d =>
      if maxI32 < exp * 10 + d then
        if significand ≠ 0 ∧ positiveExp then fault .numberOutOfRange (off + 1) path
        else
          let zero := if negative then Binary64.zero.neg else Binary64.zero
          .ok (.double zero, skipDigits r (off + 1))
      else exponentDigits negative positiveExp significand start path (exp * 10 + d) r (off + 1)
    | none =>
      let final := clampI32 (if positiveExp then start + exp else start - exp)
      doubleAt negative significand final off path ⟨ch :: r, off⟩
  | exp, [], off =>
    let final := clampI32 (if positiveExp then start + exp else start - exp)
    doubleAt negative significand final off path ⟨[], off⟩

/-- An exponent, from its `e` on. -/
def readExponent (negative : Bool) (significand : Nat) (start : Int) (path : Path) (c : Cursor) :
    Reading Number :=
  let afterE : Cursor := ⟨c.rest.drop 1, c.offset + 1⟩
  let (positiveExp, c) : Bool × Cursor := match afterE.rest with
    | '+' :: r => (true, ⟨r, afterE.offset + 1⟩)
    | '-' :: r => (false, ⟨r, afterE.offset + 1⟩)
    | _ => (true, afterE)
  match c.rest with
  | [] => fault .eofValue c.offset path
  | ch :: r => match digitValue? ch with
    | some d => exponentDigits negative positiveExp significand start path d r (c.offset + 1)
    | none => fault .invalidNumber (c.offset + 1) path

/-- Whether the next character starts an exponent. -/
def startsExponent (rest : List Char) : Bool :=
  match rest with
  | 'e' :: _ | 'E' :: _ => true
  | _ => false

/-- Fraction digits after the significand has no room left: they are skipped. -/
def fractionOverflow (negative : Bool) (significand : Nat) (exp : Int) (path : Path)
    (c : Cursor) : Reading Number :=
  let c := skipDigits c.rest c.offset
  if startsExponent c.rest then readExponent negative significand exp path c
  else doubleAt negative significand exp c.offset path c

/-- The digits of a fraction, each lowering the exponent by one. -/
def fractionDigits (negative : Bool) (before : Int) (path : Path) :
    Nat → Int → List Char → Nat → Reading Number
  | sig, after, ch :: r, off =>
    match digitValue? ch with
    | some d =>
      if maxU64 < sig * 10 + d then
        fractionOverflow negative sig (before + after) path ⟨ch :: r, off⟩
      else fractionDigits negative before path (sig * 10 + d) (after - 1) r (off + 1)
    | none => fractionEnd negative before path sig after ⟨ch :: r, off⟩
  | sig, after, [], off => fractionEnd negative before path sig after ⟨[], off⟩
where
  /-- After the fraction: at least one digit is needed, then an exponent may follow. -/
  fractionEnd (negative : Bool) (before : Int) (path : Path) (sig : Nat) (after : Int)
      (c : Cursor) : Reading Number :=
    if after = 0 then
      if c.rest.isEmpty then fault .eofValue c.ahead path else fault .invalidNumber c.ahead path
    else if startsExponent c.rest then readExponent negative sig (before + after) path c
    else doubleAt negative sig (before + after) c.offset path c

/-- A fraction, from its point on. -/
def readFraction (negative : Bool) (significand : Nat) (before : Int) (path : Path) (c : Cursor) :
    Reading Number :=
  fractionDigits negative before path significand 0 (c.rest.drop 1) (c.offset + 1)

/-- What follows the integer digits: a fraction, an exponent, or nothing. Without either, a
negative integer that fits in 64 signed bits stays an integer, and `-0` is the double `-0.0`. -/
def numberTail (negative : Bool) (significand : Nat) (path : Path) (c : Cursor) :
    Reading Number :=
  match c.rest with
  | '.' :: _ => readFraction negative significand 0 path c
  | 'e' :: _ | 'E' :: _ => readExponent negative significand 0 path c
  | _ =>
    if !negative then .ok (.nat significand, c)
    else if 0 < significand ∧ significand ≤ Nat.pow 2 63 then
      .ok (.negInt (-(significand : Int)), c)
    else .ok (.double (Binary64.ofNat significand).neg, c)

/-- Integer digits past 64 bits: each only raises the exponent. -/
def longDigits (negative : Bool) (significand : Nat) (path : Path) :
    Int → List Char → Nat → Reading Number
  | exp, ch :: r, off =>
    if (digitValue? ch).isSome then longDigits negative significand path (exp + 1) r (off + 1)
    else
      let c : Cursor := ⟨ch :: r, off⟩
      if ch = '.' then readFraction negative significand exp path c
      else if ch = 'e' ∨ ch = 'E' then readExponent negative significand exp path c
      else doubleAt negative significand exp off path c
  | exp, [], off => doubleAt negative significand exp off path ⟨[], off⟩

/-- Integer digits after the first, while they fit in 64 bits. -/
def integerDigits (negative : Bool) (path : Path) : Nat → List Char → Nat → Reading Number
  | sig, ch :: r, off =>
    match digitValue? ch with
    | some d =>
      if maxU64 < sig * 10 + d then longDigits negative sig path 0 (ch :: r) off
      else integerDigits negative path (sig * 10 + d) r (off + 1)
    | none => numberTail negative sig path ⟨ch :: r, off⟩
  | sig, [], off => numberTail negative sig path ⟨[], off⟩

/-- A number after its sign: one leading zero at most, then as `integerDigits` says. -/
def readNumber (negative : Bool) (path : Path) (c : Cursor) : Reading Number :=
  match c.rest with
  | [] => fault .eofValue c.offset path
  | '0' :: r =>
    let c' : Cursor := ⟨r, c.offset + 1⟩
    match r with
    | ch :: _ => if (digitValue? ch).isSome then fault .invalidNumber c'.ahead path
      else numberTail negative 0 path c'
    | [] => numberTail negative 0 path c'
  | ch :: r => match digitValue? ch with
    | some d => integerDigits negative path d r (c.offset + 1)
    | none => fault .invalidNumber (c.offset + 1) path

end NodeKit.Json
