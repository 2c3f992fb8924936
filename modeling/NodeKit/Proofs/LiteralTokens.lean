import NodeKit.Rust.Evaluate
import NodeKit.Rust.Literal
import NodeKit.Json.Write
import Mathlib.Data.List.Forall2

/-!
Reading back the tokens of a literal, one kind of token at a time. A quoted string reads back as
the string: each escape stands for the character it replaced, and a `\u{…}` escape never needs
more than the six hex digits the reader allows. A number token is the longest run of number
characters, so a number literal read up to a delimiter is the whole literal. Inside `json!`, the
decimal text of an integer reads back exactly when the integer fits an `i32`, and a float text
gives the double it reads as. The fixed parts of the expressions (`String::from(`, `vec![`, the
`serde_json` paths) are skipped whatever follows them, which pins down each branch of the
expression reader.
-/

namespace NodeKit.Rust

/-- Input that cannot continue the token before it: empty, or starting with a character that
belongs to neither a word nor a number. -/
def Delimited (rest : List Char) : Prop :=
  ∀ c ∈ rest.head?, isIdentRest c = false ∧ isNumberChar c = false

theorem delimited_nil : Delimited [] := by
  intro c hc
  cases hc

theorem delimited_punct : ∀ c ∈ [',', ')', ']', '}'], ∀ rest, Delimited (c :: rest) := by
  intro c hc rest d hd
  cases hd
  simp only [List.mem_cons, List.not_mem_nil, or_false] at hc
  rcases hc with rfl | rfl | rfl | rfl <;> exact ⟨rfl, rfl⟩

/-! ### Blanks and fixed text -/

theorem dropWhile_isBlank_cons {c : Char} (hc : isBlank c = false) (cs : List Char) :
    (c :: cs).dropWhile isBlank = c :: cs := by
  simp [hc]

theorem skipText_cons_append {c : Char} (hc : isBlank c = false) (t rest : List Char) :
    skipText (c :: t) (c :: t ++ rest) = some rest := by
  simp [skipText, hc, List.isPrefixOf_iff_prefix]

theorem skipText_char {c : Char} (hc : isBlank c = false) (cs : List Char) :
    skipText [c] (c :: cs) = some cs :=
  skipText_cons_append hc [] cs

theorem skipWord_cons_append {c : Char} (hc : isBlank c = false) (w : List Char)
    {rest : List Char} (hrest : Delimited rest) :
    skipWord (c :: w) (c :: w ++ rest) = some rest := by
  rw [skipWord, skipText_cons_append hc]
  cases rest with
  | nil => rfl
  | cons d rest => simp [(hrest d rfl).1]

/-! ### String literals -/

theorem hexValue_digitChar : ∀ d, d < 16 → hexValue d.digitChar = some d := by
  decide

theorem digitChar_ne_brace : ∀ d, d < 16 → d.digitChar ≠ '}' := by
  decide

theorem toNat_lt_char_bound (c : Char) : c.toNat < 0x110000 := by
  have h := c.valid
  simp only [UInt32.isValidChar, Nat.isValidChar] at h
  have hc : c.val.toNat = c.toNat := rfl
  omega

theorem stringBody_unicode_digitChar {d : Nat} (hd : d < 16) {v k : Nat} (hk : k < 6)
    (rest : List Char) :
    stringBody (.unicode v k) (d.digitChar :: rest) =
      stringBody (.unicode (16 * v + d) (k + 1)) rest := by
  simp [stringBody, hexValue_digitChar d hd, digitChar_ne_brace d hd, hk]

/-- The hex digits of `n` inside `\u{…}` add up to `n`. -/
theorem stringBody_unicode_toDigits (n : Nat) {k : Nat}
    (hk : k + (Nat.toDigits 16 n).length ≤ 6) (rest : List Char) :
    stringBody (.unicode 0 k) (Nat.toDigits 16 n ++ rest) =
      stringBody (.unicode n (k + (Nat.toDigits 16 n).length)) rest := by
  -- the digits are read from the most significant one: peel the last digit off `n`
  induction n using Nat.base_induction 16 (by decide) generalizing rest with
  | single m hm =>
    rw [Nat.toDigits_of_lt_base hm] at hk ⊢
    simp only [List.length_singleton] at hk
    simpa using stringBody_unicode_digitChar hm (v := 0) (by omega) rest
  | digit m d hd hm ih =>
    rw [← Nat.toDigits_append_toDigits (by decide) hm hd] at hk ⊢
    rw [Nat.toDigits_of_lt_base hd] at hk ⊢
    simp only [List.length_append, List.length_singleton] at hk
    rw [List.append_assoc, ih (by omega), List.singleton_append,
      stringBody_unicode_digitChar hd (by omega), List.length_append, List.length_singleton,
      Nat.add_assoc]

theorem stringBody_unicodeEscape (c : Char) (rest : List Char) :
    stringBody .text ((unicodeEscape c).toList ++ rest) = consChar c (stringBody .text rest) := by
  have hlen : (Nat.toDigits 16 c.toNat).length ≤ 6 :=
    (Nat.length_toDigits_le_iff (by decide) (by decide)).mpr
      (Nat.lt_of_lt_of_le (toNat_lt_char_bound c) (by decide))
  have hpos := Nat.length_toDigits_pos (b := 16) (n := c.toNat)
  have hdigits := stringBody_unicode_toDigits c.toNat (k := 0) (by omega) ('}' :: rest)
  have hfixed : "\\u".toList = ['\\', 'u'] ∧ "\x7b".toList = ['{'] ∧ "\x7d".toList = ['}'] :=
    ⟨rfl, rfl, rfl⟩
  -- `\u{` opens the escape and `}` closes it, with the value read so far
  have hopen : ∀ cs, stringBody .text ('\\' :: 'u' :: '{' :: cs) = stringBody (.unicode 0 0) cs :=
    fun _ => rfl
  have hclose : ∀ v k, stringBody (.unicode v k) ('}' :: rest) =
      if 0 < k ∧ (Char.ofNat v).toNat = v then consChar (Char.ofNat v) (stringBody .text rest)
      else none := fun _ _ => rfl
  simp only [unicodeEscape, String.toList_append, String.toList_ofList, List.append_assoc,
    hfixed, List.cons_append, List.nil_append]
  rw [hopen, hdigits, hclose, Char.ofNat_toNat, if_pos ⟨by omega, rfl⟩]

/-- Each escape reads back as the character it stands for. -/
theorem stringBody_escapeChar (c : Char) (rest : List Char) :
    stringBody .text ((escapeChar c).toList ++ rest) = consChar c (stringBody .text rest) := by
  unfold escapeChar
  -- the six short escapes are read by one step each
  split
  · rfl
  · rfl
  · rfl
  · rfl
  · rfl
  · rfl
  · split
    · exact stringBody_unicodeEscape c rest
    · split
      · -- a character that stands as it is is neither a quote nor a backslash
        simp [stringBody]
      · exact stringBody_unicodeEscape c rest

theorem stringBody_escaped (cs rest : List Char) :
    stringBody .text ((String.join (cs.map escapeChar)).toList ++ '"' :: rest) =
      some (cs, rest) := by
  induction cs with
  | nil => rfl
  | cons c cs ih =>
    rw [List.map_cons, String.join_cons, String.toList_append, List.append_assoc,
      stringBody_escapeChar, ih]
    rfl

theorem quote_toList (s : String) :
    (quote s).toList = '"' :: ((String.join (s.toList.map escapeChar)).toList ++ ['"']) := by
  simp [quote, String.toList_append]

/-- A quoted string reads back as the string, whatever follows it. -/
theorem stringLiteral_quote (s : String) (rest : List Char) :
    stringLiteral ((quote s).toList ++ rest) = some (s, rest) := by
  have hbody := stringBody_escaped s.toList rest
  rw [quote_toList, List.cons_append, List.append_assoc, List.singleton_append, stringLiteral,
    dropWhile_isBlank_cons rfl]
  simp only [hbody, Option.map_some, String.ofList_toList]

/-! ### Number tokens -/

theorem isNumberChar_of_isDigit {c : Char} (h : c.isDigit = true) : isNumberChar c = true := by
  simp [isNumberChar, h]

theorem isBlank_of_isNumberChar {c : Char} (h : isNumberChar c = true) : isBlank c = false := by
  cases hb : isBlank c with
  | false => rfl
  | true =>
    simp only [isBlank, Bool.or_eq_true, beq_iff_eq] at hb
    rcases hb with ((rfl | rfl) | rfl) | rfl <;> simp_all [isNumberChar]

theorem takeWhile_dropWhile_append {α : Type} {p : α → Bool} {s t : List α}
    (hs : ∀ x ∈ s, p x = true) (ht : ∀ y ∈ t.head?, p y = false) :
    (s ++ t).takeWhile p = s ∧ (s ++ t).dropWhile p = t := by
  induction s with
  | nil =>
    cases t with
    | nil => simp
    | cons y t => simp [ht y rfl]
  | cons x xs ih =>
    have hx := hs x (by simp)
    have ⟨htake, hdrop⟩ := ih fun x hx => hs x (by simp [hx])
    simp [hx, htake, hdrop]

theorem mem_takeWhile_isDigit {c : Char} {cs : List Char} (h : c ∈ cs.takeWhile Char.isDigit) :
    c.isDigit = true :=
  List.all_eq_true.mp List.all_takeWhile c h

theorem splitMinus_cases (cs : List Char) :
    (∃ rest, cs = '-' :: rest ∧ splitMinus cs = (true, rest)) ∨ splitMinus cs = (false, cs) := by
  unfold splitMinus
  split
  · exact .inl ⟨_, rfl, rfl⟩
  · exact .inr rfl

theorem mem_splitSign {c : Char} {cs : List Char} (h : c ∈ cs) :
    c = '+' ∨ c = '-' ∨ c ∈ (splitSign cs).2 := by
  unfold splitSign
  split
  · rcases List.mem_cons.mp h with rfl | h
    · exact .inl rfl
    · exact .inr (.inr h)
  · rcases List.mem_cons.mp h with rfl | h
    · exact .inr (.inl rfl)
    · exact .inr (.inr h)
  · exact .inr (.inr h)

theorem mem_splitFraction {c : Char} {cs : List Char} (h : c ∈ cs) :
    c = '.' ∨ c.isDigit = true ∨ c ∈ (splitFraction cs).2.2 := by
  unfold splitFraction
  split
  · rename_i rest
    rcases List.mem_cons.mp h with rfl | h
    · exact .inl rfl
    · rw [← List.takeWhile_append_dropWhile (p := Char.isDigit) (l := rest), List.mem_append] at h
      rcases h with h | h
      · exact .inr (.inl (mem_takeWhile_isDigit h))
      · exact .inr (.inr h)
  · exact .inr (.inr h)

theorem isNumberChar_of_readExponent {cs : List Char} {e : Int} (h : readExponent cs = some e) :
    ∀ c ∈ cs, isNumberChar c = true := by
  intro c hc
  unfold readExponent at h
  dsimp only at h
  by_cases hds : (splitSign cs).2 ≠ [] ∧ (splitSign cs).2.all Char.isDigit = true
  · rcases mem_splitSign hc with rfl | rfl | hc
    · rfl
    · rfl
    · exact isNumberChar_of_isDigit (List.all_eq_true.mp hds.2 c hc)
  · rw [if_neg hds] at h
    cases h

theorem isNumberChar_of_readExponentPart {cs : List Char} {e : Option Int}
    (h : readExponentPart cs = some e) : ∀ c ∈ cs, isNumberChar c = true := by
  unfold readExponentPart at h
  split at h
  · simp
  · obtain ⟨e', he', -⟩ := Option.map_eq_some_iff.mp h
    intro c hc
    rcases List.mem_cons.mp hc with rfl | hc
    · rfl
    · exact isNumberChar_of_readExponent he' c hc
  · obtain ⟨e', he', -⟩ := Option.map_eq_some_iff.mp h
    intro c hc
    rcases List.mem_cons.mp hc with rfl | hc
    · rfl
    · exact isNumberChar_of_readExponent he' c hc
  · cases h

/-- Past its minus, a number literal begins with a digit, and the digits, point and exponent that
`readNumber` takes are number characters. -/
theorem unsigned_chars {u : List Char} {e : Option Int} (hwhole : u.takeWhile Char.isDigit ≠ [])
    (he : readExponentPart (splitFraction (u.dropWhile Char.isDigit)).2.2 = some e) :
    (∃ d u', u = d :: u' ∧ d.isDigit = true) ∧ ∀ c ∈ u, isNumberChar c = true := by
  constructor
  · cases u with
    | nil => simp at hwhole
    | cons d u' =>
      refine ⟨d, u', rfl, ?_⟩
      cases hd : d.isDigit
      · simp [hd] at hwhole
      · rfl
  · intro c hc
    rw [← List.takeWhile_append_dropWhile (p := Char.isDigit) (l := u), List.mem_append] at hc
    rcases hc with hc | hc
    · exact isNumberChar_of_isDigit (mem_takeWhile_isDigit hc)
    · rcases mem_splitFraction hc with rfl | hc | hc
      · rfl
      · exact isNumberChar_of_isDigit hc
      · exact isNumberChar_of_readExponentPart he c hc

/-- A number literal is made of number characters and begins with a minus or a digit. -/
theorem readNumber_chars {t : List Char} {lit : NumberLiteral} (h : readNumber t = some lit) :
    (∃ c t', t = c :: t' ∧ (c = '-' ∨ c.isDigit = true)) ∧ ∀ c ∈ t, isNumberChar c = true := by
  unfold readNumber at h
  dsimp only at h
  split at h
  · cases h
  · rename_i hwhole
    obtain ⟨e, he, -⟩ := Option.map_eq_some_iff.mp h
    obtain ⟨⟨d, u, hu, hd⟩, hall⟩ := unsigned_chars hwhole he
    rcases splitMinus_cases t with ⟨rest, rfl, hminus⟩ | hplain
    · rw [hminus] at hall
      refine ⟨⟨'-', rest, rfl, .inl rfl⟩, fun c hc => ?_⟩
      rcases List.mem_cons.mp hc with rfl | hc
      · rfl
      · exact hall c hc
    · rw [hplain] at hu hall
      exact ⟨⟨d, u, hu, .inr hd⟩, hall⟩

/-- A number literal followed by a delimiter is read as one token. -/
theorem numberToken_append {t rest : List Char} {lit : NumberLiteral}
    (ht : readNumber t = some lit) (hrest : Delimited rest) :
    numberToken (t ++ rest) = some (t, rest) := by
  obtain ⟨⟨c, t', rfl, hc⟩, hall⟩ := readNumber_chars ht
  have hnum : isNumberChar c = true := hall c (by simp)
  have ⟨htake, hdrop⟩ := takeWhile_dropWhile_append (p := isNumberChar) (s := t') (t := rest)
    (fun x hx => hall x (by simp [hx])) (fun y hy => (hrest y hy).2)
  simp [numberToken, isBlank_of_isNumberChar hnum, hc, htake, hdrop]

/-- A run of digits, after a minus or not, reads as an integer literal. -/
theorem readNumber_digits (negative : Bool) {ds : List Char} (hne : ds ≠ [])
    (hds : ∀ c ∈ ds, c.isDigit = true) :
    readNumber ((if negative then ['-'] else []) ++ ds) =
      some ⟨negative, ⟨digitsValue ds, 0⟩, false⟩ := by
  have ⟨htake, hdrop⟩ := takeWhile_dropWhile_append (p := Char.isDigit) (t := []) hds (by simp)
  rw [List.append_nil] at htake hdrop
  have hminus : splitMinus ((if negative then ['-'] else []) ++ ds) = (negative, ds) := by
    cases negative with
    | true => rfl
    | false =>
      obtain ⟨d, ds', rfl⟩ := List.exists_cons_of_ne_nil hne
      have hd : d ≠ '-' := by
        rintro rfl
        cases hds '-' (List.mem_cons_self ..)
      simp [splitMinus, hd]
  simp [readNumber, hminus, htake, hdrop, hne, splitFraction, readExponentPart]

theorem digitsValue_toDigits (n : Nat) : digitsValue (Nat.toDigits 10 n) = n :=
  Nat.ofDigitChars_toDigits (by decide) (by decide)

theorem isDigit_of_mem_toDigits (n : Nat) : ∀ c ∈ Nat.toDigits 10 n, c.isDigit = true :=
  fun _ hc => Nat.isDigit_of_mem_toDigits (by decide) (by decide) hc

theorem readNumber_toDigits (n : Nat) :
    readNumber (Nat.toDigits 10 n) = some ⟨false, ⟨n, 0⟩, false⟩ := by
  have h := readNumber_digits false (Nat.toDigits_ne_nil (n := n)) (isDigit_of_mem_toDigits n)
  rwa [digitsValue_toDigits] at h

theorem readNumber_minus_toDigits (n : Nat) :
    readNumber ('-' :: Nat.toDigits 10 n) = some ⟨true, ⟨n, 0⟩, false⟩ := by
  have h := readNumber_digits true (Nat.toDigits_ne_nil (n := n)) (isDigit_of_mem_toDigits n)
  rwa [digitsValue_toDigits] at h

theorem numberText_nat_toList (n : Nat) :
    (Json.numberText (.nat n)).toList = Nat.toDigits 10 n :=
  Nat.toList_repr

theorem numberText_negSucc_toList (m : Nat) :
    (Json.numberText (.negInt (Int.negSucc m))).toList = '-' :: Nat.toDigits 10 (m + 1) := by
  simp [Json.numberText, toString, Int.repr, Nat.toList_repr]

/-- Inside `json!`, a natural number's text reads back exactly when it fits an `i32`. -/
theorem jsonNumber_nat (n : Nat) :
    jsonNumber (Json.numberText (.nat n)).toList =
      if n < Nat.pow 2 31 then some (.num (.nat n)) else none := by
  rw [numberText_nat_toList, jsonNumber, readNumber_toDigits]
  simp only [NumberLiteral.toI32, Bool.false_eq_true, ↓reduceIte]
  split <;> rfl

/-- Inside `json!`, a negative integer's text reads back exactly when it fits an `i32`. -/
theorem jsonNumber_negInt {i : Int} (hi : i < 0) :
    jsonNumber (Json.numberText (.negInt i)).toList =
      if -(Nat.pow 2 31 : Int) ≤ i then some (.num (.negInt i)) else none := by
  obtain ⟨m, rfl⟩ : ∃ m, i = Int.negSucc m := by
    cases i with
    | ofNat n => exact absurd hi (by simp)
    | negSucc m => exact ⟨m, rfl⟩
  rw [numberText_negSucc_toList, jsonNumber, readNumber_minus_toDigits]
  simp only [NumberLiteral.toI32, Nat.add_one_ne_zero, ↓reduceIte, Bool.false_eq_true]
  have hneg : -((m + 1 : Nat) : Int) = Int.negSucc m := rfl
  have hfit : m + 1 ≤ Nat.pow 2 31 ↔ -(Nat.pow 2 31 : Int) ≤ Int.negSucc m := by
    rw [Int.negSucc_eq]
    omega
  by_cases h : m + 1 ≤ Nat.pow 2 31
  · rw [if_pos h, if_pos (hfit.mp h), hneg]
    rfl
  · rw [if_neg h, if_neg (mt hfit.mpr h)]
    rfl

theorem readNumber_of_readFloat {t : List Char} {x : Binary64} (h : readFloat t = some x) :
    ∃ lit, readNumber t = some lit := by
  unfold readFloat at h
  split at h
  · exact ⟨_, ‹_›⟩
  · cases h

theorem isFinite_of_readFloat {t : List Char} {x : Binary64} (h : readFloat t = some x) :
    x.isFinite = true := by
  unfold readFloat at h
  split at h
  · split at h
    · rename_i hfloat
      cases h
      exact hfloat.2
    · cases h
  · cases h

/-- A float text that reads as a double gives that double inside `json!` too. -/
theorem jsonNumber_of_readFloat {t : List Char} {x : Binary64} (h : readFloat t = some x) :
    jsonNumber t = some (.num (.double x)) := by
  unfold readFloat at h
  unfold jsonNumber
  split at h
  · split at h
    · rename_i hfloat
      cases h
      simp [hfloat.1, hfloat.2]
    · cases h
  · cases h

theorem numberHead_facts {c : Char} (hc : c = '-' ∨ c.isDigit = true) :
    isBlank c = false ∧ c ≠ ']' ∧ c ≠ '}' := by
  rcases hc with rfl | hc
  · decide
  · refine ⟨isBlank_of_isNumberChar (isNumberChar_of_isDigit hc), ?_, ?_⟩ <;>
      (rintro rfl; cases hc)

/-! ### The branches of the readers -/

/-- A `json!` token that begins like a number is read as one. -/
theorem jsonValue_of_numberHead {c : Char} (hc : c = '-' ∨ c.isDigit = true) (fuel : Nat)
    (cs : List Char) :
    jsonValue (fuel + 1) (c :: cs) =
      (numberToken (c :: cs)).bind fun r => (jsonNumber r.1).map (·, r.2) := by
  have hb : isBlank c = false := (numberHead_facts hc).1
  rw [jsonValue, dropWhile_isBlank_cons hb]
  split <;> rename_i heq <;> cases heq <;> simp_all

/-- An expression that begins like a number is read as a float literal. -/
theorem expr_of_numberHead {c : Char} (hc : c = '-' ∨ c.isDigit = true) (fuel : Nat)
    (cs : List Char) :
    expr (fuel + 1) (c :: cs) =
      (numberToken (c :: cs)).bind fun r => (readFloat r.1).map (.f64 ·, r.2) := by
  have hb : isBlank c = false := (numberHead_facts hc).1
  rw [expr, dropWhile_isBlank_cons hb]
  split <;> rename_i heq <;> cases heq <;> simp_all

/-- A number literal followed by a delimiter is one `json!` token. -/
theorem jsonValue_number {t : List Char} {lit : NumberLiteral} (hlit : readNumber t = some lit)
    {j : Json} (hj : jsonNumber t = some j) (fuel : Nat) {rest : List Char}
    (hrest : Delimited rest) : jsonValue (fuel + 1) (t ++ rest) = some (j, rest) := by
  obtain ⟨⟨c, t', rfl, hc⟩, -⟩ := readNumber_chars hlit
  rw [List.cons_append, jsonValue_of_numberHead hc, ← List.cons_append,
    numberToken_append hlit hrest]
  simp [hj]

/-- A float literal followed by a delimiter is an expression of type `f64`. -/
theorem expr_float {t : List Char} {x : Binary64} (hx : readFloat t = some x) (fuel : Nat)
    {rest : List Char} (hrest : Delimited rest) :
    expr (fuel + 1) (t ++ rest) = some (.f64 x, rest) := by
  obtain ⟨lit, hlit⟩ := readNumber_of_readFloat hx
  obtain ⟨⟨c, t', rfl, hc⟩, -⟩ := readNumber_chars hlit
  rw [List.cons_append, expr_of_numberHead hc, ← List.cons_append, numberToken_append hlit hrest]
  simp [hx]

/-! The fixed text of each form is skipped by computation alone, so the branches below hold by
`rfl`; only a word needs the delimiter after it. -/

theorem jsonValue_arr (fuel : Nat) (cs : List Char) :
    jsonValue (fuel + 1) ('[' :: cs) = (jsonItems fuel cs).map fun r => (.arr r.1, r.2) :=
  rfl

theorem jsonValue_obj (fuel : Nat) (cs : List Char) :
    jsonValue (fuel + 1) ('{' :: cs) =
      (jsonEntries fuel cs).map fun r => (.obj (insertAll r.1), r.2) :=
  rfl

theorem jsonValue_quote (s : String) (fuel : Nat) (rest : List Char) :
    jsonValue (fuel + 1) ((quote s).toList ++ rest) = some (.str s, rest) := by
  have hstep : ∀ cs, jsonValue (fuel + 1) ('"' :: cs) =
      (stringLiteral ('"' :: cs)).map fun r => (.str r.1, r.2) := fun _ => rfl
  rw [quote_toList, List.cons_append, hstep, ← List.cons_append, ← quote_toList,
    stringLiteral_quote]
  rfl

theorem jsonValue_null (fuel : Nat) {rest : List Char} (hrest : Delimited rest) :
    jsonValue (fuel + 1) ("null".toList ++ rest) = some (.null, rest) := by
  have hstep : jsonValue (fuel + 1) ("null".toList ++ rest) =
      (skipWord "null".toList ("null".toList ++ rest)).map (.null, ·) := rfl
  have htext : "null".toList = ['n', 'u', 'l', 'l'] := rfl
  rw [hstep, htext, skipWord_cons_append rfl _ hrest]
  rfl

/-- `true` and `false` are skipped as words, up to a delimiter. -/
theorem skipWord_bool (b : Bool) {rest : List Char} (hrest : Delimited rest) :
    skipWord (if b then "true" else "false").toList
      ((if b then "true" else "false").toList ++ rest) = some rest := by
  cases b with
  | true => exact skipWord_cons_append (c := 't') rfl ['r', 'u', 'e'] hrest
  | false => exact skipWord_cons_append (c := 'f') rfl ['a', 'l', 's', 'e'] hrest

theorem jsonValue_bool (b : Bool) (fuel : Nat) {rest : List Char} (hrest : Delimited rest) :
    jsonValue (fuel + 1) ((if b then "true" else "false").toList ++ rest) =
      some (.bool b, rest) := by
  have hstep : jsonValue (fuel + 1) ((if b then "true" else "false").toList ++ rest) =
      (skipWord (if b then "true" else "false").toList
        ((if b then "true" else "false").toList ++ rest)).map (.bool b, ·) := by
    cases b <;> rfl
  rw [hstep, skipWord_bool b hrest]
  rfl

theorem expr_stringFrom (fuel : Nat) (cs : List Char) :
    expr (fuel + 1) ("String::from(".toList ++ cs) =
      (stringLiteral cs).bind fun s => (skipText [')'] s.2).map (.string s.1, ·) :=
  rfl

theorem expr_vecNew (fuel : Nat) (cs : List Char) :
    expr (fuel + 1) ("Vec::new()".toList ++ cs) = some (.vec [], cs) :=
  rfl

theorem expr_vecMacro (fuel : Nat) (cs : List Char) :
    expr (fuel + 1) ("vec![".toList ++ cs) =
      (exprItems fuel cs).map fun s => (.vec s.1, s.2) :=
  rfl

theorem expr_jsonMacro (fuel : Nat) (cs : List Char) :
    expr (fuel + 1) ("::serde_json::json!(".toList ++ cs) =
      (jsonValue fuel cs).bind fun s => (skipText [')'] s.2).map (.json s.1, ·) :=
  rfl

theorem expr_mapNew (fuel : Nat) (cs : List Char) :
    expr (fuel + 1) ("::serde_json::Map::new()".toList ++ cs) = some (.map [], cs) :=
  rfl

theorem expr_mapFromIter (fuel : Nat) (cs : List Char) :
    expr (fuel + 1) ("::serde_json::Map::from_iter([".toList ++ cs) =
      (mapPairs fuel cs).bind fun s => (skipText [')'] s.2).map (.map (insertAll s.1), ·) :=
  rfl

theorem expr_bool (b : Bool) (fuel : Nat) {rest : List Char} (hrest : Delimited rest) :
    expr (fuel + 1) ((if b then "true" else "false").toList ++ rest) = some (.bool b, rest) := by
  have hstep : expr (fuel + 1) ((if b then "true" else "false").toList ++ rest) =
      (skipWord (if b then "true" else "false").toList
        ((if b then "true" else "false").toList ++ rest)).map (.bool b, ·) := by
    cases b <;> rfl
  rw [hstep, skipWord_bool b hrest]
  rfl

/-! ### Comma-separated lists

Every list reader is `listOf` with its own item reader, so the steps of reading a list are
proved once here.
-/

section Lists

variable {α : Type} {close : Char} {item : List Char → Option (α × List Char)}
  {more : List Char → Option (List α × List Char)}

theorem listOf_blank_cons {c : Char} (hc : isBlank c = true) (cs : List Char) :
    listOf close item more (c :: cs) = listOf close item more cs := by
  simp [listOf, hc]

theorem listOf_close (hclose : isBlank close = false) (cs : List Char) :
    listOf close item more (close :: cs) = some ([], cs) := by
  simp [listOf, hclose]

/-- A list that does not begin with its closing character begins with an item. -/
theorem listOf_item {c : Char} (hb : isBlank c = false) (hc : c ≠ close) (cs : List Char) :
    listOf close item more (c :: cs) =
      (item (c :: cs)).bind fun r => listRest close more r.1 r.2 := by
  simp [listOf, hb, hc]

theorem listRest_comma (x : α) (cs : List Char) :
    listRest close more x (',' :: cs) = (more cs).map fun s => (x :: s.1, s.2) := by
  simp [listRest, dropWhile_isBlank_cons (c := ',') rfl]

theorem listRest_close (hclose : isBlank close = false) (hcomma : close ≠ ',') (x : α)
    (cs : List Char) : listRest close more x (close :: cs) = some ([x], cs) := by
  simp only [listRest, dropWhile_isBlank_cons hclose]
  split <;> simp_all

/-- A list of one item, when the item is read up to the closing character. -/
theorem listOf_one {t rest : List Char} {x : α}
    (ht : ∃ c cs, t = c :: cs ∧ isBlank c = false ∧ c ≠ close) (hclose : isBlank close = false)
    (hcomma : close ≠ ',') (hitem : item (t ++ close :: rest) = some (x, close :: rest)) :
    listOf close item more (t ++ close :: rest) = some ([x], rest) := by
  obtain ⟨c, cs, rfl, hb, hc⟩ := ht
  rw [List.cons_append, listOf_item hb hc, ← List.cons_append, hitem, Option.bind_some,
    listRest_close hclose hcomma]

/-- A list whose first item is followed by a comma: that item, then the items `more` reads. -/
theorem listOf_cons {t rest : List Char} {x : α}
    (ht : ∃ c cs, t = c :: cs ∧ isBlank c = false ∧ c ≠ close)
    (hitem : item (t ++ ',' :: rest) = some (x, ',' :: rest)) :
    listOf close item more (t ++ ',' :: rest) = (more rest).map fun s => (x :: s.1, s.2) := by
  obtain ⟨c, cs, rfl, hb, hc⟩ := ht
  rw [List.cons_append, listOf_item hb hc, ← List.cons_append, hitem, Option.bind_some,
    listRest_comma]

end Lists

/-- A reader of `]`-closed lists, by fuel, reads back texts joined by `, ` as the values they
stand for in `R`: each text begins an item, and reads back as its value, up to a delimiter, with
more fuel than its length. Each item costs the list reader one unit of fuel. -/
theorem listOf_intercalate {α : Type} {L : Nat → List Char → Option (List α × List Char)}
    {item : Nat → List Char → Option (α × List Char)} {R : String → α → Prop}
    (hL : ∀ fuel cs, L (fuel + 1) cs = listOf ']' (item fuel) (L fuel) cs)
    (hhead : ∀ t x, R t x → ∃ c cs, t.toList = c :: cs ∧ isBlank c = false ∧ c ≠ ']')
    (hitem : ∀ t x, R t x → ∀ fuel, t.toList.length < fuel → ∀ rest, Delimited rest →
      item fuel (t.toList ++ rest) = some (x, rest))
    {texts : List String} {xs : List α} (hR : List.Forall₂ R texts xs) (fuel : Nat)
    (hfuel : (", ".intercalate texts).toList.length + 1 < fuel) (rest : List Char) :
    L fuel ((", ".intercalate texts).toList ++ ']' :: rest) = some (xs, rest) := by
  obtain ⟨fuel, rfl⟩ : ∃ f, fuel = f + 1 := ⟨fuel - 1, by omega⟩
  induction hR generalizing fuel with
  | nil =>
    rw [hL]
    exact listOf_close rfl rest
  | @cons t x texts xs htx hmore ih =>
    -- the last item is closed by `]`, every other one is followed by `, ` and the next
    cases hmore with
    | nil =>
      simp only [String.intercalate_singleton] at hfuel ⊢
      rw [hL]
      exact listOf_one (hhead t x htx) rfl (by decide)
        (hitem t x htx fuel (by omega) _ (delimited_punct ']' (by simp) rest))
    | cons huy hmore' =>
      have htext : ", ".toList = [',', ' '] := rfl
      simp only [String.intercalate_cons_cons, String.toList_append, htext, List.length_append,
        List.length_cons, List.length_nil] at hfuel ih ⊢
      rw [hL, List.append_assoc, List.append_assoc, List.cons_append,
        listOf_cons (hhead t x htx)
          (hitem t x htx fuel (by omega) _ (delimited_punct ',' (by simp) _)),
        List.cons_append, List.nil_append]
      obtain ⟨fuel', rfl⟩ : ∃ f, fuel = f + 1 := ⟨fuel - 1, by omega⟩
      rw [hL, listOf_blank_cons rfl, ← hL, ih fuel' (by omega)]
      rfl

/-! ### Blanks between tokens

Every reader drops the blanks in front of its input before it looks at it, so a blank in front
changes nothing.
-/

section Blanks

variable {c : Char}

theorem jsonValue_blank_cons (hc : isBlank c = true) (fuel : Nat) (cs : List Char) :
    jsonValue fuel (c :: cs) = jsonValue fuel cs := by
  cases fuel with
  | zero => rfl
  | succ fuel => simp [jsonValue, hc]

theorem jsonItems_blank_cons (hc : isBlank c = true) (fuel : Nat) (cs : List Char) :
    jsonItems fuel (c :: cs) = jsonItems fuel cs := by
  cases fuel with
  | zero => rfl
  | succ fuel => exact listOf_blank_cons hc cs

theorem jsonEntries_blank_cons (hc : isBlank c = true) (fuel : Nat) (cs : List Char) :
    jsonEntries fuel (c :: cs) = jsonEntries fuel cs := by
  cases fuel with
  | zero => rfl
  | succ fuel => exact listOf_blank_cons hc cs

theorem expr_blank_cons (hc : isBlank c = true) (fuel : Nat) (cs : List Char) :
    expr fuel (c :: cs) = expr fuel cs := by
  cases fuel with
  | zero => rfl
  | succ fuel => simp [expr, hc]

theorem exprItems_blank_cons (hc : isBlank c = true) (fuel : Nat) (cs : List Char) :
    exprItems fuel (c :: cs) = exprItems fuel cs := by
  cases fuel with
  | zero => rfl
  | succ fuel => exact listOf_blank_cons hc cs

theorem mapPairs_blank_cons (hc : isBlank c = true) (fuel : Nat) (cs : List Char) :
    mapPairs fuel (c :: cs) = mapPairs fuel cs := by
  cases fuel with
  | zero => rfl
  | succ fuel => exact listOf_blank_cons hc cs

end Blanks

end NodeKit.Rust
