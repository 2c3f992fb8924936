import NodeKit.Proofs.LiteralValues
import NodeKit.Rust.Module

/-!
Texts that stay on one line. A module is read one line at a time, so whatever the generator writes
inside a line must hold no newline. A quoted string writes a newline as `\n`, and its other escapes
are a backslash with letters, hexadecimal digits and braces; the text of a number is digits, a
sign, a point and an exponent. So `json!` tokens, every literal that renders, and the Rust type of
every field and parameter fit on one line.
-/

namespace NodeKit

/-- A string literal as the list of its characters. The kernel unfolds a literal to
`String.ofList` of its characters at once, so rewriting with this before `decide` spares it
decoding the literal's bytes. -/
theorem toList_of_eq_ofList {s : String} {l : List Char} (h : s = String.ofList l) :
    s.toList = l := by
  rw [h, String.toList_ofList]

/-- The characters `Nat.toDigitsCore` puts before `acc` are digits. -/
theorem mem_toDigitsCore {b fuel n : Nat} {acc : List Char} {c : Char}
    (h : c ∈ Nat.toDigitsCore b fuel n acc) : c ∈ acc ∨ ∃ k : Nat, c = k.digitChar := by
  -- each step puts one more digit before the accumulator
  induction fuel generalizing n acc with
  | zero => exact .inl h
  | succ fuel ih =>
    simp only [Nat.toDigitsCore] at h
    split at h
    · rcases List.mem_cons.mp h with rfl | h
      · exact .inr ⟨_, rfl⟩
      · exact .inl h
    · rcases ih h with h | h
      · rcases List.mem_cons.mp h with rfl | h
        · exact .inr ⟨_, rfl⟩
        · exact .inl h
      · exact .inr h

theorem newline_not_mem_toDigits (b n : Nat) : '\n' ∉ Nat.toDigits b n := by
  intro h
  rcases mem_toDigitsCore h with h | ⟨k, hk⟩
  · exact List.not_mem_nil h
  · exact Nat.digitChar_ne '\n' rfl hk.symm

theorem newline_not_mem_natText (n : Nat) : '\n' ∉ (toString n).toList := by
  rw [show toString n = n.repr from rfl, Nat.toList_repr]
  exact newline_not_mem_toDigits 10 n

theorem newline_not_mem_intercalate {sep : String} (hsep : '\n' ∉ sep.toList) :
    ∀ {ts : List String}, (∀ t ∈ ts, '\n' ∉ t.toList) → '\n' ∉ (sep.intercalate ts).toList
  | [], _ => List.not_mem_nil
  | [t], h => h t (List.mem_singleton_self t)
  | t :: u :: more, h => by
    have hmore : '\n' ∉ (sep.intercalate (u :: more)).toList :=
      newline_not_mem_intercalate hsep fun x hx => h x (List.mem_cons_of_mem t hx)
    rw [String.intercalate_cons_cons]
    simp only [String.toList_append, List.mem_append, not_or]
    exact ⟨⟨h t List.mem_cons_self, hsep⟩, hmore⟩

/-- What a run of `mapM` returns, each of its steps returns. -/
theorem forall_of_mapM_eq_ok {ε α β : Type} {g : α → Except ε β} {P : β → Prop} :
    ∀ {xs : List α} {ys : List β}, xs.mapM g = .ok ys → (∀ x ∈ xs, ∀ y, g x = .ok y → P y) →
      ∀ y ∈ ys, P y
  | [], ys, h, _ => by
    simp only [List.mapM_nil, pure, Except.pure, Except.ok.injEq] at h
    subst h
    exact fun _ h => (List.not_mem_nil h).elim
  | x :: xs, _, h, hg => by
    obtain ⟨y, ys, hy, hys, rfl⟩ := Literal.mapM_cons_eq_ok h
    intro z hz
    rcases List.mem_cons.mp hz with rfl | hz
    · exact hg x List.mem_cons_self z hy
    · exact forall_of_mapM_eq_ok hys (fun x' hx' => hg x' (List.mem_cons_of_mem x hx')) z hz

/-! ### Quoted strings -/

namespace Rust

theorem newline_not_mem_unicodeEscape (c : Char) : '\n' ∉ (unicodeEscape c).toList := by
  simp [unicodeEscape, String.toList_append, newline_not_mem_toDigits]

theorem newline_not_mem_escapeChar (c : Char) : '\n' ∉ (escapeChar c).toList := by
  unfold escapeChar
  split
  -- the six short escapes
  · decide
  · decide
  · decide
  · decide
  · decide
  · decide
  · next hnul htab hcr hnewline hback hquote =>
    split
    · exact newline_not_mem_unicodeEscape c
    · split
      · -- a character that stands as it is was not escaped above, so it is no newline
        simpa [String.toList_singleton, eq_comm] using hnewline
      · exact newline_not_mem_unicodeEscape c

theorem newline_not_mem_quote (s : String) : '\n' ∉ (quote s).toList := by
  rw [quote_toList]
  simp [String.toList_join, newline_not_mem_escapeChar]

end Rust

/-! ### Numbers -/

namespace Decimal

theorem newline_not_mem_placePoint {ds : String} (hds : '\n' ∉ ds.toList) (point : Int)
    (pointZero : Bool) : '\n' ∉ (placePoint ds point pointZero).toList := by
  unfold placePoint
  dsimp only
  split_ifs
  · simp [zeros, String.toList_append, hds]
  · simp [zeros, String.toList_append, hds]
  · simp [zeros, String.toList_append, hds]
  · simp only [String.toList_append, String.toList_ofList, List.mem_append, not_or]
    exact ⟨⟨fun h => hds (List.mem_of_mem_take h), by decide⟩,
      fun h => hds (List.mem_of_mem_drop h)⟩

theorem newline_not_mem_scientificText {ds : String} (hds : '\n' ∉ ds.toList) (power : Int)
    (plus : Bool) : '\n' ∉ (scientificText ds power plus).toList := by
  unfold scientificText
  dsimp only
  -- the mantissa is the only digit, or the first digit, a point and the others
  split
  · split_ifs <;> simp [String.toList_append, newline_not_mem_toDigits]
  · next d hd =>
    have hd : d ≠ '\n' := fun h => hds (by simp [hd, h])
    split_ifs <;> simp [String.toList_append, newline_not_mem_toDigits, Ne.symm hd]
  · next d rest _ hd =>
    have hd' : d ≠ '\n' := fun h => hds (by simp [hd, h])
    have hrest : '\n' ∉ rest := fun h => hds (by simp [hd, h])
    split_ifs <;> simp [String.toList_append, newline_not_mem_toDigits, Ne.symm hd', hrest]

theorem newline_not_mem_render (fmt : Notation) (x : Binary64) :
    '\n' ∉ (fmt.render x).toList := by
  have hds : '\n' ∉ (shortest x fmt.tie).digits.repr.toList := newline_not_mem_natText _
  unfold Notation.render
  dsimp only
  -- every branch is a sign, then a word, positional text or scientific text
  split_ifs <;> simp [String.toList_append, newline_not_mem_placePoint hds,
    newline_not_mem_scientificText hds]

end Decimal

theorem Json.newline_not_mem_numberText (n : Number) : '\n' ∉ (Json.numberText n).toList := by
  cases n with
  | nat n => exact newline_not_mem_natText n
  | negInt i =>
    cases i with
    | ofNat m => exact newline_not_mem_natText m
    | negSucc m =>
      rw [Rust.numberText_negSucc_toList]
      simpa using newline_not_mem_toDigits 10 (m + 1)
  | double x =>
    rw [Json.numberText]
    split
    · exact Decimal.newline_not_mem_render Json.numberNotation x
    · decide

/-! ### Literals -/

namespace Literal

mutual

theorem newline_not_mem_tokens : ∀ v : Json, '\n' ∉ (tokens v).toList
  | .null => by decide
  | .bool true => by decide
  | .bool false => by decide
  | .num n => Json.newline_not_mem_numberText n
  | .str s => Rust.newline_not_mem_quote s
  | .arr items => by
    rw [tokens_arr_toList]
    simpa using newline_not_mem_itemTokens items
  | .obj entries => by
    rw [tokens_obj_toList]
    simpa using newline_not_mem_entryTokens entries

theorem newline_not_mem_itemTokens : ∀ items : List Json, '\n' ∉ (itemTokens items).toList
  | [] => by decide
  | [v] => newline_not_mem_tokens v
  | v :: w :: more => by
    rw [itemTokens_cons_cons_toList]
    simpa using ⟨newline_not_mem_tokens v, newline_not_mem_itemTokens (w :: more)⟩

theorem newline_not_mem_entryTokens :
    ∀ entries : List (String × Json), '\n' ∉ (entryTokens entries).toList
  | [] => by decide
  | [(k, v)] => by
    rw [entryTokens_one_toList]
    simpa using ⟨Rust.newline_not_mem_quote k, newline_not_mem_tokens v⟩
  | (k, v) :: e :: more => by
    rw [entryTokens_cons_cons_toList]
    simpa using ⟨Rust.newline_not_mem_quote k, newline_not_mem_tokens v,
      newline_not_mem_entryTokens (e :: more)⟩

end

theorem newline_not_mem_mapEntry (k : String) (v : Json) : '\n' ∉ (mapEntry k v).toList := by
  rw [mapEntry_toList]
  simp [Rust.newline_not_mem_quote, newline_not_mem_tokens]

theorem newline_not_mem_scalar {kind : ValueKind} {v : Json} {text : String}
    (h : scalar kind v = .ok text) : '\n' ∉ text.toList := by
  rcases scalar_eq_ok h with ⟨s, -, -, rfl⟩ | ⟨n, -, -, rfl⟩ | ⟨b, -, -, rfl⟩ | ⟨-, -, rfl⟩ |
    ⟨e, more, -, -, rfl⟩ | ⟨-, rfl⟩
  · simp [String.toList_append, Rust.newline_not_mem_quote]
  · exact Decimal.newline_not_mem_render Rust.debugNotation n.toBinary64
  · cases b <;> decide
  · decide
  · have hmap : ∀ t ∈ (e :: more).map (fun e => mapEntry e.1 e.2), '\n' ∉ t.toList := by
      intro t ht
      obtain ⟨e, -, rfl⟩ := List.mem_map.mp ht
      exact newline_not_mem_mapEntry e.1 e.2
    have hentries : '\n' ∉ (", ".intercalate ((e :: more).map fun e => mapEntry e.1 e.2)).toList :=
      newline_not_mem_intercalate (by decide) hmap
    simp only [String.toList_append, List.mem_append, not_or]
    exact ⟨⟨by decide, hentries⟩, by decide⟩
  · simp [String.toList_append, newline_not_mem_tokens]

/-- A literal that renders fits on one line. -/
theorem newline_not_mem_render {f : Field} {v : Json} {text : String}
    (h : render f v = .ok text) : '\n' ∉ text.toList := by
  unfold render at h
  split at h
  · exact newline_not_mem_scalar h
  · split at h
    · cases h
      decide
    · simp only [Except.bind_eq_ok, Except.pure_eq_ok] at h
      obtain ⟨parts, hparts, rfl⟩ := h
      have hitems : '\n' ∉ (", ".intercalate parts).toList :=
        newline_not_mem_intercalate (by decide)
          (forall_of_mapM_eq_ok hparts fun _ _ _ => newline_not_mem_scalar)
      simp only [String.toList_append, List.mem_append, not_or]
      exact ⟨⟨by decide, hitems⟩, by decide⟩
    · cases h

end Literal

/-! ### Types -/

namespace Rust.Module

theorem newline_not_mem_valueType (k : ValueKind) : '\n' ∉ (valueType k).toList := by
  cases k <;> simp [valueType]

theorem newline_not_mem_fieldType (f : Field) : '\n' ∉ (fieldType f).toList := by
  have hbase := newline_not_mem_valueType f.kind
  unfold fieldType
  split_ifs <;> simp [String.toList_append, hbase]

theorem newline_not_mem_paramType (p : Param) : '\n' ∉ (paramType p).toList := by
  have hbase := newline_not_mem_valueType p.field.kind
  unfold paramType
  split_ifs <;> simp [String.toList_append, hbase]

end Rust.Module

end NodeKit
