import NodeKit.Proofs.Identifiers

/-! What snake case does to a name. `Underscored p cs out` says that `out` is `cs` in ASCII
lowercase with an underscore put before some of its characters, each one right after a character
other than `_` and right before a lowercase letter. Snake case is such a text
(`underscored_snakeChars`), and every law below is read off the relation: with the underscores
deleted it is the lowercased name with its underscores deleted, it has no uppercase letter and so
is its own snake case, and it is an identifier, begins with `_`, ends with `_` or holds `__`
exactly when the name does. -/

namespace NodeKit.Naming

/-! ### ASCII case of one character -/

theorem isUpper_iff {c : Char} : c.isUpper = true ↔ 65 ≤ c.toNat ∧ c.toNat ≤ 90 := by
  show decide (c.val ≥ 'A'.val ∧ c.val ≤ 'Z'.val) = true ↔ _
  simp only [decide_eq_true_eq, ge_iff_le, UInt32.le_iff_toNat_le]
  rfl

theorem toLower_eq_self {c : Char} (h : c.isUpper = false) : c.toLower = c := by
  unfold Char.toLower
  rw [dif_neg]
  intro hc
  have hupper : c.isUpper = true := decide_eq_true hc
  rw [h] at hupper
  cases hupper

theorem isUpper_eq_false_of_isLower {c : Char} (h : c.isLower = true) : c.isUpper = false := by
  have hc : c.val.toNat = c.toNat := rfl
  -- the letter classes are read through their bodies, as Lean states them
  replace h : (decide (c.val ≥ 'a'.val) && decide (c.val ≤ 'z'.val)) = true := h
  simp only [Bool.and_eq_true, decide_eq_true_eq, ge_iff_le, UInt32.le_iff_toNat_le, hc] at h
  cases hupper : c.isUpper with
  | false => rfl
  | true =>
    have := isUpper_iff.mp hupper
    have ha : 'a'.val.toNat = 97 := rfl
    omega

@[simp] theorem isUpper_toLower (c : Char) : c.toLower.isUpper = false := by
  cases hc : c.isUpper with
  | true => exact isUpper_eq_false_of_isLower (isLower_toLower hc)
  | false => rw [toLower_eq_self hc, hc]

theorem ne_underscore_of_isLower {c : Char} (h : c.isLower = true) : c ≠ '_' := by
  rintro rfl
  cases h

theorem toLower_eq_underscore_iff {c : Char} : c.toLower = '_' ↔ c = '_' := by
  cases hc : c.isUpper with
  | false => rw [toLower_eq_self hc]
  | true =>
    constructor
    · intro h
      exact absurd h (ne_underscore_of_isLower (isLower_toLower hc))
    · rintro rfl
      cases hc

theorem isAlpha_of_isUpper {c : Char} (h : c.isUpper = true) : c.isAlpha = true := by
  show (c.isUpper || c.isLower) = true
  rw [h, Bool.true_or]

theorem underscore_eq_toLower_iff {c : Char} : '_' = c.toLower ↔ '_' = c := by
  rw [eq_comm, toLower_eq_underscore_iff, eq_comm]

theorem isIdentStart_toLower (c : Char) : Rust.isIdentStart c.toLower = Rust.isIdentStart c := by
  cases hc : c.isUpper with
  | false => rw [toLower_eq_self hc]
  | true =>
    simp [Rust.isIdentStart, isAlpha_of_isUpper hc, isAlpha_toLower hc]

theorem isIdentRest_toLower_eq (c : Char) : Rust.isIdentRest c.toLower = Rust.isIdentRest c := by
  cases hc : c.isUpper with
  | false => rw [toLower_eq_self hc]
  | true =>
    have halnum : c.isAlphanum = true := by
      show (c.isAlpha || c.isDigit) = true
      rw [show c.isAlpha = true from isAlpha_of_isUpper hc, Bool.true_or]
    rw [show Rust.isIdentRest c = true by simp [Rust.isIdentRest, halnum], isIdentRest_toLower hc]

/-! ### The relation -/

/-- `out` is `cs` in ASCII lowercase with an underscore put before some characters, each time
right after a character other than `_` (`p` is the character before `cs`, if any) and right
before a lowercase letter. -/
inductive Underscored : Option Char → List Char → List Char → Prop where
  | nil {p : Option Char} : Underscored p [] []
  | keep {p : Option Char} {c : Char} {cs out : List Char} :
      Underscored (some c) cs out → Underscored p (c :: cs) (c.toLower :: out)
  | split {p c : Char} {cs out : List Char} : p ≠ '_' → c.toLower.isLower = true →
      Underscored (some c) cs out → Underscored (some p) (c :: cs) ('_' :: c.toLower :: out)

/-- A word starts only after a character, and never after `_`. -/
theorem ne_underscore_of_startsWord {prev next : Option Char} (h : startsWord prev next = true) :
    ∃ p, prev = some p ∧ p ≠ '_' := by
  cases prev with
  | none => cases h
  | some p =>
    refine ⟨p, rfl, ?_⟩
    rintro rfl
    have hnot : startsWord (some '_') next = false := rfl
    rw [hnot] at h
    cases h

/-- Snake case lowercases and puts underscores only where `Underscored` allows them. -/
theorem underscored_snakeChars (prev : Option Char) (cs : List Char) :
    Underscored prev cs (snakeChars prev cs) := by
  induction cs generalizing prev with
  | nil => exact .nil
  | cons c rest ih =>
    unfold snakeChars
    split
    · rename_i hupper
      split
      · rename_i hstart
        obtain ⟨p, rfl, hp⟩ := ne_underscore_of_startsWord hstart
        exact .split hp (isLower_toLower hupper) (ih (some c))
      · exact .keep (ih (some c))
    · rename_i hupper
      have hlower : c.toLower = c := toLower_eq_self (Bool.eq_false_iff.mpr hupper)
      simpa only [hlower] using @Underscored.keep prev c rest _ (ih (some c))

namespace Underscored

variable {p : Option Char} {cs out : List Char}

/-- Deleting the underscores undoes the insertions: what is left is the lowercased text with its
own underscores deleted. -/
theorem filter_eq (h : Underscored p cs out) :
    out.filter (· != '_') = (cs.map Char.toLower).filter (· != '_') := by
  induction h with
  | nil => rfl
  | keep _ ih => simp [List.filter_cons, ih]
  | split _ hlower _ ih => simp [ne_underscore_of_isLower hlower, ih]

theorem not_isUpper (h : Underscored p cs out) : ∀ c ∈ out, c.isUpper = false := by
  induction h with
  | nil => simp
  | keep _ ih => simpa using ih
  | split _ _ _ ih => simpa using ih

/-- Nothing is put before the first character. -/
theorem head? (h : Underscored none cs out) : out.head? = cs.head?.map Char.toLower := by
  cases h with
  | nil => rfl
  | keep _ => rfl

/-- Nothing is put after the last character. -/
theorem getLast? (h : Underscored p cs out) : out.getLast? = cs.getLast?.map Char.toLower := by
  induction h with
  | nil => rfl
  | @keep _ c cs out _ ih =>
    rw [List.getLast?_cons, List.getLast?_cons, ih]
    cases cs.getLast? <;> rfl
  | @split _ c cs out _ _ _ ih =>
    rw [List.getLast?_cons, List.getLast?_cons, List.getLast?_cons, ih]
    cases cs.getLast? <;> rfl

theorem all_isIdentRest (h : Underscored p cs out) :
    out.all Rust.isIdentRest = cs.all Rust.isIdentRest := by
  induction h with
  | nil => rfl
  | keep _ ih => simp only [List.all_cons, isIdentRest_toLower_eq, ih]
  | split _ _ _ ih =>
    have hunderscore : Rust.isIdentRest '_' = true := by decide
    simp only [List.all_cons, hunderscore, isIdentRest_toLower_eq, ih, Bool.true_and]

theorem isIdentChars (h : Underscored none cs out) :
    Rust.isIdentChars out = Rust.isIdentChars cs := by
  cases h with
  | nil => rfl
  | keep hrest =>
    simp only [Rust.isIdentChars, isIdentStart_toLower, hrest.all_isIdentRest]

/-- An inserted underscore stands between two characters that are not underscores, so `__`
occurs in `out`, read after the lowercased `p`, exactly where it occurs in `cs` read after
`p`. -/
theorem infix_underscores (h : Underscored p cs out) :
    ['_', '_'] <:+: (p.map Char.toLower).toList ++ out ↔ ['_', '_'] <:+: p.toList ++ cs := by
  induction h with
  | nil =>
    rename_i p
    cases p with
    | none => simp
    | some q =>
      constructor <;> intro hinfix <;> simpa using hinfix.length_le
  | @keep p c cs out _ ih =>
    cases p with
    | none => simpa using ih
    | some q =>
      simp only [Option.map_some, Option.toList_some, List.singleton_append] at ih ⊢
      conv => lhs; rw [List.infix_cons_iff]
      conv => rhs; rw [List.infix_cons_iff]
      rw [ih]
      simp [underscore_eq_toLower_iff]
  | @split q c cs out hq hlower _ ih =>
    have hc : c.toLower ≠ '_' := ne_underscore_of_isLower hlower
    have hq' : q.toLower ≠ '_' := fun h => hq (toLower_eq_underscore_iff.mp h)
    simp only [Option.map_some, Option.toList_some, List.singleton_append] at ih ⊢
    -- the inserted `_` sits between `q` and `c`, neither of them `_`
    conv => lhs; rw [List.infix_cons_iff, List.infix_cons_iff]
    conv => rhs; rw [List.infix_cons_iff]
    rw [ih]
    simp [Ne.symm hc, Ne.symm hq, Ne.symm hq']

end Underscored

/-- A text without uppercase letters is its own snake case. -/
theorem snakeChars_of_forall_not_isUpper {cs : List Char} (h : ∀ c ∈ cs, c.isUpper = false)
    (prev : Option Char) : snakeChars prev cs = cs := by
  induction cs generalizing prev with
  | nil => rfl
  | cons c rest ih =>
    have hc : c.isUpper = false := h c (List.mem_cons_self ..)
    rw [snakeChars, if_neg (by simp [hc]), ih (fun d hd => h d (List.mem_cons_of_mem c hd))]

/-- Snake case only lowercases and adds underscores, each right after a character other than
`_` and right before a lowercase letter. Hence it leaves no uppercase letter and a second
application changes nothing, and the name is an identifier, begins with `_`, ends with `_` and
holds `__` exactly when its snake case does. -/
theorem snakeCase_lowercases_and_underscores (x : String) :
    (snakeCase x).toList.filter (· != '_') = (x.toList.map Char.toLower).filter (· != '_') ∧
    Underscored none x.toList (snakeCase x).toList ∧
    (∀ c ∈ (snakeCase x).toList, c.isUpper = false) ∧
    snakeCase (snakeCase x) = snakeCase x ∧
    Rust.isIdentifier (snakeCase x) = Rust.isIdentifier x ∧
    ((snakeCase x).toList.head? = some '_' ↔ x.toList.head? = some '_') ∧
    ((snakeCase x).toList.getLast? = some '_' ↔ x.toList.getLast? = some '_') ∧
    (['_', '_'] <:+: (snakeCase x).toList ↔ ['_', '_'] <:+: x.toList) := by
  have h : Underscored none x.toList (snakeCase x).toList := by
    rw [snakeCase, String.toList_ofList]
    exact underscored_snakeChars none x.toList
  have hlower : ∀ c : Option Char, c.map Char.toLower = some '_' ↔ c = some '_' := by
    intro c
    cases c <;> simp [toLower_eq_underscore_iff]
  refine ⟨h.filter_eq, h, h.not_isUpper, ?_, ?_, ?_, ?_, by simpa using h.infix_underscores⟩
  · rw [snakeCase, snakeChars_of_forall_not_isUpper h.not_isUpper, String.ofList_toList]
  · exact h.isIdentChars
  · rw [h.head?, hlower]
  · rw [h.getLast?, hlower]

end NodeKit.Naming
