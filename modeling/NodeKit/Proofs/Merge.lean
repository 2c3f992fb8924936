import NodeKit.Schema.Source
import NodeKit.Proofs.Except

/-! A schema never holds two types of one name. `Schema.new` makes a schema of a list of
definitions exactly when their names are distinct, and otherwise fails with the first name that
occurs earlier in the list. Reading a schema from a value, a text or a file ends in `new`, and
merging is `new` of the concatenation, so every schema they return has distinct type names. The
first repeat of a concatenation is the first repeat of its first part, or else the first name of
the second part that occurs earlier (`firstRepeat_append`); so merging in stages fails or
succeeds as merging at once does (`merge_append`). -/

namespace NodeKit.Schema

/-- `n` is the name at the earliest position of `names` whose name occurs earlier: the names
before that position are distinct and `n` is among them. -/
def IsFirstRepeat (names : List String) (n : String) : Prop :=
  ∃ pre post, names = pre ++ n :: post ∧ pre.Nodup ∧ n ∈ pre

/-- The search for a repeat runs over a concatenation part after part, the second part seeing the
names of the first. -/
theorem firstRepeat_append (seen l₁ l₂ : List String) :
    firstRepeat seen (l₁ ++ l₂) =
      (firstRepeat seen l₁).or (firstRepeat (l₁.reverse ++ seen) l₂) := by
  induction l₁ generalizing seen with
  | nil => rfl
  | cons m rest ih =>
    simp only [List.cons_append, firstRepeat]
    split
    · rfl
    · simp [ih]

theorem firstRepeat_eq_none_iff (seen names : List String) :
    firstRepeat seen names = none ↔ names.Nodup ∧ ∀ n ∈ names, n ∉ seen := by
  induction names generalizing seen with
  | nil => simp [firstRepeat]
  | cons m rest ih =>
    unfold firstRepeat
    split
    · rename_i hseen
      simp only [reduceCtorEq, false_iff]
      rintro ⟨-, hfresh⟩
      exact hfresh m (List.mem_cons_self ..) (by simpa using hseen)
    · rename_i hseen
      rw [ih]
      simp only [List.mem_cons, not_or, List.nodup_cons, forall_eq_or_imp]
      simp only [List.contains_iff_mem] at hseen
      constructor
      · rintro ⟨hnodup, hfresh⟩
        exact ⟨⟨fun hm => (hfresh m hm).1 rfl, hnodup⟩, by simpa using hseen,
          fun n hn => (hfresh n hn).2⟩
      · rintro ⟨⟨hm, hnodup⟩, -, hfresh⟩
        exact ⟨hnodup, fun n hn => ⟨fun h => hm (h ▸ hn), hfresh n hn⟩⟩

/-- A repeat found splits the names at it: nothing before it is found, and it occurs before it
or among the names seen. -/
theorem exists_split_of_firstRepeat {seen names : List String} {n : String}
    (h : firstRepeat seen names = some n) :
    ∃ pre post, names = pre ++ n :: post ∧ firstRepeat seen pre = none ∧
      n ∈ pre.reverse ++ seen := by
  induction names generalizing seen with
  | nil => cases h
  | cons m rest ih =>
    unfold firstRepeat at h
    split at h
    · rename_i hseen
      cases h
      exact ⟨[], rest, rfl, rfl, by simpa using hseen⟩
    · rename_i hseen
      obtain ⟨pre, post, rfl, hpre, hn⟩ := ih h
      refine ⟨m :: pre, post, rfl, ?_, by simpa using hn⟩
      rw [firstRepeat, if_neg hseen, hpre]

theorem firstRepeat_eq_some_iff (names : List String) (n : String) :
    firstRepeat [] names = some n ↔ IsFirstRepeat names n := by
  constructor
  · intro h
    obtain ⟨pre, post, rfl, hpre, hn⟩ := exists_split_of_firstRepeat h
    exact ⟨pre, post, rfl, ((firstRepeat_eq_none_iff [] pre).mp hpre).1, by simpa using hn⟩
  · rintro ⟨pre, post, rfl, hnodup, hn⟩
    have hpre : firstRepeat [] pre = none :=
      (firstRepeat_eq_none_iff [] pre).mpr ⟨hnodup, by simp⟩
    rw [firstRepeat_append, hpre, Option.none_or, firstRepeat,
      if_pos (by simpa using hn)]

/-! ### Making a schema -/

variable {defs : List TypeDef} {s : Schema}

theorem new_eq_ok_iff : new defs = .ok s ↔ (defs.map (·.name)).Nodup ∧ s.definitions = defs := by
  unfold new
  split
  · rename_i n hrepeat
    simp only [reduceCtorEq, false_iff, not_and]
    intro hnodup
    have hnone := (firstRepeat_eq_none_iff [] _).mpr ⟨hnodup, by simp⟩
    rw [hrepeat] at hnone
    cases hnone
  · rename_i hnone
    have hnodup := ((firstRepeat_eq_none_iff [] _).mp hnone).1
    constructor
    · rintro ⟨⟩
      exact ⟨hnodup, rfl⟩
    · rintro ⟨-, hdefs⟩
      rw [← hdefs]

theorem new_eq_error_iff {e : SchemaError} :
    new defs = .error e ↔ ∃ n, e = .duplicateType n ∧ IsFirstRepeat (defs.map (·.name)) n := by
  unfold new
  split
  · rename_i n hrepeat
    rw [firstRepeat_eq_some_iff] at hrepeat
    constructor
    · rintro ⟨⟩
      exact ⟨n, rfl, hrepeat⟩
    · rintro ⟨m, rfl, hm⟩
      -- the search finds one name, so the first repeat is unique
      have hsame := (firstRepeat_eq_some_iff _ m).mpr hm
      rw [(firstRepeat_eq_some_iff _ n).mpr hrepeat] at hsame
      cases hsame
      rfl
  · rename_i hnone
    simp only [reduceCtorEq, false_iff, not_exists, not_and]
    rintro n rfl hn
    rw [(firstRepeat_eq_some_iff _ n).mpr hn] at hnone
    cases hnone

theorem names_nodup_of_new (h : new defs = .ok s) : s.names.Nodup := by
  obtain ⟨hnodup, hdefs⟩ := new_eq_ok_iff.mp h
  rw [names, hdefs]
  exact hnodup

/-! ### Loading and merging -/

theorem names_nodup_of_ofValue {doc : Json} {origin : String} (h : ofValue doc origin = .ok s) :
    s.names.Nodup := by
  unfold ofValue at h
  split at h
  · exact names_nodup_of_new h
  · cases h

theorem names_nodup_of_ofText {text origin : String} (h : ofText text origin = .ok s) :
    s.names.Nodup := by
  obtain ⟨doc, -, hdoc⟩ := Except.bind_eq_ok.mp h
  exact names_nodup_of_ofValue hdoc

theorem names_nodup_of_ofFile {path : String} {contents pointer : Option String}
    (h : ofFile path contents pointer = .ok s) : s.names.Nodup := by
  unfold ofFile at h
  cases contents with
  | none => simp at h
  | some text =>
    simp only [pure_bind, Except.bind_eq_ok] at h
    obtain ⟨doc, -, h⟩ := h
    cases pointer with
    | none => exact names_nodup_of_ofValue (by simpa using h)
    | some ptr =>
      cases hptr : doc.pointer? ptr with
      | none => simp [hptr] at h
      | some v => exact names_nodup_of_ofValue (by simpa [hptr] using h)

theorem merge_eq_new (parts : List Schema) : merge parts = new (parts.flatMap (·.definitions)) :=
  rfl

/-- Merging in two stages: the first parts, then their schema with the rest. -/
theorem merge_append (parts₁ parts₂ : List Schema) :
    merge (parts₁ ++ parts₂) = (merge parts₁).bind fun s => merge (s :: parts₂) := by
  have hdefs : (parts₁ ++ parts₂).flatMap (·.definitions) =
      parts₁.flatMap (·.definitions) ++ parts₂.flatMap (·.definitions) :=
    List.flatMap_append ..
  cases hfirst : firstRepeat [] ((parts₁.flatMap (·.definitions)).map (·.name)) with
  | some n =>
    -- the repeat in the first parts is the first repeat of the whole
    have hmerge : merge parts₁ = .error (.duplicateType n) := by rw [merge_eq_new, new, hfirst]
    rw [hmerge, merge_eq_new, new, hdefs, List.map_append, firstRepeat_append, hfirst]
    rfl
  | none =>
    have hmerge : merge parts₁ = .ok ⟨parts₁.flatMap (·.definitions)⟩ := by
      rw [merge_eq_new, new, hfirst]
    rw [hmerge, merge_eq_new, hdefs]
    rfl

/-- Every schema made, read or merged has distinct type names. Merging succeeds exactly when
the names of the concatenated definitions are distinct, and then holds that concatenation;
otherwise it fails with the first name that occurs earlier in it. So merging three schemas is
merging the first two and then their schema with the third, on success and on failure alike. -/
theorem merge_concatenates_distinct_types :
    (∀ defs s, new defs = .ok s → s.names.Nodup) ∧
    (∀ doc origin s, ofValue doc origin = .ok s → s.names.Nodup) ∧
    (∀ text origin s, ofText text origin = .ok s → s.names.Nodup) ∧
    (∀ path contents pointer s, ofFile path contents pointer = .ok s → s.names.Nodup) ∧
    (∀ parts s, merge parts = .ok s ↔
      ((parts.flatMap (·.definitions)).map (·.name)).Nodup ∧
        s.definitions = parts.flatMap (·.definitions)) ∧
    (∀ parts e, merge parts = .error e ↔
      ∃ n, e = .duplicateType n ∧
        IsFirstRepeat ((parts.flatMap (·.definitions)).map (·.name)) n) ∧
    (∀ a b c, merge [a, b, c] = (merge [a, b]).bind fun ab => merge [ab, c]) :=
  ⟨fun _ _ => names_nodup_of_new, fun _ _ _ => names_nodup_of_ofValue,
    fun _ _ _ => names_nodup_of_ofText, fun _ _ _ _ => names_nodup_of_ofFile,
    fun _ _ => new_eq_ok_iff, fun _ _ => new_eq_error_iff,
    fun a b c => merge_append [a, b] [c]⟩

end NodeKit.Schema
