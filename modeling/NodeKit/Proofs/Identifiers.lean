import NodeKit.Proofs.ModuleNames

/-! Which names of a generated module Rust accepts as identifiers. Validation checks each kind of
name in its own way: type and display names as identifiers that are no keyword, generated
functions once a leading `r#` is set aside, and fields by their schema name and the usability of
their escaped form. Together with snake case keeping the shape of an identifier and keyword
escaping writing every keyword that may be raw as `r#…`, these checks make every declared name
legal: `module_idents_legal`. -/

namespace NodeKit

namespace Rust

/-- A name Rust accepts as an identifier: a plain identifier that is neither `_` nor a keyword,
or `r#` before an identifier that is neither `_` nor one of the keywords that cannot be raw. -/
def IsLegalIdent (name : String) : Prop :=
  (isIdentifier name = true ∧ name ≠ "_" ∧ isKeyword name = false) ∨
    ∃ rest, name = "r#" ++ rest ∧ isIdentifier rest = true ∧ isUsable rest = true

theorem not_prefix_keyword :
    ∀ k ∈ keywords, ∀ w ∈ ["is_", "assert_"], ¬w.toList <+: k.toList := by
  decide

theorem isKeyword_prefixed {w : String} (hw : w ∈ ["is_", "assert_"]) (x : String) :
    isKeyword (w ++ x) = false := by
  cases hkw : isKeyword (w ++ x) with
  | false => rfl
  | true =>
    have hmem : w ++ x ∈ keywords := by simpa [isKeyword] using hkw
    exact absurd ⟨x.toList, by simp [String.toList_append]⟩ (not_prefix_keyword _ hmem w hw)

theorem isUsable_of_isUsable_escapeKeyword {x : String}
    (h : isUsable (escapeKeyword x) = true) : isUsable x = true := by
  unfold escapeKeyword at h
  split at h
  · rename_i hescape
    exact ((Bool.and_eq_true _ _).mp hescape).2
  · exact h

/-- A generated function name that is no keyword is legal: plain when it does not begin with
`r#`, raw otherwise. -/
theorem legal_of_functionIdent {name : String} (h : IsFunctionIdent name)
    (hkw : isKeyword name = false) : IsLegalIdent name := by
  by_cases hraw : ∃ rest, name.toList = 'r' :: '#' :: rest
  · obtain ⟨rest, hrest⟩ := hraw
    have hunraw := unraw_of_toList hrest
    refine .inr ⟨String.ofList rest, ?_, hunraw ▸ h.1, hunraw ▸ h.2⟩
    apply String.toList_injective
    simp [hrest, String.toList_append]
  · have hunraw := unraw_of_not_raw fun rest h => hraw ⟨rest, h⟩
    obtain ⟨hident, husable⟩ := h
    rw [hunraw] at hident husable
    refine .inl ⟨hident, fun hblank => ?_, hkw⟩
    simp [isUsable, hblank] at husable

/-- A keyword never survives escaping in a name validation accepts: one that may be raw is
written raw, and one that may not fails the check. -/
theorem isKeyword_escapeKeyword {x : String} (h : IsFunctionIdent (escapeKeyword x)) :
    isKeyword (escapeKeyword x) = false := by
  unfold escapeKeyword at h ⊢
  split
  · cases hkw : isKeyword ("r#" ++ x) with
    | false => rfl
    | true =>
      have hmem : "r#" ++ x ∈ keywords := by simpa [isKeyword] using hkw
      exact absurd (by simp [String.toList_append]) (hash_not_mem_keyword _ hmem)
  · rename_i hescape
    rw [if_neg hescape] at h
    cases hkeyword : isKeyword x with
    | false => rfl
    | true =>
      have hmem : x ∈ keywords := by simpa [isKeyword] using hkeyword
      have husable := h.2
      rw [unraw_of_hash_not_mem (hash_not_mem_keyword x hmem)] at husable
      exact absurd (by simp [hkeyword, husable]) hescape

theorem legal_escapeKeyword {x : String} (h : IsFunctionIdent (escapeKeyword x)) :
    IsLegalIdent (escapeKeyword x) :=
  legal_of_functionIdent h (isKeyword_escapeKeyword h)

theorem legal_of_typeIdent {name : String} (h : IsTypeIdent name) : IsLegalIdent name :=
  .inl ⟨h.1, h.2.2, h.2.1⟩

end Rust

namespace Naming

theorem isLower_toLower {c : Char} (h : c.isUpper = true) : c.toLower.isLower = true := by
  have hA : 'A'.val.toNat = 65 := rfl
  have hZ : 'Z'.val.toNat = 90 := rfl
  have ha : 'a'.val.toNat = 97 := rfl
  have hz : 'z'.val.toNat = 122 := rfl
  have hc : c.val.toNat = c.toNat := rfl
  -- the letter classes are read through their bodies, as Lean states them
  replace h : decide (c.val ≥ 'A'.val ∧ c.val ≤ 'Z'.val) = true := h
  simp only [decide_eq_true_eq, ge_iff_le, UInt32.le_iff_toNat_le, hA, hZ] at h
  unfold Char.toLower
  rw [dif_pos (by simp only [ge_iff_le, UInt32.le_iff_toNat_le, hA, hZ]; exact h)]
  show (decide (_ ≥ 'a'.val) && decide (_ ≤ 'z'.val)) = true
  simp only [ge_iff_le, UInt32.le_iff_toNat_le, ha, hz, UInt32.toNat_add]
  simp only [hc] at h ⊢
  simp
  omega

theorem isAlpha_toLower {c : Char} (h : c.isUpper = true) : c.toLower.isAlpha = true := by
  show (c.toLower.isUpper || c.toLower.isLower) = true
  rw [isLower_toLower h, Bool.or_true]

theorem isIdentRest_toLower {c : Char} (h : c.isUpper = true) :
    Rust.isIdentRest c.toLower = true := by
  have halnum : c.toLower.isAlphanum = true := by
    show (c.toLower.isAlpha || c.toLower.isDigit) = true
    rw [isAlpha_toLower h, Bool.true_or]
  simp [Rust.isIdentRest, halnum]

theorem isIdentRest_snakeChars {cs : List Char} (h : cs.all Rust.isIdentRest = true)
    (prev : Option Char) : (snakeChars prev cs).all Rust.isIdentRest = true := by
  induction cs generalizing prev with
  | nil => rfl
  | cons c rest ih =>
    simp only [List.all_cons, Bool.and_eq_true] at h
    unfold snakeChars
    split
    · rename_i hupper
      have hunderscore : Rust.isIdentRest '_' = true := by decide
      split <;> simp [isIdentRest_toLower hupper, hunderscore, ih h.2]
    · simp [h.1, ih h.2]

/-- Snake case keeps a name an identifier: it only lowercases letters and puts `_` before some,
never before the first character. -/
theorem isIdentifier_snakeCase {name : String} (h : Rust.isIdentifier name = true) :
    Rust.isIdentifier (snakeCase name) = true := by
  unfold Rust.isIdentifier at h ⊢
  rw [snakeCase, String.toList_ofList]
  rcases hcs : name.toList with _ | ⟨c, rest⟩
  · rw [hcs] at h
    simp [Rust.isIdentChars] at h
  · rw [hcs] at h
    simp only [Rust.isIdentChars, Bool.and_eq_true] at h
    unfold snakeChars
    split
    · rename_i hupper
      simp [startsWord, Rust.isIdentChars, Rust.isIdentStart, isAlpha_toLower hupper,
        isIdentRest_snakeChars h.2]
    · simp [Rust.isIdentChars, h.1, isIdentRest_snakeChars h.2]

end Naming

/-- Every identifier a module declares: its functions, the variants of `Node`, the payload
structs, and the fields of each payload with the parameters of each builder. -/
def Rust.Module.declaredIdents (n : Naming.Scheme) (s : Schema) (g : GroupIndex) : List String :=
  functionNames n s g ++ s.definitions.map (·.name) ++ s.definitions.map (·.displayName) ++
    s.definitions.flatMap fun d => d.fieldIdents n ++ d.plan.params.map (n.field ·.field.name)

variable {n : Naming.Scheme} {s : Schema}

theorem Field.Valid.functionIdent_field {f : Field} (hf : f.Valid n) :
    Rust.IsFunctionIdent (n.field f.name) := by
  rw [Rust.IsFunctionIdent, n.unraw_field hf.identifier]
  exact ⟨Naming.isIdentifier_snakeCase hf.identifier,
    Rust.isUsable_of_isUsable_escapeKeyword hf.usable⟩

theorem Field.Valid.legal_field {f : Field} (hf : f.Valid n) :
    Rust.IsLegalIdent (n.field f.name) :=
  Rust.legal_escapeKeyword hf.functionIdent_field

theorem TypeDef.Valid.typeIdent_displayName {d : TypeDef} (hd : d.Valid n) :
    Rust.IsTypeIdent d.displayName := by
  unfold TypeDef.displayName
  cases hdisplay : d.displayTypeName with
  | none => exact hd.name
  | some display => exact hd.display display hdisplay

theorem Schema.otherFunctionNames_not_keyword {name : String}
    (h : name ∈ s.otherFunctionNames n) : Rust.isKeyword name = false := by
  simp only [Schema.otherFunctionNames, List.mem_append, List.mem_map] at h
  rcases h with (⟨d, _, rfl⟩ | ⟨g, _, rfl⟩) | ⟨d, _, rfl⟩
  · exact Rust.isKeyword_prefixed (by simp) _
  · exact Rust.isKeyword_prefixed (by simp) _
  · exact Rust.isKeyword_prefixed (by simp) _

theorem Schema.Valid.functionIdent_of_mem (hs : s.Valid n) {name : String}
    (h : name ∈ Rust.Module.functionNames n s (.ofSchema s)) : Rust.IsFunctionIdent name := by
  rw [Schema.functionNames_ofSchema] at h
  exact hs.functionIdents name ((s.perm_functionNames n).subset h)

/-- The functions of the module of a valid schema are legal identifiers: a builder is written raw
when it is a keyword, and no other function is one. -/
theorem Schema.Valid.legal_of_mem_functionNames (hs : s.Valid n) {name : String}
    (h : name ∈ Rust.Module.functionNames n s (.ofSchema s)) : Rust.IsLegalIdent name := by
  have hident := hs.functionIdent_of_mem h
  rw [Schema.functionNames_ofSchema] at h
  rcases List.mem_append.mp h with hbuilder | hother
  · obtain ⟨d, -, rfl⟩ := List.mem_map.mp hbuilder
    exact Rust.legal_escapeKeyword hident
  · exact Rust.legal_of_functionIdent hident (Schema.otherFunctionNames_not_keyword hother)

/-- The builder, guard and assertion of each type of a valid schema are legal identifiers. -/
theorem Schema.Valid.legal_typeFunctions (hs : s.Valid n) {d : TypeDef} (hd : d ∈ s.definitions) :
    Rust.IsLegalIdent (n.builder d.name) ∧ Rust.IsLegalIdent (n.guard d.name) ∧
      Rust.IsLegalIdent (n.assertion d.name) := by
  refine ⟨hs.legal_of_mem_functionNames ?_, hs.legal_of_mem_functionNames ?_,
    hs.legal_of_mem_functionNames ?_⟩ <;>
  simp only [Rust.Module.functionNames, List.mem_append, List.mem_map]
  · exact .inl (.inl (.inl ⟨d, hd, rfl⟩))
  · exact .inl (.inl (.inr ⟨d, hd, rfl⟩))
  · exact .inr ⟨d, hd, rfl⟩

/-- The guard of each group of a valid schema is a legal identifier. -/
theorem Schema.Valid.legal_unionGuard (hs : s.Valid n) {p : String × List String}
    (hp : p ∈ (GroupIndex.ofSchema s).groups) : Rust.IsLegalIdent (n.unionGuard p.1) := by
  refine hs.legal_of_mem_functionNames ?_
  simp only [Rust.Module.functionNames, List.mem_append, List.mem_map]
  exact .inl (.inr ⟨p, hp, rfl⟩)

/-- Every identifier the module of a valid schema declares is legal in Rust: its functions, the
variants of `Node`, the payload structs and their fields, and the builders' parameters. -/
theorem module_idents_legal (s : Schema) (n : Naming.Scheme) (hv : s.validate n = .ok ()) :
    ∀ name ∈ Rust.Module.declaredIdents n s (.ofSchema s), Rust.IsLegalIdent name := by
  have hs := Schema.valid_of_validate_eq_ok hv
  intro name hname
  simp only [Rust.Module.declaredIdents, List.mem_append, List.mem_map, List.mem_flatMap] at hname
  rcases hname with ((hfunction | ⟨d, hd, rfl⟩) | ⟨d, hd, rfl⟩) | ⟨d, hd, hfield | hparam⟩
  · exact hs.legal_of_mem_functionNames hfunction
  · exact Rust.legal_of_typeIdent (hs.types d hd).name
  · exact Rust.legal_of_typeIdent (hs.types d hd).typeIdent_displayName
  · obtain ⟨f, hf, rfl⟩ := List.mem_map.mp hfield
    exact ((hs.types d hd).fields f hf).legal_field
  · obtain ⟨p, hp, rfl⟩ := hparam
    obtain ⟨f, hf, rfl⟩ := List.mem_map.mp hp
    exact ((hs.types d hd).fields f (List.mem_filter.mp hf).1).legal_field

/-- A loop type with a `static` flag, in a group of statements: its builder `r#loop` and its
field `r#static` are raw, and every identifier of its module is legal. -/
theorem loop_module_idents_legal :
    Schema.validate ⟨[{ name := "Loop", groupTags := ["Statement"],
                        fields := [{ name := "static", kind := .boolean }] }]⟩ {} = .ok () ∧
      ∀ name ∈ Rust.Module.declaredIdents {}
          ⟨[{ name := "Loop", groupTags := ["Statement"],
              fields := [{ name := "static", kind := .boolean }] }]⟩
          (.ofSchema ⟨[{ name := "Loop", groupTags := ["Statement"],
                         fields := [{ name := "static", kind := .boolean }] }]⟩),
        Rust.IsLegalIdent name :=
  ⟨rfl, module_idents_legal _ _ rfl⟩

end NodeKit
