import NodeKit.Validate
import NodeKit.Proofs.Except

/-! What validation decides. The checks run in a fixed order and thread the names claimed so
far, but whether a schema passes depends on none of that order: `Schema.Valid` states the
conditions each on its own (identifiers, fields, group tags, and three lists of names that must
be free of repeats), and `validate_ok_iff_valid` shows that validation succeeds exactly when they
hold. The loop invariant is that a run of claims has taken exactly the names claimed so far,
after those taken before it; `foldlM_claims_eq_ok` proves it once for any step that claims
names. -/

namespace NodeKit

/-- The names taken, in the order they were taken. -/
def Owners.names (taken : Owners) : List String := taken.map Prod.fst

@[simp] theorem Owners.names_nil : Owners.names [] = [] := rfl

@[simp] theorem Owners.names_append (a b : Owners) : (a ++ b).names = a.names ++ b.names :=
  List.map_append

@[simp] theorem Owners.names_flatMap {α : Type} (l : List α) (f : α → Owners) :
    Owners.names (l.flatMap f) = l.flatMap fun a => (f a).names :=
  List.map_flatMap

@[simp] theorem Owners.names_cons (p : String × String) (taken : Owners) :
    Owners.names (p :: taken) = p.1 :: taken.names := rfl

/-- A claim succeeds exactly when the name is free, and then records it last. -/
theorem Owners.claim_eq_ok {taken r : Owners} {name owner : String} :
    taken.claim name owner = .ok r ↔ name ∉ taken.names ∧ r = taken ++ [(name, owner)] := by
  unfold Owners.claim
  split
  · rename_i first h
    have hmem : name ∈ taken.names :=
      List.mem_map.mpr ⟨_, List.mem_of_find?_eq_some h, by simpa using List.find?_some h⟩
    simp [hmem]
  · rename_i h
    have hfree : name ∉ taken.names := by
      rw [List.find?_eq_none] at h
      intro hmem
      obtain ⟨p, hp, rfl⟩ := List.mem_map.mp hmem
      exact h p hp (by simp)
    simp [hfree, eq_comm]

section DistinctImages

variable {α β : Type} {f : α → β} {l : List α}

theorem nodup_of_nodup_map (h : (l.map f).Nodup) : l.Nodup :=
  List.Pairwise.of_map f (fun _ _ hab heq => hab (congrArg f heq)) h

theorem eq_of_nodup_map (h : (l.map f).Nodup) {a b : α} (ha : a ∈ l) (hb : b ∈ l)
    (hab : f a = f b) : a = b := by
  induction l with
  | nil => cases ha
  | cons x l ih =>
    rw [List.map_cons, List.nodup_cons] at h
    rcases List.mem_cons.mp ha with rfl | hal <;> rcases List.mem_cons.mp hb with rfl | hbl
    · rfl
    · exact absurd (hab ▸ List.mem_map_of_mem hbl) h.1
    · exact absurd (hab.symm ▸ List.mem_map_of_mem hal) h.1
    · exact ih h.2 hal hbl

theorem nodup_map_of_injOn (hinj : ∀ a ∈ l, ∀ b ∈ l, f a = f b → a = b) (h : l.Nodup) :
    (l.map f).Nodup := by
  rw [List.Nodup, List.pairwise_map]
  exact h.imp_of_mem fun ha hb hne heq => hne (hinj _ ha _ hb heq)

end DistinctImages

namespace Rust

/-- A name a type or a payload can take: an identifier that is neither a keyword nor `_`. -/
def IsTypeIdent (name : String) : Prop :=
  isIdentifier name = true ∧ isKeyword name = false ∧ name ≠ "_"

/-- A generated function name that, once a leading `r#` is set aside, is a usable identifier. -/
def IsFunctionIdent (name : String) : Prop :=
  isIdentifier (unraw name) = true ∧ isUsable (unraw name) = true

end Rust

/-- The conditions on one field of a valid schema. -/
structure Field.Valid (n : Naming.Scheme) (f : Field) : Prop where
  notDiscriminant : f.name ≠ discriminant
  identifier : Rust.isIdentifier f.name = true
  usable : Rust.isUsable (n.field f.name) = true
  notConstantOptional : ¬(f.constant = true ∧ f.optional = true)
  constant_iff_value : f.constant = true ↔ f.value.isSome
  constantRenders : ∀ v, f.constant = true → f.value = some v → ∃ e, Literal.render f v = .ok e
  defaultRenders : ∀ v, f.constant = false → f.defaultValue = some v →
    ∃ e, Literal.render f v = .ok e

theorem Field.valid_iff {n : Naming.Scheme} {f : Field} :
    f.Valid n ↔ f.name ≠ discriminant ∧ Rust.isIdentifier f.name = true ∧
      Rust.isUsable (n.field f.name) = true ∧ ¬(f.constant = true ∧ f.optional = true) ∧
      (f.constant = true ↔ f.value.isSome) ∧
      (∀ v, f.constant = true → f.value = some v → ∃ e, Literal.render f v = .ok e) ∧
      (∀ v, f.constant = false → f.defaultValue = some v → ∃ e, Literal.render f v = .ok e) :=
  ⟨fun ⟨h₁, h₂, h₃, h₄, h₅, h₆, h₇⟩ => ⟨h₁, h₂, h₃, h₄, h₅, h₆, h₇⟩,
    fun ⟨h₁, h₂, h₃, h₄, h₅, h₆, h₇⟩ => ⟨h₁, h₂, h₃, h₄, h₅, h₆, h₇⟩⟩

/-- A valid constant field has a value, and the value renders. -/
theorem Field.Valid.value_renders {n : Naming.Scheme} {f : Field} (hf : f.Valid n)
    (hc : f.constant = true) : ∃ v e, f.value = some v ∧ Literal.render f v = .ok e := by
  obtain ⟨v, hv⟩ := Option.isSome_iff_exists.mp (hf.constant_iff_value.mp hc)
  obtain ⟨e, he⟩ := hf.constantRenders v hc hv
  exact ⟨v, e, hv, he⟩

namespace TypeDef

theorem name_mem_typeIdents (d : TypeDef) : d.name ∈ d.typeIdents := by
  by_cases h : d.displayName = d.name <;> simp [typeIdents, h]

theorem displayName_mem_typeIdents (d : TypeDef) : d.displayName ∈ d.typeIdents :=
  List.mem_cons_self

/-- The struct fields and builder parameters of a type's fields, in order. -/
def fieldIdents (n : Naming.Scheme) (d : TypeDef) : List String := d.fields.map (n.field ·.name)

/-- The type names a type claims, each owned by the type. -/
def typeClaims (d : TypeDef) : Owners := d.typeIdents.map (·, d.name)

/-- The function names a type claims, each owned by the type. -/
def functionClaims (n : Naming.Scheme) (d : TypeDef) : Owners := (d.functionNames n).map (·, d.name)

/-- The conditions on one type of a valid schema. -/
structure Valid (n : Naming.Scheme) (d : TypeDef) : Prop where
  name : Rust.IsTypeIdent d.name
  display : ∀ display, d.displayTypeName = some display → Rust.IsTypeIdent display
  fields : ∀ f ∈ d.fields, f.Valid n
  fieldIdents : (d.fieldIdents n).Nodup

theorem valid_iff {n : Naming.Scheme} {d : TypeDef} :
    d.Valid n ↔ Rust.IsTypeIdent d.name ∧
      (∀ display, d.displayTypeName = some display → Rust.IsTypeIdent display) ∧
      (∀ f ∈ d.fields, f.Valid n) ∧ (d.fieldIdents n).Nodup :=
  ⟨fun ⟨h₁, h₂, h₃, h₄⟩ => ⟨h₁, h₂, h₃, h₄⟩, fun ⟨h₁, h₂, h₃, h₄⟩ => ⟨h₁, h₂, h₃, h₄⟩⟩

@[simp] theorem typeClaims_names (d : TypeDef) : d.typeClaims.names = d.typeIdents := by
  simp [typeClaims, Owners.names, Function.comp_def]

@[simp] theorem functionClaims_names (n : Naming.Scheme) (d : TypeDef) :
    (d.functionClaims n).names = d.functionNames n := by
  simp [functionClaims, Owners.names, Function.comp_def]

end TypeDef

/-- Every generated function name: the builder, guard and assertion of each type, then the union
guard of each distinct group tag. -/
def Schema.functionNames (s : Schema) (n : Naming.Scheme) : List String :=
  s.definitions.flatMap (·.functionNames n) ++ s.groupTags.map n.unionGuard

/-- The conditions of a valid schema, none of which depends on the order the checks run in. -/
structure Schema.Valid (s : Schema) (n : Naming.Scheme) : Prop where
  nonempty : s.definitions ≠ []
  types : ∀ d ∈ s.definitions, d.Valid n
  /-- The reserved names, then the payload and type names, are pairwise distinct. -/
  typeIdents : (reservedTypeNames ++ s.definitions.flatMap TypeDef.typeIdents).Nodup
  groupTags : ∀ g ∈ s.groupTags, Rust.isIdentifier g = true ∧ g ∉ s.names
  functionNames : (s.functionNames n).Nodup
  functionIdents : ∀ name ∈ s.functionNames n, Rust.IsFunctionIdent name

/-- A run of steps that each claim names, when conditions of their own hold, succeeds exactly
when every step's conditions hold and all the names are distinct from each other and from those
taken before. -/
theorem foldlM_claims_eq_ok {α : Type} {step : Owners → α → Except SchemaError Owners}
    {P : α → Prop} {claims : α → Owners}
    (hstep : ∀ taken a r, taken.names.Nodup →
      (step taken a = .ok r ↔ P a ∧ (taken.names ++ (claims a).names).Nodup ∧
        r = taken ++ claims a)) :
    ∀ (xs : List α) (taken r : Owners), taken.names.Nodup →
      (xs.foldlM step taken = .ok r ↔ (∀ a ∈ xs, P a) ∧
        (taken.names ++ Owners.names (xs.flatMap claims)).Nodup ∧ r = taken ++ xs.flatMap claims)
  | [], taken, r, htaken => by
    simp [htaken]
    exact eq_comm
  | a :: xs, taken, r, htaken => by
    rw [List.foldlM_cons, Except.bind_eq_ok]
    constructor
    · rintro ⟨t, hstep₁, hrest⟩
      obtain ⟨ha, hfresh, rfl⟩ := (hstep taken a t htaken).mp hstep₁
      obtain ⟨hxs, hfresh', rfl⟩ :=
        (foldlM_claims_eq_ok hstep xs _ r (by simpa using hfresh)).mp hrest
      refine ⟨?_, ?_, by simp⟩
      · simpa using ⟨ha, hxs⟩
      · simpa [List.append_assoc] using hfresh'
    · rintro ⟨hall, hfresh, rfl⟩
      have hfresh₁ : (taken.names ++ (claims a).names).Nodup :=
        hfresh.sublist (by simp)
      refine ⟨taken ++ claims a,
        (hstep taken a _ htaken).mpr ⟨hall a (by simp), hfresh₁, rfl⟩, ?_⟩
      refine (foldlM_claims_eq_ok hstep xs _ _ (by simpa using hfresh₁)).mpr
        ⟨fun b hb => hall b (by simp [hb]), by simpa [List.append_assoc] using hfresh, by simp⟩

theorem nodup_append_singleton {names : List String} {x : String} (h : names.Nodup) :
    (names ++ [x]).Nodup ↔ x ∉ names := by
  rw [List.nodup_append]
  constructor
  · rintro ⟨-, -, hfresh⟩ hx
    exact hfresh x hx x (List.mem_singleton_self x) rfl
  · rintro hx
    refine ⟨h, by simp, ?_⟩
    rintro a ha b hb rfl
    exact hx (List.mem_singleton.mp hb ▸ ha)

/-- Claiming names in turn succeeds exactly when they are distinct and free, and records them
last, in order. -/
theorem Owners.claimAll_eq_ok {taken r : Owners} {names : List String} {owner : String}
    (htaken : taken.names.Nodup) :
    taken.claimAll names owner = .ok r ↔
      (taken.names ++ names).Nodup ∧ r = taken ++ names.map (·, owner) := by
  have hstep : ∀ (taken : Owners) name r, taken.names.Nodup →
      (taken.claim name owner = .ok r ↔ True ∧
        (taken.names ++ Owners.names [(name, owner)]).Nodup ∧ r = taken ++ [(name, owner)]) := by
    intro taken name r h
    rw [Owners.claim_eq_ok]
    simp [nodup_append_singleton h]
  rw [Owners.claimAll]
  simpa [Owners.names, Function.comp_def, ← List.map_eq_flatMap] using
    foldlM_claims_eq_ok hstep names taken r htaken

namespace Validate

variable {n : Naming.Scheme}

theorem checkTypeName_eq_ok {role : NameRole} {name : String} {u : Unit} :
    checkTypeName role name = .ok u ↔ Rust.IsTypeIdent name := by
  simp [checkTypeName, Rust.IsTypeIdent]

theorem checkFunctionName_eq_ok {name : String} {u : Unit} :
    checkFunctionName name = .ok u ↔ Rust.IsFunctionIdent name := by
  simp [checkFunctionName, Rust.IsFunctionIdent]

theorem checkLiteral_eq_ok {t what : String} {f : Field} {v : Json} {u : Unit} :
    checkLiteral t f what v = .ok u ↔ ∃ e, Literal.render f v = .ok e := by
  unfold checkLiteral
  split <;> simp_all

theorem checkFieldName_eq_ok {t : String} {f : Field} {u : Unit} :
    checkFieldName n t f = .ok u ↔ f.name ≠ discriminant ∧ Rust.isIdentifier f.name = true ∧
      Rust.isUsable (n.field f.name) = true := by
  simp [checkFieldName]

theorem checkConstantOptional_eq_ok {t : String} {f : Field} {u : Unit} :
    checkConstantOptional t f = .ok u ↔ ¬(f.constant = true ∧ f.optional = true) := by
  simp [checkConstantOptional]

theorem checkValue_eq_ok {t : String} {f : Field} {u : Unit} :
    checkValue t f = .ok u ↔ (f.constant = true ↔ f.value.isSome) ∧
      ∀ v, f.constant = true → f.value = some v → ∃ e, Literal.render f v = .ok e := by
  unfold checkValue
  split
  next hc hv => simp [hc, hv]
  next hc hv => simp [hc, hv]
  next v hc hv => simp [hc, hv, checkLiteral_eq_ok]
  next hc hv => simp [hc, hv]

theorem checkDefault_eq_ok {t : String} {f : Field} {u : Unit} :
    checkDefault t f = .ok u ↔
      ∀ v, f.constant = false → f.defaultValue = some v → ∃ e, Literal.render f v = .ok e := by
  unfold checkDefault
  split
  next v hc hd => simp [hc, hd, checkLiteral_eq_ok]
  next hnot =>
    -- any other pair has no default to check
    simpa using fun v hc hd => (hnot v hc hd).elim

/-- A field passes exactly when it is valid and its identifier is free, which it then takes. -/
theorem checkField_eq_ok {t : String} {taken r : Owners} {f : Field} :
    checkField n t taken f = .ok r ↔ f.Valid n ∧ n.field f.name ∉ taken.names ∧
      r = taken ++ [(n.field f.name, t ++ "." ++ f.name)] := by
  simp only [checkField, Except.bind_eq_ok, checkFieldName_eq_ok, Owners.claim_eq_ok,
    checkConstantOptional_eq_ok, checkValue_eq_ok, checkDefault_eq_ok, Except.pure_eq_ok]
  constructor
  · rintro ⟨-, ⟨hname, hident, husable⟩, _, ⟨hfree, rfl⟩, -, hco, -, ⟨hvalue, hrenders⟩, -,
      hdefault, rfl⟩
    exact ⟨⟨hname, hident, husable, hco, hvalue, hrenders, hdefault⟩, hfree, rfl⟩
  · rintro ⟨hf, hfree, rfl⟩
    exact ⟨(), ⟨hf.notDiscriminant, hf.identifier, hf.usable⟩, _, ⟨hfree, rfl⟩, (),
      hf.notConstantOptional, (), ⟨hf.constant_iff_value, hf.constantRenders⟩, (),
      hf.defaultRenders, rfl⟩

/-- The field checks of a type pass exactly when every field is valid and the field identifiers
are distinct and not taken before. -/
theorem foldlM_checkField_eq_ok {t : String} {fs : List Field} {taken r : Owners}
    (htaken : taken.names.Nodup) :
    fs.foldlM (checkField n t) taken = .ok r ↔ (∀ f ∈ fs, f.Valid n) ∧
      (taken.names ++ fs.map (n.field ·.name)).Nodup ∧
      r = taken ++ fs.map fun f => (n.field f.name, t ++ "." ++ f.name) := by
  have hstep : ∀ (taken : Owners) f r, taken.names.Nodup →
      (checkField n t taken f = .ok r ↔ f.Valid n ∧
        (taken.names ++ Owners.names [(n.field f.name, t ++ "." ++ f.name)]).Nodup ∧
        r = taken ++ [(n.field f.name, t ++ "." ++ f.name)]) := by
    intro taken f r h
    rw [checkField_eq_ok]
    simp [nodup_append_singleton h]
  simpa [Owners.names, Function.comp_def, ← List.map_eq_flatMap] using
    foldlM_claims_eq_ok hstep fs taken r htaken

theorem checkDisplayName_eq_ok {d : TypeDef} {u : Unit} :
    checkDisplayName d = .ok u ↔
      ∀ display, d.displayTypeName = some display → Rust.IsTypeIdent display := by
  unfold checkDisplayName
  split
  next display hd => simp [hd, checkTypeName_eq_ok]
  next hd => simp [hd]

/-- A type passes exactly when it is valid and the type and function names it claims are
distinct and free; it takes them in that order. -/
theorem checkType_eq_ok {types fns : Owners} {d : TypeDef} {r : Owners × Owners}
    (htypes : types.names.Nodup) (hfns : fns.names.Nodup) :
    checkType n (types, fns) d = .ok r ↔ d.Valid n ∧ (types.names ++ d.typeIdents).Nodup ∧
      (fns.names ++ d.functionNames n).Nodup ∧
      r = (types ++ d.typeClaims, fns ++ d.functionClaims n) := by
  have hfields : ∀ r, d.fields.foldlM (checkField n d.name) [] = .ok r ↔ _ := fun r =>
    foldlM_checkField_eq_ok (by simp)
  simp only [checkType, Except.bind_eq_ok, checkTypeName_eq_ok, checkDisplayName_eq_ok,
    Owners.claimAll_eq_ok htypes, Owners.claimAll_eq_ok hfns, hfields, Except.pure_eq_ok]
  constructor
  · rintro ⟨-, hname, -, hdisplay, _, ⟨htypes', rfl⟩, _, ⟨hfns', rfl⟩, _, ⟨hvalid, hidents, -⟩,
      rfl⟩
    have hfieldIdents : (d.fieldIdents n).Nodup := by simpa [TypeDef.fieldIdents] using hidents
    exact ⟨⟨hname, hdisplay, hvalid, hfieldIdents⟩, htypes', hfns', rfl⟩
  · rintro ⟨hd, htypes', hfns', rfl⟩
    exact ⟨(), hd.name, (), hd.display, _, ⟨htypes', rfl⟩, _, ⟨hfns', rfl⟩, _,
      ⟨hd.fields, by simpa [TypeDef.fieldIdents] using hd.fieldIdents, rfl⟩, rfl⟩

/-- The type checks pass exactly when every type is valid and all the type names, and all the
function names, they claim are distinct and free. -/
theorem foldlM_checkType_eq_ok :
    ∀ (ds : List TypeDef) {types fns : Owners} {r : Owners × Owners}, types.names.Nodup →
      fns.names.Nodup →
      (ds.foldlM (checkType n) (types, fns) = .ok r ↔ (∀ d ∈ ds, d.Valid n) ∧
        (types.names ++ ds.flatMap TypeDef.typeIdents).Nodup ∧
        (fns.names ++ ds.flatMap (TypeDef.functionNames n)).Nodup ∧
        r = (types ++ ds.flatMap TypeDef.typeClaims, fns ++ ds.flatMap (TypeDef.functionClaims n)))
  | [], types, fns, r, htypes, hfns => by
    simp [htypes, hfns]
    exact eq_comm
  | d :: ds, types, fns, r, htypes, hfns => by
    rw [List.foldlM_cons, Except.bind_eq_ok]
    constructor
    · rintro ⟨t, hd, hrest⟩
      obtain ⟨hvalid, htypes₁, hfns₁, rfl⟩ := (checkType_eq_ok htypes hfns).mp hd
      obtain ⟨hds, htypes', hfns', rfl⟩ :=
        (foldlM_checkType_eq_ok ds (by simpa using htypes₁) (by simpa using hfns₁)).mp hrest
      refine ⟨?_, ?_, ?_, by simp⟩
      · simpa using ⟨hvalid, hds⟩
      · simpa [List.append_assoc] using htypes'
      · simpa [List.append_assoc] using hfns'
    · rintro ⟨hall, htypes', hfns', rfl⟩
      have htypes₁ : (types.names ++ d.typeIdents).Nodup := htypes'.sublist (by simp)
      have hfns₁ : (fns.names ++ d.functionNames n).Nodup := hfns'.sublist (by simp)
      refine ⟨_, (checkType_eq_ok htypes hfns).mpr ⟨hall d (by simp), htypes₁, hfns₁, rfl⟩, ?_⟩
      refine (foldlM_checkType_eq_ok ds (by simpa using htypes₁) (by simpa using hfns₁)).mpr
        ⟨fun d' hd' => hall d' (by simp [hd']), ?_, ?_, by simp⟩
      · simpa [List.append_assoc] using htypes'
      · simpa [List.append_assoc] using hfns'

/-- A group tag passes exactly when it is an identifier that names no type and its union guard
is free, which it then takes. -/
theorem checkGroup_eq_ok {typeNames : List String} {fns r : Owners} {tag : String} :
    checkGroup n typeNames fns tag = .ok r ↔ (Rust.isIdentifier tag = true ∧ tag ∉ typeNames) ∧
      n.unionGuard tag ∉ fns.names ∧ r = fns ++ [(n.unionGuard tag, "group " ++ tag)] := by
  simp [checkGroup, Owners.claim_eq_ok, and_assoc]

/-- The group checks pass exactly when every tag passes and the union guards are distinct and
free. -/
theorem foldlM_checkGroup_eq_ok {typeNames tags : List String} {fns r : Owners}
    (hfns : fns.names.Nodup) :
    tags.foldlM (checkGroup n typeNames) fns = .ok r ↔
      (∀ g ∈ tags, Rust.isIdentifier g = true ∧ g ∉ typeNames) ∧
      (fns.names ++ tags.map n.unionGuard).Nodup ∧
      r = fns ++ tags.map fun g => (n.unionGuard g, "group " ++ g) := by
  have hstep : ∀ (fns : Owners) tag r, fns.names.Nodup →
      (checkGroup n typeNames fns tag = .ok r ↔
        (Rust.isIdentifier tag = true ∧ tag ∉ typeNames) ∧
        (fns.names ++ Owners.names [(n.unionGuard tag, "group " ++ tag)]).Nodup ∧
        r = fns ++ [(n.unionGuard tag, "group " ++ tag)]) := by
    intro fns tag r h
    rw [checkGroup_eq_ok]
    simp [nodup_append_singleton h]
  simpa [Owners.names, Function.comp_def, ← List.map_eq_flatMap] using
    foldlM_claims_eq_ok hstep tags fns r hfns

end Validate

/-- Every function name claimed in a validation: the builder, guard and assertion of each type,
then the union guard of each distinct group tag, with their owners. -/
def Schema.functionClaims (s : Schema) (n : Naming.Scheme) : Owners :=
  s.definitions.flatMap (TypeDef.functionClaims n) ++
    s.groupTags.map fun g => (n.unionGuard g, "group " ++ g)

@[simp] theorem Schema.functionClaims_names (s : Schema) (n : Naming.Scheme) :
    (s.functionClaims n).names = s.functionNames n := by
  simp only [Schema.functionClaims, Owners.names_append, Owners.names_flatMap,
    TypeDef.functionClaims_names]
  simp [Schema.functionNames, Owners.names, Function.comp_def]

theorem Validate.forM_checkFunctionName_eq_ok (fns : Owners) :
    forM fns (fun p => checkFunctionName p.1) = .ok () ↔
      ∀ name ∈ fns.names, Rust.IsFunctionIdent name := by
  simp [Except.forM_eq_ok, Owners.names, Validate.checkFunctionName_eq_ok]

namespace Schema

variable {s : Schema} {n : Naming.Scheme}

/-- Validation, past the empty check, is the run over the types, then over the group tags,
then over the claimed function names. -/
theorem validate_eq_ok_iff_runs :
    s.validate n = .ok () ↔ s.definitions ≠ [] ∧ (∀ d ∈ s.definitions, d.Valid n) ∧
      (reservedTypeNames ++ s.definitions.flatMap TypeDef.typeIdents).Nodup ∧
      (s.definitions.flatMap (TypeDef.functionNames n)).Nodup ∧
      ∃ fns, s.groupTags.foldlM (Validate.checkGroup n s.names)
          (s.definitions.flatMap (TypeDef.functionClaims n)) = .ok fns ∧
        ∀ name ∈ fns.names, Rust.IsFunctionIdent name := by
  have hreserved : Owners.names (reservedTypeNames.map (·, generatedModule)) =
      reservedTypeNames := by
    simp [Owners.names, Function.comp_def]
  have htypes : ∀ r, s.definitions.foldlM (Validate.checkType n)
      (reservedTypeNames.map (·, generatedModule), []) = .ok r ↔ _ := fun r =>
    Validate.foldlM_checkType_eq_ok s.definitions (by rw [hreserved]; decide) (by simp)
  simp [validate, htypes, hreserved, ← Validate.forM_checkFunctionName_eq_ok, and_assoc]

theorem valid_of_validate_eq_ok (h : s.validate n = .ok ()) : s.Valid n := by
  obtain ⟨hne, hvalid, htypeIdents, hfns, fns, hgroups, hidents⟩ := validate_eq_ok_iff_runs.mp h
  obtain ⟨htags, hnodup, rfl⟩ :=
    (Validate.foldlM_checkGroup_eq_ok (by simpa using hfns)).mp hgroups
  have hclaims : s.definitions.flatMap (TypeDef.functionClaims n) ++
      s.groupTags.map (fun g => (n.unionGuard g, "group " ++ g)) = s.functionClaims n := rfl
  rw [hclaims, functionClaims_names] at hidents
  exact ⟨hne, hvalid, htypeIdents, htags, by simpa [functionNames] using hnodup, hidents⟩

theorem validate_eq_ok_of_valid (h : s.Valid n) : s.validate n = .ok () := by
  have hfns : (s.definitions.flatMap (TypeDef.functionNames n)).Nodup :=
    h.functionNames.sublist (by simp [functionNames])
  refine validate_eq_ok_iff_runs.mpr ⟨h.nonempty, h.types, h.typeIdents, hfns, _,
    (Validate.foldlM_checkGroup_eq_ok (by simpa using hfns)).mpr
      ⟨h.groupTags, by simpa [functionNames] using h.functionNames, rfl⟩, ?_⟩
  have hclaims : s.definitions.flatMap (TypeDef.functionClaims n) ++
      s.groupTags.map (fun g => (n.unionGuard g, "group " ++ g)) = s.functionClaims n := rfl
  rw [hclaims, functionClaims_names]
  exact h.functionIdents

/-- Validation succeeds exactly when the schema is valid: the order in which the checks run
decides which error is reported, never whether there is one. -/
theorem validate_ok_iff_valid (s : Schema) (n : Naming.Scheme) :
    s.validate n = .ok () ↔ s.Valid n :=
  ⟨valid_of_validate_eq_ok, validate_eq_ok_of_valid⟩

end Schema

end NodeKit
