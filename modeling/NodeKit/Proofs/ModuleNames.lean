import NodeKit.Generate
import NodeKit.Proofs.Validation

/-! The names a generated module declares, and when two of them are the same Rust identifier.
Validation claims names as strings, while Rust compares identifiers with a leading `r#` set aside,
and the module calls the prelude values `Some`, `None`, `Ok` and `Err` unqualified. For a schema
that validates, the union guards are one per distinct group tag, the type names and the fields of
each type are distinct, and so are the guards, union guards and assertions, which begin with
`is_` or `assert_`. A builder is the one name validation does not pin down: its prefix is any
string, so with the prefix `r#is_` the builder of `Foo` is the guard `is_foo`, and with `Som` the
builder of `E` is `Some`. `module_functions_distinct_iff_builders_clear` shows that the
functions clash exactly when a builder does. -/

namespace NodeKit

/-- The prelude values a module names unqualified: `Some` in default lines, `Ok` and `Err` in
assertions, and `None`. -/
def Rust.preludeValues : List String := ["Some", "None", "Ok", "Err"]

namespace Rust

theorem hash_not_mem_keyword : ∀ k ∈ keywords, '#' ∉ k.toList := by decide

theorem unraw_of_toList {name : String} {rest : List Char}
    (h : name.toList = 'r' :: '#' :: rest) : unraw name = String.ofList rest := by
  simp [unraw, h]

theorem unraw_of_not_raw {name : String} (h : ∀ rest, name.toList ≠ 'r' :: '#' :: rest) :
    unraw name = name := by
  unfold unraw
  split
  · rename_i rest heq
    exact absurd heq (h rest)
  · rfl

theorem unraw_raw (name : String) : unraw ("r#" ++ name) = name := by
  have hraw : ("r#" ++ name).toList = 'r' :: '#' :: name.toList := by simp [String.toList_append]
  rw [unraw_of_toList hraw, String.ofList_toList]

theorem unraw_of_hash_not_mem {name : String} (h : '#' ∉ name.toList) : unraw name = name :=
  unraw_of_not_raw fun rest hraw => by simp [hraw] at h

/-- Setting aside `r#` commutes with appending a name without `#`. -/
theorem unraw_append (p s : String) (hs : '#' ∉ s.toList) : unraw (p ++ s) = unraw p ++ s := by
  by_cases hp : ∃ rest, p.toList = 'r' :: '#' :: rest
  · obtain ⟨rest, hrest⟩ := hp
    have hraw : (p ++ s).toList = 'r' :: '#' :: (rest ++ s.toList) := by
      simp [String.toList_append, hrest]
    rw [unraw_of_toList hraw, unraw_of_toList hrest, String.ofList_append, String.ofList_toList]
  · rw [unraw_of_not_raw fun rest h => hp ⟨rest, h⟩]
    apply unraw_of_not_raw
    intro rest hraw
    rw [String.toList_append] at hraw
    rcases hcs : p.toList with _ | ⟨c, _ | ⟨d, cs⟩⟩
    · rw [hcs, List.nil_append] at hraw
      simp [hraw] at hs
    · rw [hcs, List.singleton_append, List.cons.injEq] at hraw
      simp [hraw.2] at hs
    · rw [hcs, List.cons_append, List.cons_append, List.cons.injEq, List.cons.injEq] at hraw
      rw [hraw.1, hraw.2.1] at hcs
      exact hp ⟨cs, hcs⟩

/-- A name escaped as a keyword reads back as itself once `r#` is set aside, so the escape of a
name without `#` after a prefix reads as the prefix, read the same way, and the name. -/
theorem unraw_escapeKeyword_append (p s : String) (hs : '#' ∉ s.toList) :
    unraw (escapeKeyword (p ++ s)) = unraw p ++ s := by
  unfold escapeKeyword
  split
  · rename_i hescape
    have hkeyword : p ++ s ∈ keywords := by
      simpa [isKeyword] using (Bool.and_eq_true _ _).mp hescape |>.1
    have hp : '#' ∉ p.toList := fun h =>
      hash_not_mem_keyword _ hkeyword (by simp [String.toList_append, h])
    rw [unraw_raw, unraw_of_hash_not_mem hp]
  · exact unraw_append p s hs

theorem hash_not_mem_of_isIdentifier {name : String} (h : isIdentifier name = true) :
    '#' ∉ name.toList := by
  unfold isIdentifier at h
  rcases hcs : name.toList with _ | ⟨c, rest⟩
  · simp
  · rw [hcs] at h
    simp only [isIdentChars, Bool.and_eq_true, List.all_eq_true] at h
    rintro (_ | ⟨_, hrest⟩)
    · simp [isIdentStart] at h
    · simpa [isIdentRest] using h.2 '#' hrest

/-- Names that begin with `is_` or `assert_` are never raw and are no prelude value. -/
theorem prefixed_clear {w : String} (hw : w ∈ ["is_", "assert_"]) (x : String) :
    unraw (w ++ x) = w ++ x ∧ w ++ x ∉ preludeValues := by
  simp only [List.mem_cons, List.not_mem_nil, or_false] at hw
  rcases hw with rfl | rfl <;>
    refine ⟨unraw_of_not_raw fun rest h => by simp [String.toList_append] at h, fun h => ?_⟩ <;>
    simp only [preludeValues, List.mem_cons, List.not_mem_nil, or_false] at h <;>
    rcases h with h | h | h | h <;>
    simpa [String.toList_append] using congrArg String.toList h

end Rust

namespace Naming

theorem eq_hash_of_toLower {c : Char} (h : c.toLower = '#') : c = '#' := by
  unfold Char.toLower at h
  split at h
  · rename_i hupper
    have hval := congrArg (fun c : Char => c.val.toNat) h
    have hA : 'A'.val.toNat = 65 := rfl
    have hZ : 'Z'.val.toNat = 90 := rfl
    have hc : c.val.toNat = c.toNat := rfl
    simp only [UInt32.le_iff_toNat_le, ge_iff_le, hA, hZ, hc] at hupper
    simp [UInt32.toNat_add] at hval
    omega
  · exact h

theorem hash_not_mem_snakeChars {cs : List Char} (h : '#' ∉ cs) (prev : Option Char) :
    '#' ∉ snakeChars prev cs := by
  induction cs generalizing prev with
  | nil => simp [snakeChars]
  | cons c rest ih =>
    simp only [List.mem_cons, not_or] at h
    have hlower : '#' ≠ c.toLower := fun e => h.1 (eq_hash_of_toLower e.symm).symm
    unfold snakeChars
    split
    · split <;> simp [hlower, ih h.2]
    · simp [h.1, ih h.2]

theorem hash_not_mem_snakeCase {name : String} (h : Rust.isIdentifier name = true) :
    '#' ∉ (snakeCase name).toList := by
  rw [snakeCase, String.toList_ofList]
  exact hash_not_mem_snakeChars (Rust.hash_not_mem_of_isIdentifier h) none

namespace Scheme

variable (n : Scheme) {name : String}

/-- The builder of a type, as a Rust identifier, is the prefix so read followed by the snake case
of the type. -/
theorem unraw_builder (h : Rust.isIdentifier name = true) :
    Rust.unraw (n.builder name) = Rust.unraw n.builderPrefix ++ snakeCase name :=
  Rust.unraw_escapeKeyword_append _ _ (hash_not_mem_snakeCase h)

theorem unraw_field (h : Rust.isIdentifier name = true) :
    Rust.unraw (n.field name) = snakeCase name := by
  have hempty : Rust.unraw "" = "" := by decide
  simpa [field, hempty] using Rust.unraw_escapeKeyword_append "" _ (hash_not_mem_snakeCase h)

theorem builder_eq_of_unraw {a b : String} (ha : Rust.isIdentifier a = true)
    (hb : Rust.isIdentifier b = true) (h : Rust.unraw (n.builder a) = Rust.unraw (n.builder b)) :
    n.builder a = n.builder b := by
  rw [unraw_builder n ha, unraw_builder n hb] at h
  have hsnake : snakeCase a = snakeCase b := (String.append_right_inj _).mp h
  simp only [builder, hsnake]

end Scheme

end Naming

/-- One step of collecting the distinct group tags of a schema: a tag seen before is skipped, a
new one goes last. -/
def Schema.collectTag (seen : List String) (t : String) : List String :=
  if seen.contains t then seen else seen ++ [t]

theorem GroupIndex.add_tags (g : GroupIndex) (tag name : String) :
    (g.add tag name).groups.map Prod.fst = Schema.collectTag (g.groups.map Prod.fst) tag := by
  obtain ⟨groups⟩ := g
  simp only [GroupIndex.add, Schema.collectTag]
  induction groups with
  | nil => simp [GroupIndex.add.go]
  | cons p rest ih =>
    obtain ⟨t, members⟩ := p
    by_cases ht : t = tag
    · subst ht
      simp [GroupIndex.add.go]
    · have htag : (tag == t) = false := beq_false_of_ne (Ne.symm ht)
      simp only [GroupIndex.add.go, ht, if_false, List.map_cons, ih, List.contains_cons, htag,
        Bool.false_or]
      split <;> rfl

theorem GroupIndex.foldl_add_tags (name : String) (tags : List String) (g : GroupIndex) :
    (tags.foldl (fun g tag => g.add tag name) g).groups.map Prod.fst =
      tags.foldl Schema.collectTag (g.groups.map Prod.fst) := by
  induction tags generalizing g with
  | nil => rfl
  | cons tag tags ih => rw [List.foldl_cons, List.foldl_cons, ih, add_tags]

/-- The groups of a schema are its distinct group tags, in order of first appearance. -/
theorem GroupIndex.ofSchema_tags (s : Schema) :
    (GroupIndex.ofSchema s).groups.map Prod.fst = s.groupTags := by
  have hdefs : ∀ (defs : List TypeDef) (g : GroupIndex),
      (defs.foldl (fun g d => d.groupTags.foldl (fun g tag => g.add tag d.name) g) g).groups.map
          Prod.fst =
        (defs.flatMap (·.groupTags)).foldl Schema.collectTag (g.groups.map Prod.fst) := by
    intro defs
    induction defs with
    | nil => intro g; rfl
    | cons d defs ih =>
      intro g
      rw [List.foldl_cons, ih, foldl_add_tags, List.flatMap_cons, List.foldl_append]
  exact hdefs s.definitions ⟨[]⟩

theorem perm_flatMap_triple {α β : Type} [DecidableEq β] (f g h : α → β) :
    ∀ l : List α, (l.flatMap fun x => [f x, g x, h x]).Perm (l.map f ++ l.map g ++ l.map h)
  | [] => .nil
  | x :: l => by
    have ih := perm_flatMap_triple f g h l
    rw [List.perm_iff_count] at ih ⊢
    intro a
    have := ih a
    simp only [List.flatMap_cons, List.map_cons, List.count_append, List.count_cons] at this ⊢
    simp at this ⊢
    omega

/-- The top-level functions of a module, in the order it declares them: the builder of each type,
the guard of each type, the union guard of each group and the assertion of each type. -/
def Rust.Module.functionNames (n : Naming.Scheme) (s : Schema) (g : GroupIndex) : List String :=
  s.definitions.map (n.builder ·.name) ++ s.definitions.map (n.guard ·.name) ++
    g.groups.map (n.unionGuard ·.1) ++ s.definitions.map (n.assertion ·.name)

/-- Functions that are pairwise distinct Rust identifiers, none of them a prelude value. -/
structure Rust.Module.FunctionsDistinct (names : List String) : Prop where
  nodup : (names.map Rust.unraw).Nodup
  notPrelude : ∀ name ∈ names, Rust.unraw name ∉ Rust.preludeValues

namespace Schema

variable (s : Schema) (n : Naming.Scheme)

/-- The builders of the types, in schema order. -/
def builderNames : List String := s.definitions.map (n.builder ·.name)

/-- The functions of a module other than builders: the guards, the union guards of the distinct
group tags and the assertions. -/
def otherFunctionNames : List String :=
  s.definitions.map (n.guard ·.name) ++ s.groupTags.map n.unionGuard ++
    s.definitions.map (n.assertion ·.name)

/-- No builder, read as a Rust identifier, is a prelude value or another function of the
module. -/
def BuildersClear : Prop :=
  ∀ b ∈ s.builderNames n, Rust.unraw b ∉ Rust.preludeValues ++ s.otherFunctionNames n

/-- The names of the types in a module: the variants of `Node` are distinct, the payload structs
are distinct from each other and from `Node` and `TypeMismatch`, and no variant or payload takes
a reserved name. -/
structure TypeNamesDistinct : Prop where
  variants : (s.definitions.map (·.name)).Nodup
  payloads : ("Node" :: "TypeMismatch" :: s.definitions.map (·.displayName)).Nodup
  notReserved : ∀ d ∈ s.definitions,
    d.name ∉ reservedTypeNames ∧ d.displayName ∉ reservedTypeNames

/-- Within each payload struct, and among each builder's parameters, the fields are distinct Rust
identifiers. -/
def FieldIdentsDistinct : Prop :=
  ∀ d ∈ s.definitions, ((d.fieldIdents n).map Rust.unraw).Nodup ∧
    ((d.plan.params.map fun p => n.field p.field.name).map Rust.unraw).Nodup

theorem functionNames_ofSchema :
    Rust.Module.functionNames n s (.ofSchema s) = s.builderNames n ++ s.otherFunctionNames n := by
  rw [otherFunctionNames, ← GroupIndex.ofSchema_tags, List.map_map]
  simp only [Rust.Module.functionNames, builderNames, List.append_assoc]
  rfl

/-- The functions of a module are the names validation claims, in another order. -/
theorem perm_functionNames :
    (s.builderNames n ++ s.otherFunctionNames n).Perm (s.functionNames n) := by
  have htypes := perm_flatMap_triple (n.builder ·.name) (n.guard ·.name) (n.assertion ·.name)
    s.definitions
  have hgroups : (s.builderNames n ++ s.otherFunctionNames n).Perm
      (s.builderNames n ++ s.definitions.map (n.guard ·.name) ++
        s.definitions.map (n.assertion ·.name) ++ s.groupTags.map n.unionGuard) := by
    simp only [otherFunctionNames, List.append_assoc]
    exact (List.perm_append_comm.append_left _).append_left _
  exact hgroups.trans (htypes.symm.append_right _)

variable {s n}

theorem otherFunctionNames_clear {name : String} (h : name ∈ s.otherFunctionNames n) :
    Rust.unraw name = name ∧ name ∉ Rust.preludeValues := by
  simp only [otherFunctionNames, List.mem_append, List.mem_map] at h
  rcases h with (⟨d, _, rfl⟩ | ⟨g, _, rfl⟩) | ⟨d, _, rfl⟩
  · exact Rust.prefixed_clear (by simp) _
  · exact Rust.prefixed_clear (by simp) _
  · exact Rust.prefixed_clear (by simp) _

theorem Valid.builder_eq_of_unraw (hs : s.Valid n) {a b : String} (ha : a ∈ s.builderNames n)
    (hb : b ∈ s.builderNames n) (h : Rust.unraw a = Rust.unraw b) : a = b := by
  obtain ⟨d, hd, rfl⟩ := List.mem_map.mp ha
  obtain ⟨e, he, rfl⟩ := List.mem_map.mp hb
  exact n.builder_eq_of_unraw (hs.types d hd).name.1 (hs.types e he).name.1 h

theorem Valid.functionNames_nodup (hs : s.Valid n) :
    (s.builderNames n ++ s.otherFunctionNames n).Nodup :=
  (s.perm_functionNames n).nodup_iff.mpr hs.functionNames

/-- In a valid schema the only clashes left among the functions are those of builders. -/
theorem Valid.functionsDistinct_iff (hs : s.Valid n) :
    Rust.Module.FunctionsDistinct (s.builderNames n ++ s.otherFunctionNames n) ↔
      s.BuildersClear n := by
  constructor
  · intro h b hb hmem
    rcases List.mem_append.mp hmem with hprelude | hother
    · exact h.notPrelude b (List.mem_append_left _ hb) hprelude
    · have hfree := h.nodup
      rw [List.map_append, List.nodup_append] at hfree
      have hself := (otherFunctionNames_clear hother).1
      exact hfree.2.2 _ (List.mem_map_of_mem hb) _ (List.mem_map.mpr ⟨_, hother, hself⟩) rfl
  · intro hclear
    obtain ⟨hbuilders, hothers, -⟩ := List.nodup_append.mp hs.functionNames_nodup
    have hothers_map : (s.otherFunctionNames n).map Rust.unraw = s.otherFunctionNames n :=
      (List.map_congr_left fun _ ho => (otherFunctionNames_clear ho).1).trans (List.map_id _)
    refine ⟨?_, ?_⟩
    · rw [List.map_append, List.nodup_append, hothers_map]
      refine ⟨nodup_map_of_injOn (fun a ha b hb h => hs.builder_eq_of_unraw ha hb h) hbuilders,
        hothers, ?_⟩
      rintro _ hx o ho rfl
      obtain ⟨b, hb, rfl⟩ := List.mem_map.mp hx
      exact hclear b hb (List.mem_append_right _ ho)
    · intro name hname
      rcases List.mem_append.mp hname with hb | ho
      · exact fun hp => hclear name hb (List.mem_append_left _ hp)
      · rw [(otherFunctionNames_clear ho).1]
        exact (otherFunctionNames_clear ho).2

theorem Valid.typeNamesDistinct (hs : s.Valid n) : s.TypeNamesDistinct := by
  obtain ⟨-, hidents, hreserved⟩ := List.nodup_append.mp hs.typeIdents
  obtain ⟨-, hpairwise⟩ := List.pairwise_flatMap.mp hidents
  have hfree : ∀ d ∈ s.definitions, ∀ x ∈ d.typeIdents, x ∉ reservedTypeNames :=
    fun d hd x hx hr => hreserved x hr x (List.mem_flatMap.mpr ⟨d, hd, hx⟩) rfl
  have hdistinct : ∀ f : TypeDef → String, (∀ d, f d ∈ d.typeIdents) →
      (s.definitions.map f).Nodup := fun f hf => by
    rw [List.Nodup, List.pairwise_map]
    exact hpairwise.imp fun {a b} hab => hab _ (hf a) _ (hf b)
  have hnode : ∀ r ∈ ["Node", "TypeMismatch"], r ∉ s.definitions.map (·.displayName) := by
    rintro r hr hmem
    obtain ⟨d, hd, rfl⟩ := List.mem_map.mp hmem
    have hsub : ["Node", "TypeMismatch"] ⊆ reservedTypeNames := by decide
    exact hfree d hd _ d.displayName_mem_typeIdents (hsub hr)
  refine ⟨hdistinct _ TypeDef.name_mem_typeIdents, ?_, fun d hd =>
    ⟨hfree d hd _ d.name_mem_typeIdents, hfree d hd _ d.displayName_mem_typeIdents⟩⟩
  refine List.nodup_cons.mpr
    ⟨?_, List.nodup_cons.mpr ⟨hnode _ (by simp), hdistinct _ TypeDef.displayName_mem_typeIdents⟩⟩
  intro hmem
  rcases List.mem_cons.mp hmem with h | h
  · exact absurd h (by decide)
  · exact hnode _ (by simp) h

theorem Valid.fieldIdentsDistinct (hs : s.Valid n) : s.FieldIdentsDistinct n := by
  intro d hd
  have hvalid := hs.types d hd
  have hsnake : (d.fieldIdents n).map Rust.unraw = d.fields.map (Naming.snakeCase ·.name) := by
    rw [TypeDef.fieldIdents, List.map_map]
    refine List.map_congr_left fun f hf => ?_
    rw [Function.comp_apply]
    exact n.unraw_field (hvalid.fields f hf).identifier
  have hnodup : ((d.fieldIdents n).map Rust.unraw).Nodup := by
    have hescape : d.fieldIdents n =
        (d.fields.map (Naming.snakeCase ·.name)).map Rust.escapeKeyword := by
      simp [TypeDef.fieldIdents, List.map_map, Function.comp_def, Naming.Scheme.field]
    have hidents := hvalid.fieldIdents
    rw [hescape] at hidents
    rw [hsnake]
    exact nodup_of_nodup_map hidents
  refine ⟨hnodup, hnodup.sublist ?_⟩
  simp only [TypeDef.plan, TypeDef.params, TypeDef.fieldIdents, TypeDef.nonConstantFields,
    List.map_map, Function.comp_def]
  exact (List.filter_sublist).map _

end Schema

/-- For a schema that validates, the union guards of its module are one per distinct group tag,
its type names and the fields of each type are distinct, and its functions are distinct Rust
identifiers that are no prelude value exactly when no builder, with a leading `r#` set aside, is
a prelude value, a guard, a union guard or an assertion. -/
theorem module_functions_distinct_iff_builders_clear (s : Schema) (n : Naming.Scheme)
    (hv : s.validate n = .ok ()) :
    (GroupIndex.ofSchema s).groups.map Prod.fst = s.groupTags ∧ s.TypeNamesDistinct ∧
      s.FieldIdentsDistinct n ∧
      (Rust.Module.FunctionsDistinct (Rust.Module.functionNames n s (.ofSchema s)) ↔
        s.BuildersClear n) := by
  have hs := Schema.valid_of_validate_eq_ok hv
  refine ⟨GroupIndex.ofSchema_tags s, hs.typeNamesDistinct, hs.fieldIdentsDistinct, ?_⟩
  rw [Schema.functionNames_ofSchema]
  exact hs.functionsDistinct_iff

/-- The module of a schema of one type `Call` with the plain naming scheme declares distinct
functions. -/
theorem call_module_functions_distinct :
    Schema.validate ⟨[{ name := "Call" }]⟩ {} = .ok () ∧
      Rust.Module.FunctionsDistinct (Rust.Module.functionNames {} ⟨[{ name := "Call" }]⟩
        (.ofSchema ⟨[{ name := "Call" }]⟩)) := by
  have hv : Schema.validate ⟨[{ name := "Call" }]⟩ {} = .ok () := rfl
  refine ⟨hv, (module_functions_distinct_iff_builders_clear _ _ hv).2.2.2.mpr ?_⟩
  unfold Schema.BuildersClear
  decide

/-- With the builder prefix `r#is_`, a schema of one type `Foo` validates, yet its builder
`r#is_foo` is the Rust identifier of its guard `is_foo`. -/
theorem raw_prefix_builder_is_guard :
    Schema.validate ⟨[{ name := "Foo" }]⟩ { builderPrefix := "r#is_" } = .ok () ∧
      ¬Rust.Module.FunctionsDistinct (Rust.Module.functionNames { builderPrefix := "r#is_" }
        ⟨[{ name := "Foo" }]⟩ (.ofSchema ⟨[{ name := "Foo" }]⟩)) :=
  ⟨rfl, fun h => absurd h.nodup (by decide)⟩

end NodeKit
