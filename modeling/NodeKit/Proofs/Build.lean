import NodeKit.Builder
import NodeKit.Proofs.Validation

/-! What building a node from JSON arguments reports. `Schema.buildError` reads the outcome off
the schema alone: an unknown type; else the first argument, in the order given, that names no
non-constant field; else the first non-constant field, in declaration order, whose argument fails
its check, where the argument is the one given under the field's name (a null included), else
the field's default. The builder works from plans instead: its parameters, its list of checks,
and defaults looked up by parameter name. `errorOf_build` shows the two agree for every schema a
builder accepts; validation matters because defaults are looked up by name, and it makes the
field names of a type distinct. -/

namespace NodeKit

/-- The argument a field gets: the one given under its name, a null included, else its
default. -/
def Field.resolvedArgument (f : Field) (args : List (String × Json)) : Option Json :=
  (Json.lookup args f.name).or f.defaultValue

/-- The expected and the actual kind when the argument `r` of the field fails its check. Only
array fields and fields of kind string, number or boolean are checked, and an optional or
nullable field lets an absent or null argument through; otherwise an array field needs an array
and any other checked field a value of its kind. The actual kind of an absent argument is
`undefined`. -/
def Field.argumentMismatch (f : Field) (r : Option Json) : Option (String × String) :=
  let actual := (r.map Json.typeName).getD "undefined"
  if f.mayBeAbsent && (r.map Json.isNull).getD true then none
  else if f.array then if actual = "array" then none else some ("array", actual)
  else if f.kind.isPrimitive then
    if actual = f.kind.name then none else some (f.kind.name, actual)
  else none

/-- The error of building a node of type `t` from `args`, if any, as the schema decides it. -/
def Schema.buildError (s : Schema) (t : String) (args : List (String × Json)) :
    Option BuildError :=
  match s.get? t with
  | none => some (.unknownType t)
  | some d =>
    match args.find? (fun a => a.1 ∉ d.nonConstantFields.map (·.name)) with
    | some (k, _) => some (.unknownArgument t k)
    | none => d.nonConstantFields.findSome? fun f =>
        (f.argumentMismatch (f.resolvedArgument args)).map fun (e, a) =>
          .argumentMismatch t f.name e a

@[simp] theorem TypeDef.plan_typeName (d : TypeDef) : d.plan.typeName = d.name := rfl

/-- Searching the images of a `filterMap` is searching the list itself, with a function that
agrees with the composite on its members. -/
theorem findSome?_filterMap_of_forall {α β γ : Type} {g : α → Option β}
    {h : β → Option γ} {k : α → Option γ} :
    ∀ (l : List α), (∀ a ∈ l, (g a).bind h = k a) →
      (l.filterMap g).findSome? h = l.findSome? k
  | [], _ => rfl
  | a :: l, hk => by
    have ih := findSome?_filterMap_of_forall l fun b hb => hk b (by simp [hb])
    have ha := hk a (by simp)
    rw [List.filterMap_cons, List.findSome?_cons]
    cases hga : g a with
    | none =>
      rw [hga, Option.bind_none] at ha
      rw [← ha]
      exact ih
    | some b =>
      rw [hga, Option.bind_some] at ha
      rw [List.findSome?_cons, ha, ih]

theorem Field.check?_eq_none {f : Field} :
    f.check? = none ↔ f.array = false ∧ f.kind.isPrimitive = false := by
  unfold Field.check?
  cases f.array <;> cases f.kind.isPrimitive <;> simp

namespace Builder

theorem isAbsent_eq (r : Option Json) : isAbsent r = (r.map Json.isNull).getD true := by
  rcases r with _ | ⟨_ | _ | _ | _ | _ | _⟩ <;> rfl

theorem kindName_eq (r : Option Json) : kindName r = (r.map Json.typeName).getD "undefined" := by
  cases r <;> rfl

theorem hasKind_eq {k : ValueKind} (hk : k.isPrimitive = true) (v : Json) :
    hasKind v k = decide (v.typeName = k.name) := by
  cases k <;> simp [ValueKind.isPrimitive] at hk <;> rfl

/-- An argument passes a check exactly when its kind is the one the check expects. -/
theorem passes_eq {f : Field} {c : Check} (hc : f.check? = some c) (r : Option Json) :
    passes c r = decide (kindName r = expected c) := by
  unfold Field.check? at hc
  by_cases harray : f.array = true
  · obtain rfl : c = .sequence := by simpa [harray, eq_comm] using hc
    rcases r with _ | ⟨_ | _ | _ | _ | _ | _⟩ <;> rfl
  · have hprimitive : f.kind.isPrimitive = true := by
      cases h : f.kind.isPrimitive <;> simp_all
    obtain rfl : c = .primitive f.kind := by simpa [harray, hprimitive, eq_comm] using hc
    -- no primitive kind is named `undefined`
    have hdefined : f.kind.name ≠ "undefined" := by
      cases h : f.kind <;> simp_all [ValueKind.isPrimitive, ValueKind.name]
    cases r with
    | none => simp [passes, kindName, expected, Ne.symm hdefined]
    | some v => exact hasKind_eq hprimitive v

/-- The mismatch of a checked field: none for an absent argument the field lets through, else
the expected and actual kinds when they differ. -/
theorem argumentMismatch_eq {f : Field} {c : Check} (hc : f.check? = some c) (r : Option Json) :
    f.argumentMismatch r = if f.mayBeAbsent && isAbsent r then none
      else if kindName r = expected c then none else some (expected c, kindName r) := by
  unfold Field.argumentMismatch
  dsimp only
  rw [← isAbsent_eq, ← kindName_eq]
  unfold Field.check? at hc
  by_cases harray : f.array = true
  · obtain rfl : c = .sequence := by simpa [harray, eq_comm] using hc
    rw [if_pos harray]
    rfl
  · have hprimitive : f.kind.isPrimitive = true := by
      cases h : f.kind.isPrimitive <;> simp_all
    obtain rfl : c = .primitive f.kind := by simpa [harray, hprimitive, eq_comm] using hc
    rw [if_neg harray, if_pos hprimitive]
    rfl

/-- A check fails exactly when its field's argument fails it, naming the plan's type. -/
theorem errorOf_runCheck (plan : Plan) (args : List (String × Json)) {f : Field} {c : Check}
    (hc : f.check? = some c) :
    errorOf (runCheck plan args ⟨f, c, f.mayBeAbsent⟩) =
      (f.argumentMismatch (resolve plan args f.name)).map fun (e, a) =>
        .argumentMismatch plan.typeName f.name e a := by
  unfold runCheck
  dsimp only
  rw [argumentMismatch_eq hc]
  generalize resolve plan args f.name = r
  by_cases hskip : (f.mayBeAbsent && isAbsent r) = true
  · rw [if_pos hskip, if_pos hskip]
    rfl
  · rw [if_neg hskip, if_neg hskip, passes_eq hc]
    by_cases hkind : kindName r = expected c
    · rw [if_pos (decide_eq_true hkind), if_pos hkind]
      rfl
    · rw [if_neg (by simpa using hkind), if_neg hkind]
      rfl

theorem new?_eq_ok {s : Schema} {b : Builder} :
    Builder.new? s = .ok b ↔ s.validate {} = .ok () ∧
      b = { plans := s.definitions.map (·.plan), groups := GroupIndex.ofSchema s } := by
  simp only [Builder.new?, Except.bind_eq_ok, Except.pure_eq_ok]
  constructor
  · rintro ⟨⟨⟩, hvalid, rfl⟩
    exact ⟨hvalid, rfl⟩
  · rintro ⟨hvalid, rfl⟩
    exact ⟨(), hvalid, rfl⟩

theorem plan?_ofSchema (s : Schema) (g : GroupIndex) (t : String) :
    ({ plans := s.definitions.map (·.plan), groups := g } : Builder).plan? t =
      (s.get? t).map TypeDef.plan := by
  simp only [Builder.plan?, Schema.get?, List.find?_map, Function.comp_def,
    TypeDef.plan_typeName]
  rfl

end Builder

theorem TypeDef.Valid.fieldNames_nodup {n : Naming.Scheme} {d : TypeDef} (hd : d.Valid n) :
    (d.fields.map (·.name)).Nodup := by
  have hidents : ((d.fields.map (·.name)).map n.field).Nodup := by
    simpa [List.map_map, Function.comp_def, TypeDef.fieldIdents] using hd.fieldIdents
  exact nodup_of_nodup_map hidents

theorem TypeDef.Valid.nonConstantFields_nodup {n : Naming.Scheme} {d : TypeDef}
    (hd : d.Valid n) : (d.nonConstantFields.map (·.name)).Nodup :=
  hd.fieldNames_nodup.sublist ((List.filter_sublist).map _)

namespace TypeDef

variable {d : TypeDef}

theorem params_any_name (k : String) :
    (d.plan.params.any fun p => p.field.name = k) = true ↔
      k ∈ d.nonConstantFields.map (·.name) := by
  simp [TypeDef.plan, TypeDef.params, List.any_map, Function.comp_def]

/-- When the field names are distinct, a parameter's argument resolves to its own default. -/
theorem resolve_plan (hnodup : (d.nonConstantFields.map (·.name)).Nodup) {f : Field}
    (hf : f ∈ d.nonConstantFields) (args : List (String × Json)) :
    Builder.resolve d.plan args f.name = f.resolvedArgument args := by
  have hfirst : d.nonConstantFields.find? (·.name = f.name) = some f := by
    obtain ⟨g, hg⟩ := Option.isSome_iff_exists.mp
      ((List.find?_isSome (p := fun g : Field => g.name = f.name)).mpr ⟨f, hf, by simp⟩)
    have hname : g.name = f.name := by simpa using List.find?_some hg
    rw [hg, eq_of_nodup_map hnodup (List.mem_of_find?_eq_some hg) hf hname]
  have hparam : d.plan.params.find? (·.field.name = f.name) = some ⟨f, f.defaultValue⟩ := by
    simp only [TypeDef.plan, TypeDef.params, List.find?_map, Function.comp_def, hfirst,
      Option.map_some]
  unfold Builder.resolve Field.resolvedArgument
  cases Json.lookup args f.name <;> simp [hparam]

/-- The checks of a type with distinct field names fail at its first non-constant field whose
argument fails, in declaration order. -/
theorem errorOf_checks (hnodup : (d.nonConstantFields.map (·.name)).Nodup)
    (args : List (String × Json)) :
    errorOf (forM d.plan.checks (Builder.runCheck d.plan args)) =
      d.nonConstantFields.findSome? fun f =>
        (f.argumentMismatch (f.resolvedArgument args)).map fun (e, a) =>
          .argumentMismatch d.name f.name e a := by
  rw [errorOf_forM]
  refine findSome?_filterMap_of_forall _ fun f hf => ?_
  cases hc : f.check? with
  | none =>
    obtain ⟨harray, hprimitive⟩ := Field.check?_eq_none.mp hc
    simp [Field.argumentMismatch, harray, hprimitive]
  | some c =>
    rw [Option.map_some, Option.bind_some, Builder.errorOf_runCheck d.plan args hc,
      resolve_plan hnodup hf]
    rfl

end TypeDef

/-- Building a node from a builder of a schema reports exactly the error the schema decides: an
unknown type; else the first argument that names no non-constant field; else the first
non-constant field, in declaration order, that is an array or of kind string, number or boolean
and whose argument (the one given, a null included, else the default) fails its check. -/
theorem errorOf_build {s : Schema} {b : Builder} (hb : Builder.new? s = .ok b) (t : String)
    (args : List (String × Json)) : errorOf (b.build t args) = s.buildError t args := by
  obtain ⟨hvalid, rfl⟩ := Builder.new?_eq_ok.mp hb
  have hs := Schema.valid_of_validate_eq_ok hvalid
  unfold Builder.build Schema.buildError
  rw [Builder.plan?_ofSchema]
  cases hd : s.get? t with
  | none => rfl
  | some d =>
    have hnodup := (hs.types d (List.mem_of_find?_eq_some hd)).nonConstantFields_nodup
    have hunknown : (args.find? fun a => !d.plan.params.any (·.field.name = a.1)) =
        args.find? fun a => a.1 ∉ d.nonConstantFields.map (·.name) := by
      congr 1
      funext a
      have hany := TypeDef.params_any_name (d := d) a.1
      cases h : d.plan.params.any (·.field.name = a.1) <;> simp_all
    simp only [Option.map_some]
    erw [hunknown]
    cases hk : args.find? fun a => a.1 ∉ d.nonConstantFields.map (·.name) with
    | some a => rfl
    | none =>
      have hname : d.name = t := by simpa using List.find?_some hd
      have hchecks := TypeDef.errorOf_checks hnodup args
      rw [hname] at hchecks
      rw [errorOf_bind, List.forM_eq_forM]
      cases hrun : forM d.plan.checks (Builder.runCheck d.plan args) with
      | error e => rw [hrun] at hchecks; exact hchecks
      | ok u => rw [hrun] at hchecks; exact hchecks

/-- A schema of one call type with a string callee makes a builder, which refuses a call given no
arguments because its callee is missing. -/
theorem build_call_without_callee :
    ∃ b, Builder.new?
        ⟨[{ name := "Call", fields := [{ name := "callee", kind := .string }] }]⟩ = .ok b ∧
      errorOf (b.build "Call" []) =
        some (.argumentMismatch "Call" "callee" "string" "undefined") := by
  have hb : Builder.new?
      ⟨[{ name := "Call", fields := [{ name := "callee", kind := .string }] }]⟩ = .ok _ := rfl
  refine ⟨_, hb, ?_⟩
  rw [errorOf_build hb]
  rfl

end NodeKit
