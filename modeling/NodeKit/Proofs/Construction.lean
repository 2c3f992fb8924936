import NodeKit.Proofs.Build

/-! The node a builder puts together. Building writes the type first and then sets each field
in turn, where setting a key that is there already would overwrite it in place. For a schema that
validates nothing is overwritten: no field is named `type` and the field names of a type are
distinct, so the node is the type followed by the field entries in the order the construction
lists them, constants, then required fields, then the optional fields their elision keeps.
`build_eq_ok_node` states this with the values read off the fields and the arguments alone, and
draws the consequences: the node depends on the arguments only through their look-ups, and it
is a node of its own type and of no other. -/

namespace NodeKit

theorem Json.setEntry_of_not_mem {entries : List (String × Json)} {k : String} (v : Json)
    (hk : k ∉ entries.map Prod.fst) : Json.setEntry entries k v = entries ++ [(k, v)] := by
  induction entries with
  | nil => rfl
  | cons e rest ih =>
    simp only [List.map_cons, List.mem_cons, not_or] at hk
    simp [Json.setEntry, Ne.symm hk.1, ih hk.2]

theorem foldl_setEntry_eq_append
    {step : List (String × Json) → String × Json → List (String × Json)}
    (hstep : ∀ acc k v, step acc (k, v) = Json.setEntry acc k v) :
    ∀ (entries acc : List (String × Json)), ((acc ++ entries).map Prod.fst).Nodup →
      entries.foldl step acc = acc ++ entries
  | [], acc, _ => by simp
  | (k, v) :: rest, acc, hnodup => by
    have hfresh : k ∉ acc.map Prod.fst := by
      intro hk
      rw [List.map_append, List.nodup_append] at hnodup
      exact hnodup.2.2 k hk k (by simp) rfl
    rw [List.foldl_cons, hstep, Json.setEntry_of_not_mem v hfresh,
      foldl_setEntry_eq_append hstep rest _ (by simpa using hnodup)]
    simp

theorem Json.lookup_isSome_iff {entries : List (String × Json)} {k : String} :
    (Json.lookup entries k).isSome ↔ ∃ e ∈ entries, e.1 = k := by
  simp [Json.lookup, List.find?_isSome]

theorem flatMap_eq_filterMap_of_forall {α β : Type} {f : α → List β} {g : α → Option β} :
    ∀ (l : List α), (∀ a ∈ l, f a = (g a).toList) → l.flatMap f = l.filterMap g
  | [], _ => rfl
  | a :: l, h => by
    rw [List.flatMap_cons, List.filterMap_cons, h a (by simp),
      flatMap_eq_filterMap_of_forall l fun b hb => h b (by simp [hb])]
    cases g a <;> rfl

namespace Builder

/-- Once the plan of a type is found, building succeeds exactly when no argument is unknown and
every check passes, and the node sets the entries of the construction one by one over the type. -/
theorem build_eq_ok {b : Builder} {t : String} {plan : Plan} (hplan : b.plan? t = some plan)
    (args : List (String × Json)) (v : Json) :
    b.build t args = .ok v ↔
      (args.find? fun a => !plan.params.any (·.field.name = a.1)) = none ∧
      forM plan.checks (runCheck plan args) = .ok () ∧
      v = .obj ((plan.construction.inits.flatMap (initEntry plan args)).foldl
        (fun acc e => Json.setEntry acc e.1 e.2)
        [(discriminant, .str plan.construction.discriminant)]) := by
  unfold build
  rw [hplan]
  simp only
  cases hfind : args.find? fun a => !plan.params.any (·.field.name = a.1) with
  | some a =>
    obtain ⟨k, x⟩ := a
    simp
  | none =>
    simp only [true_and, Except.bind_eq_ok, Except.pure_eq_ok]
    constructor
    · rintro ⟨⟨⟩, hchecks, rfl⟩
      exact ⟨hchecks, rfl⟩
    · rintro ⟨hchecks, rfl⟩
      exact ⟨(), hchecks, rfl⟩

end Builder

namespace Field

/-- Whether an optional field's argument `r` stays in the node: an array field keeps a non-empty
array, an object field anything but null and `{}`, a boolean field only `true`, and any other
field every value, null included. -/
def keepsValue (f : Field) (r : Json) : Bool :=
  if f.array then
    match r with
    | .arr (_ :: _) => true
    | _ => false
  else
    match f.kind, r with
    | .object, .null | .object, .obj [] => false
    | .boolean, .bool true => true
    | .boolean, _ => false
    | _, _ => true

theorem keeps_elision (f : Field) (r : Json) : Builder.keeps r f.elision = f.keepsValue r := by
  unfold elision keepsValue
  cases f.array
  · cases f.kind <;> rcases r with _ | ⟨_ | _⟩ | _ | _ | ⟨_ | _⟩ | ⟨_ | _⟩ <;> rfl
  · rcases r with _ | ⟨_ | _⟩ | _ | _ | ⟨_ | _⟩ | ⟨_ | _⟩ <;> rfl

end Field

/-- The setting fills its field from a builder parameter: every setting but a constant's. -/
def FieldInit.fromParameter : FieldInit → Bool
  | .constant _ _ => false
  | .required _ | .optional _ _ => true

namespace TypeDef

/-- The entries a node of type `d` built from `args` holds after its type: each constant field
with its value, then each field that is neither constant nor optional with its argument (the one
given, else the default) or null, then each optional field whose argument it keeps. -/
def fieldEntries (d : TypeDef) (args : List (String × Json)) : List (String × Json) :=
  ((d.fields.filter (·.constant)).filterMap fun f => f.value.map (f.name, ·)) ++
    ((d.fields.filter fun f => !f.constant && !f.optional).map fun f =>
      (f.name, (f.resolvedArgument args).getD .null)) ++
    ((d.fields.filter fun f => !f.constant && f.optional).filterMap fun f =>
      ((f.resolvedArgument args).filter f.keepsValue).map (f.name, ·))

variable {n : Naming.Scheme} {d : TypeDef}

@[simp] theorem plan_construction (d : TypeDef) : d.plan.construction = d.construction := rfl

theorem filter_isRequired (d : TypeDef) :
    d.fields.filter (·.isRequired) = d.fields.filter fun f => !f.constant && !f.optional :=
  List.filter_congr fun _ _ => Bool.and_comm _ _

theorem filter_optional_nonConstant (d : TypeDef) :
    (d.fields.filter fun f => f.optional && !f.constant) =
      d.fields.filter fun f => !f.constant && f.optional :=
  List.filter_congr fun _ _ => Bool.and_comm _ _

/-- In a valid type, the entries the construction writes after the type are its field entries:
constants all have a value, and every parameter resolves to its own argument or default. -/
theorem flatMap_initEntry (hd : d.Valid n) (args : List (String × Json)) :
    d.plan.construction.inits.flatMap (Builder.initEntry d.plan args) = d.fieldEntries args := by
  have hnodup := hd.nonConstantFields_nodup
  have hresolve : ∀ f ∈ d.fields, f.constant = false →
      Builder.resolve d.plan args f.name = f.resolvedArgument args := fun f hf hc =>
    resolve_plan hnodup (List.mem_filter.mpr ⟨hf, by simp [hc]⟩) args
  rw [plan_construction]
  simp only [construction, List.flatMap_append, List.flatMap_map, fieldEntries]
  congr 1
  congr 1
  · refine flatMap_eq_filterMap_of_forall _ fun f hf => ?_
    obtain ⟨hmem, hconstant⟩ := List.mem_filter.mp hf
    obtain ⟨c, hc⟩ := Option.isSome_iff_exists.mp
      ((hd.fields f hmem).constant_iff_value.mp (by simpa using hconstant))
    simp [Builder.initEntry, hc]
  · rw [filter_isRequired, ← List.filterMap_eq_map']
    refine flatMap_eq_filterMap_of_forall _ fun f hf => ?_
    obtain ⟨hmem, hrequired⟩ := List.mem_filter.mp hf
    simp only [Bool.and_eq_true, Bool.not_eq_true'] at hrequired
    simp [Builder.initEntry, hresolve f hmem hrequired.1]
  · rw [filter_optional_nonConstant]
    refine flatMap_eq_filterMap_of_forall _ fun f hf => ?_
    obtain ⟨hmem, hoptional⟩ := List.mem_filter.mp hf
    simp only [Bool.and_eq_true, Bool.not_eq_true'] at hoptional
    simp only [Builder.initEntry, hresolve f hmem hoptional.1, Field.keeps_elision]
    cases f.resolvedArgument args with
    | none => rfl
    | some r => by_cases hk : f.keepsValue r = true <;> simp [Option.filter, hk]

/-- The fields neither constant nor optional, then the optional fields that are not constant,
are the non-constant fields, each once. -/
theorem parameterFields_perm (d : TypeDef) :
    (d.fields.filter (fun f => !f.constant && !f.optional) ++
      d.fields.filter fun f => !f.constant && f.optional).Perm d.nonConstantFields := by
  -- splitting the non-constant fields on the optional flag
  have hsplit : (d.fields.filter (fun f => f.optional && !f.constant) ++
      d.fields.filter (·.isRequired)).Perm d.nonConstantFields := by
    have h := List.filter_append_perm (fun f : Field => f.optional) d.nonConstantFields
    simp only [nonConstantFields, List.filter_filter] at h
    exact h
  rw [filter_isRequired, filter_optional_nonConstant] at hsplit
  exact List.perm_append_comm.trans hsplit

/-- The constant fields, the fields neither constant nor optional and the optional fields that
are not constant are the fields of the type, each once. -/
theorem fields_perm (d : TypeDef) :
    (d.fields.filter (·.constant) ++ d.fields.filter (fun f => !f.constant && !f.optional) ++
      d.fields.filter fun f => !f.constant && f.optional).Perm d.fields := by
  rw [List.append_assoc]
  exact ((parameterFields_perm d).append_left _).trans (List.filter_append_perm _ _)

/-- The construction sets every field of the type once: first the constant fields with their
values (null for one without), then the fields neither constant nor optional, then the optional
ones under their elision, each group in declaration order. The fields it sets from parameters
are the fields of the parameters, which are the non-constant fields. So a builder's struct
literal names each field identifier its payload struct declares, as often as the struct does. -/
theorem construction_sets_each_field_once (d : TypeDef) (n : Naming.Scheme) :
    d.construction.inits =
        (d.fields.filter (·.constant)).map (fun f => .constant f (f.value.getD .null)) ++
        (d.fields.filter fun f => !f.constant && !f.optional).map .required ++
        (d.fields.filter fun f => !f.constant && f.optional).map (fun f => .optional f f.elision) ∧
      (d.construction.inits.map FieldInit.field).Perm d.fields ∧
      d.params.map (·.field) = d.nonConstantFields ∧
      ((d.construction.inits.filter FieldInit.fromParameter).map FieldInit.field).Perm
        (d.params.map (·.field)) ∧
      (d.construction.inits.map (n.field ·.field.name)).Perm (d.fields.map (n.field ·.name)) := by
  have hinits : d.construction.inits =
      (d.fields.filter (·.constant)).map (fun f => .constant f (f.value.getD .null)) ++
        (d.fields.filter fun f => !f.constant && !f.optional).map .required ++
        (d.fields.filter fun f => !f.constant && f.optional).map
          (fun f => .optional f f.elision) := by
    rw [construction, filter_isRequired, filter_optional_nonConstant]
  have hfields : d.construction.inits.map FieldInit.field =
      d.fields.filter (·.constant) ++ d.fields.filter (fun f => !f.constant && !f.optional) ++
        d.fields.filter fun f => !f.constant && f.optional := by
    simp [hinits, Function.comp_def, FieldInit.field]
  have hperm : (d.construction.inits.map FieldInit.field).Perm d.fields :=
    hfields ▸ fields_perm d
  have hparams : d.params.map (·.field) = d.nonConstantFields := by
    simp [params, Function.comp_def]
  -- the constants come first and are the only settings not filled from a parameter
  have hfromParameter : (d.construction.inits.filter FieldInit.fromParameter).map FieldInit.field =
      d.fields.filter (fun f => !f.constant && !f.optional) ++
        d.fields.filter fun f => !f.constant && f.optional := by
    simp [hinits, List.filter_map, Function.comp_def, FieldInit.fromParameter, FieldInit.field]
  refine ⟨hinits, hperm, hparams, ?_, ?_⟩
  · rw [hfromParameter, hparams]
    exact parameterFields_perm d
  · simpa [Function.comp_def] using hperm.map (n.field ·.name)

theorem keys_filterMap_sublist (g : Field → Option Json) :
    ∀ l : List Field, ((l.filterMap fun f => (g f).map (f.name, ·)).map Prod.fst).Sublist
      (l.map (·.name))
  | [] => .slnil
  | f :: l => by
    have ih := keys_filterMap_sublist g l
    cases hg : g f <;> simp [hg, ih]

/-- The keys of the field entries are names of distinct fields, in the order constants, required,
optional. -/
theorem fieldEntries_keys_sublist (d : TypeDef) (args : List (String × Json)) :
    ((d.fieldEntries args).map Prod.fst).Sublist
      ((d.fields.filter (·.constant) ++ d.fields.filter (fun f => !f.constant && !f.optional) ++
        d.fields.filter fun f => !f.constant && f.optional).map (·.name)) := by
  simp only [fieldEntries, List.map_append, List.map_map, Function.comp_def]
  exact ((keys_filterMap_sublist _ _).append (List.Sublist.refl _)).append
    (keys_filterMap_sublist _ _)

theorem Valid.keys_nodup (hd : d.Valid n) (args : List (String × Json)) :
    (discriminant :: (d.fieldEntries args).map Prod.fst).Nodup := by
  have hperm := (fields_perm d).map (·.name)
  have hsub := fieldEntries_keys_sublist d args
  refine List.nodup_cons.mpr
    ⟨fun hmem => ?_, hsub.nodup (hperm.nodup_iff.mpr hd.fieldNames_nodup)⟩
  obtain ⟨f, hf, hname⟩ := List.mem_map.mp (hperm.subset (hsub.subset hmem))
  exact (hd.fields f hf).notDiscriminant hname

end TypeDef

namespace Builder

variable {plan : Plan} {args args' : List (String × Json)}

theorem resolve_congr (plan : Plan) (h : ∀ k, Json.lookup args' k = Json.lookup args k) :
    resolve plan args' = resolve plan args := by
  funext name
  simp only [resolve, h]

theorem runCheck_congr (h : resolve plan args' = resolve plan args) :
    runCheck plan args' = runCheck plan args := by
  funext c
  unfold runCheck
  rw [h]

theorem initEntry_congr (h : resolve plan args' = resolve plan args) :
    initEntry plan args' = initEntry plan args := by
  funext init
  unfold initEntry
  rw [h]

theorem discriminantOf_node (t : String) (rest : List (String × Json)) :
    discriminantOf (.obj ((discriminant, .str t) :: rest)) = some t := by
  simp [discriminantOf, Json.get?, Json.lookup]

end Builder

/-- A node built by a builder of a schema is an object with distinct keys: its type, then the
constant fields with their values, then the fields that are neither constant nor optional with
their arguments or null, then the optional fields whose arguments they keep. It depends on the
arguments only through their look-ups by key, it is a node of its own type and of no other, and
it is in exactly the groups that list its type. -/
theorem build_eq_ok_node {s : Schema} {b : Builder} (hb : Builder.new? s = .ok b) {t : String}
    {args : List (String × Json)} {v : Json} (h : b.build t args = .ok v) :
    ∃ d ∈ s.definitions, d.name = t ∧
      v = .obj ((discriminant, .str t) :: d.fieldEntries args) ∧
      (discriminant :: (d.fieldEntries args).map Prod.fst).Nodup ∧
      (∀ args' : List (String × Json), (∀ k, Json.lookup args' k = Json.lookup args k) →
        b.build t args' = .ok v) ∧
      b.isType t v = true ∧ (∀ t', t' ≠ t → b.isType t' v = false) ∧
      ∀ g, b.isGroup g v = (b.groups.members g).contains t := by
  obtain ⟨hvalid, hbuilder⟩ := Builder.new?_eq_ok.mp hb
  have hs := Schema.valid_of_validate_eq_ok hvalid
  cases hd : s.get? t with
  | none =>
    simp [Builder.build, hbuilder, Builder.plan?_ofSchema, hd] at h
  | some d =>
    have hmem : d ∈ s.definitions := List.mem_of_find?_eq_some hd
    have hname : d.name = t := by simpa using List.find?_some hd
    have hplan : b.plan? t = some d.plan := by
      rw [hbuilder, Builder.plan?_ofSchema, hd]
      rfl
    have hdvalid := hs.types d hmem
    have hkeys := hdvalid.keys_nodup args
    obtain ⟨hunknown, hchecks, rfl⟩ := (Builder.build_eq_ok hplan args v).mp h
    -- no field is named `type` and the field names are distinct, so no entry overwrites another
    have hnode : (d.plan.construction.inits.flatMap (Builder.initEntry d.plan args)).foldl
        (fun acc e => Json.setEntry acc e.1 e.2)
        [(discriminant, .str d.plan.construction.discriminant)] =
        (discriminant, .str t) :: d.fieldEntries args := by
      rw [TypeDef.flatMap_initEntry hdvalid, foldl_setEntry_eq_append (fun _ _ _ => rfl)]
      · simp [TypeDef.construction, hname]
      · simpa using hkeys
    rw [hnode]
    refine ⟨d, hmem, hname, rfl, hkeys, fun args' hlookup => ?_, ?_, fun t' ht' => ?_, fun g => ?_⟩
    · -- the arguments enter only through `resolve`, and the same keys are known
      have hres := Builder.resolve_congr d.plan hlookup
      refine (Builder.build_eq_ok hplan args' _).mpr ⟨?_, ?_, ?_⟩
      · refine List.find?_eq_none.mpr fun a ha => ?_
        obtain ⟨e, he, hkey⟩ := Json.lookup_isSome_iff.mp
          (hlookup a.1 ▸ Json.lookup_isSome_iff.mpr ⟨a, ha, rfl⟩)
        have := List.find?_eq_none.mp hunknown e he
        rwa [hkey] at this
      · rwa [Builder.runCheck_congr hres]
      · rw [Builder.initEntry_congr hres, hnode]
    · simp [Builder.isType, hplan, Builder.discriminantOf_node]
    · simp [Builder.isType, Builder.discriminantOf_node, Ne.symm ht']
    · have htype : (fun m => b.isType m (.obj ((discriminant, .str t) :: d.fieldEntries args))) =
          fun m => t == m := by
        funext m
        by_cases hm : m = t
        · subst hm
          simp [Builder.isType, hplan, Builder.discriminantOf_node]
        · simp [Builder.isType, Builder.discriminantOf_node, Ne.symm hm]
      simp only [Builder.isGroup, htype, List.any_beq]

/-- A function type with a constant kind, a nullable name, an optional flag and a mutability that
defaults to `const`: built from a null name alone, its node is the type, the kind, the name and
the default mutability, and the flag is left out. -/
theorem func_node_from_null_name :
    ∃ b v, Builder.new? ⟨[{ name := "Func", fields := [
        { name := "kind", kind := .string, constant := true, value := some (.str "func") },
        { name := "name", kind := .node, nullable := true },
        { name := "isExported", kind := .boolean, optional := true },
        { name := "mutability", kind := .string, defaultValue := some (.str "const") }] }]⟩ =
        .ok b ∧
      b.build "Func" [("name", .null)] = .ok v ∧
      ∃ d ∈ [({ name := "Func", fields := [
        { name := "kind", kind := .string, constant := true, value := some (.str "func") },
        { name := "name", kind := .node, nullable := true },
        { name := "isExported", kind := .boolean, optional := true },
        { name := "mutability", kind := .string, defaultValue := some (.str "const") }] } :
          TypeDef)], d.name = "Func" ∧
        v = .obj ((discriminant, .str "Func") :: d.fieldEntries [("name", .null)]) ∧
        (discriminant :: (d.fieldEntries [("name", .null)]).map Prod.fst).Nodup ∧
        (∀ args' : List (String × Json), (∀ k, Json.lookup args' k =
          Json.lookup [("name", .null)] k) → b.build "Func" args' = .ok v) ∧
        b.isType "Func" v = true ∧ (∀ t', t' ≠ "Func" → b.isType t' v = false) ∧
        ∀ g, b.isGroup g v = (b.groups.members g).contains "Func" := by
  exact ⟨_, _, rfl, rfl, build_eq_ok_node rfl rfl⟩

end NodeKit
