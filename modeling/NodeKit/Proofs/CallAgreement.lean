import Mathlib.Data.List.Find
import NodeKit.Proofs.CallParams
import NodeKit.Proofs.Rebuild

/-!
Calling a generated builder and building a node at run time give the same node. Past its
parameters and defaults, the builder sets each field of the payload in the struct expression: a
constant to its literal, a field that is neither constant nor optional to its parameter (boxed for
a node), and an optional field to its parameter filtered by its elision. Serde then writes the
node's `type`, and each field under its name, leaving out an optional field that is `None`. Field by
field this is the entry the runtime writes (`Field.entryValue`): a constant's value, a field's
argument or default or null, and an optional field's argument or default when its elision keeps
it. The builder lists the fields in declaration order and the runtime constants first, so the two
nodes are the same object up to the order of their keys, with numbers compared as doubles
(`callBuilder_agrees`).

The agreement needs every literal of the type to read back; an integer beyond `i32` inside
`json!` does not, and a builder with such a literal has no value
(`builder_beyond_i32_has_no_node`).
-/

namespace NodeKit

variable {n : Naming.Scheme}

theorem lookup_map_pair {α β : Type} (key : α → String) (val : α → β) :
    ∀ {l : List α}, (l.map key).Nodup → ∀ a ∈ l,
      (l.map fun x => (key x, val x)).lookup (key a) = some (val a)
  | [], _, a, ha => absurd ha List.not_mem_nil
  | x :: l, hnodup, a, ha => by
    rw [List.map_cons, List.nodup_cons] at hnodup
    rcases List.mem_cons.mp ha with rfl | hl
    · simp
    · have hne : key a ≠ key x := fun h => hnodup.1 (h ▸ List.mem_map_of_mem hl)
      simp only [List.map_cons, List.lookup_cons, beq_false_of_ne hne]
      exact lookup_map_pair key val hnodup.2 a hl

theorem mapM_ok_mapM_some {α β γ : Type} {ε : Type} {f : α → Except ε β} {g : β → Option γ}
    {h : α → γ} :
    ∀ {l : List α}, (∀ a ∈ l, ∃ b, f a = .ok b ∧ g b = some (h a)) →
      ∃ bs, l.mapM f = .ok bs ∧ bs.mapM g = some (l.map h)
  | [], _ => ⟨[], rfl, rfl⟩
  | a :: l, hall => by
    obtain ⟨b, hb, hg⟩ := hall a List.mem_cons_self
    obtain ⟨bs, hbs, hgs⟩ := mapM_ok_mapM_some fun x hx => hall x (List.mem_cons_of_mem _ hx)
    refine ⟨b :: bs, ?_, ?_⟩
    · simp [List.mapM_cons, hb, hbs]
    · simp [List.mapM_cons, hg, hgs]

theorem Json.lookup_perm {l₁ l₂ : List (String × Json)} (h : l₁.Perm l₂)
    (hkeys : (l₁.map Prod.fst).Nodup) (k : String) : Json.lookup l₁ k = Json.lookup l₂ k := by
  unfold Json.lookup
  rw [List.find?_eq_find?_of_perm h]
  rintro x ⟨hx, hxk⟩ y ⟨hy, hyk⟩
  simp only [decide_eq_true_eq] at hxk hyk
  exact eq_of_nodup_map hkeys hx hy (hxk.trans hyk.symm)

/-! ### What the builder holds for a field -/

theorem ValueKind.typeName_of_admits {k : ValueKind} {v : Json} (hk : k.isPrimitive = true)
    (h : k.admits v = true) : v.typeName = k.name := by
  cases k <;> cases v <;> simp_all [ValueKind.isPrimitive, ValueKind.admits, Json.typeName,
    ValueKind.name]

namespace Field

variable {f : Field} {args : List (String × Json)}

theorem resolvedSlot_of_mayBeAbsent (h : f.mayBeAbsent = true) :
    f.resolvedSlot args = .optional ((f.resolvedArgument args).map f.literalValue) := by
  simp [resolvedSlot, h]

theorem resolvedSlot_of_not_mayBeAbsent (h : f.mayBeAbsent = false) :
    f.resolvedSlot args =
      .plain (((f.resolvedArgument args).map f.literalValue).getD (.json .null)) := by
  simp [resolvedSlot, h]

theorem fieldSlot_constant (h : f.constant = true) :
    f.fieldSlot args = .plain (f.literalValue (f.value.getD .null)) := by
  simp [fieldSlot, h]

theorem fieldSlot_optional (hc : f.constant = false) (ho : f.optional = true) :
    f.fieldSlot args =
      .optional (((f.resolvedArgument args).filter f.keepsValue).map f.literalValue) := by
  simp [fieldSlot, hc, ho]

theorem fieldSlot_required (hc : f.constant = false) (ho : f.optional = false) :
    f.fieldSlot args = f.resolvedSlot args := by
  simp [fieldSlot, hc, ho]

theorem generatedEntry_constant (hc : f.constant = true) :
    f.generatedEntry args = some (f.name, (f.literalValue (f.value.getD .null)).toJson) := by
  rw [generatedEntry, fieldSlot_constant hc]

theorem generatedEntry_optional (hc : f.constant = false) (ho : f.optional = true) :
    f.generatedEntry args = ((f.resolvedArgument args).filter f.keepsValue).map fun v =>
      (f.name, (f.literalValue v).toJson) := by
  rw [generatedEntry, fieldSlot_optional hc ho]
  cases (f.resolvedArgument args).filter f.keepsValue <;> simp [hc, ho]

/-- A field neither constant nor optional is written with its resolved parameter, and as null when
that is `None`. -/
theorem generatedEntry_required (hc : f.constant = false) (ho : f.optional = false) :
    f.generatedEntry args =
      some (f.name,
        (((f.resolvedArgument args).map f.literalValue).getD (.json .null)).toJson) := by
  rw [generatedEntry, fieldSlot_required hc ho]
  cases hm : f.mayBeAbsent with
  | true =>
    rw [resolvedSlot_of_mayBeAbsent hm]
    cases (f.resolvedArgument args).map f.literalValue <;> simp [hc, ho, Rust.Value.toJson]
  | false => rw [resolvedSlot_of_not_mayBeAbsent hm]

theorem mayBeAbsent_of_optional (h : f.optional = true) : f.mayBeAbsent = true := by
  simp [mayBeAbsent, h]

/-- An admitted array, or object of an object field, is empty exactly when the elision drops
it. -/
theorem isEmpty?_literalValue {j : Json}
    (hshape : f.array = true ∨ f.array = false ∧ f.kind = .object) (h : f.admits j = true) :
    (f.literalValue j).isEmpty? = some !(f.keepsValue j) := by
  unfold admits at h
  unfold literalValue keepsValue
  rcases hshape with harray | ⟨harray, hkind⟩
  · simp only [harray, ↓reduceIte] at h ⊢
    cases j with
    | arr items => cases items <;> rfl
    | _ => cases h
  · rw [harray, hkind] at h
    simp only [harray, hkind, Bool.false_eq_true, ↓reduceIte]
    cases j with
    | obj entries => cases entries <;> rfl
    | _ => cases h

/-- The elision of a single field that is neither an object nor a boolean keeps everything. -/
theorem filter_keepsValue (harray : f.array = false) (hobject : f.kind ≠ .object)
    (hboolean : f.kind ≠ .boolean) (r : Option Json) : r.filter f.keepsValue = r := by
  cases r with
  | none => rfl
  | some j =>
    have hkeep : f.keepsValue j = true := by
      unfold keepsValue
      rw [harray]
      cases hkind : f.kind <;> simp_all
    simp [Option.filter_some, hkeep]

/-- The argument a field resolves to has its parameter's type: a given one as the caller
promises, and a default because it renders and reads back. -/
theorem Valid.admits_resolvedArgument (hf : f.Valid n) (hc : f.constant = false)
    (hlit : f.literalReadsBack = true) (htyped : (Json.lookup args f.name).all f.admits = true) :
    (f.resolvedArgument args).all f.admits = true := by
  unfold resolvedArgument
  cases hlook : Json.lookup args f.name with
  | some j => simpa [hlook] using htyped
  | none =>
    cases hdv : f.defaultValue with
    | none => rfl
    | some dv =>
      obtain ⟨text, hrender⟩ := hf.defaultRenders dv hc hdv
      obtain ⟨-, hnums⟩ := literalReadsBack_of_eq (v := dv) hlit (by simp [literal?, hc, hdv])
      simpa using admits_of_render hrender hnums

/-- A constant's value has the field's type, as its literal renders and reads back. -/
theorem Valid.admits_value (hf : f.Valid n) (hc : f.constant = true)
    (hlit : f.literalReadsBack = true) : ∃ v, f.value = some v ∧ f.admits v = true := by
  obtain ⟨v, text, hv, hrender⟩ := hf.value_renders hc
  obtain ⟨-, hnums⟩ := literalReadsBack_of_eq (v := v) hlit (by simp [literal?, hc, hv])
  exact ⟨v, hv, admits_of_render hrender hnums⟩

/-- A value of the parameter's type passes the field's check. -/
theorem argumentMismatch_of_admits {j : Json} (h : f.admits j = true) :
    f.argumentMismatch (some j) = none := by
  unfold admits at h
  refine argumentMismatch_of_typeName (fun harray => ?_) fun harray hprimitive => ?_
  · rw [if_pos harray] at h
    cases j <;> simp_all [Json.typeName]
  · rw [harray] at h
    exact ValueKind.typeName_of_admits hprimitive h

end Field

/-! ### The struct expression -/

namespace Rust

variable {env : Scope} {f : Field} {args : List (String × Json)} {t : String}

theorem beginsWithVariable_of_legal {x : String} (h : IsLegalIdent x) :
    BeginsWithVariable x.toList := by
  refine ⟨?_, .inl ?_⟩
  · rw [identToken_self h.isIdentChar, String.ofList_toList]
    exact h
  · rw [identToken_self h.isIdentChar]

/-- A constant is set to the value of its literal. -/
theorem evalExpr_constant (henv : ∀ e ∈ env, IsLegalIdent e.1) (hf : f.Valid n)
    (hc : f.constant = true) (hlit : f.literalReadsBack = true) :
    ∃ e, Module.initExpr n t (.constant f (f.value.getD .null)) = .ok e ∧
      e ≠ n.field f.name ∧
        evalExpr env e.toList = some (.plain (f.literalValue (f.value.getD .null))) := by
  obtain ⟨v, text, hv, hrender⟩ := hf.value_renders hc
  obtain ⟨hkeys, hnums⟩ := Field.literalReadsBack_of_eq (v := v) hlit
    (by simp [Field.literal?, hc, hv])
  have hexpr : Module.initExpr n t (.constant f (f.value.getD .null)) = .ok text := by
    simp [Module.initExpr, Module.literal, hv, hrender]
  refine ⟨text, hexpr, fun heq => ?_, ?_⟩
  · -- a literal never begins with a variable, and a field's identifier is one
    have hvar := beginsWithVariable_of_legal hf.legal_field
    rw [← heq] at hvar
    exact (render_not_variable hrender hnums).1 hvar
  · rw [evalExpr_literal henv hrender hnums, Literal.evaluate_render hrender hkeys hnums, hv]
    rfl

/-- A parameter passed through to its field, boxed for a single node, keeps its slot. -/
theorem evalExpr_passThrough (hf : f.Valid n)
    (hbound : env.lookup (n.field f.name) = some (f.resolvedSlot args)) :
    evalExpr env (Module.passThrough (n.field f.name) f).toList = some (f.resolvedSlot args) := by
  have hx := hf.isIdentChar
  unfold Module.passThrough
  by_cases hplain : (f.kind ≠ .node || f.array) = true
  · rw [if_pos hplain]
    exact evalExpr_var hx hbound
  · rw [if_neg hplain]
    cases hmay : f.mayBeAbsent
    · rw [Field.resolvedSlot_of_not_mayBeAbsent hmay] at hbound ⊢
      simp only [Bool.false_eq_true, ↓reduceIte, String.toList_append, List.append_assoc]
      exact evalExpr_box hbound
    · rw [Field.resolvedSlot_of_mayBeAbsent hmay] at hbound ⊢
      simp only [↓reduceIte, String.toList_append]
      rw [show ".map(Box::new)".toList = '.' :: "map(Box::new)".toList from rfl,
        evalExpr_call hx hbound, call_mapBox]

/-- An optional array, or object of an object field, filtered to a non-empty value holds what
the elision keeps. -/
theorem evalExpr_filterNonEmpty {x : String} (hx : ∀ c ∈ x.toList, isIdentChar c = true)
    {r : Option Json} (hbound : env.lookup x = some (.optional (r.map f.literalValue)))
    (hadmits : r.all f.admits = true)
    (hshape : f.array = true ∨ f.array = false ∧ f.kind = .object) :
    evalExpr env (x ++ ".filter(|v| !v.is_empty())").toList =
      some (.optional ((r.filter f.keepsValue).map f.literalValue)) := by
  rw [String.toList_append, show ".filter(|v| !v.is_empty())".toList =
    '.' :: "filter(|v| !v.is_empty())".toList from rfl, evalExpr_call hx hbound]
  cases r with
  | none => exact call_filterNonEmpty_none
  | some j =>
    rw [Option.map_some, call_filterNonEmpty
      (Field.isEmpty?_literalValue hshape (by simpa using hadmits)), Option.filter_some]
    cases f.keepsValue j <;> rfl

/-- An optional boolean filtered to `true` holds what the elision keeps. -/
theorem evalExpr_filterTrue {x : String} (hx : ∀ c ∈ x.toList, isIdentChar c = true)
    {r : Option Json} (hbound : env.lookup x = some (.optional (r.map f.literalValue)))
    (hadmits : r.all f.admits = true) (harray : f.array = false) (hkind : f.kind = .boolean) :
    evalExpr env (x ++ ".filter(|v| *v)").toList =
      some (.optional ((r.filter f.keepsValue).map f.literalValue)) := by
  rw [String.toList_append, show ".filter(|v| *v)".toList = '.' :: "filter(|v| *v)".toList from rfl,
    evalExpr_call hx hbound]
  cases r with
  | none => exact call_filterTrue_none
  | some j =>
    have hbool : f.admits j = true := by simpa using hadmits
    unfold Field.admits at hbool
    rw [harray, hkind] at hbool
    cases j with
    | bool b =>
      have hvalue : f.literalValue (.bool b) = .bool b := by
        simp [Field.literalValue, harray, hkind, ValueKind.literalValue]
      have hkeep : f.keepsValue (.bool b) = b := by
        cases b <;> simp [Field.keepsValue, harray, hkind]
      rw [Option.map_some, hvalue, call_filterTrue, Option.filter_some, hkeep]
      cases b <;> simp [hvalue]
    | _ => cases hbool

/-- An optional field is set to its resolved parameter as its elision filters it. -/
theorem evalExpr_optional (hf : f.Valid n) (hc : f.constant = false) (ho : f.optional = true)
    (hadmits : (f.resolvedArgument args).all f.admits = true)
    (hbound : env.lookup (n.field f.name) = some (f.resolvedSlot args)) :
    ∃ e, Module.initExpr n t (.optional f f.elision) = .ok e ∧
      evalExpr env e.toList = some (f.fieldSlot args) := by
  have hoptional := hbound
  rw [Field.resolvedSlot_of_mayBeAbsent (Field.mayBeAbsent_of_optional ho)] at hoptional
  rw [Field.fieldSlot_optional hc ho]
  -- the elision is read off the field's shape: a sequence, a mapping, a flag, or anything else
  cases harray : f.array with
  | true =>
    have helision : f.elision = .nonEmptySequence := by simp [Field.elision, harray]
    rw [helision]
    exact ⟨_, rfl, evalExpr_filterNonEmpty hf.isIdentChar hoptional hadmits (.inl harray)⟩
  | false =>
    cases hkind : f.kind with
    | object =>
      have helision : f.elision = .nonEmptyMapping := by simp [Field.elision, harray, hkind]
      rw [helision]
      exact ⟨_, rfl,
        evalExpr_filterNonEmpty hf.isIdentChar hoptional hadmits (.inr ⟨harray, hkind⟩)⟩
    | boolean =>
      have helision : f.elision = .trueOnly := by simp [Field.elision, harray, hkind]
      rw [helision]
      exact ⟨_, rfl, evalExpr_filterTrue hf.isIdentChar hoptional hadmits harray hkind⟩
    | string | number | node | any =>
      have helision : f.elision = .defined := by simp [Field.elision, harray, hkind]
      rw [helision, Field.filter_keepsValue harray (by simp [hkind]) (by simp [hkind]),
        ← Field.resolvedSlot_of_mayBeAbsent (Field.mayBeAbsent_of_optional ho)]
      exact ⟨_, rfl, evalExpr_passThrough hf hbound⟩

/-- A line of the struct expression whose expression evaluates sets its field to that value. -/
theorem readInit_of_evalExpr {init : FieldInit} {e : String} {s : Slot}
    (hx : ∀ c ∈ (n.field init.field.name).toList, isIdentChar c = true)
    (he : Module.initExpr n t init = .ok e) (heval : evalExpr env e.toList = some s)
    (hshort : e = n.field init.field.name → ∃ s, env.lookup e = some s) :
    ∃ line, Module.initLine n t init = .ok line ∧
      readInit env line.toList = some (n.field init.field.name, s) := by
  obtain ⟨line, hline⟩ : ∃ line, Module.initLine n t init = .ok line := by
    simp [Module.initLine, he]
  refine ⟨line, hline, ?_⟩
  rw [readInit_initLine hline he hx hshort, heval]
  rfl

/-- The type of a payload's field is an `Option` exactly when the field is not constant and may
be absent. -/
theorem declaredOption_fieldType (f : Field) :
    ((afterText "Option<" (Module.fieldType f).toList).bind (beforeText ">")).isSome =
      (!f.constant && f.mayBeAbsent) := by
  unfold Module.fieldType
  cases h : (!f.constant && f.mayBeAbsent)
  · simp only [Bool.false_eq_true, ↓reduceIte]
    cases f.array <;> cases f.kind <;> rfl
  · simp only [↓reduceIte, String.toList_append, List.append_assoc, afterText_append,
      Option.bind_some, beforeText_append, Option.isSome_some]

/-- A field of a payload is written under its name, with the value the struct expression sets it
to, and left out when it is an optional field that is `None`. -/
theorem entry_fieldSlot (f : Field) (args : List (String × Json)) :
    ({ ident := n.field f.name, key := f.name, skipNone := f.optional && !f.constant,
       type := (Module.fieldType f).toList } : FieldWrite).entry (f.fieldSlot args) =
      some (f.generatedEntry args) := by
  unfold FieldWrite.entry
  simp only [declaredOption_fieldType]
  cases hc : f.constant with
  | true =>
    rw [Field.fieldSlot_constant hc, Field.generatedEntry_constant hc]
    simp
  | false =>
    cases ho : f.optional with
    | true =>
      rw [Field.fieldSlot_optional hc ho, Field.generatedEntry_optional hc ho,
        Field.mayBeAbsent_of_optional ho]
      cases (f.resolvedArgument args).filter f.keepsValue <;> simp
    | false =>
      rw [Field.fieldSlot_required hc ho, Field.generatedEntry_required hc ho]
      -- the parameter is an `Option` exactly when the field may be absent; `None` is written null
      cases hm : f.mayBeAbsent with
      | true =>
        rw [Field.resolvedSlot_of_mayBeAbsent hm]
        cases (f.resolvedArgument args).map f.literalValue <;> simp [Rust.Value.toJson]
      | false =>
        rw [Field.resolvedSlot_of_not_mayBeAbsent hm]
        simp

end Rust

/-! ### The node a builder returns -/

namespace TypeDef

variable {d : TypeDef} {args : List (String × Json)}

/-- The struct expression sets the fields in the order a node lists them. -/
theorem construction_fields (d : TypeDef) :
    d.construction.inits.map FieldInit.field = d.nodeOrder := by
  simp only [construction, nodeOrder, List.map_append, List.map_map, Function.comp_def,
    FieldInit.field, List.map_id', filter_isRequired, filter_optional_nonConstant]

theorem Valid.nodeOrder_idents_nodup (hd : d.Valid n) : (d.nodeOrder.map (n.field ·.name)).Nodup :=
  ((fields_perm d).map _).nodup_iff.mpr hd.fieldIdents

/-- Each line of the struct expression sets its field to the field's slot, in a scope where every
parameter holds its resolved value. -/
theorem mapM_readInit (hd : d.Valid n) (hlits : ∀ f ∈ d.fields, f.literalReadsBack = true)
    (hargs : d.CallArguments args) {env : Rust.Scope} (henv : ∀ e ∈ env, Rust.IsLegalIdent e.1)
    (hbound : ∀ f ∈ d.nonConstantFields,
      env.lookup (n.field f.name) = some (f.resolvedSlot args)) :
    ∃ lines, d.plan.construction.inits.mapM (Rust.Module.initLine n d.name) = .ok lines ∧
      lines.mapM (fun line => Rust.readInit env line.toList) =
        some (d.nodeOrder.map fun f => (n.field f.name, f.fieldSlot args)) := by
  rw [← construction_fields, List.map_map]
  refine mapM_ok_mapM_some fun init hinit => ?_
  simp only [plan_construction, construction, List.mem_append, List.mem_map] at hinit
  rcases hinit with (⟨f, hf, rfl⟩ | ⟨f, hf, rfl⟩) | ⟨f, hf, rfl⟩
  · -- a constant: its literal, which is no variable
    obtain ⟨hmem, hc⟩ := List.mem_filter.mp hf
    have hfv := hd.fields f hmem
    obtain ⟨e, he, hne, heval⟩ := Rust.evalExpr_constant henv hfv hc (hlits f hmem)
    exact Rust.readInit_of_evalExpr hfv.isIdentChar he
      (heval.trans (congrArg some (Field.fieldSlot_constant hc).symm)) fun h => absurd h hne
  · -- a field neither constant nor optional: its parameter, boxed for a node
    obtain ⟨hmem, hrequired⟩ := List.mem_filter.mp hf
    have hfv := hd.fields f hmem
    simp only [Field.isRequired, Bool.and_eq_true, Bool.not_eq_true'] at hrequired
    have hparam := hbound f (mem_nonConstantFields.mpr ⟨hmem, hrequired.2⟩)
    refine Rust.readInit_of_evalExpr hfv.isIdentChar rfl ?_ fun h => ⟨_, h ▸ hparam⟩
    show Rust.evalExpr env (Rust.Module.passThrough (n.field f.name) f).toList =
      some (f.fieldSlot args)
    rw [Rust.evalExpr_passThrough hfv hparam, Field.fieldSlot_required hrequired.2 hrequired.1]
  · -- an optional field: its parameter, filtered by its elision
    obtain ⟨hmem, hoptional⟩ := List.mem_filter.mp hf
    have hfv := hd.fields f hmem
    simp only [Bool.and_eq_true, Bool.not_eq_true'] at hoptional
    have hnc := mem_nonConstantFields.mpr ⟨hmem, hoptional.2⟩
    obtain ⟨e, he, heval⟩ := Rust.evalExpr_optional (t := d.name) hfv hoptional.2 hoptional.1
      (hfv.admits_resolvedArgument hoptional.2 (hlits f hmem) (hargs.typed f hnc)) (hbound f hnc)
    exact Rust.readInit_of_evalExpr hfv.isIdentChar he heval fun h => ⟨_, h ▸ hbound f hnc⟩

/-- The generated builder of a valid type, called with arguments of its parameters' types,
returns the node whose payload has each field's generated entry, in declaration order. -/
theorem callBuilder_eq (hd : d.Valid n) (hlits : ∀ f ∈ d.fields, f.literalReadsBack = true)
    (hargs : d.CallArguments args) :
    Rust.callBuilder n d args =
      some (.obj ((discriminant, .str d.name) :: d.fields.filterMap (·.generatedEntry args))) := by
  have hlegal : ∀ f ∈ d.fields, Rust.IsLegalIdent (n.field f.name) := fun f hf =>
    (hd.fields f hf).legal_field
  have hidents : (d.nonConstantFields.map (n.field ·.name)).Nodup :=
    hd.fieldIdents.sublist (List.filter_sublist.map _)
  -- the parameters, then the defaults filled in
  have hparams := mapM_bindArgument hd hargs
  have hbound := lookup_map_pair (fun f : Field => n.field f.name) (fun f => f.argumentSlot args)
    hidents
  obtain ⟨defaults, env, hdefaults, hrun, hresolved, -, hkeys⟩ :=
    foldlM_runDefault hd hlits d.name d.nonConstantFields (fun f hf => hf) hidents _ hbound
  have henv : ∀ e ∈ env, Rust.IsLegalIdent e.1 := by
    intro e he
    rcases hkeys e he with he | he
    · obtain ⟨f, hf, rfl⟩ := List.mem_map.mp he
      exact hlegal f (mem_nonConstantFields.mp hf).1
    · obtain ⟨f, hf, heq⟩ := List.mem_map.mp he
      exact heq ▸ hlegal f (mem_nonConstantFields.mp hf).1
  -- the struct expression, then the payload as serde writes it
  obtain ⟨inits, hinits, hvalues⟩ := mapM_readInit hd hlits hargs henv hresolved
  have hvariant : Rust.variantName (Rust.Module.constructorLine d.plan).toList = some d.name :=
    Rust.variantName_constructorLine (Rust.legal_of_typeIdent hd.name).isIdentChar
  have hslots := lookup_map_pair (fun f : Field => n.field f.name) (fun f => f.fieldSlot args)
    hd.nodeOrder_idents_nodup
  have hentries : d.fields.mapM (fun f =>
      (Rust.readFieldLines (Rust.Module.fieldLines n f).toList).bind fun w =>
        ((d.nodeOrder.map fun f => (n.field f.name, f.fieldSlot args)).lookup w.ident).bind
          w.entry) = some (d.fields.map (·.generatedEntry args)) := by
    refine mapM_eq_some_map fun f hf => ?_
    rw [Rust.readFieldLines_fieldLines (hd.fields f hf).isIdentChar, Option.bind_some]
    dsimp only
    rw [hslots f ((fields_perm d).mem_iff.mpr hf), Option.bind_some, Rust.entry_fieldSlot]
  rw [← plan_params] at hdefaults
  simp only [Rust.callBuilder, hparams, Option.bind_eq_bind, Option.bind_some, hdefaults,
    Except.toOption, hrun, hinits, hvalues, hvariant, hentries]
  rw [List.filterMap_map, Function.id_comp]
  rfl

end TypeDef

/-! ### The node the runtime builds -/

theorem TypeDef.Valid.scheme {d : TypeDef} (hd : d.Valid n) (n' : Naming.Scheme) : d.Valid n' :=
  ⟨hd.name, hd.display, fun f hf => (hd.fields f hf).scheme n', hd.fieldIdents⟩

namespace Field

variable {f : Field} {args : List (String × Json)}

/-- A field passes its check on the argument it resolves to when the caller's argument has the
parameter's type: a typed argument or default passes, and a field with neither may be absent. -/
theorem Valid.argumentMismatch_resolved (hf : f.Valid n) (hc : f.constant = false)
    (hlit : f.literalReadsBack = true) (htyped : (Json.lookup args f.name).all f.admits = true)
    (hgiven : f.mayBeAbsent = false → f.defaultValue = none →
      (Json.lookup args f.name).isSome = true) :
    f.argumentMismatch (f.resolvedArgument args) = none := by
  cases hr : f.resolvedArgument args with
  | some j =>
    have hadmits := hf.admits_resolvedArgument hc hlit htyped
    rw [hr] at hadmits
    exact argumentMismatch_of_admits (by simpa using hadmits)
  | none =>
    obtain ⟨hlook, hdefault⟩ : Json.lookup args f.name = none ∧ f.defaultValue = none := by
      simpa [resolvedArgument] using hr
    cases hm : f.mayBeAbsent with
    | true => simp [argumentMismatch, hm]
    | false => exact absurd (hgiven hm hdefault) (by simp [hlook])

/-- The entry a generated builder's node has for a field is the entry the runtime writes, with
numbers read as doubles. -/
theorem Valid.generatedEntry_asDoubles (hf : f.Valid n) (hlit : f.literalReadsBack = true)
    (hadmits : f.constant = false → (f.resolvedArgument args).all f.admits = true) :
    (f.generatedEntry args).map Json.entryAsDoubles =
      ((f.entryValue args).map (f.name, ·)).map Json.entryAsDoubles := by
  cases hc : f.constant with
  | true =>
    obtain ⟨v, hv, hvalue⟩ := hf.admits_value hc hlit
    rw [generatedEntry_constant hc, entryValue_of_constant hc, hv]
    simp [Json.entryAsDoubles, toJson_literalValue hvalue]
  | false =>
    have hresolved := hadmits hc
    cases ho : f.optional with
    | true =>
      have hentry : f.entryValue args = (f.resolvedArgument args).filter f.keepsValue := by
        simp [entryValue, hc, ho]
      rw [generatedEntry_optional hc ho, hentry]
      cases hkept : (f.resolvedArgument args).filter f.keepsValue with
      | none => rfl
      | some j =>
        rw [(Option.filter_eq_some_iff.mp hkept).1] at hresolved
        simp [Json.entryAsDoubles, toJson_literalValue (by simpa using hresolved)]
    | false =>
      have hentry : f.entryValue args = some ((f.resolvedArgument args).getD .null) := by
        simp [entryValue, hc, ho]
      rw [generatedEntry_required hc ho, hentry]
      cases hr : f.resolvedArgument args with
      | none => simp [Json.entryAsDoubles, Json.asDoubles, Rust.Value.toJson]
      | some j =>
        rw [hr] at hresolved
        simp [Json.entryAsDoubles, toJson_literalValue (by simpa using hresolved)]

end Field

namespace TypeDef

variable {d : TypeDef} {args : List (String × Json)}

/-- Called with arguments of its parameters' types, the builder of a type of a schema builds the
node of the type's field entries. -/
theorem build_eq {s : Schema} {b : Builder} (hb : Builder.new? s = .ok b) (hd : d ∈ s.definitions)
    (hlits : ∀ f ∈ d.fields, f.literalReadsBack = true) (hargs : d.CallArguments args) :
    b.build d.name args = .ok (.obj ((discriminant, .str d.name) :: d.fieldEntries args)) := by
  obtain ⟨hvalid, -⟩ := Builder.new?_eq_ok.mp hb
  have hs := Schema.valid_of_validate_eq_ok hvalid
  have hnone : s.buildError d.name args = none := by
    refine (Schema.buildError_eq_none (hs.get?_name hd) args).mpr ⟨hargs.known, fun f hf => ?_⟩
    obtain ⟨hmem, hc⟩ := mem_nonConstantFields.mp hf
    exact ((hs.types d hd).fields f hmem).argumentMismatch_resolved hc (hlits f hmem)
      (hargs.typed f hf) (hargs.given f hf)
  obtain ⟨v, hv⟩ := errorOf_eq_none.mp ((errorOf_build hb d.name args).trans hnone)
  obtain ⟨d', hd', hname, rfl, -⟩ := build_eq_ok_node hb hv
  obtain rfl : d = d' :=
    Option.some.inj ((hs.get?_name hd).symm.trans (hname ▸ hs.get?_name hd'))
  exact hv

/-- The generated entries and the runtime's are the same, numbers as doubles, up to order: the
generated ones follow the declaration, the runtime's put constants first. -/
theorem Valid.generated_perm (hd : d.Valid n) (hlits : ∀ f ∈ d.fields, f.literalReadsBack = true)
    (hargs : d.CallArguments args) :
    ((d.fields.filterMap (·.generatedEntry args)).map Json.entryAsDoubles).Perm
      ((d.fieldEntries args).map Json.entryAsDoubles) := by
  have hentries : ∀ f ∈ d.fields, (f.generatedEntry args).map Json.entryAsDoubles =
      ((f.entryValue args).map (f.name, ·)).map Json.entryAsDoubles := fun f hf =>
    (hd.fields f hf).generatedEntry_asDoubles (hlits f hf) fun hc =>
      (hd.fields f hf).admits_resolvedArgument hc (hlits f hf)
        (hargs.typed f (mem_nonConstantFields.mpr ⟨hf, hc⟩))
  rw [fieldEntries_eq_filterMap, List.map_filterMap, List.map_filterMap,
    List.filterMap_congr hentries]
  exact ((fields_perm d).filterMap _).symm

end TypeDef

/-- The generated builder of a type agrees with the runtime. Called with arguments of its
parameters' types, each given one passed as it is or in `Some` and each other as `None`, it returns
a node, and serde writes it as the object the runtime builds from the same arguments: the same
entries, numbers compared as doubles, in another order, so the same keys with the same value under
each. This needs every literal of the type to read back. -/
theorem callBuilder_agrees {s : Schema} {b : Builder} (hb : Builder.new? s = .ok b)
    (n : Naming.Scheme) {d : TypeDef} (hd : d ∈ s.definitions) {args : List (String × Json)}
    (hargs : d.CallArguments args) (hlits : ∀ f ∈ d.fields, f.literalReadsBack = true) :
    ∃ generated built, Rust.callBuilder n d args = some (.obj generated) ∧
      b.build d.name args = .ok (.obj built) ∧
      (generated.map Json.entryAsDoubles).Perm (built.map Json.entryAsDoubles) ∧
      ∀ k, (Json.lookup generated k).map Json.asDoubles =
        (Json.lookup built k).map Json.asDoubles := by
  obtain ⟨hvalid, -⟩ := Builder.new?_eq_ok.mp hb
  have hdv : d.Valid n := ((Schema.valid_of_validate_eq_ok hvalid).types d hd).scheme n
  have hbuild := TypeDef.build_eq hb hd hlits hargs
  have hperm : (((discriminant, .str d.name) :: d.fields.filterMap (·.generatedEntry args)).map
      Json.entryAsDoubles).Perm
        (((discriminant, .str d.name) :: d.fieldEntries args).map Json.entryAsDoubles) := by
    rw [List.map_cons, List.map_cons]
    exact (hdv.generated_perm hlits hargs).cons _
  -- the runtime's keys are distinct, so the generated ones are too, and a look-up is read off
  -- the entries whichever order they come in
  have hkeys := hdv.keys_nodup args
  have hnodup : ((((discriminant, .str d.name) :: d.fieldEntries args).map
      Json.entryAsDoubles).map Prod.fst).Nodup := by
    simpa [List.map_map, Function.comp_def, Json.entryAsDoubles] using hkeys
  refine ⟨_, _, TypeDef.callBuilder_eq hdv hlits hargs, hbuild, hperm, fun k => ?_⟩
  rw [← Json.lookup_map_entryAsDoubles, ← Json.lookup_map_entryAsDoubles]
  exact Json.lookup_perm hperm.symm hnodup k |>.symm

/-- A label with a required text, a style defaulting to `plain`, an optional flag and optional
tags, called with a text and the flag `false`: the builder and the runtime agree. -/
theorem label_call_agrees :
    let d : TypeDef := { name := "Label", fields := [
      { name := "text", kind := .string },
      { name := "style", kind := .string, defaultValue := some (.str "plain") },
      { name := "bold", kind := .boolean, optional := true },
      { name := "tags", kind := .string, array := true, optional := true }] }
    let args : List (String × Json) := [("text", .str "hi"), ("bold", .bool false)]
    ∃ b, Builder.new? ⟨[d]⟩ = .ok b ∧ d.CallArguments args ∧
      (∀ f ∈ d.fields, f.literalReadsBack = true) ∧
      ∃ generated built, Rust.callBuilder {} d args = some (.obj generated) ∧
        b.build d.name args = .ok (.obj built) ∧
        (generated.map Json.entryAsDoubles).Perm (built.map Json.entryAsDoubles) ∧
        ∀ k, (Json.lookup generated k).map Json.asDoubles =
          (Json.lookup built k).map Json.asDoubles := by
  intro d args
  have hargs : d.CallArguments args := ⟨by decide +kernel, by decide +kernel, by decide +kernel⟩
  have hlits : ∀ f ∈ d.fields, f.literalReadsBack = true := by decide +kernel
  obtain ⟨b, hb⟩ : ∃ b, Builder.new? ⟨[d]⟩ = .ok b := ⟨_, by unfold d; rfl⟩
  exact ⟨b, hb, hargs, hlits, callBuilder_agrees hb {} (List.mem_singleton_self d) hargs hlits⟩

/-- A type whose one field is a constant of kind `any` holding `3000000000`: the runtime builds
its node, yet the literal the builder sets the field to has no value, so the builder returns
none. -/
theorem builder_beyond_i32_has_no_node :
    let d : TypeDef := { name := "Big", fields := [
      { name := "x", constant := true, value := some (.num (.nat 3000000000)) }] }
    ∃ b, Builder.new? ⟨[d]⟩ = .ok b ∧
      b.build "Big" [] = .ok (.obj [(discriminant, .str "Big"), ("x", .num (.nat 3000000000))]) ∧
      Rust.callBuilder {} d [] = none :=
  ⟨_, rfl, rfl, by decide +kernel⟩

end NodeKit
