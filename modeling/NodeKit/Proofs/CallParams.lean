import NodeKit.Proofs.CallLines
import NodeKit.Proofs.Construction
import NodeKit.Proofs.Emission

/-! Calling a generated builder, up to the node it puts together. The caller passes arguments
that have the types of the builder's parameters (`TypeDef.CallArguments`): every key names a
parameter, every argument has its parameter's type, and every field that may be neither absent
nor defaulted is given. The builder binds each argument, `Some` of it or `None` where the
parameter's type is an `Option`, and its default lines bind each parameter with a default again to
its argument, else the default's value. Each value the builder holds stands for a JSON value: the
argument itself, or the literal's value, and the one difference is that a number of a number field
is held as a double, so values are compared with every number read as a double. What carries over
from the literal reader is that a literal whose numbers read back evaluates to its value. -/

namespace NodeKit

/-! ### Arguments -/

/-- A JSON argument has the Rust type of a value of `kind`: a string, a number whose double is
finite, a boolean, an object for an object or a node, anything for `any`. -/
def ValueKind.admits : ValueKind → Json → Bool
  | .string, .str _ => true
  | .number, .num n => n.toBinary64.isFinite
  | .boolean, .bool _ => true
  | .object, .obj _ => true
  | .node, .obj _ => true
  | .any, _ => true
  | _, _ => false

/-- A JSON argument has the type of the field's parameter: an array of such items for an array
field. Null is admitted only where anything is, by a single field of kind `any`. -/
def Field.admits (f : Field) (j : Json) : Bool :=
  if f.array then
    match j with
    | .arr items => items.all f.kind.admits
    | _ => false
  else f.kind.admits j

/-- Arguments a generated builder of `d` can be called with: every key names a parameter, every
argument has its parameter's type, and every field that may not be absent and has no default is
given. -/
structure TypeDef.CallArguments (d : TypeDef) (args : List (String × Json)) : Prop where
  known : ∀ a ∈ args, a.1 ∈ d.nonConstantFields.map (·.name)
  typed : ∀ f ∈ d.nonConstantFields, (Json.lookup args f.name).all f.admits = true
  given : ∀ f ∈ d.nonConstantFields, f.mayBeAbsent = false → f.defaultValue = none →
    (Json.lookup args f.name).isSome = true

/-- The literal a builder writes for a field: the value of a constant, the default of any other
field. -/
def Field.literal? (f : Field) : Option Json := if f.constant then f.value else f.defaultValue

/-- The field's literal, if it has one, reads back: the keys of its objects are distinct and its
numbers read back from their tokens. -/
def Field.literalReadsBack (f : Field) : Bool :=
  f.literal?.all fun v => v.keysDistinct && v.numbers.all fun m => decide (f.kind.ReadsBack m)

/-! ### Comparing numbers as doubles -/

mutual

/-- The value with every number replaced by its double. -/
def Json.asDoubles : Json → Json
  | .num n => .num (.double n.toBinary64)
  | .arr items => .arr (Json.itemsAsDoubles items)
  | .obj entries => .obj (Json.entriesAsDoubles entries)
  | v => v

/-- The items of an array with every number replaced by its double. -/
def Json.itemsAsDoubles : List Json → List Json
  | [] => []
  | v :: rest => v.asDoubles :: Json.itemsAsDoubles rest

/-- The entries of an object with every number replaced by its double. -/
def Json.entriesAsDoubles : List (String × Json) → List (String × Json)
  | [] => []
  | (k, v) :: rest => (k, v.asDoubles) :: Json.entriesAsDoubles rest

end

namespace Json

theorem itemsAsDoubles_eq_map (items : List Json) : itemsAsDoubles items = items.map asDoubles := by
  induction items with
  | nil => rfl
  | cons v rest ih => rw [itemsAsDoubles, ih, List.map_cons]

/-- An entry with its value's numbers replaced by their doubles. -/
def entryAsDoubles (e : String × Json) : String × Json := (e.1, e.2.asDoubles)

theorem lookup_map_entryAsDoubles (entries : List (String × Json)) (k : String) :
    lookup (entries.map entryAsDoubles) k = (lookup entries k).map asDoubles := by
  induction entries with
  | nil => rfl
  | cons e rest ih =>
    by_cases hk : e.1 = k
    · simp [lookup, entryAsDoubles, hk]
    · simpa [lookup, entryAsDoubles, hk] using ih

end Json

/-! ### Values of arguments and literals -/

namespace ValueKind

theorem readAt_of_admits {kind : ValueKind} {j : Json} (h : kind.admits j = true) :
    Rust.readAt kind j = some (kind.literalValue j) := by
  cases kind <;> cases j <;> first | rfl | cases h

/-- The JSON of an admitted value, numbers compared as doubles, is the value itself. -/
theorem toJson_literalValue {kind : ValueKind} {j : Json} (h : kind.admits j = true) :
    (kind.literalValue j).toJson.asDoubles = j.asDoubles := by
  cases kind <;> cases j <;> try cases h
  all_goals first
    | rfl
    | simp only [literalValue, Rust.Value.toJson, admits] at h ⊢
      rw [if_pos h]
      rfl

theorem itemsToJson_literalValue {kind : ValueKind} :
    ∀ {items : List Json}, (∀ v ∈ items, kind.admits v = true) →
      (Rust.Value.itemsToJson (items.map kind.literalValue)).map Json.asDoubles =
        items.map Json.asDoubles
  | [], _ => rfl
  | v :: rest, h => by
    rw [List.map_cons, Rust.Value.itemsToJson, List.map_cons, List.map_cons,
      toJson_literalValue (h v List.mem_cons_self),
      itemsToJson_literalValue fun w hw => h w (List.mem_cons_of_mem _ hw)]

end ValueKind

namespace Field

theorem toJson_literalValue {f : Field} {j : Json} (h : f.admits j = true) :
    (f.literalValue j).toJson.asDoubles = j.asDoubles := by
  unfold admits at h
  unfold literalValue
  cases harray : f.array with
  | false =>
    rw [harray] at h
    exact ValueKind.toJson_literalValue h
  | true =>
    rw [harray] at h
    cases j with
    | arr items =>
      have hitems : ∀ v ∈ items, f.kind.admits v = true := List.all_eq_true.mp h
      simp only [↓reduceIte, Rust.Value.toJson, Json.asDoubles, Json.itemsAsDoubles_eq_map]
      rw [ValueKind.itemsToJson_literalValue hitems]
    | _ => cases h

theorem mem_itemNumbers {items : List Json} {v : Json} (hv : v ∈ items) {m : Number}
    (hm : m ∈ v.numbers) : m ∈ Json.itemNumbers items := by
  induction items with
  | nil => cases hv
  | cons w rest ih =>
    rcases List.mem_cons.mp hv with rfl | hv
    · exact List.mem_append_left _ hm
    · exact List.mem_append_right _ (ih hv)

/-- A literal that renders and reads back is admitted: it conforms to the field, and a number of
a number field reads back as a finite double. -/
theorem admits_of_render {f : Field} {v : Json} {text : String}
    (h : Literal.render f v = .ok text) (hnums : ∀ m ∈ v.numbers, f.kind.ReadsBack m) :
    f.admits v = true := by
  have haccepts : f.accepts v = true :=
    Field.refusal_eq_none.mp (by rw [← errorOf_render, h]; rfl)
  have hscalar : ∀ w : Json, f.kind.accepts w = true → (∀ m ∈ w.numbers, f.kind.ReadsBack m) →
      f.kind.admits w = true := by
    intro w hw hwnums
    cases hkind : f.kind <;> rw [hkind] at hw hwnums <;> cases w <;> try cases hw
    all_goals first
      | rfl
      | exact Rust.isFinite_of_readFloat (hwnums _ (Json.mem_numbers_num _))
  unfold accepts at haccepts
  unfold admits
  cases harray : f.array with
  | false =>
    simp only [harray, Bool.false_eq_true, ↓reduceIte] at haccepts ⊢
    exact hscalar v haccepts hnums
  | true =>
    simp only [harray, ↓reduceIte] at haccepts ⊢
    cases v with
    | arr items =>
      simp only [List.all_eq_true] at haccepts ⊢
      exact fun w hw => hscalar w (haccepts w hw) fun m hm => hnums m (mem_itemNumbers hw hm)
    | _ => cases haccepts

end Field

/-! ### Parameters -/

theorem mapM_eq_some_map {α β : Type} {f : α → Option β} {g : α → β} :
    ∀ {l : List α}, (∀ a ∈ l, f a = some (g a)) → l.mapM f = some (l.map g)
  | [], _ => rfl
  | a :: l, h => by
    rw [List.mapM_cons, h a List.mem_cons_self,
      mapM_eq_some_map fun b hb => h b (List.mem_cons_of_mem _ hb)]
    rfl

namespace Rust

theorem kindOfType_valueType (kind : ValueKind) :
    kindOfType (Module.valueType kind).toList = some kind := by
  cases kind <;> rfl

/-- The type of a field's values, for an array field a `Vec` of them: what a parameter holds
inside its `Option`. -/
theorem argValue_of_admits {f : Field} {j : Json} (h : f.admits j = true) :
    argValue (if f.array then "Vec<" ++ Module.valueType f.kind ++ ">"
      else Module.valueType f.kind).toList j = some (f.literalValue j) := by
  unfold Field.admits at h
  unfold Field.literalValue
  cases harray : f.array with
  | false =>
    rw [harray] at h
    have hscalar : afterText "Vec<" (Module.valueType f.kind).toList = none := by
      cases f.kind <;> rfl
    simp only [Bool.false_eq_true, ↓reduceIte, argValue, hscalar, Option.bind_none,
      kindOfType_valueType, Option.bind_some, ValueKind.readAt_of_admits h]
  | true =>
    rw [harray] at h
    cases j with
    | arr items =>
      have hitems : ∀ v ∈ items, f.kind.admits v = true := List.all_eq_true.mp h
      simp only [↓reduceIte, argValue, String.toList_append, List.append_assoc, afterText_append,
        Option.bind_some, beforeText_append, kindOfType_valueType,
        mapM_eq_some_map fun v hv => ValueKind.readAt_of_admits (hitems v hv), Option.map_some]
    | _ => cases h

/-- A parameter binds the caller's argument: `Some` of its value or `None` when its type is an
`Option`, which it is for a field that may be absent or has a default, and the value itself
otherwise. -/
theorem bindArgument_paramType (f : Field) (dv : Option Json) {arg : Option Json}
    (htyped : arg.all f.admits = true)
    (hgiven : (f.mayBeAbsent || dv.isSome) = false → arg.isSome = true) :
    bindArgument (Module.paramType ⟨f, dv⟩).toList arg =
      some (if f.mayBeAbsent || dv.isSome then .optional (arg.map f.literalValue)
        else .plain ((arg.map f.literalValue).getD (.json .null))) := by
  have hvalue : ∀ j, arg = some j → argValue (if f.array then "Vec<" ++ Module.valueType f.kind ++
      ">" else Module.valueType f.kind).toList j = some (f.literalValue j) := by
    intro j hj
    subst hj
    exact argValue_of_admits htyped
  unfold Module.paramType
  cases hoption : (f.mayBeAbsent || dv.isSome) with
  | true =>
    simp only [↓reduceIte, bindArgument, String.toList_append, List.append_assoc,
      afterText_append, Option.bind_some, beforeText_append]
    cases arg with
    | none => rfl
    | some j => simp only [hvalue j rfl, Option.map_some]
  | false =>
    have hplain : afterText "Option<" (if f.array then "Vec<" ++ Module.valueType f.kind ++ ">"
        else Module.valueType f.kind).toList = none := by
      cases f.array <;> cases f.kind <;> rfl
    obtain ⟨j, rfl⟩ := Option.isSome_iff_exists.mp (hgiven hoption)
    simp only [Bool.false_eq_true, ↓reduceIte, bindArgument, hplain, Option.bind_none,
      Option.bind_some, hvalue j rfl, Option.map_some, Option.getD_some]

end Rust

namespace Field

variable (f : Field) (args : List (String × Json))

/-- What the builder's parameter for a field holds when it is called: `Some` of the argument's
value or `None` when the parameter's type is an `Option`, the argument's value otherwise. -/
def argumentSlot : Rust.Slot :=
  if f.mayBeAbsent || f.defaultValue.isSome then
    .optional ((Json.lookup args f.name).map f.literalValue)
  else .plain (((Json.lookup args f.name).map f.literalValue).getD (.json .null))

/-- What the parameter holds once its default is filled in: its argument, else its default, as
an `Option` exactly when the field may be absent. -/
def resolvedSlot : Rust.Slot :=
  if f.mayBeAbsent then .optional ((f.resolvedArgument args).map f.literalValue)
  else .plain (((f.resolvedArgument args).map f.literalValue).getD (.json .null))

/-- What the struct expression sets the field to: a constant's literal, an optional field's
value when its elision keeps it, and any other field's resolved parameter. -/
def fieldSlot : Rust.Slot :=
  if f.constant then .plain (f.literalValue (f.value.getD .null))
  else if f.optional then
    .optional (((f.resolvedArgument args).filter f.keepsValue).map f.literalValue)
  else f.resolvedSlot args

/-- The entry the generated builder's node has for the field: its value as serde writes it, and
none for an optional field that is `None`. -/
def generatedEntry : Option (String × Json) :=
  match f.fieldSlot args with
  | .plain v => some (f.name, v.toJson)
  | .optional none => if f.optional && !f.constant then none else some (f.name, .null)
  | .optional (some v) => some (f.name, v.toJson)

end Field

variable {n : Naming.Scheme}

/-- A field's validity does not depend on the builder prefix. -/
theorem Field.Valid.scheme {f : Field} (hf : f.Valid n) (n' : Naming.Scheme) : f.Valid n' :=
  ⟨hf.notDiscriminant, hf.identifier, hf.usable, hf.notConstantOptional, hf.constant_iff_value,
    hf.constantRenders, hf.defaultRenders⟩

theorem Field.Valid.isIdentChar {f : Field} (hf : f.Valid n) :
    ∀ c ∈ (n.field f.name).toList, Rust.isIdentChar c = true :=
  hf.legal_field.isIdentChar

theorem TypeDef.plan_params (d : TypeDef) :
    d.plan.params = d.nonConstantFields.map fun f => ⟨f, f.defaultValue⟩ := rfl

theorem TypeDef.mem_nonConstantFields {d : TypeDef} {f : Field} :
    f ∈ d.nonConstantFields ↔ f ∈ d.fields ∧ f.constant = false := by
  simp [TypeDef.nonConstantFields]

namespace TypeDef

variable {d : TypeDef} {args : List (String × Json)}

/-- Calling the builder binds each parameter to its argument. -/
theorem mapM_bindArgument (hd : d.Valid n) (hargs : d.CallArguments args) :
    d.plan.params.mapM (fun p => (Rust.paramDecl (Rust.Module.paramLine n p).toList).bind
      fun decl => (Rust.bindArgument decl.2 (Json.lookup args p.field.name)).map (decl.1, ·)) =
      some (d.nonConstantFields.map fun f => (n.field f.name, f.argumentSlot args)) := by
  rw [plan_params, List.mapM_map]
  refine mapM_eq_some_map fun f hf => ?_
  have hfield := hd.fields f (mem_nonConstantFields.mp hf).1
  have hgiven : (f.mayBeAbsent || f.defaultValue.isSome) = false →
      (Json.lookup args f.name).isSome = true := by
    intro h
    simp only [Bool.or_eq_false_iff, Option.isSome_eq_false_iff, Option.isNone_iff_eq_none] at h
    exact hargs.given f hf h.1 h.2
  rw [Function.comp_apply, Rust.paramDecl_paramLine (n := n) ⟨f, f.defaultValue⟩ hfield.isIdentChar,
    Option.bind_some]
  dsimp only
  rw [Rust.bindArgument_paramType f f.defaultValue (hargs.typed f hf) hgiven, Option.map_some]
  rfl

end TypeDef

/-! ### Defaults -/

theorem Rust.lookup_cons_ne {x y : String} (h : y ≠ x) (s : Rust.Slot) (env : Rust.Scope) :
    List.lookup y ((x, s) :: env) = env.lookup y := by
  rw [List.lookup_cons, beq_false_of_ne h]

namespace Field

variable {f : Field} {args : List (String × Json)}

/-- The literal of a field that reads back: its objects have distinct keys and its numbers read
back. -/
theorem literalReadsBack_of_eq {v : Json} (hlit : f.literalReadsBack = true)
    (hv : f.literal? = some v) : v.keysDistinct = true ∧ ∀ m ∈ v.numbers, f.kind.ReadsBack m := by
  simp only [literalReadsBack, hv, Option.all_some, Bool.and_eq_true, List.all_eq_true,
    decide_eq_true_eq] at hlit
  exact hlit

theorem argumentSlot_of_default {dv : Json} (hdv : f.defaultValue = some dv) :
    f.argumentSlot args = .optional ((Json.lookup args f.name).map f.literalValue) := by
  simp [argumentSlot, hdv]

/-- Filling in a field's default takes its parameter from the argument's slot to the resolved
one: nothing changes without a default, and otherwise the parameter is bound again. -/
theorem runDefault_defaultLine (hf : f.Valid n) (hnc : f.constant = false)
    (hlit : f.literalReadsBack = true) (t : String) {env : Rust.Scope}
    (henv : env.lookup (n.field f.name) = some (f.argumentSlot args)) :
    ∃ line env', Rust.Module.defaultLine n t ⟨f, f.defaultValue⟩ = .ok line ∧
      Rust.runDefault env line.toList = some env' ∧
      env'.lookup (n.field f.name) = some (f.resolvedSlot args) ∧
      (env' = env ∨ ∃ s, env' = (n.field f.name, s) :: env) := by
  cases hdv : f.defaultValue with
  | none =>
    have hline : Rust.Module.defaultLine n t ⟨f, f.defaultValue⟩ = .ok "" := by
      simp only [Rust.Module.defaultLine, hdv]
    refine ⟨"", env, hdv ▸ hline, rfl, ?_, .inl rfl⟩
    rw [henv]
    simp [argumentSlot, resolvedSlot, resolvedArgument, hdv]
  | some dv =>
    obtain ⟨text, hrender⟩ := hf.defaultRenders dv hnc hdv
    obtain ⟨hkeys, hnums⟩ := literalReadsBack_of_eq (v := dv) hlit (by simp [literal?, hnc, hdv])
    obtain ⟨line, hline⟩ : ∃ line, Rust.Module.defaultLine n t ⟨f, some dv⟩ = .ok line := by
      apply errorOf_eq_none.mp
      rw [Rust.Module.errorOf_defaultLine, Option.bind_some, Rust.Module.errorOf_literal, hrender]
      rfl
    obtain ⟨lit, hlit', hlineText⟩ := Rust.defaultLine_eq_ok (p := ⟨f, some dv⟩) rfl hline
    rw [hrender] at hlit'
    cases hlit'
    have hvalue := Literal.evaluate_render hrender hkeys hnums
    have hcall := Rust.evalExpr_call hf.isIdentChar (henv.trans
      (congrArg some (argumentSlot_of_default hdv)))
    refine ⟨line, _, hline, ?_, List.lookup_cons_self, .inr ⟨_, rfl⟩⟩
    rw [hlineText, Rust.runDefault_let hf.isIdentChar, hcall]
    -- the method called is `or_else` when the field may be absent, `unwrap_or_else` otherwise
    cases hmay : f.mayBeAbsent with
    | true =>
      rw [if_pos rfl, Rust.call_orElse, hvalue]
      simp only [resolvedSlot, resolvedArgument, hmay, hdv, ↓reduceIte]
      cases Json.lookup args f.name <;> rfl
    | false =>
      rw [if_neg Bool.false_ne_true, Rust.call_unwrapOrElse, hvalue]
      simp only [resolvedSlot, resolvedArgument, hmay, hdv, Bool.false_eq_true, ↓reduceIte]
      cases Json.lookup args f.name <;> rfl

end Field

namespace TypeDef

variable {d : TypeDef} {args : List (String × Json)}

/-- The default lines of the fields `fs`, run in turn, take each of their parameters from its
argument's slot to its resolved one, leave every other name alone and bind no other name. -/
theorem foldlM_runDefault (hd : d.Valid n) (hlits : ∀ f ∈ d.fields, f.literalReadsBack = true)
    (t : String) :
    ∀ (fs : List Field), (∀ f ∈ fs, f ∈ d.nonConstantFields) → (fs.map (n.field ·.name)).Nodup →
    ∀ env : Rust.Scope, (∀ f ∈ fs, env.lookup (n.field f.name) = some (f.argumentSlot args)) →
    ∃ lines env', (fs.map fun f => (⟨f, f.defaultValue⟩ : Param)).mapM
        (Rust.Module.defaultLine n t) = .ok lines ∧
      lines.foldlM (fun env line => Rust.runDefault env line.toList) env = some env' ∧
      (∀ f ∈ fs, env'.lookup (n.field f.name) = some (f.resolvedSlot args)) ∧
      (∀ y, y ∉ fs.map (n.field ·.name) → env'.lookup y = env.lookup y) ∧
      (∀ e ∈ env', e ∈ env ∨ e.1 ∈ fs.map (n.field ·.name))
  | [], _, _, env, _ => ⟨[], env, rfl, rfl, by simp, by simp, fun e he => .inl he⟩
  | f :: fs, hmem, hnodup, env, henv => by
    have hf := mem_nonConstantFields.mp (hmem f List.mem_cons_self)
    obtain ⟨hfresh, hnodup'⟩ := List.nodup_cons.mp hnodup
    obtain ⟨line, env₁, hline, hrun, hslot, hshape⟩ := Field.runDefault_defaultLine
      (hd.fields f hf.1) hf.2 (hlits f hf.1) t (henv f List.mem_cons_self)
    -- the names of the other fields are not the one just bound again
    have hother : ∀ y, y ≠ n.field f.name → env₁.lookup y = env.lookup y := by
      intro y hy
      rcases hshape with rfl | ⟨s, rfl⟩
      · rfl
      · exact Rust.lookup_cons_ne hy s env
    have hne : ∀ g ∈ fs, n.field g.name ≠ n.field f.name := fun g hg h =>
      hfresh (List.mem_map.mpr ⟨g, hg, h⟩)
    obtain ⟨lines, env', hlines, hrun', hfs, hout, hkeys⟩ := foldlM_runDefault hd hlits t fs
      (fun g hg => hmem g (List.mem_cons_of_mem _ hg)) hnodup' env₁
      (fun g hg => (hother _ (hne g hg)).trans (henv g (List.mem_cons_of_mem _ hg)))
    refine ⟨line :: lines, env', ?_, ?_, ?_, ?_, ?_⟩
    · simp [List.mapM_cons, hline, hlines]
    · rw [List.foldlM_cons, hrun]
      exact hrun'
    · intro g hg
      rcases List.mem_cons.mp hg with rfl | hg
      · rw [hout _ hfresh, hslot]
      · exact hfs g hg
    · intro y hy
      simp only [List.map_cons, List.mem_cons, not_or] at hy
      rw [hout y hy.2, hother y hy.1]
    · intro e he
      rcases hkeys e he with he | he
      · rcases hshape with rfl | ⟨s, rfl⟩
        · exact .inl he
        · rcases List.mem_cons.mp he with rfl | he
          · exact .inr (List.mem_cons_self ..)
          · exact .inl he
      · exact .inr (List.mem_cons_of_mem _ he)

end TypeDef

end NodeKit
