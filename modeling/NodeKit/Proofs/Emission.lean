import NodeKit.Generate
import NodeKit.Proofs.Validation

/-! When emitting a module fails, and with which error. The only fallible step of the emitter is
rendering a literal: each builder renders the defaults of its parameters, then the values of its
constant fields (null when a constant has none). Emission therefore fails exactly at the first
literal in that order that does not render, taking the types in schema order, and validation has
already rendered every one of them. So a generation pass fails exactly when validation does,
with the same error, and a pass into an in-memory sink writes all of the module or nothing. -/

namespace NodeKit

/-- The error emission reports for the literal `v` of field `f` of type `d`, if it does not
render. -/
def TypeDef.literalFault (d : TypeDef) (f : Field) (v : Json) : Option SchemaError :=
  (errorOf (Literal.render f v)).map fun e => .invalidLiteral d.name f.name e.message

/-- The first literal of a type that does not render: the defaults of its non-constant fields in
field order, then the values of its constant fields in field order, null standing for a missing
value. -/
def TypeDef.literalError (d : TypeDef) : Option SchemaError :=
  (d.nonConstantFields.findSome? fun f => f.defaultValue.bind fun v => d.literalFault f v).or
    ((d.fields.filter (·.constant)).findSome? fun f => d.literalFault f (f.value.getD .null))

/-- The first literal of a schema that does not render, taking the types in order. -/
def Schema.literalError (s : Schema) : Option SchemaError :=
  s.definitions.findSome? TypeDef.literalError

namespace Rust.Module

variable {n : Naming.Scheme} {t : String}

theorem errorOf_literal (f : Field) (v : Json) :
    errorOf (literal t f v) =
      (errorOf (Literal.render f v)).map fun e => .invalidLiteral t f.name e.message := by
  unfold literal
  cases Literal.render f v <;> rfl

theorem errorOf_defaultLine (p : Param) :
    errorOf (defaultLine n t p) = p.defaultValue.bind fun d => errorOf (literal t p.field d) := by
  unfold defaultLine
  cases p.defaultValue with
  | none => rfl
  | some d =>
    simp only [Option.bind_some]
    cases literal t p.field d with
    | error e => rfl
    | ok lit => cases p.field.mayBeAbsent <;> rfl

theorem errorOf_initLine (init : FieldInit) :
    errorOf (initLine n t init) = match init with
      | .constant f v => errorOf (literal t f v)
      | _ => none := by
  unfold initLine
  rw [errorOf_bind]
  cases init with
  | constant f v =>
    simp only [initExpr]
    cases literal t f v <;> rfl
  | required f => rfl
  | optional f elision => rfl

/-- A builder fails with the first failing default line, else the first failing field setting. -/
theorem errorOf_builder (plan : Plan) :
    errorOf (builder n plan) =
      (plan.params.findSome? fun p => errorOf (defaultLine n plan.typeName p)).or
        (plan.construction.inits.findSome? fun i => errorOf (initLine n plan.typeName i)) := by
  rw [← errorOf_mapM, ← errorOf_mapM]
  unfold builder
  simp only
  cases plan.params.mapM (defaultLine n plan.typeName) with
  | error e => rfl
  | ok defaults => cases plan.construction.inits.mapM (initLine n plan.typeName) <;> rfl

/-- The builder of a type fails exactly at the type's first literal that does not render. -/
theorem errorOf_builder_plan (d : TypeDef) : errorOf (builder n d.plan) = d.literalError := by
  rw [errorOf_builder]
  simp only [TypeDef.plan, TypeDef.params, TypeDef.construction, List.findSome?_append,
    List.findSome?_map, Function.comp_def, errorOf_defaultLine, errorOf_initLine,
    errorOf_literal]
  have hnone : ∀ fs : List Field, (fs.findSome? fun _ => (none : Option SchemaError)) = none :=
    fun fs => List.findSome?_eq_none_iff.mpr fun _ _ => rfl
  simp [hnone, TypeDef.literalError, TypeDef.literalFault]

/-- Emission fails exactly at the schema's first literal that does not render. -/
theorem errorOf_render (s : Schema) (g : GroupIndex) :
    errorOf (render n s g) = s.literalError := by
  have hbuilders := errorOf_mapM (fun d => builder n d.plan) s.definitions
  simp only [errorOf_builder_plan] at hbuilders
  unfold render
  rw [errorOf_bind]
  cases h : s.definitions.mapM (fun d => builder n d.plan) with
  | error e => simpa [h, Schema.literalError] using hbuilders
  | ok builders => simpa [h, Schema.literalError] using hbuilders

end Rust.Module

variable {n : Naming.Scheme}

/-- Validation has rendered every literal the builder of a valid type renders. -/
theorem TypeDef.literalError_eq_none {d : TypeDef} (hd : d.Valid n) : d.literalError = none := by
  simp only [TypeDef.literalError, Option.or_eq_none_iff, List.findSome?_eq_none_iff]
  constructor
  · intro f hf
    obtain ⟨hmem, hvariable⟩ := List.mem_filter.mp hf
    cases hdefault : f.defaultValue with
    | none => rfl
    | some v =>
      obtain ⟨e, he⟩ := (hd.fields f hmem).defaultRenders v (by simpa using hvariable) hdefault
      simp [TypeDef.literalFault, he]
  · intro f hf
    obtain ⟨hmem, hconstant⟩ := List.mem_filter.mp hf
    obtain ⟨v, e, hv, he⟩ := (hd.fields f hmem).value_renders hconstant
    simp [TypeDef.literalFault, hv, he]

theorem Schema.literalError_eq_none {s : Schema} (hs : s.Valid n) : s.literalError = none :=
  List.findSome?_eq_none_iff.mpr fun d hd => TypeDef.literalError_eq_none (hs.types d hd)

/-- A generation pass fails with the error of validation, if any: emission cannot fail after it. -/
theorem Schema.errorOf_generate (s : Schema) : errorOf (s.generate n) = errorOf (s.validate n) := by
  unfold Schema.generate
  rw [errorOf_bind]
  cases hv : s.validate n with
  | error e => rfl
  | ok u =>
    rw [Rust.Module.errorOf_render, literalError_eq_none (valid_of_validate_eq_ok hv)]
    rfl

theorem Schema.generateInto_run (s : Schema) (sink : ByteArray) :
    (s.generateInto n).run.run sink = match s.generate n with
      | .ok text => (.ok (), sink ++ text.toUTF8)
      | .error e => (.error e, sink) := by
  unfold Schema.generateInto
  cases s.generate n <;> rfl

/-- Emission fails exactly at the first literal that does not render, the defaults of each type
before its constants and the types in schema order; after validation it cannot fail, so a
generation pass fails exactly when validation does, with its error, and a pass into an in-memory
sink leaves it untouched on failure and appends the module's text on success. -/
theorem render_fails_at_first_invalid_literal (n : Naming.Scheme) (s : Schema) (g : GroupIndex) :
    (∀ e, Rust.Module.render n s g = .error e ↔ s.literalError = some e) ∧
    (s.validate n = .ok () → ∃ text, Rust.Module.render n s g = .ok text) ∧
    (∀ e, s.generate n = .error e ↔ s.validate n = .error e) ∧
    (∀ sink, (s.generateInto n).run.run sink = match s.generate n with
      | .ok text => (.ok (), sink ++ text.toUTF8)
      | .error e => (.error e, sink)) := by
  refine ⟨fun e => ?_, fun hv => ?_, fun e => ?_, s.generateInto_run⟩
  · rw [← errorOf_eq_some, Rust.Module.errorOf_render]
  · rw [← errorOf_eq_none, Rust.Module.errorOf_render]
    exact Schema.literalError_eq_none (Schema.valid_of_validate_eq_ok hv)
  · rw [← errorOf_eq_some, ← errorOf_eq_some, Schema.errorOf_generate]

/-- A schema of one type `Call` with a string callee validates, so its module renders. -/
theorem call_module_renders :
    Schema.validate ⟨[{ name := "Call", fields := [{ name := "callee", kind := .string }] }]⟩ {}
        = .ok () ∧
      ∃ text, Rust.Module.render {}
        ⟨[{ name := "Call", fields := [{ name := "callee", kind := .string }] }]⟩ ⟨[]⟩ =
          .ok text := by
  have hv : Schema.validate
      ⟨[{ name := "Call", fields := [{ name := "callee", kind := .string }] }]⟩ {} =
        .ok () := rfl
  exact ⟨hv, (render_fails_at_first_invalid_literal {} _ ⟨[]⟩).2.1 hv⟩

end NodeKit
