import NodeKit.Proofs.Build
import NodeKit.Proofs.LiteralValues

/-!
Defaults and the checks of a builder. Validation accepts a default only when it renders as a
literal of its field, and the builder checks an absent argument's default as it checks a given
one. The two tests are written apart, one on literals and one on JSON types, yet a literal of a
field always passes the field's check: an array field's literal is an array, and a literal of a
string, number or boolean field has that JSON type. So building a node never reports a mismatch
for a field that was left out and has a default (`argumentMismatch_given_or_without_default`).
-/

namespace NodeKit

theorem ValueKind.name_ne_undefined (k : ValueKind) : k.name ≠ "undefined" := by
  cases k <;> decide

theorem ValueKind.typeName_of_accepts {k : ValueKind} {v : Json} (hk : k.isPrimitive = true)
    (h : k.accepts v = true) : v.typeName = k.name := by
  cases k <;> cases v <;> simp_all [ValueKind.isPrimitive, ValueKind.accepts, Json.typeName,
    ValueKind.name]

namespace Field

variable {f : Field}

theorem accepts_of_render {v : Json} {e : String} (h : Literal.render f v = .ok e) :
    f.accepts v = true := by
  rw [← refusal_eq_none, ← errorOf_render, h, errorOf_ok]

/-- A value passes a field's check when it is an array for an array field, and of the kind's
JSON type for a single field of a primitive kind. -/
theorem argumentMismatch_of_typeName {v : Json} (harray : f.array = true → v.typeName = "array")
    (hscalar : f.array = false → f.kind.isPrimitive = true → v.typeName = f.kind.name) :
    f.argumentMismatch (some v) = none := by
  unfold argumentMismatch
  cases ha : f.array with
  | true => simp [harray ha]
  | false =>
    by_cases hprimitive : f.kind.isPrimitive = true
    · simp [hprimitive, hscalar ha hprimitive]
    · simp [hprimitive]

/-- A literal of a field passes the field's check. -/
theorem argumentMismatch_of_accepts {v : Json} (h : f.accepts v = true) :
    f.argumentMismatch (some v) = none := by
  unfold accepts at h
  refine argumentMismatch_of_typeName (fun harray => ?_) fun harray hprimitive => ?_
  · -- an array field's literal is an array
    rw [if_pos harray] at h
    cases v <;> simp_all [Json.typeName]
  · rw [harray] at h
    exact ValueKind.typeName_of_accepts hprimitive h

/-- A default that validation accepts passes the field's check. -/
theorem Valid.argumentMismatch_default {n : Naming.Scheme} (hf : f.Valid n)
    (hconstant : f.constant = false) {v : Json} (hv : f.defaultValue = some v) :
    f.argumentMismatch (some v) = none := by
  obtain ⟨e, he⟩ := hf.defaultRenders v hconstant hv
  exact argumentMismatch_of_accepts (accepts_of_render he)

/-- A field the caller must give, and that is checked, fails its check when absent; so one that
passes absent passes as null too. -/
theorem argumentMismatch_null_of_none (h : f.argumentMismatch none = none) :
    f.argumentMismatch (some .null) = none := by
  by_cases hmay : f.mayBeAbsent = true
  · simp [argumentMismatch, hmay, Json.isNull]
  · have hfalse : f.mayBeAbsent = false := by simpa using hmay
    unfold argumentMismatch at h ⊢
    cases harray : f.array
    · have hname := f.kind.name_ne_undefined
      cases hprimitive : f.kind.isPrimitive <;>
        simp_all [Ne.symm hname]
    · simp_all

end Field

theorem Json.lookup_eq_none {entries : List (String × Json)} {k : String}
    (h : k ∉ entries.map Prod.fst) : Json.lookup entries k = none := by
  rw [← Option.not_isSome_iff_eq_none, Json.lookup_isSome_iff]
  rintro ⟨e, he, rfl⟩
  exact h (List.mem_map_of_mem he)

/-- Building a node never reports a mismatch for a field that was left out and has a default:
the field it reports is a non-constant field of the type, and the arguments name it or it has no
default. In particular building from no arguments fails only on fields without a default. -/
theorem argumentMismatch_given_or_without_default {s : Schema} {b : Builder}
    (hb : Builder.new? s = .ok b) {t : String} {args : List (String × Json)}
    {t' field expected actual : String}
    (h : b.build t args = .error (.argumentMismatch t' field expected actual)) :
    ∃ d ∈ s.definitions, d.name = t ∧ ∃ f ∈ d.nonConstantFields, f.name = field ∧
      (field ∈ args.map Prod.fst ∨ f.defaultValue = none) := by
  obtain ⟨hvalid, -⟩ := Builder.new?_eq_ok.mp hb
  have hs := Schema.valid_of_validate_eq_ok hvalid
  have herror := errorOf_build hb t args
  rw [h, errorOf_error] at herror
  unfold Schema.buildError at herror
  cases hd : s.get? t with
  | none => simp [hd] at herror
  | some d =>
    have hmem : d ∈ s.definitions := List.mem_of_find?_eq_some hd
    have hname : d.name = t := by simpa using List.find?_some hd
    rw [hd] at herror
    dsimp only at herror
    cases hk : args.find? fun a => a.1 ∉ d.nonConstantFields.map (·.name) with
    | some a =>
      obtain ⟨k, x⟩ := a
      rw [hk] at herror
      simp at herror
    | none =>
      rw [hk] at herror
      dsimp only at herror
      -- the reported field is the first whose resolved argument fails its check
      obtain ⟨f, hf, hreport⟩ := List.exists_of_findSome?_eq_some herror.symm
      obtain ⟨⟨e, a⟩, hmismatch, heq⟩ := Option.map_eq_some_iff.mp hreport
      injection heq with _ hfield
      refine ⟨d, hmem, hname, f, hf, hfield, ?_⟩
      by_cases hgiven : field ∈ args.map Prod.fst
      · exact .inl hgiven
      · refine .inr ?_
        cases hdefault : f.defaultValue with
        | none => rfl
        | some v =>
          -- absent, the field takes its default, which passes the check
          have hfvalid := (hs.types d hmem).fields f (List.mem_filter.mp hf).1
          have hconstant : f.constant = false := by simpa using (List.mem_filter.mp hf).2
          have hresolved : f.resolvedArgument args = some v := by
            rw [Field.resolvedArgument, Json.lookup_eq_none (hfield ▸ hgiven), hdefault]
            rfl
          rw [hresolved, hfvalid.argumentMismatch_default hconstant hdefault] at hmismatch
          cases hmismatch

/-- A label type whose text has no default and whose style defaults to `plain`: building a label
from no arguments reports the text, which has no default. -/
theorem label_without_text_mismatch :
    let s : Schema := ⟨[{ name := "Label", fields := [
      { name := "text", kind := .string },
      { name := "style", kind := .string, defaultValue := some (.str "plain") }] }]⟩
    ∃ b, Builder.new? s = .ok b ∧
      b.build "Label" [] = .error (.argumentMismatch "Label" "text" "string" "undefined") ∧
      ∃ d ∈ s.definitions, d.name = "Label" ∧ ∃ f ∈ d.nonConstantFields, f.name = "text" ∧
        ("text" ∈ ([] : List (String × Json)).map Prod.fst ∨ f.defaultValue = none) :=
  ⟨_, rfl, rfl, argumentMismatch_given_or_without_default rfl rfl⟩

end NodeKit
