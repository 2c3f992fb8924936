import NodeKit.Proofs.Build
import NodeKit.Proofs.Groups

/-!
The guards of a builder, on every JSON value. A value is of type `t` when `t` is a type of the
schema and the value is an object whose `type` entry is the string `t`; it is in group `g` when
its `type` entry is a string naming a type that declares `g`, so a tag no type declares takes in
nothing. Asserting a type fails with the unknown type when it is no type of the schema, passes
when the value is of the type, and otherwise names what the value carries: its `type` string, or
`none` when it has none. `guards_exact` gathers these; the builder's plans are keyed by the names
of the types and its groups list exactly the declaring types, which is what makes them hold.
-/

namespace NodeKit

namespace Builder

variable {s : Schema} {b : Builder}

theorem plan?_isSome (hb : Builder.new? s = .ok b) (t : String) :
    (b.plan? t).isSome = true ↔ t ∈ s.names := by
  obtain ⟨-, rfl⟩ := new?_eq_ok.mp hb
  rw [plan?_ofSchema, Option.isSome_map, Schema.get?, List.find?_isSome]
  simp [Schema.names]

theorem discriminantOf_eq_some (v : Json) (t : String) :
    discriminantOf v = some t ↔ v.get? discriminant = some (.str t) := by
  unfold discriminantOf
  split <;> simp_all

theorem discriminantOf_eq_none (v : Json) :
    discriminantOf v = none ↔ ∀ a, v.get? discriminant ≠ some (.str a) := by
  unfold discriminantOf
  split <;> simp_all

theorem isType_iff (hb : Builder.new? s = .ok b) (t : String) (v : Json) :
    b.isType t v = true ↔ t ∈ s.names ∧ v.get? discriminant = some (.str t) := by
  rw [isType, Bool.and_eq_true, plan?_isSome hb, decide_eq_true_iff, discriminantOf_eq_some]

theorem isGroup_iff (hb : Builder.new? s = .ok b) (g : String) (v : Json) :
    b.isGroup g v = true ↔
      ∃ d ∈ s.definitions, g ∈ d.groupTags ∧ v.get? discriminant = some (.str d.name) := by
  obtain ⟨-, hbuilder⟩ := new?_eq_ok.mp hb
  have hmembers : b.groups.members g = s.groupMembers g := by
    rw [hbuilder]
    exact GroupIndex.members_ofSchema s g
  rw [isGroup, List.any_eq_true, hmembers]
  constructor
  · rintro ⟨m, hm, htype⟩
    obtain ⟨d, hd, rfl, hg⟩ := Schema.mem_groupMembers.mp hm
    exact ⟨d, hd, hg, ((isType_iff hb _ v).mp htype).2⟩
  · rintro ⟨d, hd, hg, hv⟩
    have hname : d.name ∈ s.names := List.mem_map_of_mem hd
    exact ⟨d.name, Schema.mem_groupMembers.mpr ⟨d, hd, rfl, hg⟩,
      (isType_iff hb _ v).mpr ⟨hname, hv⟩⟩

theorem isGroup_of_not_mem_groupTags (hb : Builder.new? s = .ok b) {g : String}
    (hg : g ∉ s.groupTags) (v : Json) : b.isGroup g v = false := by
  rw [← Bool.not_eq_true, isGroup_iff hb]
  rintro ⟨d, hd, hdg, -⟩
  rw [Schema.groupTags_eq_eraseDups, List.mem_eraseDups, List.mem_flatMap] at hg
  exact hg ⟨d, hd, hdg⟩

/-- Asserting a type refuses an unknown type, passes a value of the type and otherwise names the
value's `type` string, or `none`. -/
theorem assertType_eq (hb : Builder.new? s = .ok b) (t : String) (v : Json) :
    b.assertType t v = if t ∈ s.names then
      (if b.isType t v then .ok () else .error (.typeMismatch t ((discriminantOf v).getD "none")))
      else .error (.unknownType t) := by
  have hknown := plan?_isSome hb t
  unfold assertType
  by_cases ht : t ∈ s.names
  · have hsome : (b.plan? t).isNone = false := by
      simpa [Option.isNone_iff_eq_none, ← Option.isSome_iff_ne_none] using hknown.mpr ht
    simp [hsome, ht]
  · have hnone : (b.plan? t).isNone = true := by
      simpa [Option.isNone_iff_eq_none, ← Option.isSome_iff_ne_none] using mt hknown.mp ht
    simp [hnone, ht]

end Builder

/-- The guards of a builder are exact on every JSON value. A value is of type `t` exactly when
`t` is a type and the value's `type` entry is the string `t`; it is in group `g` exactly when its
`type` entry is the string name of a type that declares `g`, and in no group whose tag no type
declares. Asserting `t` passes exactly when the value is of type `t`, fails with the unknown type
exactly when `t` is no type, and otherwise fails with a mismatch that names the value's `type`
string, or `none` when the value is no object or its `type` is missing or not a string. -/
theorem guards_exact {s : Schema} {b : Builder} (hb : Builder.new? s = .ok b) (t g : String)
    (v : Json) :
    (b.isType t v = true ↔ t ∈ s.names ∧ v.get? discriminant = some (.str t)) ∧
      (b.isGroup g v = true ↔
        ∃ d ∈ s.definitions, g ∈ d.groupTags ∧ v.get? discriminant = some (.str d.name)) ∧
      (g ∉ s.groupTags → b.isGroup g v = false) ∧
      (b.assertType t v = .ok () ↔ b.isType t v = true) ∧
      (b.assertType t v = .error (.unknownType t) ↔ t ∉ s.names) ∧
      (t ∈ s.names → b.isType t v = false → ∃ actual,
        b.assertType t v = .error (.typeMismatch t actual) ∧
          (v.get? discriminant = some (.str actual) ∨
            actual = "none" ∧ ∀ a, v.get? discriminant ≠ some (.str a))) := by
  have hassert := Builder.assertType_eq hb t v
  refine ⟨Builder.isType_iff hb t v, Builder.isGroup_iff hb g v,
    fun hg => Builder.isGroup_of_not_mem_groupTags hb hg v, ?_, ?_, fun ht hv => ?_⟩
  · by_cases ht : t ∈ s.names
    · cases hv : b.isType t v <;> simp [hassert, ht, hv]
    · have hnot : b.isType t v = false := by
        rw [← Bool.not_eq_true, Builder.isType_iff hb]
        exact fun h => ht h.1
      simp [hassert, ht, hnot]
  · by_cases ht : t ∈ s.names
    · cases hv : b.isType t v <;> simp [hassert, ht, hv]
    · simp [hassert, ht]
  · refine ⟨(Builder.discriminantOf v).getD "none", by simp [hassert, ht, hv], ?_⟩
    cases hd : Builder.discriminantOf v with
    | some a => exact .inl ((Builder.discriminantOf_eq_some v a).mp hd)
    | none => exact .inr ⟨rfl, (Builder.discriminantOf_eq_none v).mp hd⟩

/-- Two literal types of the group `Expression` and a function type of the group `Statement`:
the node `{"type": "NumberLiteral", "value": 5}` is no string literal but is an expression, and
asserting it to be a string literal names `NumberLiteral`. -/
theorem literal_guards_exact :
    let s : Schema := ⟨[
      { name := "NumberLiteral", fields := [{ name := "value", kind := .number }],
        groupTags := ["Expression"] },
      { name := "StringLiteral", fields := [{ name := "value", kind := .string }],
        groupTags := ["Expression"] },
      { name := "Func", groupTags := ["Statement"] }]⟩
    let v : Json := .obj [("type", .str "NumberLiteral"), ("value", .num (.nat 5))]
    ∃ b, Builder.new? s = .ok b ∧
      (b.isType "StringLiteral" v = true ↔
        "StringLiteral" ∈ s.names ∧ v.get? discriminant = some (.str "StringLiteral")) ∧
      (b.isGroup "Expression" v = true ↔ ∃ d ∈ s.definitions,
        "Expression" ∈ d.groupTags ∧ v.get? discriminant = some (.str d.name)) ∧
      ("Expression" ∉ s.groupTags → b.isGroup "Expression" v = false) ∧
      (b.assertType "StringLiteral" v = .ok () ↔ b.isType "StringLiteral" v = true) ∧
      (b.assertType "StringLiteral" v = .error (.unknownType "StringLiteral") ↔
        "StringLiteral" ∉ s.names) ∧
      ("StringLiteral" ∈ s.names → b.isType "StringLiteral" v = false → ∃ actual,
        b.assertType "StringLiteral" v = .error (.typeMismatch "StringLiteral" actual) ∧
          (v.get? discriminant = some (.str actual) ∨
            actual = "none" ∧ ∀ a, v.get? discriminant ≠ some (.str a))) :=
  ⟨_, rfl, guards_exact rfl "StringLiteral" "Expression" _⟩

end NodeKit
