import Mathlib.Data.List.Basic
import NodeKit.Proofs.Construction
import NodeKit.Proofs.Defaults

/-!
Rebuilding a node from its own entries. A node built from some arguments holds, past its `type`
and its constants, an entry for each field the caller supplies: the argument, default or null of
a field that is neither constant nor optional, and the argument or default of an optional field
when its elision keeps it. Handing those entries back as arguments builds the same node, keys in
the same order, with one exception (`build_argumentsOf`): an optional field given a value its
elision drops, whose default the elision keeps. Left out of the node, the field is absent the
second time, so its default comes back.

What carries it is the value a node holds for each field, `Field.entryValue`. Read back through
the node's entries, it becomes the field's argument on the second build; the nulls written for
absent fields pass their checks again because only a field that may be absent can be absent, and
a default that comes in passes because validation accepted it.
-/

namespace NodeKit

namespace Json

theorem lookup_cons (k key : String) (v : Json) (rest : List (String × Json)) :
    lookup ((k, v) :: rest) key = if k = key then some v else lookup rest key := by
  by_cases h : k = key <;> simp [lookup, h]

theorem lookup_filter {p : String → Bool} {key : String} (hkey : p key = true) :
    ∀ entries : List (String × Json),
      lookup (entries.filter fun e => p e.1) key = lookup entries key
  | [] => rfl
  | (k, v) :: rest => by
    have ih := lookup_filter hkey rest
    by_cases hk : k = key
    · subst hk
      simp [hkey, lookup_cons]
    · cases hp : p k <;> simp [hp, lookup_cons, hk, ih]

end Json

namespace Field

/-- The value a node built from `args` holds for the field, if any: a constant's value; the
argument, else the default, else null, of a field neither constant nor optional; and the argument
or default of an optional field when its elision keeps it. -/
def entryValue (f : Field) (args : List (String × Json)) : Option Json :=
  if f.constant then f.value
  else if f.optional then (f.resolvedArgument args).filter f.keepsValue
  else some ((f.resolvedArgument args).getD .null)

/-- The exception to rebuilding a node from its entries: an optional field given an argument its
elision drops, with a default its elision keeps. -/
def DefaultReturns (f : Field) (args : List (String × Json)) : Prop :=
  f.constant = false ∧ f.optional = true ∧
    (∃ x, Json.lookup args f.name = some x ∧ f.keepsValue x = false) ∧
    ∃ v, f.defaultValue = some v ∧ f.keepsValue v = true

variable {f : Field} {args args' : List (String × Json)}

theorem entryValue_of_constant (hc : f.constant = true) : f.entryValue args = f.value := by
  simp [entryValue, hc]

theorem entryValue_eq_none (h : f.DefaultReturns args) : f.entryValue args = none := by
  obtain ⟨hc, hopt, ⟨x, hx, hdrop⟩, -⟩ := h
  simp [entryValue, hc, hopt, resolvedArgument, hx, hdrop]

/-- A field checked on the value the node holds for it, else its default, passes when it passed
on its argument: a held value is that argument or null, and a default comes in only for an
optional field, where validation accepted it. -/
theorem Valid.argumentMismatch_entryValue {n : Naming.Scheme} (hf : f.Valid n)
    (hc : f.constant = false) (hpass : f.argumentMismatch (f.resolvedArgument args) = none) :
    f.argumentMismatch ((f.entryValue args).or f.defaultValue) = none := by
  cases hopt : f.optional
  · have hentry : f.entryValue args = some ((f.resolvedArgument args).getD .null) := by
      simp [entryValue, hc, hopt]
    rw [hentry, Option.some_or]
    cases hr : f.resolvedArgument args with
    | none =>
      rw [hr] at hpass
      exact argumentMismatch_null_of_none hpass
    | some x =>
      rw [hr] at hpass
      exact hpass
  · have hentry : f.entryValue args = (f.resolvedArgument args).filter f.keepsValue := by
      simp [entryValue, hc, hopt]
    rw [hentry]
    cases hkept : (f.resolvedArgument args).filter f.keepsValue with
    | some x =>
      obtain ⟨hr, -⟩ := Option.filter_eq_some_iff.mp hkept
      rw [Option.some_or, ← hr]
      exact hpass
    | none =>
      rw [Option.none_or]
      cases hdefault : f.defaultValue with
      | none => simp [argumentMismatch, mayBeAbsent, hopt]
      | some v => exact hf.argumentMismatch_default hc hdefault

/-- Built again from the value the node holds for it, a field holds the same value, unless its
default returns. -/
theorem entryValue_rebuilt (hc : f.constant = false)
    (hres : f.resolvedArgument args' = (f.entryValue args).or f.defaultValue)
    (hnot : ¬f.DefaultReturns args) : f.entryValue args' = f.entryValue args := by
  cases hopt : f.optional
  · simp [entryValue, hc, hopt, hres]
  · simp only [entryValue, hc, hopt, Bool.false_eq_true, if_false, if_true, hres]
    cases hkept : (f.resolvedArgument args).filter f.keepsValue with
    | some x =>
      obtain ⟨-, hkeep⟩ := Option.filter_eq_some_iff.mp hkept
      simp [Option.filter_some, hkeep]
    | none =>
      rw [Option.none_or]
      cases hdefault : f.defaultValue with
      | none => rfl
      | some v =>
        -- a default the elision keeps would have been kept the first time, or would return
        have hdrop : f.keepsValue v = false := by
          cases hkeep : f.keepsValue v
          · rfl
          · exfalso
            cases hlook : Json.lookup args f.name with
            | none =>
              simp [resolvedArgument, hlook, hdefault, hkeep] at hkept
            | some x =>
              have hx : f.keepsValue x = false := by
                simpa [resolvedArgument, hlook] using hkept
              exact hnot ⟨hc, hopt, ⟨x, hlook, hx⟩, v, hdefault, hkeep⟩
        simp [Option.filter_some, hdrop]

/-- Built again from the node's values, a field whose default returns holds its default. -/
theorem entryValue_rebuilt_default (hres : f.resolvedArgument args' =
    (f.entryValue args).or f.defaultValue) (h : f.DefaultReturns args) :
    f.entryValue args' = f.defaultValue := by
  have hnone := entryValue_eq_none h
  obtain ⟨hc, hopt, -, v, hdefault, hkeep⟩ := h
  rw [entryValue, if_neg (by simp [hc]), if_pos hopt, hres, hnone, Option.none_or, hdefault,
    Option.filter_some, if_pos hkeep]

end Field

theorem lookup_filterMap_name (g : Field → Option Json) :
    ∀ l : List Field, (l.map (·.name)).Nodup → ∀ f ∈ l,
      Json.lookup (l.filterMap fun x => (g x).map (x.name, ·)) f.name = g f
  | [], _, f, hf => absurd hf List.not_mem_nil
  | x :: l, hnodup, f, hf => by
    rw [List.map_cons, List.nodup_cons] at hnodup
    have ih := lookup_filterMap_name g l hnodup.2
    rw [List.filterMap_cons]
    rcases List.mem_cons.mp hf with rfl | hl
    · cases hg : g f with
      | none =>
        exact Json.lookup_eq_none fun hk =>
          hnodup.1 ((TypeDef.keys_filterMap_sublist g l).subset hk)
      | some y => simp [Json.lookup_cons]
    · have hne : x.name ≠ f.name := fun h => hnodup.1 (h ▸ List.mem_map_of_mem hl)
      cases g x with
      | none => exact ih f hl
      | some y => simp [Json.lookup_cons, hne, ih f hl]

namespace TypeDef

variable {n : Naming.Scheme} {d : TypeDef}

/-- The names of the constant fields. -/
def constantNames (d : TypeDef) : List String := (d.fields.filter (·.constant)).map (·.name)

/-- The arguments a node of the type gives back: its entries but `type` and the constants. -/
def argumentsOf (d : TypeDef) : Json → List (String × Json)
  | .obj entries => entries.filter fun e => !(discriminant :: d.constantNames).contains e.1
  | _ => []

/-- The fields in the order a node lists them: constants, then the fields neither constant nor
optional, then the optional ones. -/
def nodeOrder (d : TypeDef) : List Field :=
  d.fields.filter (·.constant) ++ d.fields.filter (fun f => !f.constant && !f.optional) ++
    d.fields.filter fun f => !f.constant && f.optional

theorem fieldEntries_eq_filterMap (d : TypeDef) (args : List (String × Json)) :
    d.fieldEntries args = d.nodeOrder.filterMap fun f => (f.entryValue args).map (f.name, ·) := by
  simp only [fieldEntries, nodeOrder, List.filterMap_append]
  congr 1
  congr 1
  · refine List.filterMap_congr fun f hf => ?_
    simp [Field.entryValue, (List.mem_filter.mp hf).2]
  · rw [← List.filterMap_eq_map']
    refine List.filterMap_congr fun f hf => ?_
    have hrequired := (List.mem_filter.mp hf).2
    simp only [Bool.and_eq_true, Bool.not_eq_true'] at hrequired
    simp [Field.entryValue, hrequired.1, hrequired.2]
  · refine List.filterMap_congr fun f hf => ?_
    have hoptional := (List.mem_filter.mp hf).2
    simp only [Bool.and_eq_true, Bool.not_eq_true'] at hoptional
    simp [Field.entryValue, hoptional.1, hoptional.2]

/-- In a valid type, the node's entries hold for each field the value `entryValue` gives. -/
theorem Valid.lookup_fieldEntries (hd : d.Valid n) {f : Field} (hf : f ∈ d.fields)
    (args : List (String × Json)) :
    Json.lookup (d.fieldEntries args) f.name = f.entryValue args := by
  have hperm := fields_perm d
  rw [fieldEntries_eq_filterMap]
  exact lookup_filterMap_name _ d.nodeOrder ((hperm.map _).nodup_iff.mpr hd.fieldNames_nodup) f
    (hperm.mem_iff.mpr hf)

/-- Arguments under which every field resolves to the value a node held for it, else its
default, give the same entries, unless some default returns. -/
theorem fieldEntries_rebuilt {args args' : List (String × Json)}
    (hres : ∀ f ∈ d.fields, f.constant = false →
      f.resolvedArgument args' = (f.entryValue args).or f.defaultValue)
    (hnot : ∀ f ∈ d.fields, ¬f.DefaultReturns args) :
    d.fieldEntries args' = d.fieldEntries args := by
  rw [fieldEntries_eq_filterMap, fieldEntries_eq_filterMap]
  refine List.filterMap_congr fun f hf => ?_
  have hf' : f ∈ d.fields := (fields_perm d).mem_iff.mp hf
  cases hc : f.constant
  · rw [Field.entryValue_rebuilt hc (hres f hf' hc) (hnot f hf')]
  · rw [Field.entryValue_of_constant hc, Field.entryValue_of_constant hc]

theorem Valid.not_mem_constantNames (hd : d.Valid n) {f : Field} (hf : f ∈ d.fields)
    (hc : f.constant = false) : f.name ∉ discriminant :: d.constantNames := by
  rw [List.mem_cons, not_or]
  refine ⟨(hd.fields f hf).notDiscriminant, fun hmem => ?_⟩
  obtain ⟨g, hg, hname⟩ := List.mem_map.mp hmem
  have hgf : g = f := eq_of_nodup_map hd.fieldNames_nodup (List.mem_filter.mp hg).1 hf hname
  have hgc := (List.mem_filter.mp hg).2
  rw [hgf, hc] at hgc
  cases hgc

variable {t : String} {args : List (String × Json)}

/-- Handed back, a node gives each field the supplied value it holds for it. -/
theorem Valid.lookup_argumentsOf (hd : d.Valid n) {f : Field} (hf : f ∈ d.fields)
    (hc : f.constant = false) :
    Json.lookup (d.argumentsOf (.obj ((discriminant, .str t) :: d.fieldEntries args))) f.name =
      f.entryValue args := by
  have hfree := hd.not_mem_constantNames hf hc
  have hname : discriminant ≠ f.name := fun h => hfree (h ▸ List.mem_cons_self)
  rw [argumentsOf, Json.lookup_filter (p := fun k => !(discriminant :: d.constantNames).contains k)
    (by simpa using hfree), Json.lookup_cons, if_neg hname,
    hd.lookup_fieldEntries hf]

theorem keys_argumentsOf :
    ∀ e ∈ d.argumentsOf (.obj ((discriminant, .str t) :: d.fieldEntries args)),
      e.1 ∈ d.nonConstantFields.map (·.name) := by
  intro e he
  obtain ⟨hmem, hfree⟩ := List.mem_filter.mp he
  have hfree' : e.1 ∉ discriminant :: d.constantNames := by simpa using hfree
  have hentry : e ∈ d.fieldEntries args := by
    rcases List.mem_cons.mp hmem with rfl | h
    · exact absurd List.mem_cons_self hfree'
    · exact h
  have hfield : e.1 ∈ d.fields.map (·.name) :=
    ((fields_perm d).map (·.name)).subset
      ((fieldEntries_keys_sublist d args).subset (List.mem_map_of_mem hentry))
  obtain ⟨g, hg, hname⟩ := List.mem_map.mp hfield
  have hgc : g.constant = false := by
    cases hc : g.constant
    · rfl
    · exact absurd (List.mem_cons_of_mem _
        (List.mem_map.mpr ⟨g, List.mem_filter.mpr ⟨hg, hc⟩, hname⟩)) hfree'
  exact List.mem_map.mpr ⟨g, List.mem_filter.mpr ⟨hg, by simp [hgc]⟩, hname⟩

end TypeDef

namespace Schema

variable {s : Schema} {n : Naming.Scheme}

theorem Valid.names_nodup (hs : s.Valid n) : s.names.Nodup := by
  have hflat := (List.nodup_append.mp hs.typeIdents).2.1
  rw [List.Nodup, List.pairwise_flatMap] at hflat
  rw [names, List.Nodup, List.pairwise_map]
  -- a type's name is one of the names it claims among types
  exact hflat.2.imp fun hdisjoint =>
    hdisjoint _ (TypeDef.name_mem_typeIdents _) _ (TypeDef.name_mem_typeIdents _)

theorem Valid.get?_name (hs : s.Valid n) {d : TypeDef} (hd : d ∈ s.definitions) :
    s.get? d.name = some d := by
  obtain ⟨d', hd'⟩ := Option.isSome_iff_exists.mp
    ((List.find?_isSome (p := fun d' : TypeDef => d'.name = d.name)).mpr ⟨d, hd, by simp⟩)
  have hname : d'.name = d.name := by simpa using List.find?_some hd'
  rw [get?, hd', eq_of_nodup_map hs.names_nodup (List.mem_of_find?_eq_some hd') hd hname]

/-- Building succeeds exactly when every argument names a non-constant field and every
non-constant field passes its check on its argument or default. -/
theorem buildError_eq_none {t : String} {d : TypeDef} (hd : s.get? t = some d)
    (args : List (String × Json)) :
    s.buildError t args = none ↔ (∀ a ∈ args, a.1 ∈ d.nonConstantFields.map (·.name)) ∧
      ∀ f ∈ d.nonConstantFields, f.argumentMismatch (f.resolvedArgument args) = none := by
  unfold buildError
  rw [hd]
  dsimp only
  cases hk : args.find? fun a => a.1 ∉ d.nonConstantFields.map (·.name) with
  | some a =>
    obtain ⟨k, x⟩ := a
    have hunknown := List.find?_some hk
    simp only [decide_eq_true_eq] at hunknown
    simp only [reduceCtorEq, false_iff, not_and]
    exact fun hall => absurd (hall _ (List.mem_of_find?_eq_some hk)) hunknown
  | none =>
    have hknown : ∀ a ∈ args, a.1 ∈ d.nonConstantFields.map (·.name) := by
      intro a ha
      simpa using List.find?_eq_none.mp hk a ha
    simp only [List.findSome?_eq_none_iff, Option.map_eq_none_iff]
    exact ⟨fun hall => ⟨hknown, hall⟩, fun h => h.2⟩

end Schema

/-- A node handed back to the builder as arguments, without its `type` and its constants, builds
again, and builds the same node, keys in the same order, unless some optional field was given a
value its elision drops while its default is one the elision keeps; such a field then holds its
default. So what a builder returns is a normal form that rebuilding keeps, but for those
fields. -/
theorem build_argumentsOf {s : Schema} {b : Builder} (hb : Builder.new? s = .ok b) {t : String}
    {args : List (String × Json)} {v : Json} (h : b.build t args = .ok v) :
    ∃ d ∈ s.definitions, d.name = t ∧
      (b.build t (d.argumentsOf v) = .ok v ↔ ∀ f ∈ d.fields, ¬f.DefaultReturns args) ∧
      ∃ v', b.build t (d.argumentsOf v) = .ok v' ∧
        ∀ f ∈ d.fields, f.DefaultReturns args → v'.get? f.name = f.defaultValue := by
  obtain ⟨hvalid, -⟩ := Builder.new?_eq_ok.mp hb
  have hs := Schema.valid_of_validate_eq_ok hvalid
  obtain ⟨d, hmem, hname, rfl, -⟩ := build_eq_ok_node hb h
  have hd := hs.types d hmem
  have hget : s.get? t = some d := hname ▸ hs.get?_name hmem
  -- the first build passed every check
  have hfirst := (Schema.buildError_eq_none hget args).mp
    (by rw [← errorOf_build hb, h, errorOf_ok])
  -- each field's argument the second time is the value the node holds for it, else its default
  have hres : ∀ f ∈ d.fields, f.constant = false →
      f.resolvedArgument (d.argumentsOf (.obj ((discriminant, .str t) :: d.fieldEntries args))) =
        (f.entryValue args).or f.defaultValue := by
    intro f hf hc
    rw [Field.resolvedArgument, hd.lookup_argumentsOf hf hc]
  have hnonConstant : ∀ f ∈ d.nonConstantFields, f ∈ d.fields ∧ f.constant = false := by
    intro f hf
    simpa using List.mem_filter.mp hf
  -- so the second build passes every check too
  have hsecond := (Schema.buildError_eq_none hget _).mpr ⟨TypeDef.keys_argumentsOf, fun f hf => by
    obtain ⟨hmemf, hc⟩ := hnonConstant f hf
    rw [hres f hmemf hc]
    exact (hd.fields f hmemf).argumentMismatch_entryValue hc (hfirst.2 f hf)⟩
  obtain ⟨v', hv'⟩ := errorOf_eq_none.mp (by rw [errorOf_build hb, hsecond])
  obtain ⟨d', hmem', hname', rfl, -⟩ := build_eq_ok_node hb hv'
  obtain rfl : d = d' := Option.some.inj (hget.symm.trans (hname' ▸ hs.get?_name hmem'))
  -- the value the second node holds for each field
  have hvalue : ∀ f ∈ d.fields, (Json.obj ((discriminant, .str t) :: d.fieldEntries
      (d.argumentsOf (.obj ((discriminant, .str t) :: d.fieldEntries args))))).get? f.name =
      f.entryValue (d.argumentsOf (.obj ((discriminant, .str t) :: d.fieldEntries args))) := by
    intro f hf
    have hname : discriminant ≠ f.name := fun h => (hd.fields f hf).notDiscriminant h.symm
    rw [Json.get?, Json.lookup_cons, if_neg hname, hd.lookup_fieldEntries hf]
  refine ⟨d, hmem, hname, ⟨fun hsame f hf hreturns => ?_, fun hnot => ?_⟩, _, hv',
    fun f hf hreturns => ?_⟩
  · -- a returning default would show in the second node and not in the first
    rw [hv'] at hsame
    have hnode := congrArg (Json.get? · f.name) (Except.ok.inj hsame)
    have hfirstValue : (Json.obj ((discriminant, .str t) :: d.fieldEntries args)).get? f.name =
        f.entryValue args := by
      have hname : discriminant ≠ f.name := fun h => (hd.fields f hf).notDiscriminant h.symm
      rw [Json.get?, Json.lookup_cons, if_neg hname, hd.lookup_fieldEntries hf]
    simp only [hvalue f hf, hfirstValue, Field.entryValue_eq_none hreturns,
      Field.entryValue_rebuilt_default (hres f hf hreturns.1) hreturns] at hnode
    obtain ⟨-, -, -, w, hw, -⟩ := hreturns
    rw [hw] at hnode
    cases hnode
  · rw [hv']
    rw [TypeDef.fieldEntries_rebuilt hres hnot]
  · rw [hvalue f hf, Field.entryValue_rebuilt_default (hres f hf hreturns.1) hreturns]

/-- A function type whose optional export flag defaults to `true`: built with the flag `false`, the
node leaves the flag out, and built again from that node the flag comes back as its default. -/
theorem exported_default_returns :
    let s : Schema := ⟨[{ name := "Func", fields := [
      { name := "name", kind := .string },
      { name := "isExported", kind := .boolean, optional := true,
        defaultValue := some (.bool true) }] }]⟩
    let args : List (String × Json) := [("name", .str "f"), ("isExported", .bool false)]
    ∃ b v, Builder.new? s = .ok b ∧ b.build "Func" args = .ok v ∧
      ∃ d ∈ s.definitions, d.name = "Func" ∧
        (b.build "Func" (d.argumentsOf v) = .ok v ↔ ∀ f ∈ d.fields, ¬f.DefaultReturns args) ∧
        ∃ v', b.build "Func" (d.argumentsOf v) = .ok v' ∧
          ∀ f ∈ d.fields, f.DefaultReturns args → v'.get? f.name = f.defaultValue :=
  ⟨_, _, rfl, rfl, build_argumentsOf rfl rfl⟩

end NodeKit
