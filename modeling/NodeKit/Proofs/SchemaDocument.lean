import NodeKit.Proofs.Merge
import NodeKit.Proofs.LiteralValues

/-! Which JSON documents are schemas, and which schema each one is. A document is an object from
type names to definitions. A definition is an object with the keys `displayTypeName` or
`flowTypeName` (a string or null), `fields` (an object from names to fields) and `unionType` or
`groupTags` (an array of strings), or an array of at most three items standing for these keys in
that order. A field is an object with the keys `type` (a kind), the flags `array`, `optional`,
`nullable` or `maybe` and `constant` (booleans), `value` and `default` (anything), or an array
of at most seven items in that order. A kind is one of its names, or an object whose one key is
such a name and whose value is null. No object may use both keys of an alias pair.

The decoder reads entries one by one and remembers which alias pairs it has met; its result is
stated here by looking each attribute up in the object (`withEntries`), so that the order of
the entries does not matter. For documents whose objects have distinct keys, as every JSON value
read from text has, decoding succeeds exactly on documents of this grammar and gives the schema
`Schema.ofDocument` reads off them: `ofValue_eq_ok_iff`. -/

namespace NodeKit

namespace Json

/-- The value of the first entry whose key is one of `keys`. -/
def lookupAny (entries : List (String × Json)) (keys : List String) : Option Json :=
  (entries.find? (·.1 ∈ keys)).map (·.2)

/-- How many entries have a key among `keys`. -/
def countKeys (entries : List (String × Json)) (keys : List String) : Nat :=
  entries.countP (·.1 ∈ keys)

/-- What the entries set through `keys`, read by `read`; `x` when they set nothing. -/
def readAny {α : Type} (entries : List (String × Json)) (keys : List String)
    (read : Json → Option α) (x : α) : α :=
  ((lookupAny entries keys).bind read).getD x

/-- A boolean. -/
def bool? : Json → Option Bool
  | .bool b => some b
  | _ => none

/-- A string. -/
def str? : Json → Option String
  | .str s => some s
  | _ => none

/-- A string, or null for none. -/
def optionalString? : Json → Option (Option String)
  | .null => some none
  | .str s => some (some s)
  | _ => none

/-- An array of strings. -/
def strings? : Json → Option (List String)
  | .arr items => items.mapM str?
  | _ => none

/-- A kind: one of its names, or an object whose one key is such a name and whose value is
null. -/
def kind? : Json → Option ValueKind
  | .str s => Decode.kindOfName? s
  | .obj [(s, .null)] => Decode.kindOfName? s
  | _ => none

end Json

namespace Document

/-- The alias pair naming the nullable flag of a field. -/
def nullableKeys : List String := ["nullable", "maybe"]

/-- The keys of a field's boolean flags. -/
def flagKeys : List String := ["array", "optional", "nullable", "maybe", "constant"]

/-- The alias pair naming a type's display name. -/
def displayKeys : List String := ["displayTypeName", "flowTypeName"]

/-- The alias pair naming a type's groups. -/
def tagKeys : List String := ["unionType", "groupTags"]

/-- An entry a field object may hold: `type` with a kind, a flag with a boolean, or `value` or
`default` with anything. -/
def fieldEntryFits (k : String) (v : Json) : Bool :=
  (k == "type" && v.kind?.isSome) || (decide (k ∈ flagKeys) && v.bool?.isSome) ||
    decide (k ∈ ["value", "default"])

/-- The items of a field's array form: at most seven, a kind first and four booleans next. -/
def fieldItemsFit (items : List Json) : Bool :=
  decide (items.length ≤ 7) && items[0]?.all (·.kind?.isSome) &&
    [1, 2, 3, 4].all fun i => items[i]?.all (·.bool?.isSome)

/-- A field: an object of fitting entries with at most one key of the nullable pair, or its
array form. -/
def isField : Json → Bool
  | .obj entries => entries.all (fun e => fieldEntryFits e.1 e.2) &&
      decide (Json.countKeys entries nullableKeys ≤ 1)
  | .arr items => fieldItemsFit items
  | _ => false

/-- An object from names to fields. -/
def isFields : Json → Bool
  | .obj entries => entries.all (isField ·.2)
  | _ => false

end Document

open Document

namespace Field

/-- The field `f` with each attribute an object's entries set replaced by the value there. A
`value` or `default` of null sets none. -/
def withEntries (f : Field) (entries : List (String × Json)) : Field :=
  { f with
    kind := Json.readAny entries ["type"] Json.kind? f.kind
    array := Json.readAny entries ["array"] Json.bool? f.array
    optional := Json.readAny entries ["optional"] Json.bool? f.optional
    nullable := Json.readAny entries nullableKeys Json.bool? f.nullable
    constant := Json.readAny entries ["constant"] Json.bool? f.constant
    value := Json.readAny entries ["value"] (some ∘ Decode.optionalValue) f.value
    defaultValue := Json.readAny entries ["default"] (some ∘ Decode.optionalValue) f.defaultValue }

/-- The field named `name` that the items of an array form give, in the order kind, array,
optional, nullable, constant, value, default. -/
def ofItems (name : String) (items : List Json) : Field :=
  { name
    kind := (items[0]?.bind Json.kind?).getD .any
    array := (items[1]?.bind Json.bool?).getD false
    optional := (items[2]?.bind Json.bool?).getD false
    nullable := (items[3]?.bind Json.bool?).getD false
    constant := (items[4]?.bind Json.bool?).getD false
    value := items[5]?.bind Decode.optionalValue
    defaultValue := items[6]?.bind Decode.optionalValue }

/-- The field named `name` that a document writes as `v`. -/
def ofDocument (name : String) : Json → Field
  | .obj entries => ({ name } : Field).withEntries entries
  | .arr items => ofItems name items
  | _ => { name }

end Field

/-- The fields an object from names to fields writes, in its order, each named by its key. -/
def Json.fieldList : Json → List Field
  | .obj entries => entries.map fun e => Field.ofDocument e.1 e.2
  | _ => []

/-- The fields of an object from names to fields. -/
def Json.fields? (v : Json) : Option (List Field) :=
  if isFields v then some v.fieldList else none

namespace Document

/-- An entry a definition object may hold: a display name as a string or null, the fields, or
the group tags as an array of strings. -/
def typeEntryFits (k : String) (v : Json) : Bool :=
  (decide (k ∈ displayKeys) && v.optionalString?.isSome) || (k == "fields" && v.fields?.isSome) ||
    (decide (k ∈ tagKeys) && v.strings?.isSome)

/-- The items of a definition's array form: at most three, a display name, fields and group
tags. -/
def typeItemsFit (items : List Json) : Bool :=
  decide (items.length ≤ 3) && items[0]?.all (·.optionalString?.isSome) &&
    items[1]?.all (·.fields?.isSome) && items[2]?.all (·.strings?.isSome)

/-- A definition: an object of fitting entries with at most one key of each alias pair, or its
array form. -/
def isTypeDef : Json → Bool
  | .obj entries => entries.all (fun e => typeEntryFits e.1 e.2) &&
      decide (Json.countKeys entries displayKeys ≤ 1) &&
      decide (Json.countKeys entries tagKeys ≤ 1)
  | .arr items => typeItemsFit items
  | _ => false

/-- A schema document: an object from type names to definitions. -/
def isSchema : Json → Bool
  | .obj entries => entries.all (isTypeDef ·.2)
  | _ => false

end Document

namespace TypeDef

/-- The definition `d` with each attribute an object's entries set replaced by the value there. -/
def withEntries (d : TypeDef) (entries : List (String × Json)) : TypeDef :=
  { d with
    displayTypeName := Json.readAny entries displayKeys Json.optionalString? d.displayTypeName
    fields := Json.readAny entries ["fields"] Json.fields? d.fields
    groupTags := Json.readAny entries tagKeys Json.strings? d.groupTags }

/-- The definition of `name` that the items of an array form give, in the order display name,
fields, group tags. -/
def ofItems (name : String) (items : List Json) : TypeDef :=
  { name
    displayTypeName := (items[0]?.bind Json.optionalString?).getD none
    fields := (items[1]?.bind Json.fields?).getD []
    groupTags := (items[2]?.bind Json.strings?).getD [] }

/-- The definition of the type `name` that a document writes as `v`. -/
def ofDocument (name : String) : Json → TypeDef
  | .obj entries => ({ name } : TypeDef).withEntries entries
  | .arr items => ofItems name items
  | _ => { name }

end TypeDef

/-- The schema a document writes: its entries in order, each named by its key. -/
def Schema.ofDocument : Json → Schema
  | .obj entries => ⟨entries.map fun e => TypeDef.ofDocument e.1 e.2⟩
  | _ => ⟨[]⟩

/-! ### Looking attributes up -/

namespace Json

variable {α : Type} {k : String} {v : Json} {rest : List (String × Json)} {keys : List String}

@[simp] theorem lookupAny_nil : lookupAny [] keys = none := rfl

theorem lookupAny_cons :
    lookupAny ((k, v) :: rest) keys = if k ∈ keys then some v else lookupAny rest keys := by
  by_cases hk : k ∈ keys <;> simp [lookupAny, hk]

theorem countKeys_cons :
    countKeys ((k, v) :: rest) keys = countKeys rest keys + (decide (k ∈ keys)).toNat := by
  by_cases hk : k ∈ keys <;> simp [countKeys, hk]

theorem countKeys_singleton_of_not_mem (h : k ∉ rest.map (·.1)) : countKeys rest [k] = 0 := by
  simp only [countKeys, List.countP_eq_zero, List.mem_singleton, decide_eq_true_eq]
  intro e he hk
  exact h (List.mem_map.mpr ⟨e, he, hk⟩)

/-- Keys are distinct, so a key occurs at most once. -/
theorem countKeys_singleton_le_one (h : (rest.map (·.1)).Nodup) : countKeys rest [k] ≤ 1 := by
  induction rest with
  | nil => simp [countKeys]
  | cons e rest ih =>
    obtain ⟨k', v'⟩ := e
    simp only [List.map_cons, List.nodup_cons] at h
    rw [countKeys_cons]
    by_cases hk : k' ∈ [k]
    · have hk' : k' = k := List.mem_singleton.mp hk
      subst hk'
      rw [countKeys_singleton_of_not_mem h.1]
      simp
    · simp [hk, ih h.2]

theorem lookupAny_eq_none_of_countKeys (h : countKeys rest keys = 0) :
    lookupAny rest keys = none := by
  simp only [countKeys, List.countP_eq_zero, decide_eq_true_eq] at h
  simp only [lookupAny, Option.map_eq_none_iff, List.find?_eq_none, decide_eq_true_eq]
  exact h

@[simp] theorem readAny_nil (read : Json → Option α) (x : α) : readAny [] keys read x = x := rfl

@[simp] theorem readAny_singleton (read : Json → Option α) (x : α) :
    readAny [(k, v)] keys read x = if k ∈ keys then (read v).getD x else x := by
  by_cases hk : k ∈ keys <;> simp [readAny, lookupAny_cons, hk]

theorem entryKeysDistinct_iff {entries : List (String × Json)} :
    entryKeysDistinct entries = true ↔ ∀ e ∈ entries, e.2.keysDistinct = true := by
  induction entries with
  | nil => simp [entryKeysDistinct]
  | cons e rest ih =>
    obtain ⟨k, w⟩ := e
    simp [entryKeysDistinct, ih]

theorem itemKeysDistinct_iff {items : List Json} :
    itemKeysDistinct items = true ↔ ∀ w ∈ items, w.keysDistinct = true := by
  induction items with
  | nil => simp [itemKeysDistinct]
  | cons w rest ih => simp [itemKeysDistinct, ih]

theorem keysDistinct_obj {entries : List (String × Json)} :
    (obj entries).keysDistinct = true ↔
      (entries.map (·.1)).Nodup ∧ ∀ e ∈ entries, e.2.keysDistinct = true := by
  simp [keysDistinct, entryKeysDistinct_iff]

theorem keysDistinct_arr {items : List Json} :
    (arr items).keysDistinct = true ↔ ∀ w ∈ items, w.keysDistinct = true := by
  simp [keysDistinct, itemKeysDistinct_iff]

/-- Reading an entry and then the rest is reading them together, unless the rest sets the same
attribute again. -/
theorem readAny_cons (read : Json → Option α) (x : α) (h : k ∈ keys → countKeys rest keys = 0) :
    readAny rest keys read (readAny [(k, v)] keys read x) =
      readAny ((k, v) :: rest) keys read x := by
  by_cases hk : k ∈ keys
  · simp only [readAny, lookupAny_cons, if_pos hk, lookupAny_eq_none_of_countKeys (h hk),
      lookupAny_nil, Option.bind_none, Option.bind_some, Option.getD_none]
  · simp only [readAny, lookupAny_cons, if_neg hk, lookupAny_nil, Option.bind_none,
      Option.getD_none]

end Json

namespace Field

variable {f : Field} {k : String} {v : Json} {rest : List (String × Json)}

@[simp] theorem withEntries_nil : f.withEntries [] = f := rfl

/-- An entry and then the rest set what they set together, when the rest neither repeats the
key nor names the nullable flag again. -/
theorem withEntries_cons (hfresh : k ∉ rest.map (·.1))
    (hnullable : k ∈ nullableKeys → Json.countKeys rest nullableKeys = 0) :
    (f.withEntries [(k, v)]).withEntries rest = f.withEntries ((k, v) :: rest) := by
  have hsingle : ∀ key, k ∈ [key] → Json.countKeys rest [key] = 0 := by
    intro key hk
    rw [← List.mem_singleton.mp hk]
    exact Json.countKeys_singleton_of_not_mem hfresh
  simp only [withEntries, Json.readAny_cons _ _ (hsingle _), Json.readAny_cons _ _ hnullable]

end Field

namespace TypeDef

variable {d : TypeDef} {k : String} {v : Json} {rest : List (String × Json)}

@[simp] theorem withEntries_nil : d.withEntries [] = d := rfl

/-- An entry and then the rest set what they set together, when the rest neither repeats the
key nor names an alias pair of the entry again. -/
theorem withEntries_cons (hfresh : k ∉ rest.map (·.1))
    (hdisplay : k ∈ displayKeys → Json.countKeys rest displayKeys = 0)
    (htags : k ∈ tagKeys → Json.countKeys rest tagKeys = 0) :
    (d.withEntries [(k, v)]).withEntries rest = d.withEntries ((k, v) :: rest) := by
  have hfields : k ∈ ["fields"] → Json.countKeys rest ["fields"] = 0 := by
    intro hk
    rw [List.mem_singleton.mp hk] at hfresh
    exact Json.countKeys_singleton_of_not_mem hfresh
  simp only [withEntries, Json.readAny_cons _ _ hdisplay, Json.readAny_cons _ _ hfields,
    Json.readAny_cons _ _ htags]

end TypeDef

/-- A flag that records whether a key of a pair came already: the next entry may bring one
exactly when the count stays at most one. -/
theorem count_step {c : Nat} {seen : Bool} {here : Prop} [Decidable here] :
    ¬(seen = true ∧ here) ∧ c + (seen || decide here).toNat ≤ 1 ↔
      c + (decide here).toNat + seen.toNat ≤ 1 := by
  cases seen with
  | false => simp
  | true =>
    by_cases hhere : here
    · simp only [hhere, and_self, not_true_eq_false, false_and, false_iff, decide_true,
        Bool.toNat_true, Bool.or_true]
      omega
    · simp [hhere]

/-- Once a key of a pair is counted, the rest hold no key of the pair. -/
theorem count_eq_zero_of_step {c : Nat} {seen : Bool} {here : Prop} [Decidable here]
    (h : c + (decide here).toNat + seen.toNat ≤ 1) (hhere : here) : c = 0 := by
  simp only [hhere, decide_true, Bool.toNat_true] at h
  omega

/-! ### Single values -/

namespace Decode

variable {path : Json.Path} {v : Json}

theorem bool_eq_ok_iff {b : Bool} : bool path v = .ok b ↔ v.bool? = some b := by
  cases v <;> simp [bool, Json.bool?, wrongType, fail]

theorem string_eq_ok_iff {s : String} : string path v = .ok s ↔ v.str? = some s := by
  cases v <;> simp [string, Json.str?, wrongType, fail]

theorem optionalString_eq_ok_iff {o : Option String} :
    optionalString path v = .ok o ↔ v.optionalString? = some o := by
  cases v <;> simp [optionalString, Json.optionalString?, string, wrongType, fail, Except.map]

theorem strings_go_eq_ok_iff (i : Nat) (items : List Json) (ss : List String) :
    strings.go path i items = .ok ss ↔ items.mapM Json.str? = some ss := by
  induction items generalizing i ss with
  | nil =>
    simp only [strings.go, List.mapM_nil]
    exact ⟨fun h => by cases h; rfl, fun h => by cases h; rfl⟩
  | cons item rest ih =>
    rw [strings.go, List.mapM_cons]
    cases hs : item.str? with
    | none => simp [string_eq_ok_iff, hs]
    | some s => simp [string_eq_ok_iff, hs, ih, Option.bind_eq_some_iff]

theorem strings_eq_ok_iff {ss : List String} : strings path v = .ok ss ↔ v.strings? = some ss := by
  cases v with
  | arr items => exact strings_go_eq_ok_iff 0 items ss
  | _ => simp [strings, Json.strings?, wrongType, fail]

theorem kind_eq_ok_iff {k : ValueKind} : kind path v = .ok k ↔ v.kind? = some k := by
  cases v with
  | str s =>
    simp only [kind, Json.kind?]
    cases kindOfName? s <;> simp [fail]
  | obj entries =>
    match entries with
    | [(s, payload)] =>
      simp only [kind]
      cases hs : kindOfName? s with
      | none => cases payload <;> simp [fail, Json.kind?, hs]
      | some k' => cases payload <;> simp [wrongType, fail, Json.kind?, hs]
    | [] => simp [kind, fail, Json.kind?]
    | _ :: _ :: _ => simp [kind, fail, Json.kind?]
  | _ => simp [kind, wrongType, fail, Json.kind?]

/-- A decoding step that succeeds exactly with what `read` gives: the computation after it
goes on with that value. -/
theorem bind_eq_ok_of_reads {α β : Type} {x : Result α} {read : Option α}
    (hx : ∀ a, x = .ok a ↔ read = some a) (d : α) {g : α → Result β} {b : β} :
    x >>= g = .ok b ↔ read.isSome = true ∧ g (read.getD d) = .ok b := by
  rw [Except.bind_eq_ok]
  cases read with
  | none => simp [hx]
  | some a => simp [hx]

/-- A key of an alias pair fails when the pair was met before, and is read as usual otherwise. -/
theorem guard_eq_ok_iff {α : Type} {seen : Bool} {reason : DecodeReason} {x : Result α} {a : α} :
    (if seen = true then fail path reason else x) = .ok a ↔ seen = false ∧ x = .ok a := by
  cases seen <;> simp [fail]

/-- An optional item, read by a decoder that succeeds exactly with what `read` gives; a missing
item gives `d`. -/
theorem elim_eq_ok_iff {α : Type} {o : Option Json} {d a : α} {g : Json → Result α}
    {read : Json → Option α} (hg : ∀ w, o = some w → ∀ b, g w = .ok b ↔ read w = some b) :
    o.elim (pure d) g = .ok a ↔ o.elim (some d) read = some a := by
  cases o with
  | none => simp [pure, Except.pure]
  | some w => exact hg w rfl a

theorem elim_isSome {α : Type} {o : Option Json} {d : α} {read : Json → Option α} :
    (o.elim (some d) read).isSome = o.all fun w => (read w).isSome := by
  cases o <;> rfl

theorem elim_getD {α : Type} {o : Option Json} {d : α} {read : Json → Option α} :
    (o.elim (some d) read).getD d = (o.bind read).getD d := by
  cases o <;> rfl

/-- A traversal succeeds exactly when each item fits, when each step succeeds exactly on a
fitting item and gives `h` of it. -/
theorem mapM_eq_ok_iff {α β : Type} {l : List α} {g : α → Result β} {fits : α → Bool}
    {h : α → β} (hg : ∀ a ∈ l, ∀ b, g a = .ok b ↔ fits a = true ∧ b = h a) {r : List β} :
    l.mapM g = .ok r ↔ l.all fits = true ∧ r = l.map h := by
  induction l generalizing r with
  | nil =>
    simp only [List.mapM_nil, List.all_nil, List.map_nil, true_and]
    exact ⟨fun hr => by cases hr; rfl, fun hr => by subst hr; rfl⟩
  | cons a l ih =>
    rw [List.mapM_cons]
    simp only [Except.bind_eq_ok, Except.pure_eq_ok, hg a (List.mem_cons_self ..),
      ih fun b hb => hg b (List.mem_cons_of_mem a hb), List.all_cons, Bool.and_eq_true,
      List.map_cons]
    constructor
    · rintro ⟨b, ⟨ha, rfl⟩, bs, ⟨hl, rfl⟩, rfl⟩
      exact ⟨⟨ha, hl⟩, rfl⟩
    · rintro ⟨⟨ha, hl⟩, rfl⟩
      exact ⟨h a, ⟨ha, rfl⟩, l.map h, ⟨hl, rfl⟩, rfl⟩

/-! ### Fields -/

/-- A key the decoder does not know fits no field object. -/
theorem fieldEntryFits_eq_false {k : String} (hk : k ∉ fieldKeys) (v : Json) :
    fieldEntryFits k v = false := by
  simp only [fieldKeys, List.mem_cons, List.not_mem_nil, or_false, not_or] at hk
  simp [fieldEntryFits, flagKeys, hk]

/-- One entry of a field object: the decoder goes on with the field as the entry sets it exactly
when the entry fits and does not repeat the nullable pair. -/
theorem fieldEntries_cons_eq_ok {f f' : Field} {seen : Bool} {k : String} {v : Json}
    {rest : List (String × Json)} :
    fieldEntries path f seen ((k, v) :: rest) = .ok f' ↔
      fieldEntryFits k v = true ∧ ¬(seen = true ∧ k ∈ nullableKeys) ∧
        fieldEntries path (f.withEntries [(k, v)]) (seen || decide (k ∈ nullableKeys)) rest =
          .ok f' := by
  rw [fieldEntries.eq_def]
  dsimp only
  -- one case per key the decoder knows, and one for any other key
  split
  next =>
    rw [bind_eq_ok_of_reads (fun _ => kind_eq_ok_iff) f.kind]
    simp [fieldEntryFits, nullableKeys, flagKeys, Field.withEntries]
  next =>
    rw [bind_eq_ok_of_reads (fun _ => bool_eq_ok_iff) f.array]
    simp [fieldEntryFits, nullableKeys, flagKeys, Field.withEntries]
  next =>
    rw [bind_eq_ok_of_reads (fun _ => bool_eq_ok_iff) f.optional]
    simp [fieldEntryFits, nullableKeys, flagKeys, Field.withEntries]
  next =>
    rw [guard_eq_ok_iff, bind_eq_ok_of_reads (fun _ => bool_eq_ok_iff) f.nullable]
    simp [fieldEntryFits, nullableKeys, flagKeys, Field.withEntries, and_left_comm]
  next =>
    rw [guard_eq_ok_iff, bind_eq_ok_of_reads (fun _ => bool_eq_ok_iff) f.nullable]
    simp [fieldEntryFits, nullableKeys, flagKeys, Field.withEntries, and_left_comm]
  next =>
    rw [bind_eq_ok_of_reads (fun _ => bool_eq_ok_iff) f.constant]
    simp [fieldEntryFits, nullableKeys, flagKeys, Field.withEntries]
  next => simp [fieldEntryFits, nullableKeys, flagKeys, Field.withEntries]
  next => simp [fieldEntryFits, nullableKeys, flagKeys, Field.withEntries]
  next htype harray hoptional hnullable hmaybe hconstant hvalue hdefault =>
    have hk : k ∉ fieldKeys := by
      simp only [fieldKeys, List.mem_cons, List.not_mem_nil, or_false, not_or]
      exact ⟨htype, harray, hoptional, hmaybe, hnullable, hconstant, hvalue, hdefault⟩
    simp [fail, fieldEntryFits_eq_false hk]

/-- A field object, entry by entry: decoding succeeds exactly when every entry fits and the
nullable pair occurs at most once (counting one already met), and gives the field as the
entries set it. -/
theorem fieldEntries_eq_ok_iff {f f' : Field} {seen : Bool} {entries : List (String × Json)}
    (hkeys : (entries.map (·.1)).Nodup) :
    fieldEntries path f seen entries = .ok f' ↔
      entries.all (fun e => fieldEntryFits e.1 e.2) = true ∧
        Json.countKeys entries nullableKeys + seen.toNat ≤ 1 ∧ f' = f.withEntries entries := by
  induction entries generalizing f seen with
  | nil =>
    simp only [fieldEntries, List.all_nil, Json.countKeys, List.countP_nil, Field.withEntries_nil,
      true_and, Nat.zero_add]
    constructor
    · rintro ⟨⟩
      exact ⟨by cases seen <;> decide, rfl⟩
    · rintro ⟨-, rfl⟩
      rfl
  | cons e rest ih =>
    obtain ⟨k, v⟩ := e
    simp only [List.map_cons, List.nodup_cons] at hkeys
    rw [fieldEntries_cons_eq_ok, ih hkeys.2, Json.countKeys_cons, List.all_cons, Bool.and_eq_true]
    constructor
    · rintro ⟨hfits, hseen, hall, hcount, rfl⟩
      have hstep := count_step.mp ⟨hseen, hcount⟩
      exact ⟨⟨hfits, hall⟩, hstep, Field.withEntries_cons hkeys.1 (count_eq_zero_of_step hstep)⟩
    · rintro ⟨⟨hfits, hall⟩, hcount, rfl⟩
      have hstep := count_step.mpr hcount
      exact ⟨hfits, hstep.1, hall, hstep.2,
        (Field.withEntries_cons hkeys.1 (count_eq_zero_of_step hcount)).symm⟩

theorem fieldItems_eq_ok_iff {name : String} {items : List Json} {f : Field} :
    fieldItems path name items = .ok f ↔
      fieldItemsFit items = true ∧ f = Field.ofItems name items := by
  unfold fieldItems
  simp only [bind_eq_ok_of_reads (fun _ => elim_eq_ok_iff fun _ _ _ => kind_eq_ok_iff) ValueKind.any,
    bind_eq_ok_of_reads (fun _ => elim_eq_ok_iff fun _ _ _ => bool_eq_ok_iff) false, elim_isSome,
    elim_getD]
  by_cases hlen : 7 < items.length
  · simp only [hlen, if_true, fail, fieldItemsFit, reduceCtorEq, and_false, false_iff]
    simp
    omega
  · have hle : items.length ≤ 7 := by omega
    simp only [hlen, if_false, Except.ok.injEq]
    simp only [fieldItemsFit, hle, decide_true, Bool.true_and, List.all_cons, List.all_nil,
      Bool.and_true, Bool.and_eq_true]
    constructor
    · rintro ⟨h0, h1, h2, h3, h4, rfl⟩
      exact ⟨⟨h0, h1, h2, h3, h4⟩, rfl⟩
    · rintro ⟨⟨h0, h1, h2, h3, h4⟩, rfl⟩
      exact ⟨h0, h1, h2, h3, h4, rfl⟩

theorem field_eq_ok_iff {name : String} {v : Json} {f : Field} (hv : v.keysDistinct = true) :
    field path name v = .ok f ↔ isField v = true ∧ f = Field.ofDocument name v := by
  cases v with
  | obj entries =>
    simp only [field]
    rw [fieldEntries_eq_ok_iff (Json.keysDistinct_obj.mp hv).1]
    simp [isField, Field.ofDocument, and_assoc]
  | arr items => exact fieldItems_eq_ok_iff
  | _ => simp [field, wrongType, fail, isField]

theorem fields_eq_ok_iff {v : Json} {fs : List Field} (hv : v.keysDistinct = true) :
    fields path v = .ok fs ↔ v.fields? = some fs := by
  have hfits : fields path v = .ok fs ↔ isFields v = true ∧ fs = v.fieldList := by
    cases v with
    | obj entries =>
      simp only [fields, isFields, Json.fieldList]
      apply mapM_eq_ok_iff
      intro e he b
      exact field_eq_ok_iff ((Json.keysDistinct_obj.mp hv).2 e he)
    | _ => simp [fields, wrongType, fail, isFields]
  rw [hfits, Json.fields?]
  cases isFields v <;> simp [eq_comm]

/-! ### Definitions -/

/-- A key the decoder does not know fits no definition object. -/
theorem typeEntryFits_eq_false {k : String} (hk : k ∉ typeKeys) (v : Json) :
    typeEntryFits k v = false := by
  simp only [typeKeys, List.mem_cons, List.not_mem_nil, or_false, not_or] at hk
  simp [typeEntryFits, displayKeys, tagKeys, hk]

/-- One entry of a definition object: the decoder goes on with the definition as the entry sets
it exactly when the entry fits and meets none of its alias pair or key again. -/
theorem typeEntries_cons_eq_ok {d d' : TypeDef} {display fs tags : Bool} {k : String} {v : Json}
    {rest : List (String × Json)} (hv : v.keysDistinct = true) :
    typeEntries path d display fs tags ((k, v) :: rest) = .ok d' ↔
      typeEntryFits k v = true ∧ ¬(display = true ∧ k ∈ displayKeys) ∧
        ¬(fs = true ∧ k ∈ ["fields"]) ∧ ¬(tags = true ∧ k ∈ tagKeys) ∧
        typeEntries path (d.withEntries [(k, v)]) (display || decide (k ∈ displayKeys))
          (fs || decide (k ∈ ["fields"])) (tags || decide (k ∈ tagKeys)) rest = .ok d' := by
  rw [typeEntries.eq_def]
  dsimp only
  -- one case per key the decoder knows, each with its flag, and one for any other key
  split
  next =>
    rw [guard_eq_ok_iff, bind_eq_ok_of_reads (fun _ => optionalString_eq_ok_iff) d.displayTypeName]
    simp [typeEntryFits, displayKeys, tagKeys, TypeDef.withEntries, and_left_comm]
  next =>
    rw [guard_eq_ok_iff, bind_eq_ok_of_reads (fun _ => optionalString_eq_ok_iff) d.displayTypeName]
    simp [typeEntryFits, displayKeys, tagKeys, TypeDef.withEntries, and_left_comm]
  next =>
    rw [guard_eq_ok_iff, bind_eq_ok_of_reads (fun _ => fields_eq_ok_iff hv) d.fields]
    simp [typeEntryFits, displayKeys, tagKeys, TypeDef.withEntries, and_left_comm]
  next =>
    rw [guard_eq_ok_iff, bind_eq_ok_of_reads (fun _ => strings_eq_ok_iff) d.groupTags]
    simp [typeEntryFits, displayKeys, tagKeys, TypeDef.withEntries, and_left_comm]
  next =>
    rw [guard_eq_ok_iff, bind_eq_ok_of_reads (fun _ => strings_eq_ok_iff) d.groupTags]
    simp [typeEntryFits, displayKeys, tagKeys, TypeDef.withEntries, and_left_comm]
  next hdisplay hflow hfields hunion hgroup =>
    have hk : k ∉ typeKeys := by
      simp only [typeKeys, List.mem_cons, List.not_mem_nil, or_false, not_or]
      exact ⟨hdisplay, hflow, hfields, hgroup, hunion⟩
    simp [fail, typeEntryFits_eq_false hk]

/-- A definition object, entry by entry: decoding succeeds exactly when every entry fits and
each alias pair and the key `fields` occur at most once (counting those already met), and gives
the definition as the entries set it. -/
theorem typeEntries_eq_ok_iff {d d' : TypeDef} {display fs tags : Bool}
    {entries : List (String × Json)} (hkeys : (entries.map (·.1)).Nodup)
    (hvalues : ∀ e ∈ entries, e.2.keysDistinct = true) :
    typeEntries path d display fs tags entries = .ok d' ↔
      entries.all (fun e => typeEntryFits e.1 e.2) = true ∧
        Json.countKeys entries displayKeys + display.toNat ≤ 1 ∧
        Json.countKeys entries ["fields"] + fs.toNat ≤ 1 ∧
        Json.countKeys entries tagKeys + tags.toNat ≤ 1 ∧ d' = d.withEntries entries := by
  induction entries generalizing d display fs tags with
  | nil =>
    simp only [typeEntries, List.all_nil, Json.countKeys, List.countP_nil, TypeDef.withEntries_nil,
      true_and, Nat.zero_add]
    constructor
    · rintro ⟨⟩
      exact ⟨by cases display <;> decide, by cases fs <;> decide, by cases tags <;> decide, rfl⟩
    · rintro ⟨-, -, -, rfl⟩
      rfl
  | cons e rest ih =>
    obtain ⟨k, v⟩ := e
    simp only [List.map_cons, List.nodup_cons] at hkeys
    rw [typeEntries_cons_eq_ok (hvalues _ (List.mem_cons_self ..)),
      ih hkeys.2 fun e he => hvalues e (List.mem_cons_of_mem _ he)]
    simp only [Json.countKeys_cons, List.all_cons, Bool.and_eq_true]
    constructor
    · rintro ⟨hfits, hdisplay, hfs, htags, hall, hcd, hcf, hct, rfl⟩
      have sd := count_step.mp ⟨hdisplay, hcd⟩
      have sf := count_step.mp ⟨hfs, hcf⟩
      have st := count_step.mp ⟨htags, hct⟩
      exact ⟨⟨hfits, hall⟩, sd, sf, st,
        TypeDef.withEntries_cons hkeys.1 (count_eq_zero_of_step sd) (count_eq_zero_of_step st)⟩
    · rintro ⟨⟨hfits, hall⟩, hcd, hcf, hct, rfl⟩
      have sd := count_step.mpr hcd
      have sf := count_step.mpr hcf
      have st := count_step.mpr hct
      exact ⟨hfits, sd.1, sf.1, st.1, hall, sd.2, sf.2, st.2,
        (TypeDef.withEntries_cons hkeys.1 (count_eq_zero_of_step hcd)
          (count_eq_zero_of_step hct)).symm⟩

theorem typeItems_eq_ok_iff {name : String} {items : List Json} {d : TypeDef}
    (hitems : ∀ w ∈ items, w.keysDistinct = true) :
    typeItems path name items = .ok d ↔
      typeItemsFit items = true ∧ d = TypeDef.ofItems name items := by
  have hfields : ∀ w, items[1]? = some w →
      ∀ b, fields (path ++ [.index 1]) w = .ok b ↔ w.fields? = some b :=
    fun w hw _ => fields_eq_ok_iff (hitems w (List.mem_of_getElem? hw))
  unfold typeItems
  simp only [bind_eq_ok_of_reads (fun _ => elim_eq_ok_iff fun _ _ _ => optionalString_eq_ok_iff)
      (none : Option String),
    bind_eq_ok_of_reads (fun _ => elim_eq_ok_iff hfields) ([] : List Field),
    bind_eq_ok_of_reads (fun _ => elim_eq_ok_iff fun _ _ _ => strings_eq_ok_iff)
      ([] : List String),
    elim_isSome, elim_getD]
  by_cases hlen : 3 < items.length
  · simp only [hlen, if_true, fail, typeItemsFit, reduceCtorEq, and_false, false_iff]
    simp
    omega
  · have hle : items.length ≤ 3 := by omega
    simp only [hlen, if_false, Except.ok.injEq]
    simp only [typeItemsFit, hle, decide_true, Bool.true_and, Bool.and_eq_true]
    constructor
    · rintro ⟨h0, h1, h2, rfl⟩
      exact ⟨⟨⟨h0, h1⟩, h2⟩, rfl⟩
    · rintro ⟨⟨⟨h0, h1⟩, h2⟩, rfl⟩
      exact ⟨h0, h1, h2, rfl⟩

theorem typeDef_eq_ok_iff {name : String} {v : Json} {d : TypeDef} (hv : v.keysDistinct = true) :
    typeDef path name v = .ok d ↔ isTypeDef v = true ∧ d = TypeDef.ofDocument name v := by
  cases v with
  | obj entries =>
    obtain ⟨hkeys, hvalues⟩ := Json.keysDistinct_obj.mp hv
    simp only [typeDef]
    rw [typeEntries_eq_ok_iff hkeys hvalues]
    have hfields : Json.countKeys entries ["fields"] ≤ 1 := Json.countKeys_singleton_le_one hkeys
    simp [isTypeDef, TypeDef.ofDocument, hfields, and_assoc]
  | arr items => exact typeItems_eq_ok_iff (Json.keysDistinct_arr.mp hv)
  | _ => simp [typeDef, wrongType, fail, isTypeDef]

end Decode

theorem Schema.ofJson_eq_ok_iff {v : Json} {s : Schema} (hv : v.keysDistinct = true) :
    Schema.ofJson v = .ok s ↔ isSchema v = true ∧ s = Schema.ofDocument v := by
  cases v with
  | obj entries =>
    have htype : ∀ e ∈ entries, ∀ d, Decode.typeDef [.key e.1] e.1 e.2 = .ok d ↔
        isTypeDef e.2 = true ∧ d = TypeDef.ofDocument e.1 e.2 :=
      fun e he _ => Decode.typeDef_eq_ok_iff ((Json.keysDistinct_obj.mp hv).2 e he)
    simp only [Schema.ofJson, Except.bind_eq_ok, Except.pure_eq_ok, isSchema, Schema.ofDocument]
    constructor
    · rintro ⟨defs, hdefs, rfl⟩
      obtain ⟨hall, rfl⟩ := (Decode.mapM_eq_ok_iff htype).mp hdefs
      exact ⟨hall, rfl⟩
    · rintro ⟨hall, rfl⟩
      exact ⟨_, (Decode.mapM_eq_ok_iff htype).mpr ⟨hall, rfl⟩, rfl⟩
  | _ => simp [Schema.ofJson, Decode.wrongType, Decode.fail, isSchema]

@[simp] theorem TypeDef.name_ofDocument (name : String) (v : Json) :
    (TypeDef.ofDocument name v).name = name := by
  cases v <;> rfl

theorem Schema.names_ofDocument (entries : List (String × Json)) :
    (Schema.ofDocument (.obj entries)).names = entries.map (·.1) := by
  simp [Schema.names, Schema.ofDocument]

/-- Decoding a JSON value whose objects have distinct keys succeeds exactly on documents of the
schema grammar, and gives the schema they write: the entries in order, each definition named by
its key with the display name, fields and group tags its object or array gives, each field named
by its key with the kind, flags, value and default its object or array gives (a value or default
of null is none). -/
theorem Schema.ofValue_eq_ok_iff {v : Json} (hv : v.keysDistinct = true) (origin : String)
    (s : Schema) :
    Schema.ofValue v origin = .ok s ↔ isSchema v = true ∧ s = Schema.ofDocument v := by
  -- the type names are the document's keys, so the schema can be made
  have hnames : (Schema.ofDocument v).names.Nodup := by
    cases v with
    | obj entries =>
      rw [Schema.names_ofDocument]
      exact (Json.keysDistinct_obj.mp hv).1
    | _ => exact List.nodup_nil
  unfold Schema.ofValue
  split
  · rename_i decoded hdecoded
    obtain ⟨hschema, rfl⟩ := (Schema.ofJson_eq_ok_iff hv).mp hdecoded
    rw [Schema.new_eq_ok_iff]
    obtain ⟨defs⟩ := s
    constructor
    · rintro ⟨-, hdefs⟩
      exact ⟨hschema, congrArg Schema.mk hdefs⟩
    · rintro ⟨-, hs⟩
      rw [hs]
      exact ⟨hnames, rfl⟩
  · rename_i e hdecoded
    simp only [reduceCtorEq, false_iff, not_and]
    intro hschema _
    have hok := (Schema.ofJson_eq_ok_iff hv).mpr ⟨hschema, rfl⟩
    rw [hdecoded] at hok
    cases hok

/-- A document in the legacy spellings: `flowTypeName`, `node-reference`, `maybe` and `Object`. -/
def legacyAliases : Json :=
  .obj [("Func", .obj [
    ("flowTypeName", .str "FuncNode"),
    ("fields", .obj [
      ("name", .obj [("type", .str "node-reference"), ("maybe", .bool true)]),
      ("metadata", .obj [("type", .str "Object"), ("optional", .bool true)]),
      ("signature", .obj [])])])]

theorem legacy_aliases_decode :
    legacyAliases.keysDistinct = true ∧ isSchema legacyAliases = true ∧
      Schema.ofValue legacyAliases "inline" = .ok (Schema.ofDocument legacyAliases) :=
  have hkeys : legacyAliases.keysDistinct = true := by decide
  have hschema : isSchema legacyAliases = true := by decide
  ⟨hkeys, hschema, (Schema.ofValue_eq_ok_iff hkeys "inline" _).mpr ⟨hschema, rfl⟩⟩

/-- Objects are not the only forms: a definition may be an array, a field an array, and a kind an
object whose one key names it. -/
theorem sequence_and_map_forms_decode :
    (∃ s, Schema.ofValue (.obj [("A", .arr [])]) "input" = .ok s) ∧
    (∃ s, Schema.ofValue
      (.obj [("A", .obj [("fields", .obj [("x", .arr [.str "number", .bool true])])])]) "input" =
        .ok s) ∧
    (∃ s, Schema.ofValue
      (.obj [("A", .obj [("fields", .obj [("x", .obj [("type", .obj [("string", .null)])])])])])
        "input" = .ok s) :=
  ⟨⟨_, rfl⟩, ⟨_, rfl⟩, ⟨_, rfl⟩⟩

end NodeKit
