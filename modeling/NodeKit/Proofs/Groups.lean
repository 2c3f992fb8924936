import NodeKit.Proofs.ModuleNames

/-!
The group index of a schema. Its groups are the distinct group tags in order of first appearance
over the types in schema order, each tag its types declare once; the members of a group are the
names of the types that declare its tag, in schema order and each once. `ofSchema_groups` states
it as one list and draws the consequences: the tags are the ones validation checks, a declared
tag has members and none twice, an undeclared one has none, and the JSON table lists the same
pairs in the same order.

The index is put together by adding one type to one group at a time. `members_add` says what one
addition does to the members of every tag; the run over a type's tags and then over the types
follows by induction, with the index the fold starts from generalised.
-/

namespace NodeKit

/-- The names of the types that declare `tag`, in schema order, each once. -/
def Schema.groupMembers (s : Schema) (tag : String) : List String :=
  ((s.definitions.filter (·.groupTags.contains tag)).map (·.name)).eraseDups

namespace Schema

theorem collectTag_of_mem {seen : List String} {t : String} (h : t ∈ seen) :
    collectTag seen t = seen := by
  simp [collectTag, h]

theorem collectTag_of_not_mem {seen : List String} {t : String} (h : t ∉ seen) :
    collectTag seen t = seen ++ [t] := by
  simp [collectTag, h]

/-- Collecting the distinct names of a list after those `seen` before adds the names not seen,
each at its first appearance. -/
theorem foldl_collectTag (l seen : List String) :
    l.foldl collectTag seen = seen ++ (l.filter fun t => !seen.contains t).eraseDups := by
  induction l generalizing seen with
  | nil => simp
  | cons t l ih =>
    rw [List.foldl_cons, ih]
    by_cases ht : t ∈ seen
    · rw [collectTag_of_mem ht, List.filter_cons_of_neg (by simpa using ht)]
    · -- `t` is new: it goes last, and is left out of the rest as seen
      have hrest : (l.filter fun u => !(seen ++ [t]).contains u) =
          (l.filter fun u => !seen.contains u).filter fun u => !u == t := by
        rw [List.filter_filter]
        refine List.filter_congr fun u _ => ?_
        by_cases hu : u = t <;> simp [hu, ht]
      rw [collectTag_of_not_mem ht, List.filter_cons_of_pos (by simpa using ht),
        List.eraseDups_cons, hrest, List.append_assoc, List.singleton_append]

theorem foldl_collectTag_nil (l : List String) : l.foldl collectTag [] = l.eraseDups := by
  rw [foldl_collectTag, List.nil_append, List.filter_eq_self.mpr fun t _ => by simp]

theorem collectTag_collectTag (seen : List String) (t : String) :
    collectTag (collectTag seen t) t = collectTag seen t := by
  by_cases ht : t ∈ seen
  · rw [collectTag_of_mem ht, collectTag_of_mem ht]
  · rw [collectTag_of_not_mem ht, collectTag_of_mem (by simp)]

theorem nodup_foldl_collectTag (l : List String) :
    ∀ seen : List String, seen.Nodup → (l.foldl collectTag seen).Nodup := by
  induction l with
  | nil => exact fun _ h => h
  | cons t l ih =>
    intro seen hseen
    refine ih _ ?_
    by_cases ht : t ∈ seen
    · rwa [collectTag_of_mem ht]
    · rw [collectTag_of_not_mem ht]
      exact (nodup_append_singleton hseen).mpr ht

theorem nodup_eraseDups (l : List String) : l.eraseDups.Nodup := by
  rw [← foldl_collectTag_nil]
  exact nodup_foldl_collectTag l [] List.nodup_nil

/-- The tags validation checks are the distinct tags of the types, in order of first
appearance. -/
theorem groupTags_eq_eraseDups (s : Schema) :
    s.groupTags = (s.definitions.flatMap (·.groupTags)).eraseDups :=
  foldl_collectTag_nil _

theorem mem_groupMembers {s : Schema} {tag name : String} :
    name ∈ s.groupMembers tag ↔ ∃ d ∈ s.definitions, d.name = name ∧ tag ∈ d.groupTags := by
  simp only [groupMembers, List.mem_eraseDups, List.mem_map, List.mem_filter]
  constructor
  · rintro ⟨d, ⟨hd, htag⟩, rfl⟩
    exact ⟨d, hd, rfl, by simpa using htag⟩
  · rintro ⟨d, hd, rfl, htag⟩
    exact ⟨d, ⟨hd, by simpa using htag⟩, rfl⟩

theorem groupMembers_eq_nil {s : Schema} {tag : String} (h : tag ∉ s.groupTags) :
    s.groupMembers tag = [] := by
  refine List.eq_nil_iff_forall_not_mem.mpr fun name hname => h ?_
  obtain ⟨d, hd, -, htag⟩ := mem_groupMembers.mp hname
  rw [groupTags_eq_eraseDups, List.mem_eraseDups, List.mem_flatMap]
  exact ⟨d, hd, htag⟩

theorem groupMembers_ne_nil {s : Schema} {tag : String} (h : tag ∈ s.groupTags) :
    s.groupMembers tag ≠ [] := by
  rw [groupTags_eq_eraseDups, List.mem_eraseDups, List.mem_flatMap] at h
  obtain ⟨d, hd, htag⟩ := h
  exact List.ne_nil_of_mem (mem_groupMembers.mpr ⟨d, hd, rfl, htag⟩)

end Schema

namespace GroupIndex

/-- Adding a type to a group adds it to that group's members unless it is there already, and
leaves every other group as it was. -/
theorem members_add (g : GroupIndex) (tag name t : String) :
    (g.add tag name).members t =
      if t = tag then Schema.collectTag (g.members t) name else g.members t := by
  obtain ⟨groups⟩ := g
  simp only [add, members]
  induction groups with
  | nil =>
    by_cases ht : t = tag
    · subst ht
      simp [add.go, Schema.collectTag]
    · simp [add.go, ht, Ne.symm ht]
  | cons p rest ih =>
    obtain ⟨t', ms⟩ := p
    by_cases htag : t' = tag
    · subst htag
      by_cases ht : t' = t
      · subst ht
        simp [add.go, Schema.collectTag]
      · simp [add.go, ht, Ne.symm ht]
    · by_cases ht : t' = t
      · subst ht
        simp [add.go, htag]
      · simpa [add.go, htag, ht] using ih

/-- Adding a type to each group of a list adds it, once, to the members of those groups. -/
theorem members_foldl_add (name : String) (tags : List String) (g : GroupIndex) (t : String) :
    (tags.foldl (fun g tag => g.add tag name) g).members t =
      if t ∈ tags then Schema.collectTag (g.members t) name else g.members t := by
  induction tags generalizing g with
  | nil => simp
  | cons tag tags ih =>
    rw [List.foldl_cons, ih, members_add]
    by_cases ht : t = tag
    · subst ht
      by_cases hmem : t ∈ tags <;> simp [hmem, Schema.collectTag_collectTag]
    · simp [ht]

/-- The run over the types adds each type that declares `t` to the members of `t`, in order. -/
theorem members_foldl_types (t : String) (defs : List TypeDef) (g : GroupIndex) :
    (defs.foldl (fun g d => d.groupTags.foldl (fun g tag => g.add tag d.name) g) g).members t =
      ((defs.filter (·.groupTags.contains t)).map (·.name)).foldl Schema.collectTag
        (g.members t) := by
  induction defs generalizing g with
  | nil => rfl
  | cons d defs ih =>
    rw [List.foldl_cons, ih, members_foldl_add]
    by_cases ht : t ∈ d.groupTags <;> simp [ht]

theorem members_ofSchema (s : Schema) (t : String) :
    (ofSchema s).members t = s.groupMembers t := by
  rw [ofSchema, members_foldl_types, Schema.groupMembers, ← Schema.foldl_collectTag_nil]
  rfl

/-- An index whose tags are distinct is its tags, each with its members. -/
theorem groups_eq_map_members (g : GroupIndex) (h : (g.groups.map Prod.fst).Nodup) :
    g.groups = (g.groups.map Prod.fst).map fun t => (t, g.members t) := by
  rw [List.map_map]
  conv => lhs; rw [← List.map_id g.groups]
  refine List.map_congr_left fun p hp => ?_
  obtain ⟨q, hq⟩ := Option.isSome_iff_exists.mp
    ((List.find?_isSome (p := fun q : String × List String => q.1 = p.1)).mpr ⟨p, hp, by simp⟩)
  have hkey : q.1 = p.1 := by simpa using List.find?_some hq
  have hqp : q = p := eq_of_nodup_map h (List.mem_of_find?_eq_some hq) hp hkey
  simp [members, hq, hqp]

/-- The groups of a schema are its distinct tags, each with the types that declare it. -/
theorem groups_ofSchema (s : Schema) :
    (ofSchema s).groups = s.groupTags.map (fun t => (t, s.groupMembers t)) := by
  have hnodup : ((ofSchema s).groups.map Prod.fst).Nodup := by
    rw [ofSchema_tags, Schema.groupTags_eq_eraseDups]
    exact Schema.nodup_eraseDups _
  rw [groups_eq_map_members _ hnodup, ofSchema_tags]
  simp only [members_ofSchema]

end GroupIndex

/-- The group index of a schema lists each distinct group tag once, in order of first appearance
over the types in schema order, which is the order validation checks them in; with each tag it
lists the names of the types that declare it, in schema order and without repeats. A declared tag
has at least one member, an undeclared tag has none, and the JSON table is the same list of pairs,
keys in the same order. -/
theorem GroupIndex.ofSchema_groups (s : Schema) :
    (ofSchema s).groups = s.groupTags.map (fun t => (t, s.groupMembers t)) ∧
      s.groupTags = (s.definitions.flatMap (·.groupTags)).eraseDups ∧
      (∀ t, (ofSchema s).members t = if t ∈ s.groupTags then s.groupMembers t else []) ∧
      (∀ t ∈ s.groupTags, s.groupMembers t ≠ [] ∧ (s.groupMembers t).Nodup) ∧
      (ofSchema s).toJson =
        .obj (s.groupTags.map fun t => (t, .arr ((s.groupMembers t).map .str))) := by
  have hgroups := groups_ofSchema s
  refine ⟨hgroups, Schema.groupTags_eq_eraseDups s, fun t => ?_, fun t ht =>
    ⟨Schema.groupMembers_ne_nil ht, Schema.nodup_eraseDups _⟩, ?_⟩
  · by_cases ht : t ∈ s.groupTags
    · simp [ht, members_ofSchema]
    · simp [ht, members_ofSchema, Schema.groupMembers_eq_nil ht]
  · simp [toJson, hgroups]

end NodeKit
