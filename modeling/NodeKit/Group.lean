import NodeKit.Schema.Basic

/-!
Groups of node types. Each tag that some type declares is a group, listed in order of first
appearance over the types in schema order; its members are the types that declare it, in schema
order and each once. A tag no type declares has no members.
-/

namespace NodeKit

/-- The groups of a schema: each tag with its member type names. -/
structure GroupIndex where
  groups : List (String × List String)
deriving Inhabited, Repr

namespace GroupIndex

/-- Records that type `name` belongs to group `tag`. -/
def add (g : GroupIndex) (tag name : String) : GroupIndex :=
  ⟨go g.groups⟩
where
  /-- Adds `name` to `tag`'s members, or appends the tag with `name` alone. -/
  go : List (String × List String) → List (String × List String)
    | [] => [(tag, [name])]
    | (t, members) :: rest =>
      if t = tag then (t, if members.contains name then members else members ++ [name]) :: rest
      else (t, members) :: go rest

/-- The groups of a schema. -/
def ofSchema (s : Schema) : GroupIndex :=
  s.definitions.foldl (fun g d => d.groupTags.foldl (fun g tag => g.add tag d.name) g) ⟨[]⟩

/-- The members of a group, none for an unknown tag. -/
def members (g : GroupIndex) (tag : String) : List String :=
  ((g.groups.find? (·.1 = tag)).map (·.2)).getD []

/-- The number of groups. -/
def size (g : GroupIndex) : Nat := g.groups.length

/-- The groups as a JSON object from tags to arrays of member names. -/
def toJson (g : GroupIndex) : Json :=
  .obj (g.groups.map fun (tag, members) => (tag, .arr (members.map .str)))

end GroupIndex

end NodeKit
