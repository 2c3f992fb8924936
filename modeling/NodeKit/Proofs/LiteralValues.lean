import NodeKit.Proofs.LiteralTokens
import NodeKit.Proofs.Construction
import NodeKit.Literal

/-!
What a field literal means, and that the text `Literal.render` writes has that meaning. A literal
of a string, number or boolean field is a `String`, an `f64` or a `bool`; of an object field, a
`serde_json` map of the object's entries in order; of an `any` field, the JSON value itself; of
an array field, a `Vec` of its items' literals. The main statement: `render` succeeds exactly when
the value conforms to the field, fails with the refusal of the first item that does not conform,
and writes a text that evaluates to the literal's value, as long as the numbers inside read back
from their tokens. A number of a number field is a double whose debug text reads back as it; a
number inside `json!` is a double whose JSON text reads back as it, or an integer that fits an
`i32`. The last condition is not idle: an integer beyond `i32` inside `json!` has no value.
-/

namespace NodeKit

namespace Json

mutual

/-- The numbers inside a value, at every depth, in order. -/
def numbers : Json → List Number
  | .num n => [n]
  | .arr items => itemNumbers items
  | .obj entries => entryNumbers entries
  | _ => []

/-- The numbers inside the items of an array. -/
def itemNumbers : List Json → List Number
  | [] => []
  | v :: rest => v.numbers ++ itemNumbers rest

/-- The numbers inside the values of an object's entries. -/
def entryNumbers : List (String × Json) → List Number
  | [] => []
  | (_, v) :: rest => v.numbers ++ entryNumbers rest

end

mutual

/-- Every object inside the value, at every depth, has distinct keys, as every object read from
JSON text has. -/
def keysDistinct : Json → Bool
  | .arr items => itemKeysDistinct items
  | .obj entries => decide (entries.map Prod.fst).Nodup && entryKeysDistinct entries
  | _ => true

/-- Every object inside the items of an array has distinct keys. -/
def itemKeysDistinct : List Json → Bool
  | [] => true
  | v :: rest => v.keysDistinct && itemKeysDistinct rest

/-- Every object inside the values of an object's entries has distinct keys. -/
def entryKeysDistinct : List (String × Json) → Bool
  | [] => true
  | (_, v) :: rest => v.keysDistinct && entryKeysDistinct rest

end

theorem mem_numbers_num (n : Number) : n ∈ (Json.num n).numbers :=
  List.mem_singleton_self n

theorem forall_itemNumbers_cons {P : Number → Prop} {v : Json} {more : List Json} :
    (∀ n ∈ itemNumbers (v :: more), P n) ↔ (∀ n ∈ v.numbers, P n) ∧ ∀ n ∈ itemNumbers more, P n :=
  List.forall_mem_append

theorem forall_entryNumbers_cons {P : Number → Prop} {k : String} {v : Json}
    {more : List (String × Json)} :
    (∀ n ∈ entryNumbers ((k, v) :: more), P n) ↔
      (∀ n ∈ v.numbers, P n) ∧ ∀ n ∈ entryNumbers more, P n :=
  List.forall_mem_append

theorem itemKeysDistinct_cons {v : Json} {more : List Json} :
    itemKeysDistinct (v :: more) = true ↔ v.keysDistinct = true ∧ itemKeysDistinct more = true :=
  Bool.and_eq_true_iff

theorem entryKeysDistinct_cons {k : String} {v : Json} {more : List (String × Json)} :
    entryKeysDistinct ((k, v) :: more) = true ↔
      v.keysDistinct = true ∧ entryKeysDistinct more = true :=
  Bool.and_eq_true_iff

end Json

/-- The `json!` token of the number reads back as it: an integer fits an `i32` (and a negative
one is below zero), and a double's JSON text reads as the double. -/
def Number.FitsJsonMacro : Number → Prop
  | .nat n => n < Nat.pow 2 31
  | .negInt i => -(Nat.pow 2 31 : Int) ≤ i ∧ i < 0
  | .double x => Rust.readFloat (Json.numberNotation.render x).toList = some x

instance (n : Number) : Decidable n.FitsJsonMacro :=
  match n with
  | .nat n => inferInstanceAs (Decidable (n < Nat.pow 2 31))
  | .negInt i => inferInstanceAs (Decidable (-(Nat.pow 2 31 : Int) ≤ i ∧ i < 0))
  | .double x =>
    inferInstanceAs (Decidable (Rust.readFloat (Json.numberNotation.render x).toList = some x))

/-- The debug text of the number, as a double, reads back as that double. -/
def Number.ReadsAsDouble (n : Number) : Prop :=
  Rust.readFloat (Rust.floatLiteral n.toBinary64).toList = some n.toBinary64

instance (n : Number) : Decidable n.ReadsAsDouble :=
  inferInstanceAs (Decidable (Rust.readFloat _ = some _))

/-- What a literal of a field of `kind` needs of each number in it: a number field writes its
numbers as doubles in debug form, and every other kind writes them inside `json!`. -/
def ValueKind.ReadsBack : ValueKind → Number → Prop
  | .number, n => n.ReadsAsDouble
  | _, n => n.FitsJsonMacro

instance (kind : ValueKind) (n : Number) : Decidable (kind.ReadsBack n) :=
  match kind with
  | .number => inferInstanceAs (Decidable n.ReadsAsDouble)
  | .string | .boolean | .object | .node | .any => inferInstanceAs (Decidable n.FitsJsonMacro)

/-- The value a literal of `kind` stands for: the string, the double of the number, the boolean,
a map of the object's entries; for `any`, and for a value of the wrong type, which has no
literal, the JSON value itself. -/
def ValueKind.literalValue : ValueKind → Json → Rust.Value
  | .string, .str s => .string s
  | .number, .num n => .f64 n.toBinary64
  | .boolean, .bool b => .bool b
  | .object, .obj entries => .map entries
  | _, v => .json v

/-- The value a literal of the field stands for: for an array field, a vector of its items'
values. -/
def Field.literalValue (f : Field) (v : Json) : Rust.Value :=
  if f.array then
    match v with
    | .arr items => .vec (items.map f.kind.literalValue)
    | v => .json v
  else f.kind.literalValue v

/-- A scalar of `kind` has a literal: a string, number, boolean or object of that kind, and
anything for `any`; a node has none. -/
def ValueKind.accepts : ValueKind → Json → Bool
  | .string, .str _ => true
  | .number, .num _ => true
  | .boolean, .bool _ => true
  | .object, .obj _ => true
  | .any, _ => true
  | _, _ => false

/-- The value conforms to the field: an array field takes an array of items its kind accepts,
and a scalar field a value its kind accepts. -/
def Field.accepts (f : Field) (v : Json) : Bool :=
  if f.array then
    match v with
    | .arr items => items.all f.kind.accepts
    | _ => false
  else f.kind.accepts v

/-- Why a scalar of `kind` has no literal: a node has none, and any other kind names the value
of the wrong type. -/
def ValueKind.refusal (kind : ValueKind) (v : Json) : Option LiteralError :=
  if kind.accepts v then none
  else if kind = .node then some .nodeReference
  else some (.kindMismatch kind v)

/-- Why the value has no literal of the field: it is no array for an array field, or the first
of its items has none. -/
def Field.refusal (f : Field) (v : Json) : Option LiteralError :=
  if f.array then
    match v with
    | .arr items => items.findSome? f.kind.refusal
    | other => some (.notArray other)
  else f.kind.refusal v

/-! ### When a literal is refused -/

theorem ValueKind.refusal_eq_none {kind : ValueKind} {v : Json} :
    kind.refusal v = none ↔ kind.accepts v = true := by
  unfold ValueKind.refusal
  by_cases h : kind.accepts v = true
  · simp [h]
  · have hnode : (if kind = .node then some LiteralError.nodeReference
        else some (.kindMismatch kind v)) ≠ none := by
      split <;> simp
    simp [h, hnode]

/-- A scalar is refused exactly as `refusal` says. -/
theorem errorOf_scalar (kind : ValueKind) (v : Json) :
    errorOf (Literal.scalar kind v) = kind.refusal v := by
  cases kind <;> cases v <;> first
    | rfl
    | rename_i entries; cases entries <;> rfl

/-- A literal is refused exactly as `refusal` says: an array field refuses what is no array, and
otherwise the first item that has no literal. -/
theorem errorOf_render (f : Field) (v : Json) : errorOf (Literal.render f v) = f.refusal v := by
  unfold Literal.render Field.refusal
  cases harray : f.array with
  | false => exact errorOf_scalar f.kind v
  | true =>
    simp only [Bool.not_true, Bool.false_eq_true, ↓reduceIte]
    cases v with
    | arr items =>
      cases items with
      | nil => rfl
      | cons item rest =>
        -- the items are rendered in order, and the first refused one is the error
        have hmap := errorOf_mapM (Literal.scalar f.kind) (item :: rest)
        simp only [errorOf_scalar] at hmap
        rw [errorOf_bind]
        cases hm : List.mapM (Literal.scalar f.kind) (item :: rest) with
        | error e => simpa [hm] using hmap
        | ok parts => simpa [hm] using hmap
    | _ => rfl

theorem Field.refusal_eq_none {f : Field} {v : Json} : f.refusal v = none ↔ f.accepts v = true := by
  unfold Field.refusal Field.accepts
  split
  · cases v with
    | arr items => simp [ValueKind.refusal_eq_none]
    | _ => simp
  · exact ValueKind.refusal_eq_none

/-! ### Numbers inside `json!` -/

namespace Number

variable {n : Number}

theorem numberText_double {x : Binary64}
    (hx : Rust.readFloat (Json.numberNotation.render x).toList = some x) :
    Json.numberText (.double x) = Json.numberNotation.render x := by
  simp [Json.numberText, Rust.isFinite_of_readFloat hx]

theorem FitsJsonMacro.readNumber (hn : n.FitsJsonMacro) :
    ∃ lit, Rust.readNumber (Json.numberText n).toList = some lit := by
  cases n with
  | nat n => exact ⟨_, by rw [Rust.numberText_nat_toList]; exact Rust.readNumber_toDigits n⟩
  | negInt i =>
    obtain ⟨m, rfl⟩ := Int.eq_negSucc_of_lt_zero hn.2
    exact ⟨_, by
      rw [Rust.numberText_negSucc_toList]
      exact Rust.readNumber_minus_toDigits (m + 1)⟩
  | double x =>
    rw [numberText_double hn]
    exact Rust.readNumber_of_readFloat hn

theorem FitsJsonMacro.jsonNumber (hn : n.FitsJsonMacro) :
    Rust.jsonNumber (Json.numberText n).toList = some (.num n) := by
  cases n with
  | nat n => rw [Rust.jsonNumber_nat, if_pos (show n < Nat.pow 2 31 from hn)]
  | negInt i => rw [Rust.jsonNumber_negInt hn.2, if_pos hn.1]
  | double x =>
    rw [numberText_double hn]
    exact Rust.jsonNumber_of_readFloat hn

theorem FitsJsonMacro.jsonValue (hn : n.FitsJsonMacro) (fuel : Nat) {rest : List Char}
    (hrest : Rust.Delimited rest) :
    Rust.jsonValue (fuel + 1) ((Json.numberText n).toList ++ rest) = some (.num n, rest) :=
  let ⟨_, hlit⟩ := hn.readNumber
  Rust.jsonValue_number hlit hn.jsonNumber fuel hrest

end Number

/-! ### `json!` tokens -/

namespace Literal

open Rust (Delimited isBlank)

theorem tokens_arr_toList (items : List Json) :
    (tokens (.arr items)).toList = '[' :: ((itemTokens items).toList ++ [']']) := by
  have htokens : tokens (.arr items) = "[" ++ itemTokens items ++ "]" := rfl
  rw [htokens, String.toList_append, String.toList_append]
  rfl

theorem tokens_obj_toList (entries : List (String × Json)) :
    (tokens (.obj entries)).toList = '{' :: ((entryTokens entries).toList ++ ['}']) := by
  have htokens : tokens (.obj entries) = "\x7b" ++ entryTokens entries ++ "\x7d" := rfl
  rw [htokens, String.toList_append, String.toList_append]
  rfl

/-- The tokens of a value begin with neither a blank nor a closing bracket. -/
theorem tokens_head {v : Json} (hnums : ∀ n ∈ v.numbers, n.FitsJsonMacro) :
    ∃ c cs, (tokens v).toList = c :: cs ∧ isBlank c = false ∧ c ≠ ']' ∧ c ≠ '}' := by
  cases v with
  | null => exact ⟨'n', ['u', 'l', 'l'], rfl, rfl, by decide, by decide⟩
  | bool b =>
    cases b with
    | false => exact ⟨'f', ['a', 'l', 's', 'e'], rfl, rfl, by decide, by decide⟩
    | true => exact ⟨'t', ['r', 'u', 'e'], rfl, rfl, by decide, by decide⟩
  | num n =>
    obtain ⟨lit, hlit⟩ := (hnums n (Json.mem_numbers_num n)).readNumber
    obtain ⟨⟨c, cs, hcs, hc⟩, -⟩ := Rust.readNumber_chars hlit
    exact ⟨c, cs, hcs, Rust.numberHead_facts hc⟩
  | str s => exact ⟨'"', _, Rust.quote_toList s, rfl, by decide, by decide⟩
  | arr items => exact ⟨'[', _, tokens_arr_toList items, rfl, by decide, by decide⟩
  | obj entries => exact ⟨'{', _, tokens_obj_toList entries, rfl, by decide, by decide⟩

theorem itemTokens_cons_cons_toList (v w : Json) (more : List Json) :
    (itemTokens (v :: w :: more)).toList =
      (tokens v).toList ++ ',' :: ' ' :: (itemTokens (w :: more)).toList := by
  simp [itemTokens, String.toList_append]

theorem entryTokens_one_toList (k : String) (v : Json) :
    (entryTokens [(k, v)]).toList = (Rust.quote k).toList ++ ':' :: ' ' :: (tokens v).toList := by
  simp [entryTokens, String.toList_append]

theorem entryTokens_cons_cons_toList (k : String) (v : Json) (e : String × Json)
    (more : List (String × Json)) :
    (entryTokens ((k, v) :: e :: more)).toList =
      (Rust.quote k).toList ++ ':' :: ' ' :: ((tokens v).toList ++
        ',' :: ' ' :: (entryTokens (e :: more)).toList) := by
  simp [entryTokens, String.toList_append]

/-- An entry `"key": value` reads back when its value does. -/
theorem jsonEntry_quote {value : List Char → Option (Json × List Char)} (k : String)
    {t rest : List Char} {v : Json} (hvalue : value (' ' :: (t ++ rest)) = some (v, rest)) :
    Rust.jsonEntry value ((Rust.quote k).toList ++ (':' :: ' ' :: (t ++ rest))) =
      some ((k, v), rest) := by
  simp only [Rust.jsonEntry, Rust.stringLiteral_quote, Option.bind_some,
    Rust.skipText_char (c := ':') rfl, hvalue, Option.map_some]

theorem insertAll_of_nodup {entries : List (String × Json)} (h : (entries.map Prod.fst).Nodup) :
    Rust.insertAll entries = entries := by
  unfold Rust.insertAll
  simpa using foldl_setEntry_eq_append (fun _ _ _ => rfl) entries [] (by simpa using h)

theorem quote_append_head (k : String) (t : List Char) :
    ∃ c cs, (Rust.quote k).toList ++ t = c :: cs ∧ isBlank c = false ∧ c ≠ '}' :=
  ⟨'"', _, by rw [Rust.quote_toList, List.cons_append], rfl, by decide⟩

mutual

/-- The `json!` tokens of a value read back as the value, whatever delimiter follows them. -/
theorem jsonValue_tokens (v : Json) (hkeys : v.keysDistinct = true)
    (hnums : ∀ n ∈ v.numbers, n.FitsJsonMacro) (fuel : Nat)
    (hfuel : (tokens v).toList.length < fuel) (rest : List Char) (hrest : Delimited rest) :
    Rust.jsonValue fuel ((tokens v).toList ++ rest) = some (v, rest) := by
  obtain ⟨fuel, rfl⟩ : ∃ f, fuel = f + 1 := ⟨fuel - 1, by omega⟩
  cases v with
  | null => exact Rust.jsonValue_null fuel hrest
  | bool b =>
    cases b with
    | false => exact Rust.jsonValue_bool false fuel hrest
    | true => exact Rust.jsonValue_bool true fuel hrest
  | num n => exact (hnums n (Json.mem_numbers_num n)).jsonValue fuel hrest
  | str s => exact Rust.jsonValue_quote s fuel rest
  | arr items =>
    rw [tokens_arr_toList] at hfuel ⊢
    simp only [List.length_cons, List.length_append] at hfuel
    have hitems := jsonItems_itemTokens items hkeys hnums fuel (by omega) rest
    rw [List.cons_append, Rust.jsonValue_arr, List.append_assoc, List.singleton_append, hitems]
    rfl
  | obj entries =>
    simp only [Json.keysDistinct, Bool.and_eq_true, decide_eq_true_eq] at hkeys
    rw [tokens_obj_toList] at hfuel ⊢
    simp only [List.length_cons, List.length_append] at hfuel
    have hentries := jsonEntries_entryTokens entries hkeys.2 hnums fuel (by omega) rest
    rw [List.cons_append, Rust.jsonValue_obj, List.append_assoc, List.singleton_append, hentries,
      Option.map_some, insertAll_of_nodup hkeys.1]

/-- The tokens of array items, then `]`, read back as the items. -/
theorem jsonItems_itemTokens (items : List Json) (hkeys : Json.itemKeysDistinct items = true)
    (hnums : ∀ n ∈ Json.itemNumbers items, n.FitsJsonMacro) (fuel : Nat)
    (hfuel : (itemTokens items).toList.length + 1 < fuel) (rest : List Char) :
    Rust.jsonItems fuel ((itemTokens items).toList ++ ']' :: rest) = some (items, rest) := by
  obtain ⟨fuel, rfl⟩ : ∃ f, fuel = f + 1 := ⟨fuel - 1, by omega⟩
  rcases items with _ | ⟨v, _ | ⟨w, more⟩⟩
  · rw [Rust.jsonItems]
    exact Rust.listOf_close rfl rest
  · have hkeys : v.keysDistinct = true := (Json.itemKeysDistinct_cons.mp hkeys).1
    have hnums : ∀ n ∈ v.numbers, n.FitsJsonMacro := (Json.forall_itemNumbers_cons.mp hnums).1
    obtain ⟨c, cs, htok, hb, hc, -⟩ := tokens_head hnums
    rw [Rust.jsonItems]
    refine Rust.listOf_one ⟨c, cs, htok, hb, hc⟩ rfl (by decide) ?_
    exact jsonValue_tokens v hkeys hnums fuel (by simpa [itemTokens] using hfuel) (']' :: rest)
      (Rust.delimited_punct ']' (by simp) rest)
  · have hkeys := Json.itemKeysDistinct_cons.mp hkeys
    obtain ⟨hv, hmore⟩ := Json.forall_itemNumbers_cons.mp hnums
    obtain ⟨c, cs, htok, hb, hc, -⟩ := tokens_head hv
    rw [itemTokens_cons_cons_toList] at hfuel ⊢
    simp only [List.length_append, List.length_cons] at hfuel
    rw [Rust.jsonItems, List.append_assoc, List.cons_append,
      Rust.listOf_cons ⟨c, cs, htok, hb, hc⟩
        (jsonValue_tokens v hkeys.1 hv fuel (by omega) _ (Rust.delimited_punct ',' (by simp) _)),
      List.cons_append, Rust.jsonItems_blank_cons rfl,
      jsonItems_itemTokens (w :: more) hkeys.2 hmore fuel (by omega) rest]
    rfl

/-- The tokens of object entries, then the closing brace, read back as the entries. -/
theorem jsonEntries_entryTokens (entries : List (String × Json))
    (hkeys : Json.entryKeysDistinct entries = true)
    (hnums : ∀ n ∈ Json.entryNumbers entries, n.FitsJsonMacro) (fuel : Nat)
    (hfuel : (entryTokens entries).toList.length + 1 < fuel) (rest : List Char) :
    Rust.jsonEntries fuel ((entryTokens entries).toList ++ '}' :: rest) = some (entries, rest) := by
  obtain ⟨fuel, rfl⟩ : ∃ f, fuel = f + 1 := ⟨fuel - 1, by omega⟩
  rcases entries with _ | ⟨⟨k, v⟩, _ | ⟨e, more⟩⟩
  · rw [Rust.jsonEntries]
    exact Rust.listOf_close rfl rest
  · have hkeys : v.keysDistinct = true := (Json.entryKeysDistinct_cons.mp hkeys).1
    have hnums : ∀ n ∈ v.numbers, n.FitsJsonMacro := (Json.forall_entryNumbers_cons.mp hnums).1
    rw [entryTokens_one_toList] at hfuel ⊢
    simp only [List.length_append, List.length_cons] at hfuel
    rw [Rust.jsonEntries]
    refine Rust.listOf_one (quote_append_head k _) rfl (by decide) ?_
    rw [List.append_assoc, List.cons_append, List.cons_append]
    refine jsonEntry_quote k ?_
    rw [Rust.jsonValue_blank_cons rfl]
    exact jsonValue_tokens v hkeys hnums fuel (by omega) ('}' :: rest)
      (Rust.delimited_punct '}' (by simp) rest)
  · have hkeys := Json.entryKeysDistinct_cons.mp hkeys
    obtain ⟨hv, hmore⟩ := Json.forall_entryNumbers_cons.mp hnums
    rw [entryTokens_cons_cons_toList] at hfuel ⊢
    simp only [List.length_append, List.length_cons] at hfuel
    have hshape : ((Rust.quote k).toList ++ ':' :: ' ' :: ((tokens v).toList ++
          ',' :: ' ' :: (entryTokens (e :: more)).toList)) ++ '}' :: rest =
        ((Rust.quote k).toList ++ ':' :: ' ' :: (tokens v).toList) ++
          ',' :: (' ' :: ((entryTokens (e :: more)).toList ++ '}' :: rest)) := by
      simp only [List.append_assoc, List.cons_append]
    have hitem : Rust.jsonEntry (Rust.jsonValue fuel)
        (((Rust.quote k).toList ++ ':' :: ' ' :: (tokens v).toList) ++
          ',' :: (' ' :: ((entryTokens (e :: more)).toList ++ '}' :: rest))) =
        some ((k, v), ',' :: (' ' :: ((entryTokens (e :: more)).toList ++ '}' :: rest))) := by
      rw [List.append_assoc, List.cons_append, List.cons_append]
      refine jsonEntry_quote k ?_
      rw [Rust.jsonValue_blank_cons rfl]
      exact jsonValue_tokens v hkeys.1 hv fuel (by omega) _ (Rust.delimited_punct ',' (by simp) _)
    rw [Rust.jsonEntries, hshape, Rust.listOf_cons (quote_append_head k _) hitem,
      Rust.jsonEntries_blank_cons rfl,
      jsonEntries_entryTokens (e :: more) hkeys.2 hmore fuel (by omega) rest]
    rfl

end

/-! ### Literal expressions -/

theorem mapEntry_toList (k : String) (v : Json) :
    (mapEntry k v).toList = '(' :: ("String::from(".toList ++ ((Rust.quote k).toList ++
      ')' :: ',' :: ' ' :: ("::serde_json::json!(".toList ++ ((tokens v).toList ++
        [')', ')'])))) := by
  have hopen : "(String::from(".toList = '(' :: "String::from(".toList := rfl
  have hcomma : "), ::serde_json::json!(".toList =
      ')' :: ',' :: ' ' :: "::serde_json::json!(".toList := rfl
  have hclose : "))".toList = [')', ')'] := rfl
  -- unfolding rather than rewriting with the equation lemma: building that lemma makes Lean
  -- compare the literals of the definition character by character
  unfold mapEntry
  simp only [String.toList_append, hopen, hcomma, hclose, List.append_assoc, List.cons_append]

theorem mapEntry_head (k : String) (v : Json) :
    ∃ c cs, (mapEntry k v).toList = c :: cs ∧ isBlank c = false ∧ c ≠ ']' :=
  ⟨'(', _, mapEntry_toList k v, rfl, by decide⟩

/-- A pair of a map built `from_iter` reads back as the entry it was written from. -/
theorem mapPair_mapEntry (k : String) (v : Json) (hkeys : v.keysDistinct = true)
    (hnums : ∀ n ∈ v.numbers, n.FitsJsonMacro) (fuel : Nat)
    (hfuel : (mapEntry k v).toList.length < fuel) (rest : List Char) :
    Rust.mapPair (Rust.expr fuel) ((mapEntry k v).toList ++ rest) = some ((k, v), rest) := by
  obtain ⟨fuel, rfl⟩ : ∃ f, fuel = f + 1 := ⟨fuel - 1, by omega⟩
  rw [mapEntry_toList] at hfuel ⊢
  simp only [List.length_append, List.length_cons] at hfuel
  have hvalue := jsonValue_tokens v hkeys hnums fuel (by omega) (')' :: ')' :: rest)
    (Rust.delimited_punct ')' (by simp) _)
  simp only [List.append_assoc, List.cons_append, List.nil_append]
  simp only [Rust.mapPair, Rust.skipText_char (c := '(') rfl, Option.bind_some,
    Rust.expr_stringFrom, Rust.stringLiteral_quote, Rust.skipText_char (c := ')') rfl,
    Option.map_some, Rust.skipText_char (c := ',') rfl, Rust.expr_blank_cons (c := ' ') rfl,
    Rust.expr_jsonMacro, hvalue]

theorem forall₂_mapEntries : ∀ (entries : List (String × Json)),
    Json.entryKeysDistinct entries = true → (∀ n ∈ Json.entryNumbers entries, n.FitsJsonMacro) →
    List.Forall₂ (fun t e => t = mapEntry e.1 e.2 ∧ e.2.keysDistinct = true ∧
      ∀ n ∈ e.2.numbers, n.FitsJsonMacro) (entries.map fun e => mapEntry e.1 e.2) entries
  | [], _, _ => .nil
  | (_, _) :: more, hkeys, hnums => by
    have hkeys := Json.entryKeysDistinct_cons.mp hkeys
    obtain ⟨hv, hmore⟩ := Json.forall_entryNumbers_cons.mp hnums
    exact .cons ⟨rfl, hkeys.1, hv⟩ (forall₂_mapEntries more hkeys.2 hmore)

/-- The pairs of a map built `from_iter`, then `]`, read back as the entries. -/
theorem mapPairs_mapEntries (entries : List (String × Json))
    (hkeys : Json.entryKeysDistinct entries = true)
    (hnums : ∀ n ∈ Json.entryNumbers entries, n.FitsJsonMacro) (fuel : Nat)
    (hfuel : (", ".intercalate (entries.map fun e => mapEntry e.1 e.2)).toList.length + 1 < fuel)
    (rest : List Char) :
    Rust.mapPairs fuel
      ((", ".intercalate (entries.map fun e => mapEntry e.1 e.2)).toList ++ ']' :: rest) =
      some (entries, rest) := by
  refine Rust.listOf_intercalate (fun _ _ => by rw [Rust.mapPairs]) ?_ ?_
    (forall₂_mapEntries entries hkeys hnums) fuel hfuel rest
  · rintro t ⟨k, v⟩ ⟨rfl, -, -⟩
    exact mapEntry_head k v
  · rintro t ⟨k, v⟩ ⟨rfl, hk, hv⟩ fuel hf rest -
    exact mapPair_mapEntry k v hk hv fuel hf rest

theorem exists_cons_of_head? {l : List Char} {c : Char} (h : l.head? = some c)
    (hb : isBlank c = false) (hc : c ≠ ']') : ∃ c cs, l = c :: cs ∧ isBlank c = false ∧ c ≠ ']' :=
  let ⟨cs, hcs⟩ := List.head?_eq_some_iff.mp h
  ⟨c, cs, hcs, hb, hc⟩

theorem mapM_cons_eq_ok {ε α β : Type} {g : α → Except ε β} {x : α} {xs : List α}
    {parts : List β} (h : (x :: xs).mapM g = .ok parts) :
    ∃ p ps, g x = .ok p ∧ xs.mapM g = .ok ps ∧ parts = p :: ps := by
  simp only [List.mapM_cons, Except.bind_eq_ok, Except.pure_eq_ok] at h
  obtain ⟨p, hp, ps, hps, rfl⟩ := h
  exact ⟨p, ps, hp, hps, rfl⟩

/-- A scalar literal, by kind: a string in `String::from`, the debug text of a number's double,
`true` or `false`, an empty map or one collected from the object's entries, and the `json!` of the
value's tokens for `any`. -/
theorem scalar_eq_ok {kind : ValueKind} {v : Json} {text : String} (h : scalar kind v = .ok text) :
    (∃ s, kind = .string ∧ v = .str s ∧ text = "String::from(" ++ Rust.quote s ++ ")") ∨
    (∃ n, kind = .number ∧ v = .num n ∧ text = Rust.floatLiteral n.toBinary64) ∨
    (∃ b, kind = .boolean ∧ v = .bool b ∧ text = if b then "true" else "false") ∨
    (kind = .object ∧ v = .obj [] ∧ text = "::serde_json::Map::new()") ∨
    (∃ e more, kind = .object ∧ v = .obj (e :: more) ∧
      text = "::serde_json::Map::from_iter([" ++
        ", ".intercalate ((e :: more).map fun e => mapEntry e.1 e.2) ++ "])") ∨
    (kind = .any ∧ text = "::serde_json::json!(" ++ tokens v ++ ")") := by
  cases kind with
  | string =>
    cases v <;> simp [scalar] at h
    exact .inl ⟨_, rfl, rfl, h.symm⟩
  | number =>
    cases v <;> simp [scalar] at h
    exact .inr (.inl ⟨_, rfl, rfl, h.symm⟩)
  | boolean =>
    cases v <;> simp [scalar] at h
    exact .inr (.inr (.inl ⟨_, rfl, rfl, h.symm⟩))
  | object =>
    cases v <;> simp [scalar] at h
    rename_i entries
    cases entries with
    | nil => exact .inr (.inr (.inr (.inl ⟨rfl, rfl, (Except.ok.inj h).symm⟩)))
    | cons e more =>
      exact .inr (.inr (.inr (.inr (.inl ⟨e, more, rfl, rfl, (Except.ok.inj h).symm⟩))))
  | node => simp [scalar] at h
  | any => exact .inr (.inr (.inr (.inr (.inr ⟨rfl, (Except.ok.inj h).symm⟩))))

theorem scalar_head {kind : ValueKind} {v : Json} {text : String} (h : scalar kind v = .ok text)
    (hnums : ∀ n ∈ v.numbers, kind.ReadsBack n) :
    ∃ c cs, text.toList = c :: cs ∧ isBlank c = false ∧ c ≠ ']' := by
  rcases scalar_eq_ok h with ⟨s, rfl, rfl, rfl⟩ | ⟨n, rfl, rfl, rfl⟩ | ⟨b, rfl, rfl, rfl⟩ |
    ⟨rfl, rfl, rfl⟩ | ⟨e, more, rfl, rfl, rfl⟩ | ⟨rfl, rfl⟩
  · exact exists_cons_of_head? (c := 'S') (by simp [String.toList_append]) rfl (by decide)
  · -- a number's text begins as the number reader reads it
    obtain ⟨lit, hlit⟩ := Rust.readNumber_of_readFloat (hnums n (Json.mem_numbers_num n))
    obtain ⟨⟨c, cs, hcs, hc⟩, -⟩ := Rust.readNumber_chars hlit
    obtain ⟨hb, hc', -⟩ := Rust.numberHead_facts hc
    exact ⟨c, cs, hcs, hb, hc'⟩
  · cases b
    · exact exists_cons_of_head? (c := 'f') (by simp) rfl (by decide)
    · exact exists_cons_of_head? (c := 't') (by simp) rfl (by decide)
  · exact exists_cons_of_head? (c := ':') (by simp) rfl (by decide)
  · exact exists_cons_of_head? (c := ':') (by simp [String.toList_append]) rfl (by decide)
  · exact exists_cons_of_head? (c := ':') (by simp [String.toList_append]) rfl (by decide)

/-- A scalar literal reads back as the value it stands for, whatever delimiter follows it. -/
theorem expr_scalar {kind : ValueKind} {v : Json} {text : String} (h : scalar kind v = .ok text)
    (hkeys : v.keysDistinct = true) (hnums : ∀ n ∈ v.numbers, kind.ReadsBack n) (fuel : Nat)
    (hfuel : text.toList.length < fuel) {rest : List Char} (hrest : Delimited rest) :
    Rust.expr fuel (text.toList ++ rest) = some (kind.literalValue v, rest) := by
  obtain ⟨fuel, rfl⟩ : ∃ f, fuel = f + 1 := ⟨fuel - 1, by omega⟩
  rcases scalar_eq_ok h with ⟨s, rfl, rfl, rfl⟩ | ⟨n, rfl, rfl, rfl⟩ | ⟨b, rfl, rfl, rfl⟩ |
    ⟨rfl, rfl, rfl⟩ | ⟨e, more, rfl, rfl, rfl⟩ | ⟨rfl, rfl⟩
  · have hclose : ")".toList = [')'] := rfl
    simp only [String.toList_append, List.append_assoc, Rust.expr_stringFrom,
      Rust.stringLiteral_quote, Option.bind_some, hclose, List.singleton_append,
      Rust.skipText_char (c := ')') rfl, Option.map_some]
    rfl
  · exact Rust.expr_float (hnums n (Json.mem_numbers_num n)) fuel hrest
  · exact Rust.expr_bool _ fuel hrest
  · exact Rust.expr_mapNew fuel rest
  · -- the pairs are read back in order, and their keys are distinct
    simp only [Json.keysDistinct, Bool.and_eq_true, decide_eq_true_eq] at hkeys
    have hclose : "])".toList = [']', ')'] := rfl
    simp only [String.toList_append, hclose, List.length_append, List.length_cons] at hfuel ⊢
    have hpairs := mapPairs_mapEntries (e :: more) hkeys.2 hnums fuel (by omega) (')' :: rest)
    rw [List.append_assoc, List.append_assoc, List.cons_append, List.cons_append, List.nil_append,
      Rust.expr_mapFromIter, hpairs, Option.bind_some, Rust.skipText_char (c := ')') rfl,
      Option.map_some, insertAll_of_nodup hkeys.1]
    rfl
  · have hclose : ")".toList = [')'] := rfl
    simp only [String.toList_append, hclose, List.length_append, List.length_cons] at hfuel ⊢
    have hvalue := jsonValue_tokens v hkeys hnums fuel (by omega) (')' :: rest)
      (Rust.delimited_punct ')' (by simp) rest)
    rw [List.append_assoc, List.append_assoc, List.cons_append, List.nil_append,
      Rust.expr_jsonMacro, hvalue, Option.bind_some, Rust.skipText_char (c := ')') rfl,
      Option.map_some]
    rfl

theorem forall₂_scalars (kind : ValueKind) : ∀ (items : List Json) (parts : List String),
    items.mapM (scalar kind) = .ok parts → Json.itemKeysDistinct items = true →
    (∀ n ∈ Json.itemNumbers items, kind.ReadsBack n) →
    List.Forall₂ (fun t x => ∃ v, x = kind.literalValue v ∧ scalar kind v = .ok t ∧
      v.keysDistinct = true ∧ ∀ n ∈ v.numbers, kind.ReadsBack n) parts
      (items.map kind.literalValue)
  | [], parts, h, _, _ => by
    simp only [List.mapM_nil, pure, Except.pure, Except.ok.injEq] at h
    subst h
    exact .nil
  | v :: more, _, h, hkeys, hnums => by
    obtain ⟨p, ps, hp, hps, rfl⟩ := mapM_cons_eq_ok h
    have hkeys := Json.itemKeysDistinct_cons.mp hkeys
    obtain ⟨hv, hmore⟩ := Json.forall_itemNumbers_cons.mp hnums
    exact .cons ⟨v, rfl, hp, hkeys.1, hv⟩ (forall₂_scalars kind more ps hps hkeys.2 hmore)

/-- The items of `vec![…]`, then `]`, read back as the values of the items they were rendered
from. -/
theorem exprItems_scalars (kind : ValueKind) (items : List Json) (parts : List String)
    (h : items.mapM (scalar kind) = .ok parts) (hkeys : Json.itemKeysDistinct items = true)
    (hnums : ∀ n ∈ Json.itemNumbers items, kind.ReadsBack n) (fuel : Nat)
    (hfuel : (", ".intercalate parts).toList.length + 1 < fuel) (rest : List Char) :
    Rust.exprItems fuel ((", ".intercalate parts).toList ++ ']' :: rest) =
      some (items.map kind.literalValue, rest) := by
  refine Rust.listOf_intercalate (fun _ _ => by rw [Rust.exprItems]) ?_ ?_
    (forall₂_scalars kind items parts h hkeys hnums) fuel hfuel rest
  · rintro t x ⟨v, rfl, hp, -, hv⟩
    exact scalar_head hp hv
  · rintro t x ⟨v, rfl, hp, hk, hv⟩ fuel hf rest hrest
    exact expr_scalar hp hk hv fuel hf hrest

/-- A literal reads back as the value it stands for, whatever delimiter follows it. -/
theorem expr_render {f : Field} {v : Json} {text : String} (h : render f v = .ok text)
    (hkeys : v.keysDistinct = true) (hnums : ∀ n ∈ v.numbers, f.kind.ReadsBack n) (fuel : Nat)
    (hfuel : text.toList.length < fuel) {rest : List Char} (hrest : Delimited rest) :
    Rust.expr fuel (text.toList ++ rest) = some (f.literalValue v, rest) := by
  unfold render at h
  unfold Field.literalValue
  cases harray : f.array with
  | false =>
    simp only [harray, Bool.not_false, ↓reduceIte] at h
    exact expr_scalar h hkeys hnums fuel hfuel hrest
  | true =>
    simp only [harray, Bool.not_true, Bool.false_eq_true, ↓reduceIte] at h
    obtain ⟨fuel, rfl⟩ : ∃ f, fuel = f + 1 := ⟨fuel - 1, by omega⟩
    cases v with
    | arr items =>
      cases items with
      | nil =>
        simp only [Except.ok.injEq] at h
        subst h
        exact Rust.expr_vecNew fuel rest
      | cons item more =>
        simp only [Except.bind_eq_ok, Except.pure_eq_ok] at h
        obtain ⟨parts, hparts, rfl⟩ := h
        have hclose : "]".toList = [']'] := rfl
        have hopen : "vec![".toList.length = 5 := rfl
        simp only [String.toList_append, hclose, List.length_append, List.length_cons,
          List.length_nil, hopen] at hfuel ⊢
        rw [List.append_assoc, List.append_assoc, List.cons_append, List.nil_append,
          Rust.expr_vecMacro,
          exprItems_scalars f.kind _ parts hparts hkeys hnums fuel (by omega) rest]
        rfl
    | _ => simp at h

/-- The text of a literal, alone, evaluates to the value the literal stands for. -/
theorem evaluate_render {f : Field} {v : Json} {text : String} (h : render f v = .ok text)
    (hkeys : v.keysDistinct = true) (hnums : ∀ n ∈ v.numbers, f.kind.ReadsBack n) :
    Rust.evaluate text = some (f.literalValue v) := by
  have hread := expr_render h hkeys hnums (text.toList.length + 1) (by omega) Rust.delimited_nil
  rw [List.append_nil] at hread
  simp [Rust.evaluate, hread]

end Literal

/-! ### The meaning of a literal -/

/-- A value has a literal of a field exactly when it conforms to the field; otherwise rendering
fails with the refusal of the first item that does not conform. The text of a literal whose
numbers read back from their tokens evaluates to the value the literal stands for. -/
theorem render_refuses_or_evaluates (f : Field) (v : Json) :
    (∀ err, Literal.render f v = .error err ↔ f.refusal v = some err) ∧
    ((∃ text, Literal.render f v = .ok text) ↔ f.accepts v = true) ∧
    ∀ text, Literal.render f v = .ok text → v.keysDistinct = true →
      (∀ n ∈ v.numbers, f.kind.ReadsBack n) → Rust.evaluate text = some (f.literalValue v) := by
  refine ⟨fun err => ?_, ?_, fun text h hkeys hnums => Literal.evaluate_render h hkeys hnums⟩
  · rw [← errorOf_eq_some, errorOf_render]
  · rw [← errorOf_eq_none, errorOf_render, Field.refusal_eq_none]

/-- An array of an `any` field, with an escaped string in it, evaluates back to itself. -/
theorem any_array_literal_evaluates :
    Rust.evaluate "::serde_json::json!([1, -2, \"x\\n\", true, null])" =
      some (.json (.arr [.num (.nat 1), .num (.negInt (-2)), .str "x\n", .bool true, .null])) :=
  (render_refuses_or_evaluates { name := "tags" }
    (.arr [.num (.nat 1), .num (.negInt (-2)), .str "x\n", .bool true, .null])).2.2 _ rfl rfl
    (by decide)

/-- An integer beyond `i32` inside `json!` has no value: the literal of an `any` field holding
`3000000000` is written, yet does not evaluate. -/
theorem any_literal_beyond_i32_unreadable :
    Literal.render { name := "f" } (.num (.nat 3000000000)) =
        .ok "::serde_json::json!(3000000000)" ∧
      Rust.evaluate "::serde_json::json!(3000000000)" = none :=
  ⟨rfl, rfl⟩

end NodeKit
