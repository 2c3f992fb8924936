import NodeKit.Rust.Items
import NodeKit.Proofs.LineText
import NodeKit.Proofs.CallLines
import NodeKit.Proofs.Groups
import Mathlib.Data.List.Perm.Basic

/-!
The declarations of a generated module, read off its text. `Reads b cs items b'` says that the
text `cs`, whole lines read from the block `b` on, declares `items` and leaves the reader in the
block `b'`; texts that read so follow one another by `Reads.append`. Each part the generator writes
(the prelude, `Node`, a payload, a builder, a guard, an assertion) is read line by line, with the
names it writes checked to hold no newline, and `Module.reads_render` puts the parts together.

So the module of a valid schema declares exactly `Module.declaredItems`: its functions are
`Module.functionNames`, in order, and the names it declares are the prelude's and
`Module.declaredIdents`, each as many times (`Schema.functions_of_generate`,
`Schema.names_of_generate`). What is proved of those two lists is proved of the text.
-/

namespace NodeKit.Rust

/-! ### Lines -/

theorem pushChar_ne_nil (c : Char) (L : List (List Char)) : pushChar c L ≠ [] := by
  cases L <;> simp [pushChar]

theorem pushChar_append {L : List (List Char)} (hL : L ≠ []) (c : Char) (M : List (List Char)) :
    pushChar c (L ++ M) = pushChar c L ++ M := by
  cases L with
  | nil => contradiction
  | cons l L => rfl

theorem lines_ne_nil {cs : List Char} (h : cs ≠ []) : lines cs ≠ [] := by
  cases cs with
  | nil => contradiction
  | cons c cs =>
    rw [lines]
    split
    · exact List.cons_ne_nil _ _
    · exact pushChar_ne_nil _ _

/-- A line without a newline, then its newline, is one line. -/
theorem lines_line {l : List Char} (hl : '\n' ∉ l) (rest : List Char) :
    lines (l ++ '\n' :: rest) = l :: lines rest := by
  induction l with
  | nil => simp [lines]
  | cons c l ih =>
    have hc : c ≠ '\n' := fun h => hl (h ▸ List.mem_cons_self)
    rw [List.cons_append, lines, if_neg hc, ih (fun h => hl (List.mem_cons_of_mem c h))]
    rfl

/-- Text that ends at the end of a line splits into lines apart from what follows it. -/
theorem lines_append {xs : List Char} (hxs : xs = [] ∨ xs.getLast? = some '\n')
    (ys : List Char) : lines (xs ++ ys) = lines xs ++ lines ys := by
  induction xs with
  | nil => rfl
  | cons c xs ih =>
    by_cases hnil : xs = []
    · subst hnil
      have hc : c = '\n' := by simpa using hxs
      subst hc
      rfl
    · have hlast : xs.getLast? = some '\n' := by
        rcases hxs with h | h
        · exact absurd h (List.cons_ne_nil _ _)
        · obtain ⟨y, ys, rfl⟩ := List.exists_cons_of_ne_nil hnil
          rwa [List.getLast?_cons_cons] at h
      rw [List.cons_append, lines, lines, ih (.inr hlast)]
      split
      · rfl
      · exact pushChar_append (lines_ne_nil hnil) c _

theorem readLines_append (b : Block) (L M : List (List Char)) :
    readLines b (L ++ M) =
      ((readLines b L).1 ++ (readLines (readLines b L).2 M).1,
        (readLines (readLines b L).2 M).2) := by
  induction L generalizing b with
  | nil => rfl
  | cons l L ih =>
    rw [List.cons_append, readLines, readLines, ih]
    simp

/-! ### Reading whole lines -/

/-- The text `cs` is whole lines which, read from the block `b` on, declare `items` and leave the
block `b'`. -/
def Reads (b : Block) (cs : List Char) (items : List Item) (b' : Block) : Prop :=
  (cs = [] ∨ cs.getLast? = some '\n') ∧ readLines b (lines cs) = (items, b')

instance (b : Block) (cs : List Char) (items : List Item) (b' : Block) :
    Decidable (Reads b cs items b') :=
  inferInstanceAs (Decidable (_ ∧ _))

theorem Reads.nil (b : Block) : Reads b [] [] b := ⟨.inl rfl, rfl⟩

theorem Reads.line {b : Block} {l : List Char} (hl : '\n' ∉ l) :
    Reads b (l ++ ['\n']) (readLine b l).1 (readLine b l).2 := by
  refine ⟨.inr (by simp), ?_⟩
  rw [lines_line hl []]
  simp [readLines, lines]

theorem Reads.append {b m b' : Block} {xs ys : List Char} {i j : List Item}
    (h₁ : Reads b xs i m) (h₂ : Reads m ys j b') : Reads b (xs ++ ys) (i ++ j) b' := by
  refine ⟨?_, ?_⟩
  · rcases h₂.1 with rfl | h
    · simpa using h₁.1
    · exact .inr (by rw [List.getLast?_append, h]; rfl)
  · rw [lines_append h₁.1, readLines_append, h₁.2, h₂.2]

/-- What follows a text and declares nothing adds nothing to it. -/
theorem Reads.append_quiet {b m b' : Block} {xs ys : List Char} {i : List Item}
    (h₁ : Reads b xs i m) (h₂ : Reads m ys [] b') : Reads b (xs ++ ys) i b' := by
  simpa using h₁.append h₂

/-- A top-level text that declares nothing adds nothing before what follows it. -/
theorem Reads.quiet_append {b' : Block} {xs ys : List Char} {j : List Item}
    (h₁ : Reads .top xs [] .top) (h₂ : Reads .top ys j b') : Reads .top (xs ++ ys) j b' :=
  h₁.append h₂

/-- Texts each read from the block `b` back to it read so one after the other. -/
theorem Reads.join {α : Type} {b : Block} {f : α → String} {g : α → List Item} :
    ∀ {xs : List α}, (∀ x ∈ xs, Reads b (f x).toList (g x) b) →
      Reads b (String.join (xs.map f)).toList (xs.flatMap g) b
  | [], _ => Reads.nil b
  | x :: xs, h => by
    rw [List.map_cons, String.join_cons, String.toList_append, List.flatMap_cons]
    exact (h x List.mem_cons_self).append (Reads.join fun y hy => h y (List.mem_cons_of_mem x hy))

/-- Texts that each declare nothing declare nothing one after the other. -/
theorem Reads.join_quiet {α : Type} {b : Block} {f : α → String} {xs : List α}
    (h : ∀ x ∈ xs, Reads b (f x).toList [] b) : Reads b (String.join (xs.map f)).toList [] b := by
  have hjoin := Reads.join (g := fun _ => []) h
  rwa [List.flatMap_eq_nil_iff.mpr fun _ _ => rfl] at hjoin

/-- The texts a `mapM` returns, each read from the block `b` back to it, read so one after the
other. -/
theorem Reads.join_mapM {α ε : Type} {b : Block} {f : α → Except ε String}
    {g : α → List Item} : ∀ {xs : List α} {ts : List String}, xs.mapM f = .ok ts →
      (∀ x ∈ xs, ∀ t, f x = .ok t → Reads b t.toList (g x) b) →
      Reads b (String.join ts).toList (xs.flatMap g) b
  | [], ts, h, _ => by
    simp only [List.mapM_nil, pure, Except.pure, Except.ok.injEq] at h
    subst h
    exact Reads.nil b
  | x :: xs, _, h, hg => by
    obtain ⟨t, ts, ht, hts, rfl⟩ := Literal.mapM_cons_eq_ok h
    rw [String.join_cons, String.toList_append, List.flatMap_cons]
    exact (hg x List.mem_cons_self t ht).append
      (Reads.join_mapM hts fun y hy => hg y (List.mem_cons_of_mem x hy))

/-- The texts a `mapM` returns, each declaring nothing, declare nothing one after the other. -/
theorem Reads.join_mapM_quiet {α ε : Type} {b : Block} {f : α → Except ε String} {xs : List α}
    {ts : List String} (hts : xs.mapM f = .ok ts)
    (h : ∀ x ∈ xs, ∀ t, f x = .ok t → Reads b t.toList [] b) : Reads b (String.join ts).toList [] b := by
  have hjoin := Reads.join_mapM (g := fun _ => []) hts h
  rwa [List.flatMap_eq_nil_iff.mpr fun _ _ => rfl] at hjoin

theorem Reads.ite {b b' : Block} {c : Prop} [Decidable c] {t e : String} {i : List Item}
    (ht : c → Reads b t.toList i b') (he : ¬c → Reads b e.toList i b') :
    Reads b (if c then t else e).toList i b' := by
  split
  · next hc => exact ht hc
  · next hc => exact he hc

theorem Reads.of_items {b b' : Block} {cs : List Char} {i i' : List Item} (h : Reads b cs i b')
    (hi : i = i') : Reads b cs i' b' :=
  hi ▸ h

/-- Texts that each declare one item declare those items one after the other. -/
theorem Reads.join_map {α : Type} {b : Block} {f : α → String} {g : α → Item} {xs : List α}
    (h : ∀ x ∈ xs, Reads b (f x).toList [g x] b) :
    Reads b (String.join (xs.map f)).toList (xs.map g) b :=
  (Reads.join (g := fun x => [g x]) h).of_items List.map_eq_flatMap.symm

/-- A list of texts is read as its first `k` texts, then the others. -/
theorem Reads.join_take {b m b' : Block} {L : List String} (k : Nat) {i j : List Item}
    (h₁ : Reads b (String.join (L.take k)).toList i m)
    (h₂ : Reads m (String.join (L.drop k)).toList j b') :
    Reads b (String.join L).toList (i ++ j) b' := by
  have h := h₁.append h₂
  rwa [← String.toList_append, ← String.join_append, List.take_append_drop] at h

theorem Module.items_of_reads {text : String} {items : List Item} {b : Block}
    (h : Reads .top text.toList items b) : Module.items text = items := by
  rw [Module.items, h.2]

/-! ### One line -/

theorem newline_not_mem_of_ofList {s : String} {l : List Char} (h : s = String.ofList l)
    (hl : '\n' ∉ l) : '\n' ∉ s.toList := by
  rwa [toList_of_eq_ofList h]

theorem IsLegalIdent.newline_not_mem {x : String} (h : IsLegalIdent x) : '\n' ∉ x.toList :=
  fun hx => absurd (h.isIdentChar '\n' hx) (by decide)

/-- An identifier followed by a character no identifier has is read whole. -/
theorem identAt_append {x : String} (hx : IsLegalIdent x) {c : Char}
    (hc : isIdentChar c = false) (rest : List Char) :
    identAt (x.toList ++ c :: rest) = x ∧ (identToken (x.toList ++ c :: rest)).2 = c :: rest := by
  rw [identAt, identToken_append hx.isIdentChar (by simpa using hc), String.ofList_toList]
  exact ⟨rfl, rfl⟩

theorem readTop_other {c : Char} (hc : c ≠ 'p') (l : List Char) : readTop (c :: l) = ([], .top) := by
  unfold readTop
  rw [afterText_cons_ne (toList_of_eq_ofList rfl) (Ne.symm hc),
    afterText_cons_ne (toList_of_eq_ofList rfl) (Ne.symm hc),
    afterText_cons_ne (toList_of_eq_ofList rfl) (Ne.symm hc)]

theorem readTop_fn {name : String} (hname : IsLegalIdent name) (rest : List Char) :
    readTop ("pub fn ".toList ++ (name.toList ++ '(' :: rest)) =
      ([.function name], if rest = [] then .params else .top) := by
  obtain ⟨hident, htoken⟩ := identAt_append hname (c := '(') (by decide) rest
  rw [readTop, afterText_append]
  simp [hident, htoken]

theorem readTop_struct {name : String} (hname : IsLegalIdent name) {c : Char}
    (hc : isIdentChar c = false) (rest : List Char) :
    readTop ("pub struct ".toList ++ (name.toList ++ c :: rest)) =
      ([.struct name], if c :: rest = [' ', '\x7b'] then .struct else .top) := by
  obtain ⟨hident, htoken⟩ := identAt_append hname hc rest
  have hfn : afterText "pub fn " ("pub struct ".toList ++ (name.toList ++ c :: rest)) = none := rfl
  rw [readTop, hfn]
  dsimp only
  rw [afterText_append]
  simp only [hident, htoken]

theorem line_toList (d : Nat) (t : String) :
    (Module.line d t).toList = (List.replicate d "    ").flatMap String.toList ++ t.toList ++ ['\n'] := by
  simp [Module.line, String.toList_append, String.toList_join]

/-- A line the generator writes is read as `readLine` reads it, when its text holds no newline. -/
theorem reads_moduleLine (b : Block) (d : Nat) {t : String} (ht : '\n' ∉ t.toList) :
    Reads b (Module.line d t).toList
      (readLine b ((List.replicate d "    ").flatMap String.toList ++ t.toList)).1
      (readLine b ((List.replicate d "    ").flatMap String.toList ++ t.toList)).2 := by
  rw [line_toList]
  refine Reads.line ?_
  simp only [List.mem_append, List.mem_flatMap, List.mem_replicate, not_or, not_exists, not_and]
  exact ⟨by rintro _ ⟨-, rfl⟩; decide, ht⟩

theorem readMember_enum (l : List Char) :
    readMember .enum (' ' :: ' ' :: ' ' :: ' ' :: l) = [.variant (identAt l)] := rfl

theorem readMember_params (l : List Char) :
    readMember .params (' ' :: ' ' :: ' ' :: ' ' :: l) = [.param (identAt l)] := rfl

theorem readMember_field (l : List Char) :
    readMember .struct (' ' :: ' ' :: ' ' :: ' ' :: 'p' :: 'u' :: 'b' :: ' ' :: l) =
      [.field (identAt l)] := rfl

theorem readMember_attribute (l : List Char) :
    readMember .struct (' ' :: ' ' :: ' ' :: ' ' :: '#' :: l) = [] := rfl

/-! ### Kinds of line -/

theorem reads_topLine {t : String} (ht : '\n' ∉ t.toList) :
    Reads .top (Module.line 0 t).toList (readTop t.toList).1 (readTop t.toList).2 := by
  simpa [readLine] using reads_moduleLine .top 0 ht

/-- A top-level line that does not begin with `p`, such as a comment or an attribute, declares
nothing. -/
theorem reads_quietLine {p q : String} {c : Char} {ps : List Char} (hp : p.toList = c :: ps)
    (hc : c ≠ 'p') (hnl : '\n' ∉ (p ++ q).toList) :
    Reads .top (Module.line 0 (p ++ q)).toList [] .top := by
  have h := reads_topLine hnl
  rwa [String.toList_append, hp, List.cons_append, readTop_other hc] at h

/-- An indented line at the top level, inside a function's body, declares nothing. -/
theorem reads_indented (d : Nat) {t : String} (ht : '\n' ∉ t.toList) :
    Reads .top (Module.line (d + 1) t).toList [] .top := by
  simpa [readLine, List.replicate_succ, readTop_other] using reads_moduleLine .top (d + 1) ht

/-- An indented line inside a block declares what `readMember` reads after the indentation. -/
theorem reads_member {b : Block} (hb : b ≠ .top) {t : String} (ht : '\n' ∉ t.toList) :
    Reads b (Module.line 1 t).toList (readMember b (' ' :: ' ' :: ' ' :: ' ' :: t.toList)) b := by
  simpa [readLine, hb] using reads_moduleLine b 1 ht

/-- The first line of a function whose parameters follow on the same line. -/
theorem reads_fnLine {name r : String} {rest : List Char} (hname : IsLegalIdent name)
    (hr : r.toList = '(' :: rest) (hrest : rest ≠ []) (hnl : '\n' ∉ rest) :
    Reads .top (Module.line 0 ("pub fn " ++ (name ++ r))).toList [.function name] .top := by
  have ht : '\n' ∉ ("pub fn " ++ (name ++ r)).toList := by
    simp [String.toList_append, hr, hname.newline_not_mem, hnl]
  have h := reads_topLine ht
  rwa [String.toList_append, String.toList_append, hr, readTop_fn hname, if_neg hrest] at h

/-- The first line of a function whose parameters follow one a line. -/
theorem reads_fnOpen {name : String} (hname : IsLegalIdent name) :
    Reads .top (Module.line 0 ("pub fn " ++ (name ++ "("))).toList [.function name] .params := by
  have ht : '\n' ∉ ("pub fn " ++ (name ++ "(")).toList := by
    simp [String.toList_append, hname.newline_not_mem]
  have h := reads_topLine ht
  rwa [String.toList_append, String.toList_append, toList_of_eq_ofList (s := "(") rfl,
    readTop_fn hname, if_pos rfl] at h

/-- The first line of a struct with a body. -/
theorem reads_structOpen {name : String} (hname : IsLegalIdent name) :
    Reads .top (Module.line 0 ("pub struct " ++ (name ++ " \x7b"))).toList [.struct name] .struct := by
  have ht : '\n' ∉ ("pub struct " ++ (name ++ " \x7b")).toList := by
    simp [String.toList_append, hname.newline_not_mem]
  have h := reads_topLine ht
  rwa [String.toList_append, String.toList_append, toList_of_eq_ofList (s := " \x7b") rfl,
    readTop_struct hname (by decide), if_pos rfl] at h

/-- A struct without fields, on one line. -/
theorem reads_structEmpty {name : String} (hname : IsLegalIdent name) :
    Reads .top (Module.line 0 ("pub struct " ++ (name ++ " \x7b\x7d"))).toList [.struct name] .top := by
  have ht : '\n' ∉ ("pub struct " ++ (name ++ " \x7b\x7d")).toList := by
    simp [String.toList_append, hname.newline_not_mem]
  have h := reads_topLine ht
  rwa [String.toList_append, String.toList_append, toList_of_eq_ofList (s := " \x7b\x7d") rfl,
    readTop_struct hname (by decide), if_neg (by decide)] at h

theorem reads_variantLine {x q : String} (hx : IsLegalIdent x) (hq : '\n' ∉ q.toList) :
    Reads .enum (Module.line 1 (x ++ ("(" ++ q))).toList [.variant x] .enum := by
  have ht : '\n' ∉ (x ++ ("(" ++ q)).toList := by
    simp [String.toList_append, hx.newline_not_mem, hq]
  have h := reads_member (b := .enum) (by decide) ht
  rwa [readMember_enum, String.toList_append, String.toList_append,
    toList_of_eq_ofList (s := "(") rfl, List.singleton_append,
    (identAt_append hx (by decide) q.toList).1] at h

theorem reads_paramLine {x q : String} (hx : IsLegalIdent x) (hq : '\n' ∉ q.toList) :
    Reads .params (Module.line 1 (x ++ (": " ++ q))).toList [.param x] .params := by
  have ht : '\n' ∉ (x ++ (": " ++ q)).toList := by
    simp [String.toList_append, hx.newline_not_mem, hq]
  have h := reads_member (b := .params) (by decide) ht
  rwa [readMember_params, String.toList_append, String.toList_append,
    toList_of_eq_ofList (s := ": ") rfl, List.cons_append,
    (identAt_append hx (by decide) _).1] at h

theorem reads_fieldLine {x q : String} (hx : IsLegalIdent x) (hq : '\n' ∉ q.toList) :
    Reads .struct (Module.line 1 ("pub " ++ (x ++ (": " ++ q)))).toList [.field x] .struct := by
  have ht : '\n' ∉ ("pub " ++ (x ++ (": " ++ q))).toList := by
    simp [String.toList_append, hx.newline_not_mem, hq]
  have h := reads_member (b := .struct) (by decide) ht
  rwa [String.toList_append, toList_of_eq_ofList (s := "pub ") rfl, List.cons_append,
    List.cons_append, List.cons_append, List.cons_append, List.nil_append, readMember_field,
    String.toList_append, String.toList_append, toList_of_eq_ofList (s := ": ") rfl,
    List.cons_append, (identAt_append hx (by decide) _).1] at h

theorem reads_attributeLine {q : String} (hq : '\n' ∉ q.toList) :
    Reads .struct (Module.line 1 ("#[serde(" ++ q)).toList [] .struct := by
  have ht : '\n' ∉ ("#[serde(" ++ q).toList := by
    simp [String.toList_append, hq]
  have h := reads_member (b := .struct) (by decide) ht
  rwa [String.toList_append, toList_of_eq_ofList (s := "#[serde(") rfl, List.cons_append,
    readMember_attribute] at h

/-- A fixed top-level line that does not begin with `p` declares nothing. -/
theorem reads_quiet {t : String} {c : Char} {ps : List Char} (ht : t.toList = c :: ps)
    (hc : c ≠ 'p') (hnl : '\n' ∉ c :: ps) : Reads .top (Module.line 0 t).toList [] .top := by
  have h := reads_topLine (t := t) (by rwa [ht])
  rwa [ht, readTop_other hc] at h

/-- A line beginning with `}` closes the block it stands in. -/
theorem reads_close {b : Block} (hb : b ≠ .top) :
    Reads b (Module.line 0 "\x7d").toList [] .top := by
  cases b <;> first | exact absurd rfl hb | decide

theorem reads_blank : Reads .top Module.blank.toList [] .top := by
  decide

/-- A line of fixed text reads as `decide` finds it does, once its characters are spelled out. -/
theorem reads_fixedLine {b b' : Block} {d : Nat} {t : String} {l : List Char} {items : List Item}
    (ht : t.toList = l)
    (h : Reads b ((List.replicate d "    ").flatMap String.toList ++ l ++ ['\n']) items b') :
    Reads b (Module.line d t).toList items b' := by
  rwa [line_toList, ht]

theorem newline_not_mem_of_isIdentifier {x : String} (h : isIdentifier x = true) :
    '\n' ∉ x.toList :=
  fun hx => absurd (isIdentChar_of_isIdentifier h '\n' hx) (by decide)

/-! ### The parts of a module -/

/-- The prelude declares the struct `TypeMismatch` and its two fields. -/
theorem reads_prelude :
    Reads .top Module.prelude.toList
      [.struct "TypeMismatch", .field "expected", .field "actual"] .top := by
  simp only [Module.prelude, Module.line, Module.blank, String.toList_join, List.replicate,
    String.toList_append, List.flatMap_cons, List.flatMap_nil]
  repeat rw [toList_of_eq_ofList rfl]
  decide +kernel

/-- The `Node` enum declares itself and one variant for each type. -/
theorem reads_nodeEnum {s : Schema} (hnames : ∀ d ∈ s.definitions, IsLegalIdent d.name)
    (hdisplay : ∀ d ∈ s.definitions, '\n' ∉ d.displayName.toList) :
    Reads .top (Module.nodeEnum s).toList
      (.enum "Node" :: s.definitions.map fun d => .variant d.name) .top := by
  unfold Module.nodeEnum
  -- three lines open the enum, the variants follow, six lines close it and open `type_name`,
  -- then its match arms and the lines that close it
  refine Reads.of_items
    (Reads.join_take 3 (i := [.enum "Node"]) (m := .enum) ?_ <|
      Reads.join_take 1 (i := s.definitions.map fun d => .variant d.name) (m := .enum) ?_ <|
      Reads.join_take 6 (i := []) (m := .top) ?_ <|
      Reads.join_take 1 (i := []) (j := []) (m := .top) ?_ ?_) ?_
  · simp only [List.take, Module.line, String.toList_join, List.replicate, String.toList_append,
      List.flatMap_cons, List.flatMap_nil]
    repeat rw [toList_of_eq_ofList rfl]
    decide +kernel
  · simp only [List.take, List.drop, String.join_cons, String.join_nil, String.append_empty]
    refine Reads.join_map fun d hd => ?_
    rw [String.append_assoc, String.append_assoc]
    exact reads_variantLine (hnames d hd) (by simp [String.toList_append, hdisplay d hd])
  · simp only [List.take, List.drop, Module.line, Module.blank, String.toList_join, List.replicate,
      String.toList_append, List.flatMap_cons, List.flatMap_nil]
    repeat rw [toList_of_eq_ofList rfl]
    decide +kernel
  · simp only [List.take, List.drop, String.join_cons, String.join_nil, String.append_empty]
    exact Reads.join_quiet fun d hd => reads_indented 2
      (by simp [String.toList_append, (hnames d hd).newline_not_mem, newline_not_mem_quote])
  · simp only [List.drop, Module.line, Module.blank, String.toList_join, List.replicate,
      String.toList_append, List.flatMap_cons, List.flatMap_nil]
    repeat rw [toList_of_eq_ofList rfl]
    decide +kernel
  · simp

variable {n : Naming.Scheme}

/-- A field of a payload struct: its serde attribute declares nothing, and its declaration
declares the field. -/
theorem reads_fieldLines {f : Field} (hf : IsLegalIdent (n.field f.name)) :
    Reads .struct (Module.fieldLines n f).toList [.field (n.field f.name)] .struct := by
  unfold Module.fieldLines
  simp only [String.toList_append, String.append_assoc]
  refine Reads.append (i := []) (m := .struct) (Reads.ite (fun _ => Reads.nil _) fun _ => ?_) ?_
  · refine reads_attributeLine ?_
    rw [String.toList_append]
    simp only [List.mem_append, not_or]
    refine ⟨newline_not_mem_intercalate (by decide) fun a ha => ?_, by decide⟩
    -- the arguments are a rename, a skip, or both
    simp only [List.mem_append, List.mem_ite_nil_right, List.mem_singleton] at ha
    rcases ha with ⟨-, rfl⟩ | ⟨-, rfl⟩
    · simp [String.toList_append, newline_not_mem_quote]
    · exact newline_not_mem_of_ofList rfl (by decide)
  · exact reads_fieldLine hf (by simp [String.toList_append, Module.newline_not_mem_fieldType])

/-- The payload struct of a type declares the struct and its fields. -/
theorem reads_payload {d : TypeDef} (hname : '\n' ∉ d.name.toList)
    (hdisplay : IsLegalIdent d.displayName) (hfields : ∀ f ∈ d.fields, IsLegalIdent (n.field f.name)) :
    Reads .top (Module.payload n d).toList
      (.struct d.displayName :: d.fields.map fun f => .field (n.field f.name)) .top := by
  have hmembers : Reads .struct (String.join (d.fields.map (Module.fieldLines n))).toList
      (d.fields.map fun f => .field (n.field f.name)) .struct :=
    Reads.join_map (f := Module.fieldLines n) fun f hf => reads_fieldLines (hfields f hf)
  unfold Module.payload
  dsimp only
  -- a comment and an attribute, then the struct without fields on one line, or with its fields
  refine Reads.ite (fun hempty => ?_) (fun _ => ?_)
  · rw [List.isEmpty_iff.mp hempty]
    simp only [String.toList_append, String.append_assoc, List.map_nil]
    refine Reads.quiet_append ?_ <| Reads.quiet_append ?_ <|
      Reads.append (reads_structEmpty hdisplay) reads_blank
    · exact reads_quietLine (toList_of_eq_ofList rfl) (by decide)
        (by simp [String.toList_append, hname])
    · exact reads_quiet (toList_of_eq_ofList rfl) (by decide) (by decide)
  · simp only [String.toList_append, String.append_assoc]
    refine Reads.quiet_append ?_ <| Reads.quiet_append ?_ <|
      Reads.append (reads_structOpen hdisplay) <| Reads.append_quiet hmembers <|
      Reads.append (reads_close (by decide)) reads_blank
    · exact reads_quietLine (toList_of_eq_ofList rfl) (by decide)
        (by simp [String.toList_append, hname])
    · exact reads_quiet (toList_of_eq_ofList rfl) (by decide) (by decide)

/-! ### Builders -/

theorem Module.render_of_literal {t : String} {f : Field} {v : Json} {lit : String}
    (h : Module.literal t f v = .ok lit) : Literal.render f v = .ok lit := by
  unfold Module.literal at h
  split at h
  · next text hr => cases h; exact hr
  · cases h

theorem newline_not_mem_passThrough {ident : String} (h : '\n' ∉ ident.toList) (f : Field) :
    '\n' ∉ (Module.passThrough ident f).toList := by
  unfold Module.passThrough
  split_ifs <;> simp [String.toList_append, h]

theorem newline_not_mem_initExpr {t : String} {init : FieldInit} {e : String}
    (hident : '\n' ∉ (n.field init.field.name).toList) (h : Module.initExpr n t init = .ok e) :
    '\n' ∉ e.toList := by
  cases init with
  | constant f v => exact Literal.newline_not_mem_render (Module.render_of_literal h)
  | required f =>
    simp only [Module.initExpr, Except.ok.injEq] at h
    subst h
    exact newline_not_mem_passThrough hident f
  | optional f elision =>
    simp only [Module.initExpr, Except.ok.injEq] at h
    subst h
    cases elision <;> simp [String.toList_append, hident, newline_not_mem_passThrough hident]

/-- A default line is empty or an indented `let`, which declares nothing. -/
theorem reads_defaultLine {t : String} {p : Param} {line : String}
    (hident : '\n' ∉ (n.field p.field.name).toList) (h : Module.defaultLine n t p = .ok line) :
    Reads .top line.toList [] .top := by
  unfold Module.defaultLine at h
  split at h
  · cases h
    exact Reads.nil _
  · simp only [Except.bind_eq_ok] at h
    obtain ⟨lit, hlit, hline⟩ := h
    have hl := Literal.newline_not_mem_render (Module.render_of_literal hlit)
    split at hline <;>
    · rw [Except.pure_eq_ok] at hline
      subst hline
      exact reads_indented 0 (by simp [String.toList_append, hident, hl])

/-- A line of the struct expression is indented, and declares nothing. -/
theorem reads_initLine {t : String} {init : FieldInit} {line : String}
    (hident : '\n' ∉ (n.field init.field.name).toList) (h : Module.initLine n t init = .ok line) :
    Reads .top line.toList [] .top := by
  unfold Module.initLine at h
  simp only [Except.bind_eq_ok, Except.pure_eq_ok] at h
  obtain ⟨e, he, rfl⟩ := h
  have he := newline_not_mem_initExpr hident he
  split <;> exact reads_indented 1 (by simp [String.toList_append, hident, he])

/-- A builder declares its function and, one a line, its parameters; its body declares
nothing. -/
theorem reads_builder (plan : Plan) {text : String} (h : Module.builder n plan = .ok text)
    (hname : IsLegalIdent (n.builder plan.typeName)) (htype : '\n' ∉ plan.typeName.toList)
    (hdisplay : '\n' ∉ plan.displayName.toList)
    (hvariant : '\n' ∉ plan.construction.discriminant.toList)
    (hparams : ∀ p ∈ plan.params, IsLegalIdent (n.field p.field.name))
    (hinits : ∀ i ∈ plan.construction.inits, '\n' ∉ (n.field i.field.name).toList) :
    Reads .top text.toList
      (.function (n.builder plan.typeName) :: plan.params.map fun p => .param (n.field p.field.name))
      .top := by
  unfold Module.builder at h
  simp only [Except.bind_eq_ok, Except.pure_eq_ok] at h
  obtain ⟨defaults, hdefaults, inits, hinitLines, rfl⟩ := h
  have hdefs : Reads .top (String.join defaults).toList [] .top :=
    Reads.join_mapM_quiet hdefaults fun p hp _ hline =>
      reads_defaultLine (hparams p hp).newline_not_mem hline
  have hsets : Reads .top (String.join inits).toList [] .top :=
    Reads.join_mapM_quiet hinitLines fun i hi _ hline => reads_initLine (hinits i hi) hline
  have hparamLines : Reads .params (String.join (plan.params.map (Module.paramLine n))).toList
      (plan.params.map fun p => .param (n.field p.field.name)) .params := by
    refine Reads.join_map (f := Module.paramLine n) fun p hp => ?_
    rw [Module.paramLine, String.append_assoc, String.append_assoc]
    exact reads_paramLine (hparams p hp) (by simp [String.toList_append, Module.newline_not_mem_paramType])
  simp only [String.toList_append, String.append_assoc]
  -- a comment, perhaps an attribute, the signature, and then the body, which declares nothing
  refine Reads.quiet_append ?_ <| Reads.quiet_append ?_ <|
    Reads.append_quiet (m := .top) ?_ <| Reads.append hdefs <|
    Reads.quiet_append ?_ <| Reads.append hsets <|
    Reads.quiet_append ?_ <| Reads.quiet_append ?_ reads_blank
  · exact reads_quietLine (toList_of_eq_ofList rfl) (by decide)
      (by simp [String.toList_append, htype])
  · exact Reads.ite (fun _ => reads_fixedLine (toList_of_eq_ofList rfl) (by decide))
      (fun _ => Reads.nil _)
  · refine Reads.ite (fun hempty => ?_) (fun _ => ?_)
    · rw [List.isEmpty_iff.mp hempty]
      exact reads_fnLine hname (toList_of_eq_ofList rfl) (by decide) (by decide)
    · simp only [String.toList_append]
      exact Reads.append (reads_fnOpen hname) <| Reads.append_quiet hparamLines <|
        reads_fixedLine (toList_of_eq_ofList rfl) (by decide)
  · exact reads_indented 0 (by simp [String.toList_append, hvariant, hdisplay])
  · exact reads_indented 0 (newline_not_mem_of_ofList rfl (by decide))
  · exact reads_fixedLine (toList_of_eq_ofList rfl) (by decide)

/-! ### Guards and assertions -/

/-- A guard declares its function. -/
theorem reads_guard {d : TypeDef} (hguard : IsLegalIdent (n.guard d.name))
    (hname : '\n' ∉ d.name.toList) :
    Reads .top (Module.guard n d).toList [.function (n.guard d.name)] .top := by
  unfold Module.guard
  simp only [String.toList_append, String.append_assoc]
  refine Reads.append_quiet (m := .top) ?_ <| Reads.quiet_append ?_ <|
    Reads.quiet_append ?_ reads_blank
  · exact reads_fnLine hguard (toList_of_eq_ofList rfl) (by decide) (by decide)
  · exact reads_indented 0 (by simp [String.toList_append, hname])
  · exact reads_fixedLine (toList_of_eq_ofList rfl) (by decide)

/-- A union guard declares its function. -/
theorem reads_unionGuard {tag : String} {members : List String}
    (hname : IsLegalIdent (n.unionGuard tag)) (hmembers : ∀ m ∈ members, isIdentifier m = true) :
    Reads .top (Module.unionGuard n tag members).toList [.function (n.unionGuard tag)] .top := by
  unfold Module.unionGuard
  dsimp only
  simp only [String.toList_append, String.append_assoc]
  refine Reads.append_quiet (m := .top) (Reads.ite (fun _ => ?_) (fun _ => ?_)) <|
    Reads.quiet_append ?_ reads_blank
  · simp only [String.toList_append]
    exact Reads.append_quiet (reads_fnLine hname (toList_of_eq_ofList rfl) (by decide) (by decide))
      (reads_indented 0 (newline_not_mem_of_ofList rfl (by decide)))
  · simp only [String.toList_append]
    refine Reads.quiet_append ?_ <| Reads.append_quiet (m := .top) ?_ ?_
    · refine reads_quietLine (toList_of_eq_ofList rfl) (by decide) ?_
      simp only [String.toList_append, List.mem_append, not_or]
      refine ⟨newline_not_mem_of_ofList rfl (by decide), newline_not_mem_intercalate (by decide) ?_,
        by decide⟩
      intro t ht
      obtain ⟨m, hm, rfl⟩ := List.mem_map.mp ht
      simp [String.toList_append, newline_not_mem_of_isIdentifier (hmembers m hm)]
    · exact reads_fnLine hname (toList_of_eq_ofList rfl) (by decide) (by decide)
    · refine reads_indented 0 (newline_not_mem_intercalate (by decide) ?_)
      intro t ht
      obtain ⟨m, hm, rfl⟩ := List.mem_map.mp ht
      have hsnake := newline_not_mem_of_isIdentifier (Naming.isIdentifier_snakeCase (hmembers m hm))
      simp [Naming.Scheme.guard, String.toList_append, hsnake]
  · exact reads_fixedLine (toList_of_eq_ofList rfl) (by decide)

/-- The table of groups declares nothing. -/
theorem reads_unionMap (g : GroupIndex) : Reads .top (Module.unionMap g).toList [] .top := by
  unfold Module.unionMap
  simp only [String.toList_append, String.append_assoc]
  refine Reads.quiet_append ?_ <| Reads.quiet_append ?_ <|
    Reads.quiet_append ?_ <| Reads.quiet_append ?_ reads_blank
  · exact reads_fixedLine (toList_of_eq_ofList rfl) (by decide)
  · exact reads_fixedLine (toList_of_eq_ofList rfl) (by decide)
  · refine Reads.join_quiet fun p _ => reads_indented 0 ?_
    have hmembers : '\n' ∉ (", ".intercalate (p.2.map quote)).toList :=
      newline_not_mem_intercalate (by decide) fun t ht => by
        obtain ⟨m, -, rfl⟩ := List.mem_map.mp ht
        exact newline_not_mem_quote m
    simpa [String.toList_append, newline_not_mem_quote] using hmembers
  · exact reads_fixedLine (toList_of_eq_ofList rfl) (by decide)

/-- An assertion declares its function. -/
theorem reads_assertion {d : TypeDef} (hassert : IsLegalIdent (n.assertion d.name))
    (hname : '\n' ∉ d.name.toList) (hdisplay : '\n' ∉ d.displayName.toList) :
    Reads .top (Module.assertion n d).toList [.function (n.assertion d.name)] .top := by
  unfold Module.assertion
  simp only [String.join_cons, String.join_nil, String.append_empty, String.toList_append,
    String.append_assoc]
  -- a comment and an attribute, the signature, and a body that declares nothing
  refine Reads.quiet_append ?_ <| Reads.quiet_append ?_ <|
    Reads.append_quiet (m := .top) ?_ ?_
  · exact reads_quietLine (toList_of_eq_ofList rfl) (by decide)
      (by simp [String.toList_append, hname])
  · exact reads_fixedLine (toList_of_eq_ofList rfl) (by decide)
  · refine reads_fnLine hassert (by
      rw [String.toList_append, toList_of_eq_ofList rfl]
      rfl) (by simp) (by simp [String.toList_append, hdisplay])
  · refine Reads.quiet_append ?_ <| Reads.quiet_append ?_ <|
      Reads.quiet_append ?_ <| Reads.quiet_append ?_ <|
      Reads.quiet_append ?_ <| Reads.quiet_append ?_ <|
      Reads.quiet_append ?_ <| Reads.quiet_append ?_ reads_blank
    · exact reads_indented 0 (newline_not_mem_of_ofList rfl (by decide))
    · exact reads_indented 1 (by simp [String.toList_append, hname])
    · exact reads_indented 1 (newline_not_mem_of_ofList rfl (by decide))
    · exact reads_indented 2 (by simp [String.toList_append, newline_not_mem_quote])
    · exact reads_indented 2 (newline_not_mem_of_ofList rfl (by decide))
    · exact reads_indented 1 (newline_not_mem_of_ofList rfl (by decide))
    · exact reads_indented 0 (newline_not_mem_of_ofList rfl (by decide))
    · exact reads_fixedLine (toList_of_eq_ofList rfl) (by decide)

/-! ### The whole module -/

/-- What the module of schema `s` with groups `g` declares, in the order it declares it: the
prelude's struct and its fields, the `Node` enum and its variants, each payload struct and its
fields, each builder and its parameters, then the guards, the union guards and the assertions. -/
def Module.declaredItems (n : Naming.Scheme) (s : Schema) (g : GroupIndex) : List Item :=
  [.struct "TypeMismatch", .field "expected", .field "actual"] ++
    (.enum "Node" :: s.definitions.map fun d => .variant d.name) ++
    s.definitions.flatMap (fun d =>
      .struct d.displayName :: d.fields.map fun f => .field (n.field f.name)) ++
    s.definitions.flatMap (fun d =>
      .function (n.builder d.name) :: d.plan.params.map fun p => .param (n.field p.field.name)) ++
    s.definitions.map (fun d => .function (n.guard d.name)) ++
    g.groups.map (fun p => .function (n.unionGuard p.1)) ++
    s.definitions.map (fun d => .function (n.assertion d.name))

theorem TypeDef.mem_fields_of_param {d : TypeDef} {p : Param} (hp : p ∈ d.plan.params) :
    p.field ∈ d.fields := by
  simp only [TypeDef.plan, TypeDef.params, TypeDef.nonConstantFields, List.mem_map,
    List.mem_filter] at hp
  obtain ⟨f, ⟨hf, -⟩, rfl⟩ := hp
  exact hf

theorem TypeDef.mem_fields_of_init {d : TypeDef} {i : FieldInit}
    (hi : i ∈ d.plan.construction.inits) : i.field ∈ d.fields := by
  simp only [TypeDef.plan, TypeDef.construction, List.mem_append, List.mem_map,
    List.mem_filter] at hi
  rcases hi with (⟨f, ⟨hf, -⟩, rfl⟩ | ⟨f, ⟨hf, -⟩, rfl⟩) | ⟨f, ⟨hf, -⟩, rfl⟩ <;> exact hf

/-- The members of a group of a schema are names of its types. -/
theorem isIdentifier_of_mem_groups {s : Schema} (hs : s.Valid n) {p : String × List String}
    (hp : p ∈ (GroupIndex.ofSchema s).groups) : ∀ m ∈ p.2, isIdentifier m = true := by
  rw [GroupIndex.groups_ofSchema, List.mem_map] at hp
  obtain ⟨t, -, rfl⟩ := hp
  intro m hm
  obtain ⟨d, hd, rfl, -⟩ := Schema.mem_groupMembers.mp hm
  exact (hs.types d hd).name.1

/-- The guards of groups declare their functions. Stated for any function that writes a group's
guard, so that it meets the module's pattern-matching lambda at each pair. -/
theorem reads_unionGuards {groups : List (String × List String)}
    {f : String × List String → String}
    (hf : ∀ tag members, f (tag, members) = Module.unionGuard n tag members)
    (h : ∀ p ∈ groups, IsLegalIdent (n.unionGuard p.1) ∧ ∀ m ∈ p.2, isIdentifier m = true) :
    Reads .top (String.join (groups.map f)).toList
      (groups.map fun p => .function (n.unionGuard p.1)) .top := by
  refine Reads.join_map (f := f) fun p hp => ?_
  obtain ⟨tag, members⟩ := p
  rw [hf]
  exact reads_unionGuard (h _ hp).1 (h _ hp).2

/-- The text of the module of a valid schema is read as the declarations it makes. -/
theorem Module.reads_render {s : Schema} {text : String} (hs : s.Valid n)
    (h : Module.render n s (.ofSchema s) = .ok text) :
    Reads .top text.toList (Module.declaredItems n s (.ofSchema s)) .top := by
  unfold Module.render at h
  simp only [Except.bind_eq_ok, Except.pure_eq_ok] at h
  obtain ⟨builders, hbuilders, rfl⟩ := h
  have hnames : ∀ d ∈ s.definitions, IsLegalIdent d.name :=
    fun d hd => legal_of_typeIdent (hs.types d hd).name
  have hdisplays : ∀ d ∈ s.definitions, IsLegalIdent d.displayName :=
    fun d hd => legal_of_typeIdent (hs.types d hd).typeIdent_displayName
  have hfields : ∀ d ∈ s.definitions, ∀ f ∈ d.fields, IsLegalIdent (n.field f.name) :=
    fun d hd f hf => ((hs.types d hd).fields f hf).legal_field
  have hpayloads : Reads .top (String.join (s.definitions.map (Module.payload n))).toList
      (s.definitions.flatMap fun d =>
        .struct d.displayName :: d.fields.map fun f => .field (n.field f.name)) .top :=
    Reads.join fun d hd =>
      reads_payload (hnames d hd).newline_not_mem (hdisplays d hd) (hfields d hd)
  have hbuilderText : Reads .top (String.join builders).toList
      (s.definitions.flatMap fun d =>
        .function (n.builder d.name) :: d.plan.params.map fun p => .param (n.field p.field.name))
      .top :=
    Reads.join_mapM hbuilders fun d hd _ hb => reads_builder d.plan hb
      (hs.legal_typeFunctions hd).1 (hnames d hd).newline_not_mem
      (hdisplays d hd).newline_not_mem (hnames d hd).newline_not_mem
      (fun p hp => hfields d hd p.field (TypeDef.mem_fields_of_param hp))
      (fun i hi => (hfields d hd i.field (TypeDef.mem_fields_of_init hi)).newline_not_mem)
  have hguards : Reads .top (String.join (s.definitions.map (Module.guard n))).toList
      (s.definitions.map fun d => .function (n.guard d.name)) .top :=
    Reads.join_map (f := Module.guard n) fun d hd =>
      reads_guard (hs.legal_typeFunctions hd).2.1 (hnames d hd).newline_not_mem
  have hassertions : Reads .top (String.join (s.definitions.map (Module.assertion n))).toList
      (s.definitions.map fun d => .function (n.assertion d.name)) .top :=
    Reads.join_map (f := Module.assertion n) fun d hd =>
      reads_assertion (hs.legal_typeFunctions hd).2.2 (hnames d hd).newline_not_mem
        (hdisplays d hd).newline_not_mem
  -- the prelude and `Node`, then the payloads, builders and guards of the types, the union
  -- guards, the group table and the assertions
  simp only [String.toList_append, Module.declaredItems, List.append_assoc]
  refine Reads.append reads_prelude <|
    Reads.append (reads_nodeEnum hnames fun d hd => (hdisplays d hd).newline_not_mem) <|
    Reads.append hpayloads <| Reads.append hbuilderText <| Reads.append hguards <|
    Reads.append ?_ <| Reads.quiet_append (reads_unionMap _) hassertions
  exact reads_unionGuards (fun _ _ => rfl) fun p hp =>
    ⟨hs.legal_unionGuard hp, isIdentifier_of_mem_groups hs hp⟩

/-- The module of a valid schema declares, in order, the items `declaredItems` lists. -/
theorem Module.items_render {s : Schema} {text : String} (hs : s.Valid n)
    (h : Module.render n s (.ofSchema s) = .ok text) :
    Module.items text = Module.declaredItems n s (.ofSchema s) :=
  Module.items_of_reads (Module.reads_render hs h)

theorem Module.functions_declaredItems (s : Schema) (g : GroupIndex) :
    (Module.declaredItems n s g).filterMap Item.function? = Module.functionNames n s g := by
  have hnone : ∀ {α : Type} (l : List α), l.filterMap (fun _ => (none : Option String)) = [] :=
    fun _ => List.filterMap_eq_nil_iff.mpr fun _ _ => rfl
  simp only [Module.declaredItems, Module.functionNames, List.filterMap_append, List.filterMap_cons,
    List.filterMap_nil, List.filterMap_map, List.filterMap_flatMap, Function.comp_def, Item.function?,
    hnone, List.filterMap_eq_map', List.nil_append, List.append_nil]
  -- a payload declares no function, and a builder's only function is itself
  rw [← List.map_eq_flatMap, List.flatMap_eq_nil_iff.mpr fun _ _ => rfl, List.nil_append]

theorem Module.names_declaredItems (s : Schema) (g : GroupIndex) :
    ((Module.declaredItems n s g).map Item.name).Perm
      (["TypeMismatch", "expected", "actual", "Node"] ++ Module.declaredIdents n s g) := by
  -- the module declares each payload's struct before its fields and each builder before its
  -- parameters, where the identifiers are grouped by kind
  have hpayloads := List.map_append_flatMap_perm s.definitions (fun d => d.displayName)
    fun d => d.fields.map fun f => n.field f.name
  have hbuilders := List.map_append_flatMap_perm s.definitions (fun d => n.builder d.name)
    fun d => d.plan.params.map fun p => n.field p.field.name
  have hidents := List.flatMap_append_perm s.definitions (fun d => d.fields.map fun f => n.field f.name)
    fun d => d.plan.params.map fun p => n.field p.field.name
  simp only [Module.declaredItems, Module.declaredIdents, Module.functionNames, List.map_append,
    List.map_cons, List.map_map, List.map_flatMap, Function.comp_def, Item.name,
    List.cons_append, List.nil_append, List.perm_cons]
  refine List.perm_iff_count.mpr fun x => ?_
  have h1 := hpayloads.count_eq x
  have h2 := hbuilders.count_eq x
  have h3 := hidents.count_eq x
  simp only [List.count_append] at h1 h2 h3
  simp only [List.count_append, TypeDef.fieldIdents]
  omega

end NodeKit.Rust

namespace NodeKit

variable {n : Naming.Scheme} {s : Schema} {text : String}

theorem Schema.valid_and_render_of_generate (h : s.generate n = .ok text) :
    s.Valid n ∧ Rust.Module.render n s (.ofSchema s) = .ok text := by
  unfold Schema.generate at h
  simp only [Except.bind_eq_ok] at h
  obtain ⟨_, hv, hrender⟩ := h
  exact ⟨Schema.valid_of_validate_eq_ok hv, hrender⟩

/-- The functions a generated module declares, read off its text, are `functionNames`, in
order. -/
theorem Schema.functions_of_generate (h : s.generate n = .ok text) :
    (Rust.Module.items text).filterMap Rust.Item.function? =
      Rust.Module.functionNames n s (.ofSchema s) := by
  obtain ⟨hs, hrender⟩ := valid_and_render_of_generate h
  rw [Rust.Module.items_render hs hrender, Rust.Module.functions_declaredItems]

/-- The names a generated module declares, read off its text, are `TypeMismatch` with its two
fields, `Node`, and `declaredIdents`, each as many times. -/
theorem Schema.names_of_generate (h : s.generate n = .ok text) :
    ((Rust.Module.items text).map Rust.Item.name).Perm
      (["TypeMismatch", "expected", "actual", "Node"] ++
        Rust.Module.declaredIdents n s (.ofSchema s)) := by
  obtain ⟨hs, hrender⟩ := valid_and_render_of_generate h
  rw [Rust.Module.items_render hs hrender]
  exact Rust.Module.names_declaredItems s _

end NodeKit
