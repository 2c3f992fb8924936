import NodeKit.Rust.Call
import NodeKit.Proofs.LiteralValues
import NodeKit.Proofs.Identifiers

/-! Reading the lines of a generated builder back. Every line the builder is written with is fixed
text around identifiers, types and literals, and the reader takes it apart at the same places: an
identifier ends at the first character that no identifier has, a type runs to the fixed text
that closes its line, and a literal is read by the literal reader. Two facts carry the rest. The
identifiers of fields are legal, so they are read whole and a literal never begins with one: a
literal starts with punctuation, a digit, a path such as `String::from`, or `true` and `false`,
which are keywords. And a literal that reads back is the value it was rendered from. -/

namespace NodeKit

namespace Rust

/-! ### Fixed text -/

theorem isPrefixOf?_append (l rest : List Char) : l.isPrefixOf? (l ++ rest) = some rest := by
  induction l with
  | nil => rfl
  | cons c cs ih =>
    show (if c == c then cs.isPrefixOf? (cs ++ rest) else none) = some rest
    rw [if_pos (beq_self_eq_true c), ih]

theorem afterText_append (t : String) (rest : List Char) :
    afterText t (t.toList ++ rest) = some rest :=
  isPrefixOf?_append t.toList rest

theorem afterText_cons_ne {t : String} {c : Char} {cs : List Char} (ht : t.toList = c :: cs)
    {d : Char} (hd : c ≠ d) (rest : List Char) : afterText t (d :: rest) = none := by
  rw [afterText, ht]
  show (if c == d then cs.isPrefixOf? rest else none) = none
  rw [if_neg (by simpa using hd)]

theorem beforeText_append (a : List Char) (t : String) : beforeText t (a ++ t.toList) = some a := by
  show Option.map List.reverse (t.toList.reverse.isPrefixOf? (a ++ t.toList).reverse) = some a
  rw [List.reverse_append, isPrefixOf?_append, Option.map_some, List.reverse_reverse]

/-! ### Identifiers -/

theorem identToken_append {x : List Char} (hx : ∀ c ∈ x, isIdentChar c = true) {rest : List Char}
    (hrest : ∀ c ∈ rest.head?, isIdentChar c = false) : identToken (x ++ rest) = (x, rest) := by
  rw [identToken, List.takeWhile_append_of_pos hx, List.dropWhile_append_of_pos hx]
  cases rest with
  | nil => simp
  | cons c rest =>
    have hc : isIdentChar c = false := hrest c rfl
    simp [hc]

theorem identToken_self {x : List Char} (hx : ∀ c ∈ x, isIdentChar c = true) :
    identToken x = (x, []) := by
  simpa using @identToken_append _ hx [] (by simp)

theorem isIdentRest_of_isIdentStart {c : Char} (h : isIdentStart c = true) :
    isIdentRest c = true := by
  replace h : (c.isAlpha || decide (c = '_')) = true := h
  show ((c.isAlpha || c.isDigit) || decide (c = '_')) = true
  cases hα : c.isAlpha <;> simp_all

theorem isIdentChar_of_isIdentifier {x : String} (h : isIdentifier x = true) :
    ∀ c ∈ x.toList, isIdentChar c = true := by
  unfold isIdentifier at h
  rcases hcs : x.toList with _ | ⟨c, rest⟩
  · simp
  · rw [hcs] at h
    simp only [isIdentChars, Bool.and_eq_true, List.all_eq_true] at h
    intro d hd
    rcases List.mem_cons.mp hd with rfl | hd
    · simp [isIdentChar, isIdentRest_of_isIdentStart h.1]
    · simp [isIdentChar, h.2 d hd]

/-- The characters of a legal identifier, `r#` included, are read as one identifier. -/
theorem IsLegalIdent.isIdentChar {x : String} (h : IsLegalIdent x) :
    ∀ c ∈ x.toList, Rust.isIdentChar c = true := by
  rcases h with ⟨hident, -, -⟩ | ⟨rest, rfl, hident, -⟩
  · exact isIdentChar_of_isIdentifier hident
  · intro c hc
    simp only [String.toList_append, List.mem_append] at hc
    rcases hc with hc | hc
    · have hraw : "r#".toList = ['r', '#'] := rfl
      rw [hraw] at hc
      simp only [List.mem_cons, List.not_mem_nil, or_false] at hc
      rcases hc with rfl | rfl <;> rfl
    · exact isIdentChar_of_isIdentifier hident c hc

/-- A legal identifier begins with a letter or `_`, and is neither `true` nor `false`. -/
theorem IsLegalIdent.head {x : String} (h : IsLegalIdent x) :
    (∃ c cs, x.toList = c :: cs ∧ isIdentStart c = true) ∧ x ≠ "true" ∧ x ≠ "false" := by
  rcases h with ⟨hident, -, hkw⟩ | ⟨rest, rfl, -, -⟩
  · refine ⟨?_, fun h => ?_, fun h => ?_⟩
    · unfold isIdentifier at hident
      rcases hcs : x.toList with _ | ⟨c, cs⟩
      · rw [hcs] at hident
        cases hident
      · rw [hcs] at hident
        exact ⟨c, cs, rfl, ((Bool.and_eq_true _ _).mp hident).1⟩
    · subst h
      cases hkw
    · subst h
      cases hkw
  · refine ⟨⟨'r', '#' :: rest.toList, by simp [String.toList_append], rfl⟩, fun h => ?_,
      fun h => ?_⟩
    all_goals
      have hlist := congrArg String.toList h
      simp [String.toList_append] at hlist

/-! ### Literals are not variables -/

/-- The expression begins with a variable: a legal identifier, then nothing or a method. -/
def BeginsWithVariable (e : List Char) : Prop :=
  IsLegalIdent (String.ofList (identToken e).1) ∧
    ((identToken e).2 = [] ∨ (identToken e).2.head? = some '.')

theorem not_beginsWithVariable_of_punct {w : List Char} (hw : ∀ c ∈ w, isIdentChar c = true)
    {c : Char} (hc : isIdentChar c = false) (hdot : c ≠ '.') (rest : List Char) :
    ¬BeginsWithVariable (w ++ c :: rest) := by
  rintro ⟨-, hend⟩
  rw [@identToken_append _ hw (c :: rest) (fun d hd => by cases hd; exact hc)] at hend
  simp [hdot] at hend

theorem isIdentStart_of_isDigit {c : Char} (h : c.isDigit = true) : isIdentStart c = false := by
  have h0 : '0'.val.toNat = 48 := rfl
  have h9 : '9'.val.toNat = 57 := rfl
  have hA : 'A'.val.toNat = 65 := rfl
  have ha : 'a'.val.toNat = 97 := rfl
  -- the classes are read through their bodies, as Lean states them
  replace h : (decide (c.val ≥ '0'.val) && decide (c.val ≤ '9'.val)) = true := h
  simp only [Bool.and_eq_true, decide_eq_true_eq, ge_iff_le, UInt32.le_iff_toNat_le, h0,
    h9] at h
  have hunder : c ≠ '_' := by
    rintro rfl
    have hu : '_'.val.toNat = 95 := rfl
    omega
  show ((decide (c.val ≥ 'A'.val ∧ c.val ≤ 'Z'.val) ||
    (decide (c.val ≥ 'a'.val) && decide (c.val ≤ 'z'.val))) || decide (c = '_')) = false
  simp only [ge_iff_le, UInt32.le_iff_toNat_le, hA, ha, hunder, decide_false, Bool.or_false,
    Bool.or_eq_false_iff, decide_eq_false_iff_not, Bool.and_eq_false_iff, not_and, Nat.not_le]
  omega

theorem isIdentChar_of_isDigit {c : Char} (hc : c.isDigit = true) : isIdentChar c = true := by
  have halnum : c.isAlphanum = true := by
    show (c.isAlpha || c.isDigit) = true
    rw [hc, Bool.or_true]
  simp [isIdentChar, isIdentRest, halnum]

theorem identToken_fst_cons {c : Char} (hc : isIdentChar c = true) (rest : List Char) :
    (identToken (c :: rest)).1 = c :: (identToken rest).1 := by
  simp [identToken, hc]

theorem not_beginsWithVariable_of_digit {c : Char} (hc : c.isDigit = true) (rest : List Char) :
    ¬BeginsWithVariable (c :: rest) := by
  rintro ⟨hlegal, -⟩
  obtain ⟨⟨d, ds, hds, hstart⟩, -⟩ := hlegal.head
  rw [identToken_fst_cons (isIdentChar_of_isDigit hc), String.toList_ofList, List.cons.injEq] at hds
  rw [← hds.1, isIdentStart_of_isDigit hc] at hstart
  cases hstart

/-- Text that begins with a word, possibly empty, and then punctuation other than a dot begins
with no variable, and with `Box` only when the word is `Box`. -/
theorem not_variable_of_punct {w : List Char} (hw : ∀ c ∈ w, isIdentChar c = true)
    (hbox : w ≠ "Box".toList) {c : Char} (hc : isIdentChar c = false) (hdot : c ≠ '.')
    (rest : List Char) :
    ¬BeginsWithVariable (w ++ c :: rest) ∧ (identToken (w ++ c :: rest)).1 ≠ "Box".toList := by
  refine ⟨not_beginsWithVariable_of_punct hw hc hdot rest, ?_⟩
  rwa [@identToken_append _ hw (c :: rest) (fun d hd => by cases hd; exact hc)]

theorem not_variable_of_digit {c : Char} (hc : c.isDigit = true) (rest : List Char) :
    ¬BeginsWithVariable (c :: rest) ∧ (identToken (c :: rest)).1 ≠ "Box".toList := by
  refine ⟨not_beginsWithVariable_of_digit hc rest, fun hbox => ?_⟩
  rw [identToken_fst_cons (isIdentChar_of_isDigit hc)] at hbox
  have hB : c = 'B' := (List.cons.inj hbox).1
  subst hB
  cases hc

theorem not_variable_bool (b : Bool) :
    ¬BeginsWithVariable (if b then "true" else "false").toList ∧
      (identToken (if b then "true" else "false").toList).1 ≠ "Box".toList := by
  have hword : ∀ w : String, (w = "true" ∨ w = "false") → (∀ c ∈ w.toList, isIdentChar c = true) →
      ¬BeginsWithVariable w.toList ∧ (identToken w.toList).1 ≠ "Box".toList := by
    intro w hw hchars
    refine ⟨fun hbegin => ?_, ?_⟩
    · obtain ⟨hlegal, -⟩ := hbegin
      rw [identToken_self hchars, String.ofList_toList] at hlegal
      obtain ⟨-, htrue, hfalse⟩ := hlegal.head
      rcases hw with rfl | rfl
      · exact htrue rfl
      · exact hfalse rfl
    · rw [identToken_self hchars]
      rcases hw with rfl | rfl <;> decide
  cases b
  · exact hword "false" (.inr rfl) (List.all_eq_true.mp rfl)
  · exact hword "true" (.inl rfl) (List.all_eq_true.mp rfl)

theorem not_variable_of_colon (rest : List Char) :
    ¬BeginsWithVariable (':' :: rest) ∧ (identToken (':' :: rest)).1 ≠ "Box".toList :=
  not_variable_of_punct (w := []) (by simp) (by decide) rfl (by decide) rest

/-- A scalar literal begins with no variable, and not with `Box`: it begins with `String::from`,
a digit or a minus sign, `true` or `false`, or a path starting `::`. -/
theorem scalar_not_variable {kind : ValueKind} {v : Json} {text : String}
    (h : Literal.scalar kind v = .ok text) (hnums : ∀ m ∈ v.numbers, kind.ReadsBack m) :
    ¬BeginsWithVariable text.toList ∧ (identToken text.toList).1 ≠ "Box".toList := by
  rcases Literal.scalar_eq_ok h with ⟨s, rfl, rfl, rfl⟩ | ⟨m, rfl, rfl, rfl⟩ | ⟨b, rfl, rfl, rfl⟩ |
    ⟨rfl, rfl, rfl⟩ | ⟨e, more, rfl, rfl, rfl⟩ | ⟨rfl, rfl⟩
  · rw [String.toList_append, String.toList_append,
      show "String::from(".toList = "String".toList ++ ':' :: ":from(".toList from rfl,
      List.append_assoc, List.append_assoc, List.cons_append]
    exact not_variable_of_punct (List.all_eq_true.mp rfl) (by decide) rfl (by decide) _
  · obtain ⟨lit, hlit⟩ := readNumber_of_readFloat (hnums m (Json.mem_numbers_num m))
    obtain ⟨⟨c, rest, hcs, hc⟩, -⟩ := readNumber_chars hlit
    rw [hcs]
    rcases hc with rfl | hdigit
    · exact not_variable_of_punct (w := []) (by simp) (by decide) rfl (by decide) rest
    · exact not_variable_of_digit hdigit rest
  · exact not_variable_bool b
  · exact not_variable_of_colon _
  · rw [String.toList_append, String.toList_append]
    exact not_variable_of_colon _
  · rw [String.toList_append, String.toList_append]
    exact not_variable_of_colon _

/-- A literal of a field begins with no variable, and not with `Box`. -/
theorem render_not_variable {f : Field} {v : Json} {text : String}
    (h : Literal.render f v = .ok text) (hnums : ∀ m ∈ v.numbers, f.kind.ReadsBack m) :
    ¬BeginsWithVariable text.toList ∧ (identToken text.toList).1 ≠ "Box".toList := by
  unfold Literal.render at h
  cases harray : f.array with
  | false =>
    simp only [harray, Bool.not_false, ↓reduceIte] at h
    exact scalar_not_variable h hnums
  | true =>
    simp only [harray, Bool.not_true, Bool.false_eq_true, ↓reduceIte] at h
    cases v with
    | arr items =>
      cases items with
      | nil =>
        simp only [Except.ok.injEq] at h
        subst h
        exact not_variable_of_punct (w := "Vec".toList) (List.all_eq_true.mp rfl) (by decide) rfl
          (by decide)
          ":new()".toList
      | cons item more =>
        simp only [Except.bind_eq_ok, Except.pure_eq_ok] at h
        obtain ⟨parts, -, rfl⟩ := h
        rw [String.toList_append, String.toList_append,
          show "vec![".toList = "vec".toList ++ '!' :: "[".toList from rfl,
          List.append_assoc, List.append_assoc, List.cons_append]
        exact not_variable_of_punct (List.all_eq_true.mp rfl) (by decide) rfl (by decide) _
    | _ => simp at h

/-! ### Expressions -/

theorem evalExpr_var {env : Scope} {x : String} (hx : ∀ c ∈ x.toList, isIdentChar c = true)
    {s : Slot} (h : env.lookup x = some s) : evalExpr env x.toList = some s := by
  rw [evalExpr, identToken_self hx]
  simp only [String.ofList_toList, h]

theorem evalExpr_call {env : Scope} {x : String} (hx : ∀ c ∈ x.toList, isIdentChar c = true)
    {s : Slot} (h : env.lookup x = some s) (call : List Char) :
    evalExpr env (x.toList ++ '.' :: call) = s.call call := by
  rw [evalExpr, @identToken_append _ hx ('.' :: call) (fun c hc => by cases hc; rfl)]
  simp only [String.ofList_toList, h]

theorem evalExpr_box {env : Scope} {x : String} {v : Value} (h : env.lookup x = some (.plain v)) :
    evalExpr env ("Box::new(".toList ++ (x.toList ++ ")".toList)) = some (.plain v) := by
  have hsplit : "Box::new(".toList = "Box".toList ++ ':' :: ":new(".toList := rfl
  have hnew : ':' :: (":new(".toList ++ (x.toList ++ ")".toList)) =
      "::new(".toList ++ (x.toList ++ ")".toList) := rfl
  rw [evalExpr, hsplit, List.append_assoc, List.cons_append,
    identToken_append (List.all_eq_true.mp rfl) (fun c hc => by cases hc; rfl)]
  -- whatever `Box` names in scope, a path after it is no use of a variable
  split
  · rename_i hnil
    cases hnil
  · rename_i hdot
    simp at hdot
  · rw [if_pos rfl, hnew, afterText_append, Option.bind_some, beforeText_append]
    simp only [String.ofList_toList, h]

/-- In a scope whose names are legal identifiers, a literal is read as a literal. -/
theorem evalExpr_literal {env : Scope} (henv : ∀ e ∈ env, IsLegalIdent e.1) {f : Field} {v : Json}
    {text : String} (h : Literal.render f v = .ok text)
    (hnums : ∀ m ∈ v.numbers, f.kind.ReadsBack m) :
    evalExpr env text.toList = (evaluate text).map .plain := by
  obtain ⟨hvar, hbox⟩ := render_not_variable h hnums
  have hbound : ∀ s, env.lookup (String.ofList (identToken text.toList).1) = some s →
      IsLegalIdent (String.ofList (identToken text.toList).1) := by
    intro s hs
    obtain ⟨e, he, hkey⟩ := List.lookup_isSome_iff.mp (Option.isSome_iff_exists.mpr ⟨s, hs⟩)
    rw [beq_iff_eq.mp hkey]
    exact henv e he
  rw [evalExpr]
  split
  · rename_i s hs hnil
    exact absurd ⟨hbound s hs, .inl hnil⟩ hvar
  · rename_i s call hs hdot
    exact absurd ⟨hbound s hs, .inr (by rw [hdot]; rfl)⟩ hvar
  · rw [if_neg hbox, String.ofList_toList]

/-! ### Methods of `Option` -/

theorem call_orElse (o : Option Value) (lit : String) :
    (Slot.optional o).call ("or_else(|| Some(".toList ++ (lit.toList ++ "))".toList)) =
      (evaluate lit).map fun v => .optional (o.or (some v)) := by
  simp only [Slot.call, afterText_append, Option.bind_some, beforeText_append,
    String.ofList_toList]

theorem call_unwrapOrElse (o : Option Value) (lit : String) :
    (Slot.optional o).call ("unwrap_or_else(|| ".toList ++ (lit.toList ++ ")".toList)) =
      (evaluate lit).map fun v => .plain (o.getD v) := by
  have hmiss : afterText "or_else(|| Some(" ("unwrap_or_else(|| ".toList ++ (lit.toList ++
      ")".toList)) = none :=
    afterText_cons_ne (c := 'o') rfl (d := 'u') (by decide) _
  simp only [Slot.call, hmiss, Option.bind_none, afterText_append, Option.bind_some,
    beforeText_append, String.ofList_toList]

theorem call_mapBox (o : Option Value) :
    (Slot.optional o).call "map(Box::new)".toList = some (.optional o) := rfl

theorem call_filterNonEmpty {v : Value} {empty : Bool} (h : v.isEmpty? = some empty) :
    (Slot.optional (some v)).call "filter(|v| !v.is_empty())".toList =
      some (.optional (if empty then none else some v)) := by
  show (v.isEmpty?.map fun empty => Slot.optional (if empty then none else some v)) = _
  rw [h]
  rfl

theorem call_filterNonEmpty_none :
    (Slot.optional none).call "filter(|v| !v.is_empty())".toList = some (.optional none) := rfl

theorem call_filterTrue (b : Bool) :
    (Slot.optional (some (.bool b))).call "filter(|v| *v)".toList =
      some (.optional (if b then some (.bool b) else none)) := rfl

theorem call_filterTrue_none :
    (Slot.optional none).call "filter(|v| *v)".toList = some (.optional none) := rfl

/-! ### Lines -/

theorem line_one (t : String) : Module.line 1 t = "    " ++ t ++ "\n" := rfl

theorem line_two (t : String) : Module.line 2 t = "        " ++ t ++ "\n" := rfl

section Lines

variable {n : Naming.Scheme} {t : String}

theorem paramDecl_paramLine (p : Param)
    (hx : ∀ c ∈ (n.field p.field.name).toList, isIdentChar c = true) :
    paramDecl (Module.paramLine n p).toList =
      some (n.field p.field.name, (Module.paramType p).toList) := by
  have hline : (Module.paramLine n p).toList = "    ".toList ++ ((n.field p.field.name).toList ++
      (": ".toList ++ ((Module.paramType p).toList ++ ",\n".toList))) := by
    rw [Module.paramLine, line_one, show ",\n".toList = ",".toList ++ "\n".toList from rfl]
    simp only [String.toList_append, List.append_assoc]
  rw [hline, paramDecl, afterText_append, Option.bind_some,
    identToken_append hx (fun c hc => by cases hc; rfl)]
  simp only [afterText_append, Option.bind_some, beforeText_append, Option.map_some,
    String.ofList_toList]

theorem variantName_constructorLine {plan : Plan}
    (hx : ∀ c ∈ plan.construction.discriminant.toList, isIdentChar c = true) :
    variantName (Module.constructorLine plan).toList = some plan.construction.discriminant := by
  have hline : (Module.constructorLine plan).toList = "    Node::".toList ++
      (plan.construction.discriminant.toList ++ ("(".toList ++ (plan.displayName.toList ++
        " \x7b\n".toList))) := by
    rw [Module.constructorLine, line_one,
      show "    Node::".toList = "    ".toList ++ "Node::".toList from rfl,
      show " \x7b\n".toList = " \x7b".toList ++ "\n".toList from rfl]
    simp only [String.toList_append, List.append_assoc]
  rw [hline, variantName, afterText_append, Option.bind_some,
    identToken_append hx (fun c hc => by cases hc; rfl)]
  simp only [afterText_append, Option.map_some, String.ofList_toList]

/-- A default line rebinds its parameter to what the method called on it gives: `or_else` with
the default's literal when the parameter may be absent, `unwrap_or_else` otherwise. -/
theorem defaultLine_eq_ok {p : Param} {dv : Json} (hd : p.defaultValue = some dv) {line : String}
    (h : Module.defaultLine n t p = .ok line) :
    ∃ lit, Literal.render p.field dv = .ok lit ∧
      line.toList = "    let ".toList ++ ((n.field p.field.name).toList ++ (" = ".toList ++
        (((n.field p.field.name).toList ++ '.' :: (if p.field.mayBeAbsent then
          "or_else(|| Some(".toList ++ (lit.toList ++ "))".toList)
          else "unwrap_or_else(|| ".toList ++ (lit.toList ++ ")".toList))) ++ ";\n".toList))) := by
  unfold Module.defaultLine at h
  rw [hd] at h
  simp only [Except.bind_eq_ok] at h
  obtain ⟨lit, hlit, hline⟩ := h
  refine ⟨lit, ?_, ?_⟩
  · unfold Module.literal at hlit
    cases hr : Literal.render p.field dv <;> rw [hr] at hlit <;> cases hlit
    rfl
  · cases hmay : p.field.mayBeAbsent <;>
      simp only [hmay, Bool.false_eq_true, ↓reduceIte, Except.pure_eq_ok] at hline <;>
      subst hline <;> simp [line_one, String.toList_append]

theorem runDefault_let {env : Scope} {x : String} (hx : ∀ c ∈ x.toList, isIdentChar c = true)
    (e : List Char) :
    runDefault env ("    let ".toList ++ (x.toList ++ (" = ".toList ++ (e ++ ";\n".toList)))) =
      (evalExpr env e).map fun s => (x, s) :: env := by
  rw [runDefault, if_neg (by simp), afterText_append, Option.bind_some,
    identToken_append hx (fun c hc => by cases hc; rfl)]
  simp only [afterText_append, Option.bind_some, beforeText_append, String.ofList_toList]

/-- The line of a field in the struct expression: shorthand when the expression is the field's
own variable. -/
theorem initLine_eq_ok {init : FieldInit} {line : String}
    (h : Module.initLine n t init = .ok line) :
    ∃ e, Module.initExpr n t init = .ok e ∧
      line.toList = if e = n.field init.field.name then
          "        ".toList ++ ((n.field init.field.name).toList ++ ",\n".toList)
        else "        ".toList ++ ((n.field init.field.name).toList ++ (": ".toList ++
          (e.toList ++ ",\n".toList))) := by
  unfold Module.initLine at h
  simp only [Except.bind_eq_ok, Except.pure_eq_ok] at h
  obtain ⟨e, he, rfl⟩ := h
  refine ⟨e, he, ?_⟩
  split <;> simp [line_two, String.toList_append]

theorem readInit_short {env : Scope} {x : String} (hx : ∀ c ∈ x.toList, isIdentChar c = true) :
    readInit env ("        ".toList ++ (x.toList ++ ",\n".toList)) = (env.lookup x).map (x, ·) := by
  rw [readInit, afterText_append, Option.bind_some,
    identToken_append hx (fun c hc => by cases hc; rfl)]
  simp only [String.ofList_toList, ↓reduceIte]

theorem readInit_field {env : Scope} {x : String} (hx : ∀ c ∈ x.toList, isIdentChar c = true)
    (e : List Char) :
    readInit env ("        ".toList ++ (x.toList ++ (": ".toList ++ (e ++ ",\n".toList)))) =
      (evalExpr env e).map (x, ·) := by
  rw [readInit, afterText_append, Option.bind_some,
    identToken_append hx (fun c hc => by cases hc; rfl)]
  have hne : ": ".toList ++ (e ++ ",\n".toList) ≠ ",\n".toList := fun h => by
    cases h
  simp only [String.ofList_toList, if_neg hne, afterText_append, Option.bind_some,
    beforeText_append]

/-- A line of the struct expression sets the field to the value of its expression; the shorthand
reads the same, given that the variable is in scope. -/
theorem readInit_initLine {env : Scope} {init : FieldInit} {line e : String}
    (h : Module.initLine n t init = .ok line) (he : Module.initExpr n t init = .ok e)
    (hx : ∀ c ∈ (n.field init.field.name).toList, isIdentChar c = true)
    (hshort : e = n.field init.field.name → ∃ s, env.lookup e = some s) :
    readInit env line.toList = (evalExpr env e.toList).map (n.field init.field.name, ·) := by
  obtain ⟨e', he', hline⟩ := initLine_eq_ok h
  rw [he] at he'
  cases he'
  rw [hline]
  split
  · rename_i hvar
    obtain ⟨s, hs⟩ := hshort hvar
    subst hvar
    rw [readInit_short hx, hs, evalExpr_var hx hs]
  · exact readInit_field hx e.toList

/-! ### The lines of a payload field -/

theorem serdeArg_setting {w : String} (hw : ∀ c ∈ w.toList, isIdentChar c = true) (v : String)
    (rest : List Char) :
    serdeArg (w.toList ++ (" = ".toList ++ ((quote v).toList ++ rest))) =
      some ((w, some v), rest) := by
  rw [serdeArg, identToken_append hw (fun c hc => by cases hc; rfl)]
  simp only [afterText_append, stringLiteral_quote, Option.map_some, String.ofList_toList]

theorem serdeArg_word {w : String} (hw : ∀ c ∈ w.toList, isIdentChar c = true) (rest : List Char) :
    serdeArg (w.toList ++ (", ".toList ++ rest)) = some ((w, none), ", ".toList ++ rest) := by
  have hmiss : afterText " = " (", ".toList ++ rest) = none :=
    afterText_cons_ne (c := ' ') rfl (d := ',') (by decide) _
  rw [serdeArg, identToken_append hw (fun c hc => by cases hc; rfl), hmiss]
  simp only [String.ofList_toList]

theorem serdeArgs_last {cs : List Char} {a : String × Option String} {rest : List Char}
    (h : serdeArg cs = some (a, ")]\n".toList ++ rest)) (fuel : Nat) :
    serdeArgs (fuel + 1) cs = some ([a], rest) := by
  simp only [serdeArgs, h, Option.bind_some, afterText_append]

theorem serdeArgs_more {cs : List Char} {a : String × Option String} {r : List Char}
    (h : serdeArg cs = some (a, ", ".toList ++ r)) (fuel : Nat) :
    serdeArgs (fuel + 1) cs = (serdeArgs fuel r).map fun s => (a :: s.1, s.2) := by
  have hmiss : afterText ")]\n" (", ".toList ++ r) = none :=
    afterText_cons_ne (c := ')') rfl (d := ',') (by decide) _
  simp only [serdeArgs, h, Option.bind_some, hmiss, afterText_append]

/-- More fuel reads the same arguments. `serdeAttribute` runs with the length of what follows the
attribute's opening, which is more than the attribute has arguments. -/
theorem serdeArgs_mono {n m : Nat} {cs : List Char} {x : List (String × Option String) × List Char}
    (hle : n ≤ m) (h : serdeArgs n cs = some x) : serdeArgs m cs = some x := by
  induction n generalizing m cs x with
  | zero => simp [serdeArgs] at h
  | succ n ih =>
    obtain ⟨m, rfl⟩ : ∃ m', m = m' + 1 := ⟨m - 1, by omega⟩
    cases ha : serdeArg cs with
    | none => simp [serdeArgs, ha] at h
    | some a =>
      simp only [serdeArgs, ha, Option.bind_some] at h ⊢
      cases hend : afterText ")]\n" a.2 with
      | some rest => simpa only [hend] using h
      | none =>
        simp only [hend] at h ⊢
        cases hr : afterText ", " a.2 with
        | none => simp [hr] at h
        | some r =>
          simp only [hr, Option.bind_some] at h ⊢
          obtain ⟨s, hs, rfl⟩ := Option.map_eq_some_iff.mp h
          rw [ih (by omega) hs]
          rfl

theorem serdeAttribute_of_serdeArgs {r : List Char} {n : Nat}
    {x : List (String × Option String) × List Char} (hn : n ≤ r.length + 1)
    (h : serdeArgs n r = some x) : serdeAttribute ("    #[serde(".toList ++ r) = some x := by
  simp only [serdeAttribute, afterText_append]
  exact serdeArgs_mono hn h

theorem serdeAttribute_none (r : List Char) :
    serdeAttribute ("    pub ".toList ++ r) = some ([], "    pub ".toList ++ r) := by
  have hmiss : afterText "    #[serde(" ("    pub ".toList ++ r) = none := rfl
  simp only [serdeAttribute, hmiss]

theorem serdeAttribute_rename (name : String) (decl : List Char) :
    serdeAttribute ("    ".toList ++ ("#[serde(".toList ++ ("rename = ".toList ++
      ((quote name).toList ++ (")]".toList ++ ("\n".toList ++ decl)))))) =
      some ([("rename", some name)], decl) := by
  rw [show "    ".toList ++ ("#[serde(".toList ++ ("rename = ".toList ++ ((quote name).toList ++
      (")]".toList ++ ("\n".toList ++ decl))))) = "    #[serde(".toList ++ ("rename".toList ++
        (" = ".toList ++ ((quote name).toList ++ (")]\n".toList ++ decl)))) from rfl]
  simp only [serdeAttribute, afterText_append]
  exact serdeArgs_last (serdeArg_setting (List.all_eq_true.mp rfl) name _) _

theorem serdeAttribute_skip (decl : List Char) :
    serdeAttribute ("    ".toList ++ ("#[serde(".toList ++
      ("default, skip_serializing_if = \"Option::is_none\"".toList ++
        (")]".toList ++ ("\n".toList ++ decl))))) =
      some ([("default", none), ("skip_serializing_if", some "Option::is_none")], decl) := by
  have hnone : quote "Option::is_none" = "\"Option::is_none\"" := by decide
  rw [show "    ".toList ++ ("#[serde(".toList ++
      ("default, skip_serializing_if = \"Option::is_none\"".toList ++
        (")]".toList ++ ("\n".toList ++ decl)))) = "    #[serde(".toList ++ ("default".toList ++
          (", ".toList ++ ("skip_serializing_if".toList ++ (" = ".toList ++
            ((quote "Option::is_none").toList ++ (")]\n".toList ++ decl)))))) from by
        rw [hnone]; rfl]
  refine serdeAttribute_of_serdeArgs (n := 2) (by simp) ?_
  rw [serdeArgs_more (serdeArg_word (List.all_eq_true.mp rfl) _),
    serdeArgs_last (serdeArg_setting (List.all_eq_true.mp rfl) "Option::is_none" _)]
  rfl

theorem serdeAttribute_rename_skip (name : String) (decl : List Char) :
    serdeAttribute ("    ".toList ++ ("#[serde(".toList ++ ("rename = ".toList ++
      ((quote name).toList ++ (", ".toList ++
        ("default, skip_serializing_if = \"Option::is_none\"".toList ++
          (")]".toList ++ ("\n".toList ++ decl)))))))) =
      some ([("rename", some name), ("default", none),
        ("skip_serializing_if", some "Option::is_none")], decl) := by
  have hnone : quote "Option::is_none" = "\"Option::is_none\"" := by decide
  rw [show "    ".toList ++ ("#[serde(".toList ++ ("rename = ".toList ++ ((quote name).toList ++
      (", ".toList ++ ("default, skip_serializing_if = \"Option::is_none\"".toList ++
        (")]".toList ++ ("\n".toList ++ decl))))))) = "    #[serde(".toList ++ ("rename".toList ++
          (" = ".toList ++ ((quote name).toList ++ (", ".toList ++ ("default".toList ++
            (", ".toList ++ ("skip_serializing_if".toList ++ (" = ".toList ++
              ((quote "Option::is_none").toList ++ (")]\n".toList ++ decl)))))))))) from by
      rw [hnone]; rfl]
  refine serdeAttribute_of_serdeArgs (n := 3) (by simp) ?_
  rw [serdeArgs_more (serdeArg_setting (List.all_eq_true.mp rfl) name _),
    serdeArgs_more (serdeArg_word (List.all_eq_true.mp rfl) _),
    serdeArgs_last (serdeArg_setting (List.all_eq_true.mp rfl) "Option::is_none" _)]
  rfl

theorem readFieldLines_decl {lines : List Char} {args : List (String × Option String)} {x : String}
    (hx : ∀ c ∈ x.toList, isIdentChar c = true) {ty : List Char}
    (h : serdeAttribute lines =
      some (args, "    pub ".toList ++ (x.toList ++ (": ".toList ++ (ty ++ ",\n".toList))))) :
    readFieldLines lines = some ⟨x, ((args.lookup "rename").join).getD (unraw x),
      args.contains ("skip_serializing_if", some "Option::is_none"), ty⟩ := by
  rw [readFieldLines, h, Option.bind_some, afterText_append, Option.bind_some,
    identToken_append hx (fun c hc => by cases hc; rfl)]
  simp only [afterText_append, Option.bind_some, beforeText_append, Option.map_some,
    String.ofList_toList]

/-- A payload field is written under its schema name, renamed when its identifier differs from
it, and left out when `None` exactly when it is optional and not constant. -/
theorem readFieldLines_fieldLines {f : Field}
    (hx : ∀ c ∈ (n.field f.name).toList, isIdentChar c = true) :
    readFieldLines (Module.fieldLines n f).toList =
      some ⟨n.field f.name, f.name, f.optional && !f.constant, (Module.fieldType f).toList⟩ := by
  have hdecl :
      (Module.line 1 ("pub " ++ n.field f.name ++ ": " ++ Module.fieldType f ++ ",")).toList =
      "    pub ".toList ++ ((n.field f.name).toList ++ (": ".toList ++
        ((Module.fieldType f).toList ++ ",\n".toList))) := by
    rw [line_one, show "    pub ".toList = "    ".toList ++ "pub ".toList from rfl,
      show ",\n".toList = ",".toList ++ "\n".toList from rfl]
    simp only [String.toList_append, List.append_assoc]
  unfold Module.fieldLines
  by_cases hr : unraw (n.field f.name) = f.name <;>
    cases hskip : (f.optional && !f.constant) <;>
    simp only [hr, ne_eq, not_true_eq_false, not_false_eq_true, ↓reduceIte, List.nil_append,
      List.append_nil, Bool.false_eq_true, List.isEmpty_nil, List.isEmpty_cons,
      List.singleton_append] <;>
    rw [String.toList_append, hdecl]
  · rw [String.toList_empty, List.nil_append, readFieldLines_decl hx (serdeAttribute_none _), hr]
    rfl
  · rw [line_one, String.intercalate_singleton]
    simp only [String.toList_append, List.append_assoc]
    rw [readFieldLines_decl hx (serdeAttribute_skip _), hr]
    rfl
  · rw [line_one, String.intercalate_singleton]
    simp only [String.toList_append, List.append_assoc]
    rw [readFieldLines_decl hx (serdeAttribute_rename _ _)]
    rfl
  · rw [line_one, String.intercalate_cons_cons, String.intercalate_singleton]
    simp only [String.toList_append, List.append_assoc]
    rw [readFieldLines_decl hx (serdeAttribute_rename_skip _ _)]
    rfl

end Lines

end Rust

end NodeKit
