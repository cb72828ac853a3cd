import SurveyPlatform.Library.Infixes
import SurveyPlatform.Python.Renderings
import SurveyPlatform.Verified.SetValues

/-! # Conditions on a checkbox

A condition compares texts, and the text of a checkbox answer is that of the
whole list.  `contains` looks for the text of the rule's option in it: it finds
every selected option that is written without an escape, and without quotes and
backslashes it finds what is part of a selected option or of the brackets and
commas of the list.  `in` looks the whole text up in the rule's list
(`checkboxConditions_textual`).
-/

namespace SurveyPlatform.Verified

open SurveyPlatform.Library SurveyPlatform.Python SurveyPlatform.Surveys SurveyPlatform.Responses

/-! ## How options are written -/

/-- A character `repr` has no escape for, backslash and quotes apart. -/
def Printable (py : Interpreter) (c : Char) : Prop :=
  32 ≤ c.toNat ∧ (c.toNat ≤ 126 ∨ c.toNat ≠ 127 ∧ py.isPrintable c = true)

/-- No quote of either kind and no backslash. -/
def Unquoted (text : String) : Prop := ∀ c ∈ text.toList, c.toNat ≠ 34 ∧ c.toNat ≠ 39 ∧ c.toNat ≠ 92

/-- `repr` writes the text between its quotes as it is. -/
def WrittenPlainly (py : Interpreter) (text : String) : Prop :=
  ∀ c ∈ text.toList, Printable py c ∧ c ≠ reprQuote text ∧ c.toNat ≠ 92

/-- The brackets and commas of a list of this length have the text in them. -/
def InPunctuation (text : String) (length : Nat) : Prop :=
  isIn text "[" = true ∨ isIn text "]" = true ∨ length = 0 ∧ text = "[]" ∨ 2 ≤ length ∧ isIn text ", " = true

/-- Strings of printable characters. -/
def PrintableItems (py : Interpreter) (items : List Json) : Prop :=
  ∀ item ∈ items, ∃ text, item = .str text ∧ ∀ c ∈ text.toList, Printable py c

/-- What `contains` finds in the text of the selected options. -/
structure FindsText (py : Interpreter) (items : List Json) (option : String) (holds : Prop) : Prop where
  textual : holds ↔ isIn option (py.str (.list items)) = true
  selected : WrittenPlainly py option → (∃ item ∈ items, py.str item = option) → holds
  parts : Unquoted option → PrintableItems py items →
    (holds ↔ (∃ item ∈ items, isIn option (py.str item) = true) ∨ InPunctuation option items.length)
  membership : Unquoted option → PrintableItems py items → ¬ InPunctuation option items.length →
    (∀ item ∈ items, isIn option (py.str item) = true → py.str item = option) →
      (holds ↔ ∃ item ∈ items, py.str item = option)

/-! ## The text of a list -/

section Texts

variable {py : Interpreter} {s text : String}

theorem isIn_iff {needle haystack : String} : isIn needle haystack = true ↔ needle.toList <:+: haystack.toList :=
  decide_eq_true_iff

theorem reprChar_printable {quote c : Char} (printable : Printable py c) :
    (reprChar py.isPrintable quote c).toList = if c = quote ∨ c.toNat = 92 then [Char.ofNat 92, c] else [c] := by
  obtain ⟨low, high⟩ := printable
  simp only [reprChar]
  split
  · exact String.toList_ofList
  · rw [if_neg (by omega), if_neg (by omega), if_neg (by omega), if_neg (by omega),
      if_pos (high.imp (fun ascii => by omega) And.right), String.toList_ofList]

theorem toList_joined (f : Char → String) (chars : List Char) :
    (join "" (chars.map f)).toList = chars.flatMap fun c => (f c).toList := by
  induction chars with
  | nil => rfl
  | cons c chars inductionHypothesis =>
    rw [List.map_cons, join_cons, String.toList_append, inductionHypothesis, List.flatMap_cons]

theorem toList_reprStr : (py.reprStr text).toList = reprQuote text ::
    ((text.toList.flatMap fun c => (reprChar py.isPrintable (reprQuote text) c).toList) ++ [reprQuote text]) := by
  simp only [Interpreter.reprStr, String.toList_append, String.toList_ofList, toList_joined, List.nil_append,
    List.cons_append]

/-- A text that is written plainly is in its own `repr`. -/
theorem infix_reprStr_of_plainly (plainly : WrittenPlainly py text) : text.toList <:+: (py.reprStr text).toList := by
  have same : ∀ c ∈ text.toList, (reprChar py.isPrintable (reprQuote text) c).toList = [c] := by
    intro c member
    obtain ⟨printable, notQuote, notBackslash⟩ := plainly c member
    rw [reprChar_printable printable, if_neg (by simp [notQuote, notBackslash])]
  rw [toList_reprStr, List.flatMap_congr same, List.flatMap_singleton']
  exact ⟨[reprQuote text], [reprQuote text], rfl⟩

/-- Without quotes and backslashes nothing is found in a `repr` that is not in the text. -/
theorem infix_reprStr_iff (unquoted : Unquoted s) (printable : ∀ c ∈ text.toList, Printable py c)
    (before after : List Char) :
    s.toList <:+: before ++ ((py.reprStr text).toList ++ after) ↔
      s.toList <:+: before ∨ s.toList <:+: text.toList ∨ s.toList <:+: after := by
  have noMark : ∀ mark : Char, mark.toNat = 34 ∨ mark.toNat = 39 ∨ mark.toNat = 92 → mark ∉ s.toList := by
    intro mark code member
    obtain ⟨noDouble, noSingle, noBackslash⟩ := unquoted mark member
    omega
  have noQuote : reprQuote text ∉ s.toList := noMark _ ((reprQuote_cases text).symm.imp_right Or.inl)
  have noBackslash : Char.ofNat 92 ∉ s.toList := noMark _ (Or.inr (Or.inr rfl))
  have keeps : ∀ c ∈ text.toList, (reprChar py.isPrintable (reprQuote text) c).toList = [c] ∨
      c ∉ s.toList ∧ Char.ofNat 92 ∉ s.toList ∧
        (reprChar py.isPrintable (reprQuote text) c).toList = [Char.ofNat 92, c] := by
    intro c member
    rw [reprChar_printable (printable c member)]
    split
    · rename_i marked
      refine Or.inr ⟨?_, noBackslash, rfl⟩
      obtain rfl | code := marked
      · exact noQuote
      · exact noMark c (Or.inr (Or.inr code))
    · exact Or.inl rfl
  have inside := infix_flatMap text.toList keeps []
  rw [List.nil_append, List.nil_append] at inside
  rw [toList_reprStr, List.cons_append, infix_split noQuote, List.append_assoc, List.singleton_append,
    infix_split noQuote, inside]

theorem infix_items_iff (unquoted : Unquoted s) (rest : List Json) :
    ∀ item before, PrintableItems py (item :: rest) →
      (s.toList <:+: before ++ ((join ", " (py.reprItems (item :: rest))).toList ++ [']']) ↔
        s.toList <:+: before ∨ (∃ selected ∈ item :: rest, s.toList <:+: (py.str selected).toList) ∨
          (rest ≠ [] ∧ s.toList <:+: [',', ' ']) ∨ s.toList <:+: [']']) := by
  induction rest with
  | nil =>
    intro item before printable
    obtain ⟨text, rfl, characters⟩ := printable item List.mem_cons_self
    have str : py.str (.str text) = text := rfl
    rw [Interpreter.reprItems, Interpreter.reprItems, join, String.intercalate_singleton, Interpreter.repr,
      infix_reprStr_iff unquoted characters]
    simp [str]
  | cons next rest inductionHypothesis =>
    intro item before printable
    obtain ⟨text, rfl, characters⟩ := printable item List.mem_cons_self
    have str : py.str (.str text) = text := rfl
    have others := inductionHypothesis next [',', ' '] fun item member => printable item (List.mem_cons_of_mem _ member)
    have joined : (join ", " (py.reprItems (.str text :: next :: rest))).toList ++ [']'] =
        (py.reprStr text).toList ++ ([',', ' '] ++ ((join ", " (py.reprItems (next :: rest))).toList ++ [']'])) := by
      simp only [Interpreter.reprItems, join, String.intercalate_cons_cons, String.toList_append, Interpreter.repr,
        List.append_assoc]
      rfl
    rw [joined, infix_reprStr_iff unquoted characters, others,
      List.exists_mem_cons_iff _ (Json.str text), str]
    constructor
    · rintro (inBefore | inText | inComma | inOther | ⟨_, inComma⟩ | inBracket)
      · exact Or.inl inBefore
      · exact Or.inr (Or.inl (Or.inl inText))
      · exact Or.inr (Or.inr (Or.inl ⟨List.cons_ne_nil _ _, inComma⟩))
      · exact Or.inr (Or.inl (Or.inr inOther))
      · exact Or.inr (Or.inr (Or.inl ⟨List.cons_ne_nil _ _, inComma⟩))
      · exact Or.inr (Or.inr (Or.inr inBracket))
    · rintro (inBefore | (inText | inOther) | ⟨_, inComma⟩ | inBracket)
      · exact Or.inl inBefore
      · exact Or.inr (Or.inl inText)
      · exact Or.inr (Or.inr (Or.inr (Or.inl inOther)))
      · exact Or.inr (Or.inr (Or.inl inComma))
      · exact Or.inr (Or.inr (Or.inr (Or.inr (Or.inr inBracket))))

theorem toList_str_list (items : List Json) :
    (py.str (.list items)).toList = ['['] ++ ((join ", " (py.reprItems items)).toList ++ [']']) := by
  have str : py.str (.list items) = py.repr (.list items) := rfl
  rw [str, Interpreter.repr, String.toList_append, String.toList_append, List.append_assoc]
  rfl

/-- The text of a list of printable strings, without quotes and backslashes. -/
theorem isIn_list_iff (unquoted : Unquoted s) {items : List Json} (printable : PrintableItems py items) :
    isIn s (py.str (.list items)) = true ↔
      (∃ item ∈ items, isIn s (py.str item) = true) ∨ InPunctuation s items.length := by
  simp only [isIn_iff, InPunctuation]
  have opening : "[".toList = ['['] := rfl
  have closing : "]".toList = [']'] := rfl
  have comma : ", ".toList = [',', ' '] := rfl
  rw [toList_str_list]
  cases items with
  | nil =>
    have brackets : ['['] ++ ((join ", " (py.reprItems [])).toList ++ [']']) = ['[', ']'] := by
      rw [Interpreter.reprItems]
      rfl
    have whole : s = "[]" ↔ s.toList = ['[', ']'] := String.toList_inj.symm
    rw [brackets, opening, closing, infix_pair_iff, whole]
    simp
  | cons item rest =>
    have several : rest ≠ [] ↔ 2 ≤ (item :: rest).length := by
      cases rest <;> simp
    have nonempty : (item :: rest).length ≠ 0 := by simp
    rw [infix_items_iff unquoted rest item _ printable, several, opening, closing, comma]
    simp only [nonempty, false_and, false_or]
    rw [or_left_comm, @or_comm (_ ∧ _)]

theorem infix_join {separator part : String} {parts : List String} (member : part ∈ parts) :
    part.toList <:+: (join separator parts).toList := by
  induction parts with
  | nil => cases member
  | cons first rest inductionHypothesis =>
    cases rest with
    | nil =>
      rw [List.mem_singleton.mp member, join, String.intercalate_singleton]
    | cons next rest =>
      rw [join, String.intercalate_cons_cons, String.toList_append, String.toList_append]
      obtain rfl | later := List.mem_cons.mp member
      · rw [List.append_assoc]
        exact ⟨[], _, rfl⟩
      · exact (inductionHypothesis later).trans (List.suffix_append _ _).isInfix

theorem mem_reprItems {items : List Json} {item : Json} (member : item ∈ items) : py.repr item ∈ py.reprItems items := by
  induction items with
  | nil => cases member
  | cons first rest inductionHypothesis =>
    rw [Interpreter.reprItems, List.mem_cons]
    obtain rfl | later := List.mem_cons.mp member
    · exact Or.inl rfl
    · exact Or.inr (inductionHypothesis later)

/-- A selected option is in the text of the list if `repr` writes it as it is, and if it is no string. -/
theorem isIn_list_of_selected {items : List Json} {item : Json} (member : item ∈ items)
    (plainly : WrittenPlainly py (py.str item)) : isIn (py.str item) (py.str (.list items)) = true := by
  have inRepr : (py.str item).toList <:+: (py.repr item).toList := by
    cases item with
    | str text =>
      rw [Interpreter.repr]
      exact infix_reprStr_of_plainly plainly
    | _ => exact List.infix_refl _
  rw [isIn_iff, toList_str_list]
  exact inRepr.trans ((infix_join (mem_reprItems member)).trans ⟨['['], [']'], by rw [List.append_assoc]⟩)

end Texts

/-! ## Conditions -/

section Conditions

variable {py : Interpreter} {items : List Json}

theorem findsText {option : String} {holds : Prop} (textual : holds ↔ isIn option (py.str (.list items)) = true) :
    FindsText py items option holds := by
  have parts : Unquoted option → PrintableItems py items →
      (holds ↔ (∃ item ∈ items, isIn option (py.str item) = true) ∨ InPunctuation option items.length) :=
    fun unquoted printable => textual.trans (isIn_list_iff unquoted printable)
  refine ⟨textual, ?_, parts, ?_⟩
  · intro plainly selected
    obtain ⟨item, member, rfl⟩ := selected
    exact textual.mpr (isIn_list_of_selected member plainly)
  · intro unquoted printable notPunctuation noPart
    rw [parts unquoted printable, or_iff_left notPunctuation]
    constructor
    · intro found
      obtain ⟨item, member, inItem⟩ := found
      exact ⟨item, member, noPart item member inItem⟩
    · intro selected
      obtain ⟨item, member, rfl⟩ := selected
      exact ⟨item, member, isIn_iff.mpr (List.infix_refl _)⟩

end Conditions

/-- Conditions on a checkbox compare with the text of the whole list. -/
theorem checkboxConditions_textual (py : Interpreter) (field : Field) (value answer : Json) (answers : Dict String Json)
    (isCheckbox : field.fieldType = .checkbox) (answered : answers.get? (fieldIdStr field.id) = some answer)
    (passes : validateFieldType py field answer (py.str answer) = .ok none) :
    ∃ items, answer = .list items ∧
      (validateOperatorValue py field .contains value = .ok () →
        FindsText py items (py.str value) (evaluateCondition py ⟨field.id, .contains, value⟩ answers = .ok true)) ∧
      (validateOperatorValue py field .isIn value = .ok () → ∃ values, value = .list values ∧
        (evaluateCondition py ⟨field.id, .isIn, value⟩ answers = .ok true ↔ ∃ v ∈ values, py.str answer = py.str v)) := by
  obtain ⟨items, offered, rfl, _, _⟩ := (validateFieldType_checkbox_iff isCheckbox).mp passes
  refine ⟨items, rfl, ?_, ?_⟩
  · intro _
    rw [evaluateCondition_of_answered answered rfl]
    apply findsText
    rw [compareAnswer, Except.ok.injEq]
  · intro accepted
    obtain ⟨values, rfl⟩ : ∃ values, value = .list values := by
      obtain ⟨id, sectionId, label, fieldType, required, order, options, isEncrypted, validationRules⟩ := field
      cases isCheckbox
      obtain ⟨values, isList, _⟩ := requireItems_eq_ok.mp accepted
      exact ⟨values, isList⟩
    refine ⟨values, rfl, ?_⟩
    rw [evaluateCondition_of_answered answered rfl, compareAnswer, Except.ok.injEq, List.contains_iff_mem, List.mem_map]
    simp only [eq_comm]

/-! ## Two options -/

def gradesField : Field :=
  { birthday with label := "Grades", fieldType := .checkbox, options := .list [.str "a", .str "ab"] }

def gradesAnswer (grade : String) : Dict String Json := Dict.empty.set "1" (.list [.str grade])

theorem checkboxConditions_textual_grades : ∃ items, Json.list [.str "a"] = .list items ∧
    (validateOperatorValue bareInterpreter gradesField .contains (.str "a") = .ok () →
      FindsText bareInterpreter items (bareInterpreter.str (.str "a"))
        (evaluateCondition bareInterpreter ⟨1, .contains, .str "a"⟩ (gradesAnswer "a") = .ok true)) ∧
    (validateOperatorValue bareInterpreter gradesField .isIn (.str "a") = .ok () → ∃ values, Json.str "a" = .list values ∧
      (evaluateCondition bareInterpreter ⟨1, .isIn, .str "a"⟩ (gradesAnswer "a") = .ok true ↔
        ∃ v ∈ values, bareInterpreter.str (.list [.str "a"]) = bareInterpreter.str v)) :=
  checkboxConditions_textual bareInterpreter gradesField (.str "a") (.list [.str "a"]) (gradesAnswer "a") rfl rfl
    (by decide)

/-- `contains` finds the option `a` where only `ab` is selected; `in` does not find the selected `a` among `a`. -/
theorem checkboxConditions_not_membership :
    (validateOperatorValue bareInterpreter gradesField .contains (.str "a") = .ok () ∧
        validateFieldType bareInterpreter gradesField (.list [.str "ab"]) (bareInterpreter.str (.list [.str "ab"])) =
          .ok none ∧
        evaluateCondition bareInterpreter ⟨1, .contains, .str "a"⟩ (gradesAnswer "ab") = .ok true) ∧
      validateOperatorValue bareInterpreter gradesField .isIn (.list [.str "a"]) = .ok () ∧
        validateFieldType bareInterpreter gradesField (.list [.str "a"]) (bareInterpreter.str (.list [.str "a"])) =
          .ok none ∧
        evaluateCondition bareInterpreter ⟨1, .isIn, .list [.str "a"]⟩ (gradesAnswer "a") = .ok false := by
  decide

end SurveyPlatform.Verified
