import SurveyPlatform.Library.Alike
import SurveyPlatform.Python.Encoding

/-! # Two renderings of a value

`repr` and `json.dumps` write a value with other quotes, escapes and words.  A
value whose `repr` has no whitespace is an atom or a chain of lists around one,
and then the two texts differ in ordinary characters only: they have the same
`@` and `.` at corresponding places (`repr_alike_dumps`).
-/

namespace SurveyPlatform.Python

open SurveyPlatform.Library

/-- Neither `@` nor `.` nor whitespace. -/
def Ordinary (c : Char) : Prop := c ≠ '@' ∧ c ≠ '.' ∧ isSpace c = false

instance (c : Char) : Decidable (Ordinary c) := inferInstanceAs (Decidable (_ ∧ _ ∧ _))

/-! ## Characters -/

theorem digitChar_of_mem_toDigits {n : Nat} : ∀ c ∈ Nat.toDigits 16 n, ∃ d < 16, c = Nat.digitChar d := by
  induction n using Nat.strongRecOn with
  | ind n inductionHypothesis =>
    rw [Nat.toDigits_eq_if (by omega)]
    split
    · rename_i small
      intro c member
      exact ⟨n, small, List.mem_singleton.mp member⟩
    · rename_i large
      intro c member
      obtain earlier | last := List.mem_append.mp member
      · exact inductionHypothesis (n / 16) (by omega) c earlier
      · exact ⟨n % 16, Nat.mod_lt _ (by omega), List.mem_singleton.mp last⟩

theorem ordinary_hexDigits (width n : Nat) : ∀ c ∈ (hexDigits width n).toList, Ordinary c := by
  have digits : ∀ d < 16, Ordinary (Nat.digitChar d) := by decide
  have zero : Ordinary '0' := by decide
  simp only [hexDigits, String.toList_ofList, List.forall_mem_append]
  constructor
  · intro c member
    rw [List.eq_of_mem_replicate member]
    exact zero
  · intro c member
    obtain ⟨d, small, rfl⟩ := digitChar_of_mem_toDigits c member
    exact digits d small

theorem ordinary_escape (kind : Char) (ordinary : Ordinary kind) (width n : Nat) :
    ∀ c ∈ (String.ofList [Char.ofNat 92, kind] ++ hexDigits width n).toList, Ordinary c := by
  have backslash : Ordinary (Char.ofNat 92) := by decide
  simp only [String.toList_append, String.toList_ofList, List.forall_mem_append, List.forall_mem_cons]
  exact ⟨⟨backslash, ordinary, nofun⟩, ordinary_hexDigits width n⟩

/-- Printable ASCII that neither text escapes. -/
def Kept (c : Char) : Prop := 32 ≤ c.toNat ∧ c.toNat ≤ 126 ∧ c.toNat ≠ 34 ∧ c.toNat ≠ 39 ∧ c.toNat ≠ 92

instance (c : Char) : Decidable (Kept c) := inferInstanceAs (Decidable (_ ∧ _ ∧ _ ∧ _ ∧ _))

theorem ordinary_of_not_kept {c : Char} (notKept : ¬ Kept c) (noSpace : isSpace c = false) : Ordinary c := by
  refine ⟨?_, ?_, noSpace⟩
  · rintro rfl
    exact notKept (by decide)
  · rintro rfl
    exact notKept (by decide)

section

variable {isPrintable : Char → Bool} {quote c : Char}

theorem reprChar_kept (isQuote : quote.toNat = 39 ∨ quote.toNat = 34) (kept : Kept c) :
    (reprChar isPrintable quote c).toList = [c] := by
  obtain ⟨low, high, noDouble, noSingle, noBackslash⟩ := kept
  have notQuote : c ≠ quote := by
    rintro rfl
    omega
  simp only [reprChar]
  rw [if_neg (by simp [notQuote, noBackslash]), if_neg (by omega), if_neg (by omega), if_neg (by omega), if_neg (by omega),
    if_pos (by omega), String.toList_ofList]

theorem jsonChar_kept (kept : Kept c) : (jsonChar c).toList = [c] := by
  obtain ⟨low, high, noDouble, noSingle, noBackslash⟩ := kept
  simp only [jsonChar]
  rw [if_neg (by omega), if_pos ⟨low, high⟩, String.toList_ofList]

/-- A text of ordinary characters, and not an empty one. -/
def Escaped (text : String) : Prop := text.toList ≠ [] ∧ ∀ x ∈ text.toList, Ordinary x

theorem Escaped.char {c : Char} (ordinary : Ordinary c) : Escaped (String.ofList [c]) := by
  simp [Escaped, ordinary]

/-- Two characters, the first of them a backslash. -/
theorem Escaped.pair {kind : Char} (ordinary : Ordinary kind) : Escaped (String.ofList [Char.ofNat 92, kind]) := by
  have backslash : Ordinary (Char.ofNat 92) := by decide
  simp [Escaped, backslash, ordinary]

theorem Escaped.code {kind : Char} (ordinary : Ordinary kind) (width n : Nat) :
    Escaped (String.ofList [Char.ofNat 92, kind] ++ hexDigits width n) :=
  ⟨by simp, ordinary_escape kind ordinary width n⟩

theorem Escaped.unicode (n : Nat) : Escaped (unicodeEscape n) :=
  Escaped.code (by decide) 4 n

theorem Escaped.append {text text' : String} (escaped : Escaped text) (escaped' : Escaped text') :
    Escaped (text ++ text') := by
  rw [Escaped, String.toList_append, List.forall_mem_append]
  exact ⟨List.append_ne_nil_of_left_ne_nil escaped.1 _, escaped.2, escaped'.2⟩

/-- Escaped, or with whitespace that is printed as it is. -/
def EscapedUnlessSpaced (text : String) : Prop := (∀ x ∈ text.toList, isSpace x = false) → Escaped text

theorem Escaped.unlessSpaced {text : String} (escaped : Escaped text) : EscapedUnlessSpaced text := fun _ => escaped

theorem reprChar_escaped (notKept : ¬ Kept c) : EscapedUnlessSpaced (reprChar isPrintable quote c) := by
  rw [reprChar]
  apply iteInduction
  · intro quoted noSpace
    exact Escaped.pair (ordinary_of_not_kept notKept (noSpace c (by simp)))
  intro _
  apply iteInduction
  · exact fun _ => (Escaped.pair (by decide)).unlessSpaced
  intro _
  apply iteInduction
  · exact fun _ => (Escaped.pair (by decide)).unlessSpaced
  intro _
  apply iteInduction
  · exact fun _ => (Escaped.pair (by decide)).unlessSpaced
  intro _
  apply iteInduction
  · exact fun _ => (Escaped.code (by decide) 2 _).unlessSpaced
  intro _
  apply iteInduction
  -- the only branch that writes the character itself
  · intro printable noSpace
    exact Escaped.char (ordinary_of_not_kept notKept (noSpace c (by simp)))
  intro _
  apply iteInduction
  · exact fun _ => (Escaped.code (by decide) 2 _).unlessSpaced
  intro _
  apply iteInduction
  · exact fun _ => (Escaped.code (by decide) 4 _).unlessSpaced
  · exact fun _ => (Escaped.code (by decide) 8 _).unlessSpaced

theorem jsonChar_escaped (notKept : ¬ Kept c) : Escaped (jsonChar c) := by
  have ordinary : ∀ n, c.toNat = n → isSpace (Char.ofNat n) = false → Ordinary c := by
    intro n code noSpace
    rw [← code, Char.ofNat_toNat] at noSpace
    exact ordinary_of_not_kept notKept noSpace
  rw [jsonChar]
  apply iteInduction
  · intro quoted
    obtain code | code := quoted
    · exact Escaped.pair (ordinary 34 code (by decide))
    · exact Escaped.pair (ordinary 92 code (by decide))
  intro notQuoted
  apply iteInduction
  · intro ascii
    have code : c.toNat = 39 := by
      unfold Kept at notKept
      omega
    exact Escaped.char (ordinary 39 code (by decide))
  intro _
  apply iteInduction
  · exact fun _ => Escaped.pair (by decide)
  intro _
  apply iteInduction
  · exact fun _ => Escaped.pair (by decide)
  intro _
  apply iteInduction
  · exact fun _ => Escaped.pair (by decide)
  intro _
  apply iteInduction
  · exact fun _ => Escaped.pair (by decide)
  intro _
  apply iteInduction
  · exact fun _ => Escaped.pair (by decide)
  intro _
  apply iteInduction
  · exact fun _ => Escaped.unicode _
  -- a surrogate pair
  · exact fun _ => (Escaped.unicode _).append (Escaped.unicode _)

theorem alike_char (isQuote : quote.toNat = 39 ∨ quote.toNat = 34)
    (noSpace : ∀ x ∈ (reprChar isPrintable quote c).toList, isSpace x = false) :
    Alike Ordinary (reprChar isPrintable quote c).toList (jsonChar c).toList := by
  by_cases kept : Kept c
  · rw [reprChar_kept isQuote kept, jsonChar_kept kept]
    exact Alike.refl _
  · obtain ⟨nonempty, ordinary⟩ := reprChar_escaped kept noSpace
    obtain ⟨nonempty', ordinary'⟩ := jsonChar_escaped kept
    exact Alike.ofOrdinary nonempty nonempty' (List.forall_mem_append.mpr ⟨ordinary, ordinary'⟩)

end

/-! ## Strings -/

theorem join_cons (part : String) (parts : List String) : join "" (part :: parts) = part ++ join "" parts := by
  cases parts with
  | nil => rw [join, join, String.intercalate_singleton, String.intercalate_nil, String.append_empty]
  | cons next rest => rw [join, join, String.intercalate_cons_cons, String.append_empty]

theorem alike_chars {isPrintable : Char → Bool} {quote : Char} (isQuote : quote.toNat = 39 ∨ quote.toNat = 34)
    (chars : List Char)
    (noSpace : ∀ x ∈ (join "" (chars.map (reprChar isPrintable quote))).toList, isSpace x = false) :
    Alike Ordinary (join "" (chars.map (reprChar isPrintable quote))).toList (join "" (chars.map jsonChar)).toList := by
  induction chars with
  | nil => exact Alike.refl _
  | cons c chars inductionHypothesis =>
    simp only [List.map_cons, join_cons, String.toList_append, List.forall_mem_append] at noSpace ⊢
    exact (alike_char isQuote noSpace.1).append (inductionHypothesis noSpace.2)

theorem reprQuote_cases (s : String) : (reprQuote s).toNat = 39 ∨ (reprQuote s).toNat = 34 := by
  rw [reprQuote]
  split
  · exact Or.inr rfl
  · exact Or.inl rfl

theorem alike_reprStr (py : Interpreter) (s : String) (noSpace : ∀ x ∈ (py.reprStr s).toList, isSpace x = false) :
    Alike Ordinary (py.reprStr s).toList (jsonString s).toList := by
  have isQuote := reprQuote_cases s
  have quotes : Alike Ordinary [reprQuote s] [Char.ofNat 34] := by
    have ordinary : ∀ c : Char, c.toNat = 39 ∨ c.toNat = 34 → Ordinary c := by
      intro c code
      rw [← c.ofNat_toNat]
      obtain code | code := code <;> rw [code] <;> decide
    refine Alike.ofOrdinary (List.cons_ne_nil _ _) (List.cons_ne_nil _ _) ?_
    simp [ordinary _ isQuote, ordinary (Char.ofNat 34) (Or.inr rfl)]
  simp only [Interpreter.reprStr, jsonString, String.toList_append, String.toList_ofList, List.forall_mem_append] at noSpace ⊢
  exact (quotes.append (alike_chars isQuote _ noSpace.1.2)).append quotes

/-! ## Values -/

theorem mem_join_head {separator part : String} {rest : List String} {c : Char} (member : c ∈ part.toList) :
    c ∈ (join separator (part :: rest)).toList := by
  cases rest with
  | nil => rwa [join, String.intercalate_singleton]
  | cons next rest =>
    rw [join, String.intercalate_cons_cons, String.toList_append, String.toList_append, List.append_assoc]
    exact List.mem_append_left _ member

theorem join_pair_spaced (first second : String) (rest : List String) :
    ' ' ∈ (join ", " (first :: second :: rest)).toList := by
  rw [join, String.intercalate_cons_cons, String.toList_append, String.toList_append]
  simp

/-- Two words of ordinary characters. -/
theorem alike_words {word word' : List Char} (nonempty : word ≠ []) (nonempty' : word' ≠ [])
    (ordinary : (word ++ word').all (fun c => decide (Ordinary c)) = true) : Alike Ordinary word word' := by
  apply Alike.ofOrdinary nonempty nonempty'
  intro c member
  exact of_decide_eq_true (List.all_eq_true.mp ordinary c member)

theorem jsonFloat_finite (x : Binary64) : jsonFloat (.finite x) = reprFloat (.finite x) := rfl

theorem alike_float (x : PyFloat) : Alike Ordinary (reprFloat x).toList (jsonFloat x).toList := by
  cases x with
  | nan => exact alike_words (by decide) (by decide) (by decide)
  | infinity negative => cases negative <;> exact alike_words (by decide) (by decide) (by decide)
  | finite x =>
    rw [jsonFloat_finite]
    exact Alike.refl _

/-- Without whitespace the two texts of a value are alike. -/
theorem repr_alike_dumps (py : Interpreter) (value : Json) (noSpace : ∀ x ∈ (py.repr value).toList, isSpace x = false) :
    Alike Ordinary (py.repr value).toList value.dumps.toList := by
  cases value with
  | null =>
    rw [Interpreter.repr, Json.dumps]
    exact alike_words (by decide) (by decide) (by decide)
  | bool value =>
    cases value <;> rw [Interpreter.repr, Json.dumps] <;> exact alike_words (by decide) (by decide) (by decide)
  | int =>
    rw [Interpreter.repr, Json.dumps]
    exact Alike.refl _
  | float x =>
    rw [Interpreter.repr, Json.dumps]
    exact alike_float x
  | str s =>
    rw [Interpreter.repr] at noSpace ⊢
    rw [Json.dumps]
    exact alike_reprStr py s noSpace
  | list items =>
    rw [Interpreter.repr] at noSpace ⊢
    rw [Json.dumps]
    cases items with
    | nil =>
      rw [Interpreter.reprItems, Json.dumpsItems]
      exact Alike.refl _
    | cons item rest =>
      cases rest with
      | nil =>
        simp only [Interpreter.reprItems, Json.dumpsItems, join, String.intercalate_singleton, String.toList_append,
          List.forall_mem_append] at noSpace ⊢
        exact ((Alike.refl _).append (repr_alike_dumps py item noSpace.1.2)).append (Alike.refl _)
      -- items are separated by a comma and a space
      | cons second rest =>
        simp only [Interpreter.reprItems, String.toList_append, List.forall_mem_append] at noSpace
        have separated := noSpace.1.2 ' ' (join_pair_spaced _ _ _)
        exact absurd separated (by decide)
  | object entries =>
    rw [Interpreter.repr] at noSpace ⊢
    rw [Json.dumps]
    cases entries with
    | nil =>
      rw [Interpreter.reprEntries, Json.dumpsEntries]
      exact Alike.refl _
    -- a name and its value are separated by a colon and a space
    | cons entry rest =>
      obtain ⟨name, value⟩ := entry
      simp only [Interpreter.reprEntries, String.toList_append, List.forall_mem_append] at noSpace
      have separated := noSpace.1.2 ' ' (mem_join_head (by simp))
      exact absurd separated (by decide)
termination_by sizeOf value

end SurveyPlatform.Python
