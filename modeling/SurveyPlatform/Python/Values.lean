import SurveyPlatform.Python.Float
import Mathlib.Data.Finset.Lattice.Fold
import Mathlib.Order.Lattice.Nat

/-! # Decoded JSON values and exceptions

`Json` is what `json.loads` and a `JSONField` hand to the code, with the
operations applied to it: truth value, `str`, `repr`, `float`, iteration,
`isinstance` and comparison of numbers, `==`.  Operations that can raise return
`Except PyExn`; `tryExcept` is `try`/`except` on such a value.
-/

namespace SurveyPlatform.Python

/-! ## Exceptions -/

/-- The exceptions the code raises or lets through. Django's `ValidationError`
comes with one message, or with one message under a field name; the REST
framework's comes with messages under field names. -/
inductive PyExn where
  | valueError
  | typeError
  | overflowError
  | recursionError
  | keyError
  | attributeError
  | reError
  | validationError (message : String)
  | validationErrorDict (field message : String)
  | integrityError
  | dataError
  | databaseError
  | http404
  | permissionDenied
  | apiValidationError (errors : List (String × String))
  deriving DecidableEq, Repr

/-- `try: body` / `except <caught>: handler` -/
def tryExcept {α : Type*} (caught : PyExn → Bool) (handler body : Except PyExn α) : Except PyExn α :=
  match body with
  | .ok value => .ok value
  | .error exn => if caught exn then handler else .error exn

/-- `except (ValueError, TypeError)` -/
def PyExn.isValueOrType : PyExn → Bool
  | .valueError | .typeError => true
  | _ => false

theorem bind_eq_ok {ε α β : Type} {x : Except ε α} {f : α → Except ε β} {result : β} :
    (x >>= f) = .ok result ↔ ∃ a, x = .ok a ∧ f a = .ok result := by
  cases x with
  | error exn => simp [bind, Except.bind]
  | ok a => simp [bind, Except.bind]

theorem pure_eq_ok {ε α : Type} {a b : α} : (pure a : Except ε α) = .ok b ↔ b = a := by
  simp [pure, Except.pure, eq_comm]

/-- A loop whose rounds each compute a value and record it completes exactly
when every value can be computed. -/
theorem foldlM_record_returns_iff {ε σ α β : Type} (record : σ → α → β → σ) {compute : α → Except ε β}
    {items : List α} (start : σ) :
    (∃ result, items.foldlM (fun s x => record s x <$> compute x) start = .ok result) ↔
      ∀ x ∈ items, ∃ value, compute x = .ok value := by
  induction items generalizing start with
  | nil => simp [pure, Except.pure]
  | cons head rest inductionHypothesis =>
    rw [List.foldlM_cons, List.forall_mem_cons]
    cases computed : compute head with
    | error exn => simp [Functor.map, Except.map, bind, Except.bind]
    | ok value =>
      simpa [Functor.map, Except.map, bind, Except.bind] using inductionHypothesis (record start head value)

/-! ## Values -/

inductive Json where
  | null
  | bool (value : Bool)
  | int (value : Int)
  | float (value : PyFloat)
  | str (value : String)
  | list (items : List Json)
  | object (entries : List (String × Json))

namespace Json

/-- `x is None` -/
def isNone : Json → Bool
  | null => true
  | _ => false

/-- `isinstance(x, str)` -/
def isStr : Json → Bool
  | str _ => true
  | _ => false

/-- `isinstance(x, int)`; booleans are integers. -/
def isInt : Json → Bool
  | bool _ | int _ => true
  | _ => false

/-- `isinstance(x, (int, float))` -/
def isNumber : Json → Bool
  | bool _ | int _ | float _ => true
  | _ => false

/-- `bool(x)` -/
def truthy : Json → Bool
  | null => false
  | bool value => value
  | int value => value != 0
  -- NaN is true, and both zeros are false
  | float value => !value.eq (.ofRatio false 0 1)
  | str value => value != ""
  | list items => !items.isEmpty
  | object entries => !entries.isEmpty

/-- `iter(x)`: the items of a list, the characters of a string, the keys of an object. -/
def iterate : Json → Except PyExn (List Json)
  | list items => .ok items
  | str value => .ok (value.toList.map fun c => str (String.ofList [c]))
  | object entries => .ok (entries.map fun entry => str entry.1)
  | _ => .error .typeError

/-- `len(x)` -/
def length (value : Json) : Except PyExn Nat := (List.length ·) <$> value.iterate

end Json

/-! ## `str` and `repr` -/

mutual
/-- `repr(x)` -/
def Interpreter.repr (py : Interpreter) : Json → String
  | .null => "None"
  | .bool true => "True"
  | .bool false => "False"
  | .int value => toString value
  | .float value => reprFloat value
  | .str value => py.reprStr value
  | .list items => "[" ++ join ", " (py.reprItems items) ++ "]"
  | .object entries => "\x7b" ++ join ", " (py.reprEntries entries) ++ "\x7d"

def Interpreter.reprItems (py : Interpreter) : List Json → List String
  | [] => []
  | item :: rest => py.repr item :: py.reprItems rest

def Interpreter.reprEntries (py : Interpreter) : List (String × Json) → List String
  | [] => []
  | (name, value) :: rest => (py.reprStr name ++ ": " ++ py.repr value) :: py.reprEntries rest
end

/-- `str(x)` -/
def Interpreter.str (py : Interpreter) : Json → String
  | .str value => value
  | value => py.repr value

/-- `[str(x) for x in iterable]` -/
def Interpreter.strs (py : Interpreter) (iterable : Json) : Except PyExn (List String) :=
  (List.map py.str ·) <$> iterable.iterate

/-! ## Numbers -/

/-- `float(n)` for an integer. -/
def floatOfInt (n : Int) : Except PyExn PyFloat :=
  match PyFloat.ofRatio (n < 0) n.natAbs 1 with
  -- the integer is too large for a double
  | .infinity _ => .error .overflowError
  | x => .ok x

/-- `float(x)` -/
def Json.toFloat : Json → Except PyExn PyFloat
  | .bool value => floatOfInt value.toInt
  | .int value => floatOfInt value
  | .float value => .ok value
  | .str value => match parseFloat value with
    | some x => .ok x
    | none => .error .valueError
  | .null | .list _ | .object _ => .error .typeError

/-- An integer beyond the doubles. -/
def Json.isHuge : Json → Bool
  | .int value => (2 ^ 54 - 1) * 2 ^ 970 ≤ value.natAbs
  | _ => false

section Overflow

-- the rounding must not be unfolded on a variable
attribute [local irreducible] PyFloat.ofRatio

theorem floatOfInt_eq : floatOfInt = fun n =>
    match PyFloat.ofRatio (n < 0) n.natAbs 1 with
    | .infinity _ => .error .overflowError
    | x => .ok x := rfl

/-- The conversion of an integer fails exactly beyond the doubles. -/
theorem floatOfInt_cases (n : Int) :
    (floatOfInt n = .error .overflowError ∧ (2 ^ 54 - 1) * 2 ^ 970 ≤ n.natAbs) ∨
      ((∃ x, floatOfInt n = .ok x) ∧ n.natAbs < (2 ^ 54 - 1) * 2 ^ 970) := by
  have overflow := @ofRatio_one_eq_infinity (n < 0) n.natAbs
  have sign : ∀ sign, PyFloat.ofRatio (n < 0) n.natAbs 1 = .infinity sign → sign = decide (n < 0) :=
    fun _ => PyFloat.sign_of_ofRatio
  rw [floatOfInt_eq]
  beta_reduce
  generalize PyFloat.ofRatio (n < 0) n.natAbs 1 = rounded at overflow sign
  cases rounded with
  | infinity sign' => exact Or.inl ⟨rfl, overflow.mp (by rw [sign _ rfl])⟩
  | nan => exact Or.inr ⟨⟨_, rfl⟩, Nat.not_le.mp fun huge => by cases overflow.mpr huge⟩
  | finite x => exact Or.inr ⟨⟨_, rfl⟩, Nat.not_le.mp fun huge => by cases overflow.mpr huge⟩

end Overflow

/-- `float` overflows on a huge integer; otherwise it returns, or raises what its callers catch. -/
theorem Json.toFloat_cases (value : Json) :
    (value.isHuge = true ∧ value.toFloat = .error .overflowError) ∨
      (value.isHuge = false ∧ ((∃ x, value.toFloat = .ok x) ∨
        ∃ exn, value.toFloat = .error exn ∧ exn.isValueOrType = true)) := by
  cases value with
  | bool value =>
    have small : value.toInt.natAbs ≤ 1 := by cases value <;> decide
    obtain ⟨_, huge⟩ | ⟨returns, _⟩ := floatOfInt_cases value.toInt
    · have room := Nat.two_pow_pos 970
      omega
    · exact Or.inr ⟨rfl, Or.inl returns⟩
  | int value =>
    simp only [isHuge, toFloat, decide_eq_true_eq, decide_eq_false_iff_not, Nat.not_le]
    obtain ⟨overflows, huge⟩ | ⟨returns, small⟩ := floatOfInt_cases value
    · exact Or.inl ⟨huge, overflows⟩
    · exact Or.inr ⟨small, Or.inl returns⟩
  | str value =>
    refine Or.inr ⟨rfl, ?_⟩
    rw [toFloat]
    cases parseFloat value with
    | some x => exact Or.inl ⟨x, rfl⟩
    | none => exact Or.inr ⟨_, rfl, rfl⟩
  | float value => exact Or.inr ⟨rfl, Or.inl ⟨value, rfl⟩⟩
  | _ => exact Or.inr ⟨rfl, Or.inr ⟨.typeError, rfl, rfl⟩⟩

/-- Comparing `float(x)` with `float(y)` overflows, past the handler. -/
def FloatOverflows (x y : Json) : Prop :=
  x.isHuge = true ∨ ((∃ converted, x.toFloat = .ok converted) ∧ y.isHuge = true)

theorem compareFloats_returns_iff (x y : Json) (compare : PyFloat → PyFloat → Bool) :
    (∃ holds, tryExcept PyExn.isValueOrType (.ok false) (do
      let first ← x.toFloat
      let second ← y.toFloat
      return compare first second) = .ok holds) ↔ ¬ FloatOverflows x y := by
  unfold FloatOverflows
  obtain ⟨huge, raised⟩ | ⟨notHuge, ⟨first, converted⟩ | ⟨exn, raised, caught⟩⟩ := x.toFloat_cases
  · simp [huge, raised, tryExcept, bind, Except.bind, PyExn.isValueOrType]
  · obtain ⟨huge, raised⟩ | ⟨notHuge', ⟨second, converted'⟩ | ⟨exn, raised, caught⟩⟩ := y.toFloat_cases
    · simp [huge, converted, raised, tryExcept, bind, Except.bind, PyExn.isValueOrType]
    · simp [notHuge, notHuge', converted, converted', tryExcept, bind, Except.bind, pure, Except.pure]
    · simp [notHuge, notHuge', converted, raised, tryExcept, bind, Except.bind, caught]
  -- the second number is not converted once the first has failed
  · simp [notHuge, raised, tryExcept, bind, Except.bind, caught]

/-- A number as Python compares it: integers exactly, also against floats. -/
inductive Number where
  | int (value : Int)
  | float (value : PyFloat)

def Json.number? : Json → Option Number
  | .bool value => some (.int value.toInt)
  | .int value => some (.int value)
  | .float value => some (.float value)
  | _ => none

/-- `x < y` -/
def Number.lt : Number → Number → Bool
  | .int x, .int y => decide (x < y)
  -- both sides in units of 2⁻¹⁰⁷⁴, so a large integer is not rounded first
  | .int x, .float (.finite y) => decide (x * 2 ^ 1074 < y.signedUnits)
  | .float (.finite x), .int y => decide (x.signedUnits < y * 2 ^ 1074)
  | .int _, .float (.infinity negative) => !negative
  | .float (.infinity negative), .int _ => negative
  | .int _, .float .nan | .float .nan, .int _ => false
  | .float x, .float y => x.lt y

/-- `x == y` -/
def Number.eq : Number → Number → Bool
  | .int x, .int y => decide (x = y)
  | .int x, .float (.finite y) | .float (.finite y), .int x => decide (x * 2 ^ 1074 = y.signedUnits)
  | .int _, .float _ | .float _, .int _ => false
  | .float x, .float y => x.eq y

/-- `x < y` where an operand may be no number at all. -/
def Json.ltNumber (x y : Json) : Except PyExn Bool :=
  match x.number?, y.number? with
  | some x, some y => .ok (x.lt y)
  | _, _ => .error .typeError

/-! ## `==` -/

mutual
/-- `x == y` -/
def Json.pyEq : Json → Json → Bool
  | .null, .null => true
  | .str x, .str y => x == y
  | .list xs, .list ys => Json.pyEqItems xs ys
  -- the order of the entries does not count
  | .object xs, .object ys => xs.length == ys.length && Json.pyEqEntries xs ys
  -- `True == 1 == 1.0`; across other types nothing is equal
  | x, y => match x.number?, y.number? with
    | some x, some y => x.eq y
    | _, _ => false

def Json.pyEqItems : List Json → List Json → Bool
  | [], [] => true
  | x :: xs, y :: ys => Json.pyEq x y && Json.pyEqItems xs ys
  | _, _ => false

/-- Every entry of the first object is one of the second. -/
def Json.pyEqEntries : List (String × Json) → List (String × Json) → Bool
  | [], _ => true
  | (name, value) :: rest, ys =>
    (match ys.lookup name with
      | some value' => Json.pyEq value value'
      | none => false) && Json.pyEqEntries rest ys
end

/-! ## Sets of integers

A loop over a `set` meets every element once, in an order the language leaves
open; `SetOrder` is any such order. -/

structure SetOrder where
  iterate : Finset Nat → List Nat
  nodup : ∀ s, (iterate s).Nodup
  mem_iterate : ∀ s x, x ∈ iterate s ↔ x ∈ s

/-- Smallest first. -/
def SetOrder.ascending : SetOrder where
  iterate s := (List.range (s.sup id + 1)).filter (· ∈ s)
  nodup _ := List.nodup_range.filter _
  mem_iterate s x := by
    simp only [List.mem_filter, List.mem_range, decide_eq_true_eq, and_iff_right_iff_imp]
    intro member
    have bounded : id x ≤ s.sup id := Finset.le_sup member
    simp only [id] at bounded
    omega

/-! ## Patterns given as data -/

def PatternError.exn : PatternError → PyExn
  | .invalid => .reError
  | .overflow => .overflowError
  | .recursion => .recursionError

/-- `re.compile(pattern)` -/
def Interpreter.reCompile (py : Interpreter) (pattern : String) : Except PyExn Unit :=
  match py.patternError? pattern with
  | none => .ok ()
  | some error => .error error.exn

/-- `re.match(pattern, s)` for a pattern that came as JSON. -/
def Interpreter.reMatch (py : Interpreter) (pattern : Json) (s : String) : Except PyExn Bool :=
  match pattern with
  | .str pattern => do
    py.reCompile pattern
    return py.reMatches pattern s
  | _ => .error .typeError

end SurveyPlatform.Python
