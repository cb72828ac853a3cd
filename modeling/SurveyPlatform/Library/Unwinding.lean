import SurveyPlatform.Library.Runs

/-! # What an observer learns

Two machines of one kind serve the same requests of an observer, and between them
each takes hidden actions of its own.  Where alike states answer an observed request
alike and stay alike, and a hidden action leaves a state alike, the two are told
apart by none of their answers (`unwinding`).
-/

namespace SurveyPlatform.Library

/-- Requests that are answered, and actions that nobody sees. -/
structure Machine (S A H B : Type*) where
  serve : S → A → S
  answer : S → A → B
  act : S → H → S

/-- A request to both machines, or a hidden action of one of them. -/
inductive TwinEvent (A H : Type*) where
  | observed (request : A)
  | left (action : H)
  | right (action : H)

section Unwinding

variable {S A H B : Type*} {m : Machine S A H B}

def Machine.twin (m : Machine S A H B) (states : S × S) : TwinEvent A H → S × S
  | .observed request => (m.serve states.1 request, m.serve states.2 request)
  | .left action => (m.act states.1 action, states.2)
  | .right action => (states.1, m.act states.2 action)

/-- Each event is one that the conditions below speak about. -/
def Admissible (observable : S → S → A → Prop) (concealed : S → H → Prop) (states : S × S) : TwinEvent A H → Prop
  | .observed request => observable states.1 states.2 request
  | .left action => concealed states.1 action
  | .right action => concealed states.2 action

def AnsweredAlike (m : Machine S A H B) (states : S × S) (event : TwinEvent A H) : Prop :=
  ∀ request, event = .observed request → m.answer states.2 request = m.answer states.1 request

/-- The unwinding conditions, on regular states. -/
structure Unwinds (m : Machine S A H B) (alike : S → S → Prop) (regular : S → Prop) (observable : S → S → A → Prop)
    (concealed : S → H → Prop) : Prop where
  symm : ∀ {s t}, alike s t → alike t s
  trans : ∀ {s t u}, alike s t → alike t u → alike s u
  answers : ∀ {s t request}, alike s t → observable s t request → m.answer t request = m.answer s request
  consistent : ∀ {s t request}, alike s t → observable s t request → alike (m.serve s request) (m.serve t request)
  hides : ∀ {s action}, regular s → concealed s action → alike s (m.act s action)
  serveRegular : ∀ {s} request, regular s → regular (m.serve s request)
  actRegular : ∀ {s action}, regular s → concealed s action → regular (m.act s action)

variable {alike : S → S → Prop} {regular : S → Prop} {observable : S → S → A → Prop} {concealed : S → H → Prop}

/-- Two alike and regular states stay so. -/
theorem Unwinds.twin (unwinds : Unwinds m alike regular observable concealed) (states : S × S) (event : TwinEvent A H)
    (admissible : Admissible observable concealed states event)
    (before : alike states.1 states.2 ∧ regular states.1 ∧ regular states.2) :
    alike (m.twin states event).1 (m.twin states event).2 ∧ regular (m.twin states event).1 ∧
      regular (m.twin states event).2 := by
  obtain ⟨areAlike, regularLeft, regularRight⟩ := before
  cases event with
  | observed request =>
    exact ⟨unwinds.consistent areAlike admissible, unwinds.serveRegular request regularLeft,
      unwinds.serveRegular request regularRight⟩
  | left action =>
    have moved := unwinds.hides regularLeft admissible
    exact ⟨unwinds.trans (unwinds.symm moved) areAlike, unwinds.actRegular regularLeft admissible, regularRight⟩
  | right action =>
    have moved := unwinds.hides regularRight admissible
    exact ⟨unwinds.trans areAlike moved, regularLeft, unwinds.actRegular regularRight admissible⟩

/-- The observer is answered alike throughout. -/
theorem unwinding (unwinds : Unwinds m alike regular observable concealed) {s t : S} (start : alike s t)
    (regularLeft : regular s) (regularRight : regular t) {events : List (TwinEvent A H)}
    (admissible : Along m.twin (Admissible observable concealed) (s, t) events) :
    Along m.twin (AnsweredAlike m) (s, t) events := by
  refine Along.mono ?_ unwinds.twin ⟨start, regularLeft, regularRight⟩ admissible
  rintro states _ ⟨areAlike, _⟩ isAdmissible request rfl
  exact unwinds.answers areAlike isAdmissible

end Unwinding

end SurveyPlatform.Library
