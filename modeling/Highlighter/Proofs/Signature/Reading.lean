import Highlighter.Signature.Scan

/-!
# Reading a text from a state

A parameter list is read one character at a time, and each character leads from one state to the
next. This file is about reading a whole text: the state after it, and what its characters were
taken for on the way.

## Main definitions

* `ScanState.after` — the state after a text

## Main results

* `ScanState.after_keeps` — what each character keeps, a text keeps
* `ScanState.steps_append` — a text is read as its parts are read one after the other
* `ScanState.snd_of_getElem?_steps` — the states on the way are those after the parts of the text
-/

namespace Highlighter.Signature.ScanState

variable (lexis : Lexis) (state : ScanState)

/-- The state after a text was read. -/
def after (text : List Char) : ScanState :=
  text.foldl (fun state c => (state.step lexis c).2) state

@[simp]
theorem after_nil : state.after lexis [] = state :=
  rfl

@[simp]
theorem after_cons (c : Char) (text : List Char) :
    state.after lexis (c :: text) = (state.step lexis c).2.after lexis text :=
  rfl

theorem after_append (first second : List Char) :
    state.after lexis (first ++ second) = (state.after lexis first).after lexis second :=
  List.foldl_append

variable {lexis} in
/-- What each character keeps, a text keeps. -/
theorem after_keeps {P : ScanState → Prop}
    (keeps : ∀ {state : ScanState}, P state → ∀ c, P (state.step lexis c).2) {state : ScanState}
    (h : P state) (text : List Char) : P (state.after lexis text) := by
  induction text generalizing state with
  | nil => exact h
  | cons c text ih => exact ih (keeps h c)

@[simp]
theorem length_steps (text : List Char) : (state.steps lexis text).length = text.length := by
  induction text generalizing state with
  | nil => rfl
  | cons c text ih => simp [steps, ih]

/-- A text is read as its parts are read one after the other. -/
theorem steps_append (first second : List Char) :
    state.steps lexis (first ++ second) =
      state.steps lexis first ++ (state.after lexis first).steps lexis second := by
  induction first generalizing state with
  | nil => rfl
  | cons c first ih => simp [steps, ih]

/-- The state after some characters is the one on the way after the last of them. -/
theorem snd_of_getElem?_steps {text : List Char} {place : Nat} {result : Boundary × ScanState}
    (h : (state.steps lexis text)[place]? = some result) :
    result.2 = state.after lexis (text.take (place + 1)) := by
  induction text generalizing state place with
  | nil => simp [steps] at h
  | cons c text ih =>
    cases place with
    | zero =>
      have hresult : state.step lexis c = result := by simpa [steps] using h
      simp [← hresult]
    | succ place => exact ih _ (by simpa [steps] using h)

end Highlighter.Signature.ScanState
