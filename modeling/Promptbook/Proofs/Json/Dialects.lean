import Promptbook.Proofs.Json.Brief

/-!
# One value in two dialects

An embedded text may nest more deeply than a document, and halves of surrogate pairs may stand in
it, as well as fractions with any number of digits.  Apart from such texts the dialects agree: what
a text holds as a document, it also holds as an embedded text.
-/

namespace Promptbook.Json

namespace Machine

variable {stack : List Frame} {m m' : Machine} {t : Token}

/-- Where a document may hold anything, an embedded text may open a further array or object. -/
theorem depthFault?_embedded (h : contentFault? .document stack = none) (isArray : Bool) :
    depthFault? .embedded isArray stack = none := by
  have hdocument : stack.length ≤ Dialect.filledDepth := by simpa [contentFault?] using h
  have hembedded : stack.length < Dialect.openDepth := hdocument.trans_lt (by decide)
  simpa [depthFault?] using hembedded

/-- A number that is short enough for a document is short enough for an embedded text. -/
theorem numberFault?_embedded {isWhole : Bool} {digits : ℕ}
    (h : numberFault? .document isWhole digits = none) :
    numberFault? .embedded isWhole digits = none := by
  have hdigits : digits ≤ Numeral.digitLimit := by simpa [numberFault?] using h
  simp [numberFault?, hdigits]

/-- A machine that one dialect lets pass, the other lets pass where it finds no fault of its own. -/
theorem guarded_embedded {document embedded : Option SyntaxFault}
    (h : guarded (contentFault? .document stack <|> document) m = .ok m')
    (hembedded : contentFault? .document stack = none → document = none → embedded = none) :
    guarded (contentFault? .embedded stack <|> embedded) m = .ok m' := by
  obtain ⟨hfault, rfl⟩ := guarded_eq_ok h
  rw [Option.orElse_eq_orElse, Option.orElse_eq_or, Option.or_eq_none_iff] at hfault
  rw [hembedded hfault.1 hfault.2]
  rfl

theorem startValue_embedded (h : startValue .document stack t = .ok m') :
    startValue .embedded stack t = .ok m' := by
  cases t with
  | openArray | openObject =>
    apply guarded_embedded h
    intro hcontent _
    exact depthFault?_embedded hcontent _
  | scalar j =>
    obtain ⟨-, rfl⟩ := guarded_eq_ok h
    rfl
  | number j digits =>
    apply guarded_embedded h
    intro _ hnumber
    exact numberFault?_embedded hnumber
  | string s =>
    apply guarded_embedded h
    intro _ _
    rfl
  | closeArray | closeObject | comma | colon | faulty | stray | finish => cases h

theorem startName_embedded {ms : List (Spelling × Json)}
    (h : startName .document ms stack t = .ok m') : startName .embedded ms stack t = .ok m' := by
  cases t with
  | string s =>
    apply guarded_embedded h
    intro _ _
    rfl
  | openArray | openObject | closeArray | closeObject | comma | colon | scalar | number | faulty
    | stray | finish => cases h

/-- A step that the machine takes in a document, it takes in an embedded text. -/
theorem step_embedded (h : step .document m t = .ok m') : step .embedded m t = .ok m' := by
  revert h
  fun_cases step .document m t with
  | case1 | case3 | case4 | case5 | case6 | case7 | case8 | case10 => exact id
  | case2 | case9 | case11 =>
    intro h
    cases h
  | case12 members name stack => exact startName_embedded
  | case13 members name stack =>
    intro h
    rw [step]
    · exact startName_embedded h
    · assumption
  | case14 next stack =>
    intro h
    rw [step]
    · exact startValue_embedded h
    all_goals assumption

end Machine

/-- A run of the machine in a document is a run in an embedded text. -/
theorem run_embedded {m m' : Machine} {ls : List Lexeme} (h : run .document m ls = .ok m') :
    run .embedded m ls = .ok m' := by
  induction ls generalizing m with
  | nil => exact h
  | cons l ls ih =>
    rw [run] at h ⊢
    cases hl : m.step .document l.token with
    | error f =>
      rw [hl] at h
      cases h
    | ok m₁ =>
      rw [hl] at h
      rw [Machine.step_embedded hl]
      exact ih h

/-- What a text holds in a dialect with limits, it holds as an embedded text. -/
theorem parse_embedded {d : Dialect} (hd : d ≠ .free) {text : String} {j : Json}
    (h : parse d text = .ok j) : parse .embedded text = .ok j := by
  cases d with
  | free => exact absurd rfl hd
  | embedded => exact h
  | document =>
    rw [parse] at h ⊢
    split_ifs at h ⊢ with hmark
    split at h
    next i hrun =>
      rw [run_embedded hrun]
      exact h
    next => cases h
    next => cases h

/-- Whether a text nests no more deeply than embedded texts may. -/
def Shallow (text : String) : Prop :=
  ∀ m, parse .embedded text = .error m → ∀ isArray, m.fault ≠ .depth isArray

end Promptbook.Json
