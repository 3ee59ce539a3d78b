import Promptbook.Proofs.Json.Dialects
import Promptbook.Proofs.Record.Admitted

/-!
# What is told of a document

All problems of a document are told together, unless a text that stands in it for a list is nested
too deeply.  Shapes without such texts tell everything.
-/

namespace Promptbook.Record

variable {σ τ : Type}

/-- Whether a fault is that of a text that is nested too deeply to be read. -/
def Fault.isTooDeep : Fault → Bool
  | .malformed m => match m.fault with
    | .depth _ => true
    | _ => false
  | _ => false

theorem Problem.tooDeep?_eq_none {ps : List Problem} (h : ∀ p ∈ ps, p.fault.isTooDeep = false) :
    Problem.tooDeep? ps = none := by
  rw [Problem.tooDeep?, List.findSome?_eq_none_iff]
  intro p hp
  have hfault := h p hp
  revert hfault
  fun_cases Fault.isTooDeep p.fault <;> simp_all

/-- Whether no fault is that of a text that is nested too deeply. -/
def Tells (e : Except Fault τ) : Prop := ∀ f, e = .error f → f.isTooDeep = false

namespace Tells

theorem ok (t : τ) : Tells (.ok t : Except Fault τ) := nofun

theorem error {f : Fault} (h : f.isTooDeep = false) : Tells (.error f : Except Fault τ) := by
  rintro f ⟨⟩
  exact h

theorem bind {a : Except Fault σ} {f : σ → Except Fault τ} (ha : Tells a) (hf : ∀ s, Tells (f s)) :
    Tells (a >>= f) := by
  cases a with
  | ok s => exact hf s
  | error e => exact error (ha e rfl)

theorem within {fault : Option Fault} (h : ∀ f ∈ fault, f.isTooDeep = false) (t : τ) :
    Tells (within fault t) := by
  cases fault with
  | none => exact ok t
  | some f => exact error (h f rfl)

theorem readSpelled {read : String → Except Fault τ} (h : ∀ t, Tells (read t)) (s : Spelling) :
    Tells (readSpelled read s) := by
  rw [Record.readSpelled]
  cases s.text? with
  | none => exact error rfl
  | some t => exact h t

theorem range (r : Range) (x : Float) : ∀ f ∈ r.fault? x, f.isTooDeep = false := by
  fun_cases Range.fault? x r <;> simp [Fault.isTooDeep]

theorem readText (j : Json) : Tells (readText j) := by
  fun_cases Record.readText j with
  | case1 s => exact ok s
  | case2 => exact error rfl

theorem toNumber (site : Site) (j : Json) : Tells (toNumber site j) := by
  fun_cases Record.toNumber site j with
  | case1 x => exact ok x
  | case2 n =>
    rw [numberOfInteger]
    split_ifs
    · exact error rfl
    · exact ok _
  | case3 b => exact ok _
  | case4 s =>
    apply readSpelled
    intro t
    cases Numeral.ofText? t with
    | none => exact error rfl
    | some x => exact ok x
  | case5 => exact error rfl

theorem readNumber (site : Site) (r : Range) (j : Json) : Tells (readNumber site r j) :=
  (toNumber site j).bind fun x => within (range r x) x

theorem wholeNumber (x : Float) : Tells (wholeNumber x) := by
  fun_cases Record.wholeNumber x with
  | case3 => exact ok _
  | _ => exact error rfl

theorem toInteger (j : Json) : Tells (toInteger j) := by
  fun_cases Record.toInteger j with
  | case1 n => exact ok n
  | case2 b => exact ok _
  | case3 x => exact wholeNumber x
  | case4 s =>
    apply readSpelled
    intro t
    cases Numeral.intOfText t with
    | ok n => exact ok n
    | error f => cases f <;> exact error rfl
  | case5 => exact error rfl

theorem readInteger (least : Option Int) (j : Json) : Tells (readInteger least j) := by
  refine (toInteger j).bind fun n => within ?_ n
  rw [belowLeast?]
  cases least with
  | none => exact nofun
  | some b =>
    rw [Option.bind_some]
    split_ifs
    · exact nofun
    · rintro f ⟨⟩
      rfl

theorem flagOfInteger (n : Int) : Tells (flagOfInteger n) := by
  rw [Record.flagOfInteger]
  split_ifs
  · exact ok _
  · exact ok _
  · exact error rfl
  · exact error rfl

theorem readFlag (j : Json) : Tells (readFlag j) := by
  fun_cases Record.readFlag j with
  | case1 b => exact ok b
  | case2 n => exact flagOfInteger n
  | case3 x n hn => exact flagOfInteger n
  | case4 x f hf => exact error rfl
  | case5 s =>
    apply readSpelled
    intro t
    rw [flagOfWord]
    split_ifs
    · exact ok _
    · exact ok _
    · exact error rfl
  | case6 => exact error rfl

theorem readWord (v : Vocabulary τ) (j : Json) : Tells (readWord v j) := by
  fun_cases Record.readWord v j with
  | case1 s =>
    apply readSpelled
    intro t
    cases v.ofWord? t with
    | none => exact error rfl
    | some x => exact ok x
  | case2 => exact error rfl

theorem readLiteral (w : String) (j : Json) : Tells (readLiteral w j) := by
  fun_cases Record.readLiteral w j with
  | case1 => exact ok _
  | case2 => exact error rfl
  | case3 => exact error rfl

end Tells

/-- Whether all that is wrong is told. -/
def Checked.Told (c : Checked τ) : Prop :=
  ∀ ps, c = .error ps → ∀ p ∈ ps, p.fault.isTooDeep = false

namespace Checked.Told

variable {a : Checked σ} {b : Checked τ}

theorem ok (t : τ) : Checked.Told (.ok t) := nofun

theorem error {ps : List Problem} (h : ∀ p ∈ ps, p.fault.isTooDeep = false) :
    Checked.Told (.error ps : Checked τ) := by
  rintro ps ⟨⟩
  exact h

theorem fail {f : Fault} (h : f.isTooDeep = false) : (Checked.fail f : Checked τ).Told := by
  apply error
  rw [List.forall_mem_singleton]
  exact h

theorem ofScalar {e : Except Fault τ} (h : Tells e) : (Checked.ofScalar e).Told := by
  cases e with
  | ok t => exact ok t
  | error f => exact fail (h f rfl)

theorem under (h : b.Told) (s : Step) : (Checked.under s b).Told := by
  cases b with
  | ok t => exact ok t
  | error ps => exact error (List.forall_mem_map.2 (h ps rfl))

theorem map (h : a.Told) (f : σ → τ) : Checked.Told (a.map f) := by
  cases a with
  | ok s => exact ok (f s)
  | error ps => exact error (h ps rfl)

theorem bind {f : σ → Checked τ} (h : a.Told) (hf : ∀ s, (f s).Told) :
    Checked.Told (a >>= f) := by
  cases a with
  | ok s => exact hf s
  | error ps => exact error (h ps rfl)

theorem both (h : a.Told) (h' : b.Told) : (a.both b).Told := by
  cases a with
  | ok s =>
    cases b with
    | ok t => exact ok (s, t)
    | error ps => exact error (h' ps rfl)
  | error ps =>
    cases b with
    | ok t => exact error (h ps rfl)
    | error qs => exact error (List.forall_mem_append.2 ⟨h ps rfl, h' qs rfl⟩)

theorem each {read : σ → Checked τ} (h : ∀ x, (read x).Told) (i : ℕ) (xs : List σ) :
    (Checked.each read i xs).Told := by
  induction xs generalizing i with
  | nil => exact ok []
  | cons x xs ih => exact (((h x).under (.index i)).both (ih (i + 1))).map fun r => r.1 :: r.2

theorem readField {read : Json → Checked τ} {ms : List (Spelling × Json)} {key : Key}
    (h : ∀ m ∈ key.find? ms, (read m.2).Told) (default : Option τ) :
    (readField key default read ms).Told := by
  rw [Record.readField]
  cases hfound : key.find? ms with
  | some m => exact (h m hfound).under (.key m.1)
  | none =>
    cases default with
    | some d => exact ok d
    | none =>
      apply error
      rw [List.forall_mem_singleton]
      rfl

/-- A value of which a text may stand as well is told with all that is wrong, unless the text is
nested too deeply. -/
theorem readEmbedded {read : Json → Checked τ} (h : ∀ j, (read j).Told) {j : Json}
    (hj : ∀ s t, j = .text s → s.text? = some t → Json.Shallow t) :
    (readEmbedded read j).Told := by
  fun_cases Record.readEmbedded read j with
  | case1 => exact fail rfl
  | case2 s t ht j hparse => exact h j
  | case3 s t ht m hparse =>
    apply fail
    have hdepth := hj s t rfl ht m hparse
    rw [Fault.isTooDeep]
    split
    next isArray heq => exact absurd heq (hdepth isArray)
    next => rfl
  | case4 => exact h _

theorem accept {p : Packing σ τ} (h : ∀ t, ∀ f ∈ p.law t, f.isTooDeep = false) (s : σ) :
    (p.accept s).Told := by
  rw [Packing.accept]
  cases hlaw : p.law (p.pack s) with
  | none => exact ok _
  | some f => exact fail (h _ f hlaw)

end Checked.Told

/-- A shape that holds no text for which a list may stand. -/
def Shape.Plain : {g : Grain} → {τ : Type} → Shape g τ → Prop
  | _, _, optional s => s.Plain
  | _, _, list s => s.Plain
  | _, _, embedded _ => False
  | _, _, record fields p => fields.Plain ∧ ∀ t, ∀ f ∈ p.law t, f.isTooDeep = false
  | _, _, field _ s _ rest => s.Plain ∧ rest.Plain
  | _, _, _ => True

/-- What a plain shape finds wrong is told. -/
theorem Shape.told_readAt {g : Grain} {τ : Type} (s : Shape g τ) (hs : s.Plain) (site : Site)
    (form : g.Form) : (s.readAt site form).Told := by
  induction s with
  | text => exact .ofScalar (.readText form)
  | number r => exact .ofScalar (.readNumber site r form)
  | integer least => exact .ofScalar (.readInteger least form)
  | flag => exact .ofScalar (.readFlag form)
  | word v => exact .ofScalar (.readWord v form)
  | literal w => exact .ofScalar (.readLiteral w form)
  | raw => exact .ok form
  | optional s ih =>
    cases form with
    | null => exact .ok none
    | _ => exact (ih hs _).map some
  | list s ih =>
    cases form with
    | array js => exact .each (ih hs) 0 js
    | _ => exact .fail rfl
  | embedded s => exact hs.elim
  | record fields p ih =>
    cases form with
    | object ms => exact (ih hs.1 ms).bind (.accept hs.2)
    | _ => exact .fail rfl
  | done => exact .ok ()
  | field key s default rest ihs ih =>
    exact (Checked.Told.readField (fun m _ => ihs hs.1 m.2) default).both (ih hs.2 form)

end Promptbook.Record
