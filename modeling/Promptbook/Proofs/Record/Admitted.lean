import Promptbook.Proofs.Json.Brief
import Promptbook.Proofs.Record.Atoms

/-!
# What is read is admitted

A value that is read from a document keeps to the bounds and the laws of its shape.  Its whole
numbers are short enough to be read again, in whichever of the accepted forms they stood.
-/

namespace Promptbook

open Record

/-! ## Whole numbers -/

namespace Json

theorem isBrief_integer_iff (n : Int) :
    (Json.integer n).isBrief ↔ n.natAbs < 10 ^ Numeral.digitLimit :=
  Nat.length_toDigits_le_iff (by norm_num) (by decide)

/-- A whole number of 64 bits is short enough. -/
theorem isBrief_of_lt_wholeLimit {n : Int} (hlow : -wholeLimit < n) (hhigh : n < wholeLimit) :
    (Json.integer n).isBrief := by
  have hlimit : wholeLimit = 9223372036854775808 := rfl
  rw [hlimit] at hlow hhigh
  have hpow : 10 ^ 19 ≤ 10 ^ Numeral.digitLimit := Nat.pow_le_pow_right (by norm_num) (by decide)
  have hlt : n.natAbs < 10 ^ 19 := by omega
  exact (isBrief_integer_iff n).2 (hlt.trans_le hpow)

end Json

namespace Numeral

theorem isDigit_of_span {cs ds rest : List Char} (h : cs.span Char.isDigit = (ds, rest)) :
    ∀ d ∈ ds, d.isDigit = true := by
  rw [List.span_eq_takeWhile_dropWhile] at h
  obtain ⟨rfl, -⟩ := Prod.mk.inj h
  exact fun d hd => List.mem_takeWhile_imp hd

/-- The plain form gives a whole number that is short enough. -/
theorem plainInt_brief {cs : List Char} {n : Int} (h : plainInt cs = .ok n) :
    (Json.integer n).isBrief := by
  revert h
  fun_cases plainInt cs with
  | case1 | case2 | case3 => exact nofun
  | case4 negative r _ ds rest hspan _ hlong _ =>
    rintro ⟨⟩
    have hlt := Text.natOfDigits_lt (isDigit_of_span hspan)
    have hpow : 10 ^ ds.length ≤ 10 ^ digitLimit :=
      Nat.pow_le_pow_right (by norm_num) (not_lt.1 hlong)
    have habs : (if negative then -(Text.natOfDigits ds : Int) else Text.natOfDigits ds).natAbs =
        Text.natOfDigits ds := by split_ifs <;> simp
    rw [Json.isBrief_integer_iff, habs]
    exact hlt.trans_le hpow

/-- A text gives a whole number that is short enough. -/
theorem intOfText_brief {s : String} {n : Int} (h : intOfText s = .ok n) :
    (Json.integer n).isBrief := by
  revert h
  fun_cases intOfText s with
  | case1 cs n hn =>
    rintro ⟨⟩
    exact plainInt_brief hn
  | case2 => exact nofun
  | case3 cs _ =>
    intro h
    cases hform : plainForm? cs with
    | none =>
      rw [hform] at h
      cases h
    | some form =>
      rw [hform] at h
      cases hn : plainInt form with
      | error f =>
        simp [hn, Except.toOption] at h
      | ok n' =>
        have := plainInt_brief hn
        simp [hn, Except.toOption] at h
        exact h ▸ this

end Numeral

namespace Record

theorem wholeNumber_brief {x : Float} {n : Int} (h : wholeNumber x = .ok n) :
    (Json.integer n).isBrief := by
  revert h
  fun_cases wholeNumber x with
  | case1 | case2 | case4 => exact nofun
  | case3 p _ _ n' hn =>
    intro h
    rw [← Except.ok.inj h]
    exact Json.isBrief_of_lt_wholeLimit hn.1 hn.2

/-- A value that is short enough gives a whole number that is. -/
theorem toInteger_brief {j : Json} (hj : j.isBrief) {n : Int} (h : toInteger j = .ok n) :
    (Json.integer n).isBrief := by
  revert h
  fun_cases toInteger j with
  | case1 m =>
    rintro ⟨⟩
    exact hj
  | case2 b =>
    rintro ⟨⟩
    exact Json.isBrief_of_lt_wholeLimit (by cases b <;> decide) (by cases b <;> decide)
  | case3 x => exact wholeNumber_brief
  | case4 s =>
    intro h
    rw [readSpelled] at h
    cases ht : s.text? with
    | none =>
      rw [ht] at h
      cases h
    | some t =>
      rw [ht] at h
      change (Numeral.intOfText t).mapError Fault.ofInt = .ok n at h
      cases hn : Numeral.intOfText t with
      | error f =>
        rw [hn] at h
        cases h
      | ok m =>
        rw [hn] at h
        cases h
        exact Numeral.intOfText_brief hn
  | case5 => exact nofun

/-! ## Scalars -/

section Scalar

variable {σ τ : Type}

theorem within_eq_ok {fault : Option Fault} {t u : τ} (h : within fault t = .ok u) :
    fault = none ∧ t = u := by
  cases fault with
  | none => exact ⟨rfl, Except.ok.inj h⟩
  | some f => cases h

theorem exists_of_bind_eq_ok {ε : Type} {a : Except ε σ} {f : σ → Except ε τ} {t : τ}
    (h : a >>= f = .ok t) : ∃ s, a = .ok s ∧ f s = .ok t := by
  cases a with
  | error e => cases h
  | ok s => exact ⟨s, rfl, h⟩

theorem exists_of_map_eq_ok {ε : Type} {a : Except ε σ} {f : σ → τ} {t : τ}
    (h : a.map f = .ok t) : ∃ s, a = .ok s ∧ f s = t := by
  cases a with
  | error e => cases h
  | ok s => exact ⟨s, rfl, Except.ok.inj h⟩

theorem ofScalar_eq_ok {e : Except Fault τ} {t : τ} (h : Checked.ofScalar e = .ok t) :
    e = .ok t := by
  cases e with
  | error f => cases h
  | ok t' =>
    cases h
    rfl

theorem under_eq_ok {s : Step} {c : Checked τ} {t : τ} (h : Checked.under s c = .ok t) :
    c = .ok t := by
  cases c with
  | error ps => cases h
  | ok t' =>
    cases h
    rfl

/-- Items that are read one by one are each read from one of the values. -/
theorem each_eq_ok {read : σ → Checked τ} {i : ℕ} {xs : List σ} {ts : List τ}
    (h : Checked.each read i xs = .ok ts) : ∀ t ∈ ts, ∃ x ∈ xs, read x = .ok t := by
  induction xs generalizing i ts with
  | nil =>
    cases h
    exact nofun
  | cons x xs ih =>
    obtain ⟨⟨t, us⟩, hboth, rfl⟩ := exists_of_map_eq_ok h
    obtain ⟨ht, hus⟩ := Checked.both_eq_ok_iff.1 hboth
    intro u hu
    rcases List.mem_cons.1 hu with rfl | hu
    · exact ⟨x, List.mem_cons_self .., under_eq_ok ht⟩
    · obtain ⟨y, hy, hread⟩ := ih hus u hu
      exact ⟨y, List.mem_cons_of_mem x hy, hread⟩

end Scalar

/-! ## Readers -/

section Reader

variable {σ τ : Type} {read : Json → Checked τ} {j : Json} {t : τ}

theorem readOptional_eq_some (h : readOptional read j = .ok (some t)) : read j = .ok t := by
  revert h
  fun_cases readOptional read j with
  | case1 => exact nofun
  | case2 j =>
    intro h
    obtain ⟨u, hread, heq⟩ := exists_of_map_eq_ok h
    rw [hread, Option.some.inj heq]

theorem readList_eq_ok {ts : List τ} (h : readList read j = .ok ts) :
    ∃ js, j = .array js ∧ ∀ t ∈ ts, ∃ x ∈ js, read x = .ok t := by
  revert h
  fun_cases readList read j with
  | case1 js =>
    intro h
    exact ⟨js, rfl, each_eq_ok h⟩
  | case2 => exact nofun

/-- What is embedded was read from the value itself, or from the one that a text holds. -/
theorem readEmbedded_eq_ok (h : readEmbedded read j = .ok t) :
    read j = .ok t ∨ ∃ text i, Json.parse .embedded text = .ok i ∧ read i = .ok t := by
  revert h
  fun_cases readEmbedded read j with
  | case1 | case3 => exact nofun
  | case2 s text htext i hparse =>
    intro h
    exact .inr ⟨text, i, hparse, h⟩
  | case4 =>
    intro h
    exact .inl h

theorem readMembers_eq_ok {read : List (Spelling × Json) → Checked τ}
    (h : readMembers read j = .ok t) : ∃ ms, j = .object ms ∧ read ms = .ok t := by
  revert h
  fun_cases readMembers read j with
  | case1 ms =>
    intro h
    exact ⟨ms, rfl, h⟩
  | case2 => exact nofun

theorem Packing.accept_eq_ok {p : Packing σ τ} {u : σ} (h : p.accept u = .ok t) :
    p.law t = none ∧ p.pack u = t := by
  rw [Packing.accept] at h
  cases hlaw : p.law (p.pack u) with
  | some f =>
    rw [hlaw] at h
    cases h
  | none =>
    rw [hlaw] at h
    cases h
    exact ⟨hlaw, rfl⟩

/-- A field was read from a member, or has its default. -/
theorem readField_eq_ok {key : Key} {default : Option τ} {ms : List (Spelling × Json)}
    (h : readField key default read ms = .ok t) :
    (∃ m ∈ ms, read m.2 = .ok t) ∨ default = some t := by
  rw [readField, Key.find?] at h
  cases hfirst : Json.lookup? key.name ms with
  | some j =>
    rw [hfirst] at h
    exact .inl ⟨_, Json.mem_of_lookup? hfirst, under_eq_ok h⟩
  | none =>
    cases hother : Json.lookup? key.alternative ms with
    | some j =>
      rw [hfirst, hother] at h
      exact .inl ⟨_, Json.mem_of_lookup? hother, under_eq_ok h⟩
    | none =>
      rw [hfirst, hother] at h
      cases default with
      | none => cases h
      | some d =>
        cases h
        exact .inr rfl

end Reader

/-! ## Shapes -/

/-- A shape by whose fields a value is told, with defaults that it admits. -/
def Shape.Sound : {g : Grain} → {τ : Type} → Shape g τ → Prop
  | _, _, optional s => s.Sound
  | _, _, list s => s.Sound
  | _, _, embedded s => s.Sound
  | _, _, record fields p => fields.Sound ∧ ∀ u, p.unpack (p.pack u) = u
  | _, _, field _ s default rest => s.Sound ∧ (∀ d ∈ default, s.Admits d) ∧ rest.Sound
  | _, _, _ => True

theorem Shape.Faithful.sound {g : Grain} {τ : Type} {s : Shape g τ} (hs : s.Faithful) :
    s.Sound := by
  induction s with
  | text | number | integer | flag | word | literal | raw | done => trivial
  | optional s ih => exact ih hs.1
  | list s ih => exact ih hs
  | embedded s ih => exact ih hs.1
  | record fields p ih => exact ⟨ih hs.1, hs.2.1⟩
  | field key s default rest ihs ih => exact ⟨ihs hs.1, hs.2.1, ih hs.2.2⟩

/-- A value that is read is one that its shape admits. -/
theorem Shape.admits_of_readAt {g : Grain} {τ : Type} (s : Shape g τ) (hs : s.Sound)
    (site : Site) {form : g.Form} (hform : g.Holds Json.isBrief form) {t : τ}
    (h : s.readAt site form = .ok t) : s.Admits t := by
  -- What is embedded is read at another site, so the induction is for every site.
  induction s generalizing site with
  | text | flag | word | literal | done => trivial
  | number r =>
    obtain ⟨x, -, hx⟩ := exists_of_bind_eq_ok (ofScalar_eq_ok h)
    obtain ⟨hfault, rfl⟩ := within_eq_ok hx
    exact hfault
  | integer least =>
    obtain ⟨n, hn, hwithin⟩ := exists_of_bind_eq_ok (ofScalar_eq_ok h)
    obtain ⟨hfault, rfl⟩ := within_eq_ok hwithin
    exact ⟨hfault, toInteger_brief hform hn⟩
  | raw =>
    cases h
    exact hform
  | optional s ih =>
    rintro u rfl
    exact ih hs site hform (readOptional_eq_some h)
  | list s ih =>
    intro u hu
    obtain ⟨js, rfl, hread⟩ := readList_eq_ok h
    obtain ⟨j, hj, hread⟩ := hread u hu
    exact ih hs site ((Json.itemsBrief_iff js).1 hform j hj) hread
  | embedded s ih =>
    rcases readEmbedded_eq_ok h with hread | ⟨text, j, hparse, hread⟩
    · exact ih hs .embedded hform hread
    · have hj := Json.parse_brief (d := .embedded) (by decide) hparse
      exact ih hs .embedded hj hread
  | record fields p ih =>
    obtain ⟨ms, rfl, hread⟩ := readMembers_eq_ok h
    obtain ⟨u, hfields, haccept⟩ := exists_of_bind_eq_ok hread
    obtain ⟨hlaw, rfl⟩ := Packing.accept_eq_ok haccept
    refine ⟨?_, hlaw⟩
    rw [hs.2]
    exact ih hs.1 site ((Json.membersBrief_iff ms).1 hform) hfields
  | field key s default rest ihs ih =>
    obtain ⟨hfield, hrest⟩ := Checked.both_eq_ok_iff.1 h
    refine ⟨?_, ih hs.2.2 site hform hrest⟩
    rcases readField_eq_ok hfield with ⟨m, hm, hread⟩ | hdefault
    · exact ihs hs.1 site (hform m hm) hread
    · exact hs.2.1 _ hdefault

end Record

end Promptbook
