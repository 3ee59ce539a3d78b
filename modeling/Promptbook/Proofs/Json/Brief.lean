import Promptbook.Proofs.Json.Members

/-!
# What is read is short enough

A whole number that is read has no more digits than were counted in the text, and both documents
and embedded texts limit that count.  So the values that they hold can be written and read again.
-/

namespace Promptbook

/-! ## Digits that are counted -/

namespace Text

theorem digit_lt {c : Char} (h : c.isDigit = true) : c.toNat - 0x30 < 10 := by
  simp only [Char.isDigit, Bool.and_eq_true, decide_eq_true_eq] at h
  have hhigh : c.toNat ≤ 57 := h.2
  omega

theorem more_lt {m k d : ℕ} (hm : m < 10 ^ k) (hd : d < 10) : 10 * m + d < 10 ^ (k + 1) := by
  rw [pow_succ]
  omega

/-- Digits stand for a number that has no more of them. -/
theorem natOfDigits_lt {ds : List Char} (h : ∀ d ∈ ds, d.isDigit = true) :
    natOfDigits ds < 10 ^ ds.length := by
  induction ds using List.reverseRecOn with
  | nil => exact Nat.one_pos
  | append_singleton ds d ih =>
    rw [List.forall_mem_append, List.forall_mem_singleton] at h
    rw [natOfDigits_append_singleton, List.length_append, List.length_singleton]
    exact more_lt (ih h.1) (digit_lt h.2)

end Text

namespace Json

namespace Numeric

/-- The digits before and after the point have been counted. -/
structure Counted (n : Numeric) : Prop where
  mantissa : n.mantissa < 10 ^ (n.digits + n.places)
  start : n.stage = .minus → n.digits = 0
  digits : n.stage ≠ .minus → 0 < n.digits

variable {n n' : Numeric}

/-- What leaves the digits before the exponent alone keeps them counted. -/
theorem Counted.keep (hn : n.Counted) (hs : n.stage ≠ .minus) (hs' : n'.stage ≠ .minus)
    (hm : n'.mantissa = n.mantissa) (hd : n'.digits = n.digits) (hp : n'.places = n.places) :
    n'.Counted where
  mantissa := by
    rw [hm, hd, hp]
    exact hn.mantissa
  start h := absurd h hs'
  digits _ := by
    rw [hd]
    exact hn.digits hs

theorem Counted.afterWhole (hn : n.Counted) (hs : n.stage ≠ .minus) {c : Char}
    (h : next?.afterWhole n c = some n') : n'.Counted := by
  rw [next?.afterWhole, next?.exponentMark] at h
  split_ifs at h
  · cases h
    exact hn.keep hs (by simp) rfl rfl rfl
  · cases h
    exact hn.keep hs (by simp) rfl rfl rfl

theorem Counted.exponentDigit (hn : n.Counted) (hs : n.stage ≠ .minus) {c : Char} {d : ℕ}
    (h : next?.exponentDigit n c d = some n') : n'.Counted := by
  rw [next?.exponentDigit] at h
  split_ifs at h
  cases h
  exact hn.keep hs (by simp) rfl rfl rfl

/-- A digit after the point is counted. -/
theorem Counted.place (hn : n.Counted) (hs : n.stage ≠ .minus) {c : Char}
    (hc : c.isDigit = true) : Counted { n with
      stage := .places, mantissa := 10 * n.mantissa + (c.toNat - 0x30)
      places := n.places + 1 } where
  mantissa := Text.more_lt hn.mantissa (Text.digit_lt hc)
  start := by simp
  digits _ := hn.digits hs

/-- One more character is counted where it is a digit. -/
theorem Counted.next (hn : n.Counted) {c : Char} (h : n.next? c = some n') : n'.Counted := by
  have hm := hn.mantissa
  cases hs : n.stage with
  | minus =>
    rw [hn.start hs] at hm
    simp only [next?, hs] at h
    split_ifs at h with hzero hdigit
    · cases h
      refine ⟨hm.trans_le (Nat.pow_le_pow_right (by norm_num) ?_), by simp, fun _ => Nat.one_pos⟩
      exact Nat.add_le_add_right (Nat.zero_le 1) n.places
    · cases h
      refine ⟨?_, (by simp), fun _ => Nat.one_pos⟩
      dsimp only
      rw [Nat.add_comm 1, ← Nat.zero_add n.places]
      exact Text.more_lt hm (Text.digit_lt hdigit)
  | zero =>
    simp only [next?, hs] at h
    exact hn.afterWhole (by simp [hs]) h
  | whole =>
    simp only [next?, hs] at h
    split_ifs at h with hdigit
    · cases h
      refine ⟨?_, (by simp), fun _ => Nat.succ_pos _⟩
      dsimp only
      rw [Nat.add_right_comm]
      exact Text.more_lt hm (Text.digit_lt hdigit)
    · exact hn.afterWhole (by simp [hs]) h
  | point =>
    simp only [next?, hs] at h
    split_ifs at h with hdigit hplaces
    · cases h
      exact hn.place (by simp [hs]) hdigit
    · cases hplaces
  | places =>
    simp only [next?, hs] at h
    split_ifs at h with hdigit
    · cases h
      exact hn.place (by simp [hs]) hdigit
    · rw [next?.exponentMark] at h
      split_ifs at h
      cases h
      exact hn.keep (by simp [hs]) (by simp) rfl rfl rfl
  | mark =>
    simp only [next?, hs] at h
    split_ifs at h
    · cases h
      exact hn.keep (by simp [hs]) (by simp) rfl rfl rfl
    · exact hn.exponentDigit (by simp [hs]) h
  | markSign | power =>
    simp only [next?, hs] at h
    exact hn.exponentDigit (by simp [hs]) h

end Numeric

/-! ## Tokens -/

/-- A token whose value is short enough, or is a number with its digits counted. -/
def Token.Counted : Token → Prop
  | .scalar j => j.isBrief
  | .number j digits => (∃ x, j = .number x) ∨
      ∃ n : Int, j = .integer n ∧ (Nat.toDigits 10 n.natAbs).length ≤ digits
  | _ => True

namespace Numeric

theorem Counted.token {n : Numeric} (hn : n.Counted) (hs : n.stage ≠ .minus) (counted : Bool) :
    (n.token counted).Counted := by
  by_cases hinteger : n.places = 0 ∧ (!counted) = true
  · rw [Numeric.token, value, if_pos hinteger]
    refine .inr ⟨_, rfl, ?_⟩
    have habs : (if n.negative then -(n.mantissa : ℤ) else n.mantissa).natAbs = n.mantissa := by
      split_ifs <;> simp
    rw [habs, Nat.length_toDigits_le_iff (by norm_num) (hn.digits hs)]
    simpa [hinteger.1] using hn.mantissa
  · rw [Numeric.token, value, if_neg hinteger]
    exact .inl ⟨_, rfl⟩

/-- The tokens of a number have its digits counted. -/
theorem Counted.lexemes {n : Numeric} (hn : n.Counted) (start finish : ℕ) :
    ∀ l ∈ n.lexemes start finish, l.token.Counted := by
  cases hs : n.stage <;>
    simp only [Numeric.lexemes, hs, List.forall_mem_cons, List.not_mem_nil, false_imp_iff,
      implies_true, and_true]
  case minus => trivial
  all_goals
    have htoken := hn.token (by simp [hs])
  case point | mark | markSign => exact ⟨htoken false, trivial⟩
  case zero | whole | places => exact htoken false
  case power => exact htoken true

end Numeric

namespace Scan

/-- A constant that is being read is short enough, and a number has its digits counted. -/
def ModeCounted : Mode → Prop
  | .number _ n => n.Counted
  | .constant _ _ j => j.isBrief
  | _ => True

/-- The digits of all numbers so far have been counted. -/
structure Counted (s : Scan) : Prop where
  found : ∀ l ∈ s.found, l.token.Counted
  mode : ModeCounted s.mode

variable {s : Scan}

theorem Counted.enter (h : s.Counted) {m : Mode} (hm : ModeCounted m) : (s.enter m).Counted :=
  ⟨h.found, hm⟩

theorem Counted.emit (h : s.Counted) {ls : List Lexeme} (hls : ∀ l ∈ ls, l.token.Counted) :
    (s.emit ls).Counted := by
  refine ⟨?_, h.mode⟩
  intro l hl
  rcases List.mem_append.1 hl with hl | hl
  · exact hls l (List.mem_reverse.1 hl)
  · exact h.found l hl

theorem Counted.emitOne (h : s.Counted) {t : Token} (ht : t.Counted) (start : ℕ) :
    (s.emit [⟨t, start⟩]).Counted :=
  h.emit (by simpa using ht)

theorem Counted.fail (h : s.Counted) (start : ℕ) (fault : StringFault) (position : ℕ) :
    (s.fail start fault position).Counted :=
  (h.emitOne (t := .faulty fault position) trivial start).enter trivial

theorem Counted.stray (h : s.Counted) (start : ℕ) : (read.stray s start).Counted :=
  (h.emitOne (t := .stray) trivial start).enter trivial

theorem counted_minus (negative : Bool) : (Numeric.signed negative).Counted :=
  ⟨Nat.one_pos, fun _ => rfl, fun h => absurd rfl h⟩

theorem Counted.begin (h : s.Counted) (c : Char) : (s.begin c).Counted := by
  fun_cases Scan.begin s c with
  | case1 => exact h
  | case2 | case3 | case4 | case5 | case6 | case7 => exact h.emit (by simp [Token.Counted])
  | case8 => exact h.enter trivial
  | case9 => exact h.enter (counted_minus true)
  | case10 | case11 | case12 | case13 | case14 => exact h.enter (by trivial)
  | case15 => exact h.enter ((counted_minus false).next ‹_›)
  | case16 => exact h.stray _

/-- One more character is read. -/
theorem Counted.read (h : s.Counted) (c : Char) : (s.read c).Counted := by
  have hmode := h.mode
  cases hs : s.mode with
  | between =>
    simp only [Scan.read, hs]
    exact h.begin c
  | string start content =>
    simp only [Scan.read, hs]
    split_ifs
    · exact (h.emitOne (t := content.token) trivial start).enter trivial
    · exact h.enter trivial
    · exact h.fail ..
    · exact h.enter trivial
  | escape start content =>
    simp only [Scan.read, hs]
    split_ifs
    · exact h.enter trivial
    · split
      · exact h.enter trivial
      · exact h.fail ..
  | unit start content mark missing value =>
    simp only [Scan.read, hs]
    split
    · exact h.fail ..
    · split_ifs
      · exact h.enter trivial
      · exact h.enter trivial
  | number start n =>
    rw [hs] at hmode
    simp only [Scan.read, hs]
    split
    next n' hn => exact h.enter (hmode.next hn)
    next hn =>
      have hemit := h.emit (hmode.lexemes start s.position)
      split_ifs
      · exact h.enter trivial
      · exact (hemit.enter (m := .between) trivial).begin c
      · exact hemit.enter trivial
  | constant start rest j =>
    rw [hs] at hmode
    simp only [Scan.read, hs]
    split
    · split_ifs
      · exact (h.emitOne (t := .scalar j) hmode start).enter trivial
      · exact h.stray start
    · split_ifs
      · exact h.enter hmode
      · exact h.stray start
    · exact h.stray start
  | halted =>
    simp only [Scan.read, hs]
    exact h

theorem Counted.step (h : s.Counted) (c : Char) : (s.step c).Counted :=
  ⟨(h.read c).found, (h.read c).mode⟩

theorem Counted.foldl (h : s.Counted) (cs : List Char) : (cs.foldl Scan.step s).Counted := by
  induction cs generalizing s with
  | nil => exact h
  | cons c cs ih => exact ih (h.step c)

theorem Counted.close (h : s.Counted) : ∀ l ∈ s.close, l.token.Counted := by
  have hend : ∀ s' : Scan, s'.Counted →
      ∀ l ∈ (s'.emit [⟨.finish, s'.position⟩]).found.reverse, l.token.Counted := by
    intro s' h' l hl
    exact (h'.emitOne (t := .finish) trivial _).found l (List.mem_reverse.1 hl)
  have hmode := h.mode
  cases hs : s.mode with
  | between | halted =>
    simp only [Scan.close, hs]
    exact hend s h
  | string start content =>
    simp only [Scan.close, hs]
    split
    · exact hend _ (h.fail ..)
    · exact hend _ (h.fail ..)
  | escape start content =>
    simp only [Scan.close, hs]
    exact hend _ (h.fail ..)
  | unit start content mark missing value =>
    simp only [Scan.close, hs]
    exact hend _ (h.fail ..)
  | number start n =>
    rw [hs] at hmode
    simp only [Scan.close, hs]
    exact hend _ (h.emit (hmode.lexemes start s.position))
  | constant start rest j =>
    simp only [Scan.close, hs]
    exact hend _ (h.emitOne (t := .stray) trivial start)

end Scan

/-- Every number in a text has its digits counted. -/
theorem lex_counted (cs : List Char) : ∀ l ∈ lex cs, l.token.Counted := by
  have hstart : ({} : Scan).Counted := ⟨List.forall_mem_nil _, trivial⟩
  exact (hstart.foldl cs).close

/-! ## The machine -/

/-- An open array or object whose values are short enough. -/
def Frame.Brief : Frame → Prop
  | .array js => itemsBrief js
  | .object ms _ => membersBrief ms

namespace Machine

/-- All values that have been read are short enough. -/
def Brief : Machine → Prop
  | .running _ stack => ∀ f ∈ stack, f.Brief
  | .finished j => j.isBrief

variable {d : Dialect} {stack : List Frame} {m m' : Machine} {t : Token}

theorem guarded_eq_ok {fault : Option SyntaxFault} (h : guarded fault m = .ok m') :
    fault = none ∧ m = m' := by
  cases fault with
  | none => exact ⟨rfl, Except.ok.inj h⟩
  | some f => cases h

theorem deliver_brief {j : Json} (hj : j.isBrief) (hs : ∀ f ∈ stack, f.Brief) :
    (deliver j stack).Brief := by
  match stack with
  | [] => exact hj
  | .array js :: stack =>
    rw [List.forall_mem_cons] at hs
    exact List.forall_mem_cons.2 ⟨⟨hj, hs.1⟩, hs.2⟩
  | .object ms none :: stack =>
    rw [List.forall_mem_cons] at hs
    exact List.forall_mem_cons.2 ⟨hs.1, hs.2⟩
  | .object ms (some name) :: stack =>
    rw [List.forall_mem_cons] at hs
    exact List.forall_mem_cons.2 ⟨⟨hj, hs.1⟩, hs.2⟩

/-- A whole number whose digits are counted is short enough where its dialect limits them. -/
theorem brief_of_numberFault? (hd : d ≠ .free) {j : Json} {digits : ℕ}
    (ht : (Token.number j digits).Counted) {isWhole : Bool}
    (hw : ∀ n, j = .integer n → isWhole = true) (h : numberFault? d isWhole digits = none) :
    j.isBrief := by
  rcases ht with ⟨x, rfl⟩ | ⟨n, rfl, hn⟩
  · trivial
  · refine hn.trans ?_
    by_contra hlong
    cases d with
    | free => exact hd rfl
    | document | embedded => simp [numberFault?, hw n rfl, not_le.1 hlong] at h

theorem startValue_brief (hd : d ≠ .free) (ht : t.Counted) (hs : ∀ f ∈ stack, f.Brief)
    (h : startValue d stack t = .ok m') : m'.Brief := by
  cases t with
  | openArray | openObject =>
    obtain ⟨-, rfl⟩ := guarded_eq_ok h
    exact List.forall_mem_cons.2 ⟨trivial, hs⟩
  | scalar j =>
    obtain ⟨-, rfl⟩ := guarded_eq_ok h
    exact deliver_brief ht hs
  | number j digits =>
    obtain ⟨hfault, rfl⟩ := guarded_eq_ok h
    rw [Option.orElse_eq_orElse, Option.orElse_eq_or, Option.or_eq_none_iff] at hfault
    have hj : j.isBrief := by
      refine brief_of_numberFault? hd ht ?_ hfault.2
      rintro n rfl
      rfl
    exact deliver_brief hj hs
  | string s =>
    obtain ⟨-, rfl⟩ := guarded_eq_ok h
    exact deliver_brief trivial hs
  | closeArray | closeObject | comma | colon | faulty | stray | finish => cases h

theorem startName_brief {ms : List (Spelling × Json)} (hms : membersBrief ms)
    (hs : ∀ f ∈ stack, f.Brief) (h : startName d ms stack t = .ok m') : m'.Brief := by
  cases t with
  | string s =>
    obtain ⟨-, rfl⟩ := guarded_eq_ok h
    exact List.forall_mem_cons.2 ⟨hms, hs⟩
  | openArray | openObject | closeArray | closeObject | comma | colon | scalar | number | faulty
    | stray | finish => cases h

theorem itemsBrief_reverse {js : List Json} (h : itemsBrief js) : itemsBrief js.reverse := by
  rw [itemsBrief_iff] at h ⊢
  exact fun j hj => h j (List.mem_reverse.1 hj)

theorem membersBrief_reverse {ms : List (Spelling × Json)} (h : membersBrief ms) :
    membersBrief ms.reverse := by
  rw [membersBrief_iff] at h ⊢
  exact fun m hm => h m (List.mem_reverse.1 hm)

/-- A step of the machine keeps its values short enough. -/
theorem step_brief (hd : d ≠ .free) (ht : t.Counted) (hm : m.Brief) (h : step d m t = .ok m') :
    m'.Brief := by
  revert h
  fun_cases step d m t with
  | case1 j =>
    rintro ⟨⟩
    exact hm
  | case2 | case9 | case11 => exact nofun
  | case3 items stack =>
    rintro ⟨⟩
    exact deliver_brief trivial (List.forall_mem_cons.1 hm).2
  | case4 members name stack =>
    rintro ⟨⟩
    exact deliver_brief trivial (List.forall_mem_cons.1 hm).2
  | case5 items stack =>
    rintro ⟨⟩
    obtain ⟨hitems, hstack⟩ := List.forall_mem_cons.1 hm
    exact deliver_brief (itemsBrief_reverse hitems) hstack
  | case6 members name stack =>
    rintro ⟨⟩
    obtain ⟨hmembers, hstack⟩ := List.forall_mem_cons.1 hm
    exact deliver_brief (membersBrief_reverse hmembers) hstack
  | case7 items stack =>
    rintro ⟨⟩
    exact hm
  | case8 members name stack =>
    rintro ⟨⟩
    obtain ⟨hmembers, hstack⟩ := List.forall_mem_cons.1 hm
    exact List.forall_mem_cons.2 ⟨hmembers, hstack⟩
  | case10 stack =>
    rintro ⟨⟩
    exact hm
  | case12 members name stack =>
    intro h
    obtain ⟨hmembers, hstack⟩ := List.forall_mem_cons.1 hm
    exact startName_brief hmembers hstack h
  | case13 members name stack =>
    intro h
    obtain ⟨hmembers, hstack⟩ := List.forall_mem_cons.1 hm
    exact startName_brief hmembers hstack h
  | case14 next stack =>
    intro h
    exact startValue_brief hd ht hm h

end Machine

/-- A run of the machine keeps its values short enough. -/
theorem run_brief {d : Dialect} (hd : d ≠ .free) {m m' : Machine} {ls : List Lexeme}
    (hls : ∀ l ∈ ls, l.token.Counted) (hm : m.Brief) (h : run d m ls = .ok m') : m'.Brief := by
  induction ls generalizing m with
  | nil =>
    cases h
    exact hm
  | cons l ls ih =>
    rw [List.forall_mem_cons] at hls
    rw [run] at h
    cases hl : m.step d l.token with
    | error f =>
      rw [hl] at h
      cases h
    | ok m₁ =>
      rw [hl] at h
      exact ih hls.2 (Machine.step_brief hd hls.1 hm hl) h

/-- A value that is read from a document or from an embedded text is short enough. -/
theorem parse_brief {d : Dialect} (hd : d ≠ .free) {text : String} {j : Json}
    (h : parse d text = .ok j) : j.isBrief := by
  rw [parse] at h
  split_ifs at h
  split at h
  next i hrun =>
    cases h
    exact run_brief hd (lex_counted _) (m := .running .value []) (List.forall_mem_nil _) hrun
  next => cases h
  next => cases h

end Json

end Promptbook
