import Promptbook.Json.Printer
import Promptbook.Json.Reader
import Promptbook.Proofs.Json.Numeral

/-!
# The scan between two values

While a text is scanned, the tokens found so far have brought the machine to some state.  The
statements here say how the pieces that a value is written with take the scan from one such state
to the next: marks, blanks, constants, strings and numbers.  A number stays open until a character
follows that does not belong to it.
-/

namespace Promptbook.Json

theorem run_append {d : Dialect} {m m' : Machine} {ls : List Lexeme} (h : run d m ls = .ok m')
    (ks : List Lexeme) : run d m (ls ++ ks) = run d m' ks := by
  induction ls generalizing m with
  | nil =>
    cases h
    rfl
  | cons l ls ih =>
    rw [run] at h
    rw [List.cons_append, run]
    cases hl : m.step d l.token with
    | error f =>
      rw [hl] at h
      cases h
    | ok m' =>
      rw [hl] at h
      exact ih h

theorem run_singleton {d : Dialect} {m m' : Machine} {l : Lexeme}
    (h : m.step d l.token = .ok m') : run d m [l] = .ok m' := by
  rw [run, h]
  rfl

namespace Scan

/-- A scan between tokens; those found have brought the machine to a state. -/
structure Idle (s : Scan) (m : Machine) : Prop where
  mode : s.mode = .between
  run : run .document (.running .value []) s.found.reverse = .ok m

/-- A scan between tokens, or at the end of a number to which further digits might belong. -/
inductive Ready (s : Scan) (m : Machine) : Prop
  | idle (h : s.Idle m)
  | number (start : Nat) (n : Numeric) (hmode : s.mode = .number start n)
    (hcomplete : n.complete = true)
    (h : ((s.emit (n.lexemes start s.position)).enter .between).Idle m)

theorem foldl_append (s : Scan) (cs ds : List Char) :
    (cs ++ ds).foldl step s = ds.foldl step (cs.foldl step s) := List.foldl_append

variable {s : Scan} {m m' : Machine}

/-! ## Marks and blanks -/

/-- A token takes the machine one step further. -/
theorem Idle.emit (h : s.Idle m) {t : Token} (ht : m.step .document t = .ok m')
    (start position : Nat) (mode : Mode) (hmode : mode = .between) : Idle { s with
      position := position, mode := mode, found := ⟨t, start⟩ :: s.found } m' where
  mode := hmode
  run := by
    rw [List.reverse_cons, run_append h.run]
    exact run_singleton ht

/-- A character that is a token by itself. -/
def IsMark (c : Char) (t : Token) : Prop := ∀ s : Scan, s.begin c = s.emit [⟨t, s.position⟩]

theorem isMark_openArray : IsMark '[' .openArray := fun _ => rfl
theorem isMark_closeArray : IsMark ']' .closeArray := fun _ => rfl
theorem isMark_openObject : IsMark '\x7b' .openObject := fun _ => rfl
theorem isMark_closeObject : IsMark '\x7d' .closeObject := fun _ => rfl
theorem isMark_comma : IsMark ',' .comma := fun _ => rfl
theorem isMark_colon : IsMark ':' .colon := fun _ => rfl

/-- A character that belongs to no complete number. -/
def EndsNumber (c : Char) : Prop := ∀ n : Numeric, n.complete = true → n.next? c = none

theorem endsNumber {c : Char} (hdigit : c.isDigit = false) (hpoint : c ≠ '.') (he : c ≠ 'e')
    (hE : c ≠ 'E') : EndsNumber c := by
  intro n hn
  cases hs : n.stage <;> simp [Numeric.complete, hs] at hn <;>
    simp [Numeric.next?, Numeric.next?.afterWhole, Numeric.next?.exponentMark,
      Numeric.next?.exponentDigit, hs, hdigit, hpoint, he, hE]

theorem Idle.step_eq (h : s.Idle m) (c : Char) :
    s.step c = { s.begin c with position := s.position + 1 } := by
  rw [step, read, h.mode]

theorem Idle.mark (h : s.Idle m) {c : Char} {t : Token} (hc : IsMark c t)
    (ht : m.step .document t = .ok m') : (s.step c).Idle m' := by
  rw [h.step_eq, hc]
  exact h.emit ht _ _ _ h.mode

theorem Idle.blank (h : s.Idle m) {c : Char} (hc : c = ' ' ∨ c = '\n') : (s.step c).Idle m := by
  rw [h.step_eq]
  rcases hc with rfl | rfl <;> exact ⟨h.mode, h.run⟩

/-- The character after a number first lets the number end. -/
theorem Ready.settle (h : s.Ready m) {c : Char} (hc : EndsNumber c) :
    ∃ s' : Scan, s'.Idle m ∧ s.step c = s'.step c := by
  rcases h with h | ⟨start, n, hmode, hcomplete, h⟩
  · exact ⟨s, h, rfl⟩
  · refine ⟨_, h, ?_⟩
    have hminus : ¬ (n.stage = .minus ∧ c = 'I') := by
      rintro ⟨hs, -⟩
      simp [Numeric.complete, hs] at hcomplete
    rw [h.step_eq, step, read, hmode]
    simp only [hc n hcomplete, if_neg hminus, hcomplete, if_pos]
    rfl

theorem Ready.mark (h : s.Ready m) {c : Char} {t : Token} (hc : IsMark c t) (hend : EndsNumber c)
    (ht : m.step .document t = .ok m') : (s.step c).Idle m' := by
  obtain ⟨s', hs', heq⟩ := h.settle hend
  rw [heq]
  exact hs'.mark hc ht

theorem Idle.blanks (h : s.Idle m) (n : Nat) : ((List.replicate n ' ').foldl step s).Idle m := by
  induction n generalizing s with
  | zero => exact h
  | succ n ih => exact ih (h.blank (.inl rfl))

theorem Idle.lineBreak (h : s.Idle m) (indent : Option Nat) (level : Nat) :
    ((lineBreak indent level).foldl step s).Idle m := by
  cases indent with
  | none => exact h
  | some n => exact (h.blank (.inr rfl)).blanks _

theorem Ready.lineBreak (h : s.Ready m) (indent : Option Nat) (level : Nat) :
    ((lineBreak indent level).foldl step s).Ready m := by
  cases indent with
  | none => exact h
  | some n =>
    have hend : EndsNumber '\n' := endsNumber rfl (by decide) (by decide) (by decide)
    obtain ⟨s', hs', heq⟩ := h.settle hend
    change ((List.replicate _ ' ').foldl step (s.step '\n')).Ready m
    rw [heq]
    exact .idle ((hs'.blank (.inr rfl)).blanks _)

theorem Idle.nameMark (h : s.Idle m) (indent : Option Nat) (ht : m.step .document .colon = .ok m') :
    ((nameMark indent).foldl step s).Idle m' := by
  cases indent with
  | none => exact h.mark isMark_colon ht
  | some n => exact (h.mark isMark_colon ht).blank (.inl rfl)

/-! ## Constants -/

/-- The rest of a constant is read up to its end. -/
theorem foldl_constant {start : Nat} {cs : List Char} (hcs : cs ≠ []) {j : Json}
    {found : List Lexeme} {position : Nat} : cs.foldl step ⟨position, .constant start cs j, found⟩ =
      ⟨position + cs.length, .between, ⟨.scalar j, start⟩ :: found⟩ := by
  induction cs generalizing position with
  | nil => exact absurd rfl hcs
  | cons c cs ih =>
    rcases cs with _ | ⟨d, ds⟩
    · rw [List.foldl_cons, step, read]
      simp [Scan.emit, enter]
    · have hstep : step ⟨position, .constant start (c :: d :: ds) j, found⟩ c =
          ⟨position + 1, .constant start (d :: ds) j, found⟩ := by
        rw [step, read]
        simp [enter]
      rw [List.foldl_cons, hstep, ih (List.cons_ne_nil d ds)]
      simp [Nat.add_comm, Nat.add_left_comm]

theorem Idle.constant (h : s.Idle m) {c : Char} (cs : List Char) (hcs : cs ≠ []) {j : Json}
    (hc : ∀ s : Scan, s.begin c = s.enter (.constant s.position cs j))
    (ht : m.step .document (.scalar j) = .ok m') : ((c :: cs).foldl step s).Idle m' := by
  rw [List.foldl_cons, h.step_eq, hc]
  change (cs.foldl step ⟨_, .constant s.position cs j, s.found⟩).Idle m'
  rw [foldl_constant hcs]
  exact h.emit ht _ _ _ rfl

theorem Idle.null (h : s.Idle m) (ht : m.step .document (.scalar .null) = .ok m') :
    ("null".toList.foldl step s).Idle m' :=
  h.constant ['u', 'l', 'l'] (by simp) (fun _ => rfl) ht

theorem Idle.bool (h : s.Idle m) (b : Bool) (ht : m.step .document (.scalar (.bool b)) = .ok m') :
    ((if b then "true" else "false").toList.foldl step s).Idle m' := by
  cases b
  · exact h.constant ['a', 'l', 's', 'e'] (by simp) (fun _ => rfl) ht
  · exact h.constant ['r', 'u', 'e'] (by simp) (fun _ => rfl) ht

/-! ## Numbers -/

theorem foldl_number {start : Nat} {n n' : Numeric} {cs : List Char} (hcs : n.read? cs = some n')
    {found : List Lexeme} {position : Nat} :
    cs.foldl step ⟨position, .number start n, found⟩ =
      ⟨position + cs.length, .number start n', found⟩ := by
  induction cs generalizing n position with
  | nil =>
    cases hcs
    rfl
  | cons c cs ih =>
    rw [Numeric.read?_cons] at hcs
    obtain ⟨n₁, hn₁, hcs⟩ := Option.bind_eq_some_iff.1 hcs
    have hstep : step ⟨position, .number start n, found⟩ c =
        ⟨position + 1, .number start n₁, found⟩ := by
      rw [step, read]
      simp [hn₁, enter]
    rw [List.foldl_cons, hstep, ih hcs]
    simp [Nat.add_comm, Nat.add_left_comm]

theorem mem_digits {c : Char} (h : c.isDigit = true) :
    c ∈ ['0', '1', '2', '3', '4', '5', '6', '7', '8', '9'] := by
  have hc : c = Char.ofNat c.toNat := (Char.ofNat_toNat c).symm
  simp only [Char.isDigit, Bool.and_eq_true, decide_eq_true_eq] at h
  have hlow : 48 ≤ c.toNat := h.1
  have hhigh : c.toNat ≤ 57 := h.2
  rw [hc]
  generalize c.toNat = n at hlow hhigh ⊢
  interval_cases n <;> decide

/-- A digit begins a number. -/
theorem begin_digit (s : Scan) {c : Char} {n : Numeric}
    (h : (Numeric.signed false).next? c = some n) : s.begin c = s.enter (.number s.position n) := by
  have hdigit : c.isDigit = true := by
    by_contra hne
    have hzero : c ≠ '0' := fun hc => hne (hc ▸ rfl)
    simp [Numeric.signed, Numeric.next?, hne, hzero] at h
  have hc := mem_digits hdigit
  simp only [List.mem_cons, List.not_mem_nil, or_false] at hc
  rcases hc with rfl | rfl | rfl | rfl | rfl | rfl | rfl | rfl | rfl | rfl <;>
    · cases h
      rfl

/-- A number is read and stays open. -/
theorem Idle.number (h : s.Idle m) (negative : Bool) {n : Numeric} {cs : List Char} (hne : cs ≠ [])
    (hcs : (Numeric.signed negative).read? cs = some n) (hn : n.complete = true)
    (ht : m.step .document (.number n.json n.digits) = .ok m') :
    (((if negative then ['-'] else []) ++ cs).foldl step s).Ready m' := by
  obtain ⟨position, hs⟩ : ∃ position,
      ((if negative then ['-'] else []) ++ cs).foldl step s =
        ⟨position, .number s.position n, s.found⟩ := by
    cases negative
    · cases cs with
      | nil => exact absurd rfl hne
      | cons c cs =>
        rw [Numeric.read?_cons] at hcs
        obtain ⟨n₁, hn₁, hcs⟩ := Option.bind_eq_some_iff.1 hcs
        refine ⟨s.position + 1 + cs.length, ?_⟩
        change (c :: cs).foldl step s = _
        rw [List.foldl_cons, h.step_eq, begin_digit s hn₁]
        exact foldl_number hcs
    · refine ⟨s.position + 1 + cs.length, ?_⟩
      change ('-' :: cs).foldl step s = _
      rw [List.foldl_cons, h.step_eq]
      exact foldl_number hcs
  rw [hs]
  refine .number s.position n rfl hn ?_
  rw [Numeric.lexemes_eq hn]
  exact h.emit ht _ _ _ rfl

/-! ## Strings -/

/-- The scan inside a string, all of whose escapes are settled. -/
structure Inside (start : Nat) (points : List CodePoint) (found : List Lexeme) (s : Scan) :
    Prop where
  mode : ∃ mark, s.mode = .string start ⟨points, none, mark⟩
  found : s.found = found

section Inside

variable {start : Nat} {points : List CodePoint} {found : List Lexeme}

/-- A character that needs no escape is read as it is. -/
theorem Inside.char (h : s.Inside start points found) {c : Char} (hquote : c ≠ '"')
    (hslash : c ≠ '\\') (hcontrol : ¬ c.toNat < 0x20) :
    (s.step c).Inside start (.char c :: points) found := by
  obtain ⟨⟨mark, hmode⟩, hfound⟩ := h
  rw [step, read, hmode]
  simp only [if_neg hquote, if_neg hslash, if_neg hcontrol]
  exact ⟨⟨none, rfl⟩, hfound⟩

/-- An escape of one letter is read as the character that it stands for. -/
theorem Inside.escape (h : s.Inside start points found) {e c : Char} (he : escaped? e = some c)
    (hu : e ≠ 'u') : (['\\', e].foldl step s).Inside start (.char c :: points) found := by
  obtain ⟨⟨mark, hmode⟩, hfound⟩ := h
  have hslash : s.step '\\' =
      ⟨s.position + 1, .escape start ⟨points, none, none⟩, s.found⟩ := by
    rw [step, read, hmode]
    rfl
  rw [List.foldl_cons, hslash, List.foldl_cons, List.foldl_nil, step, read]
  simp only [if_neg hu, he]
  exact ⟨⟨none, rfl⟩, hfound⟩

theorem hex_control : ∀ n < 0x20,
    Text.hex 4 n = ['0', '0', (n / 16).digitChar, (n % 16).digitChar] ∧
      Text.hexValue? (n / 16).digitChar = some (n / 16) ∧
      Text.hexValue? (n % 16).digitChar = some (n % 16) := by decide

/-- An escaped code unit that is no half of a pair is read as a character. -/
theorem Inside.unit (h : s.Inside start points found) {a b c d : Char} {p q r t v : Nat}
    (ha : Text.hexValue? a = some p) (hb : Text.hexValue? b = some q)
    (hc : Text.hexValue? c = some r) (hd : Text.hexValue? d = some t)
    (hv : 16 * (16 * (16 * (16 * 0 + p) + q) + r) + t = v) (hlt : v < 0xd800) :
    (['\\', 'u', a, b, c, d].foldl step s).Inside start (.char (Char.ofNat v) :: points) found := by
  obtain ⟨⟨mark, hmode⟩, hfound⟩ := h
  obtain ⟨position, mode, found'⟩ := s
  subst hmode hfound
  have hhigh : ¬ (0xd800 ≤ v ∧ v < 0xdc00) := by omega
  have hlow : ¬ (0xdc00 ≤ v ∧ v < 0xe000) := by omega
  have hunit : (⟨points, none, none⟩ : Content).pushUnit v (position + 1) =
      ⟨.char (Char.ofNat v) :: points, none, some (position + 1)⟩ := by
    simp [Content.pushUnit, Content.pushUnit.alone, hhigh, hlow]
  subst hv
  simp only [List.foldl_cons, List.foldl_nil, step, read, ha, hb, hc, hd, enter]
  exact ⟨⟨_, congrArg (Mode.string start) hunit⟩, rfl⟩

/-- Every character is read as it was written. -/
theorem Inside.escapedChar (h : s.Inside start points found) (c : Char) :
    ((escapedChar c).foldl step s).Inside start (.char c :: points) found := by
  rw [Json.escapedChar]
  split_ifs with hquote hslash hb hf hn hr ht hcontrol
  · exact h.escape (by rw [hquote]; rfl) (by decide)
  · exact h.escape (by rw [hslash]; rfl) (by decide)
  · exact h.escape (by rw [hb]; rfl) (by decide)
  · exact h.escape (by rw [hf]; rfl) (by decide)
  · exact h.escape (by rw [hn]; rfl) (by decide)
  · exact h.escape (by rw [hr]; rfl) (by decide)
  · exact h.escape (by rw [ht]; rfl) (by decide)
  · obtain ⟨hhex, htens, hunits⟩ := hex_control c.toNat hcontrol
    have hunit := h.unit (show Text.hexValue? '0' = some 0 from rfl)
      (show Text.hexValue? '0' = some 0 from rfl) htens hunits (v := c.toNat) (by omega) (by omega)
    rw [Char.ofNat_toNat] at hunit
    rw [hhex]
    exact hunit
  · exact h.char hquote hslash hcontrol

theorem Inside.all (h : s.Inside start points found) {ps : List CodePoint}
    (hps : ps.all (fun p => !p.isHalf) = true) :
    ((ps.flatMap escapedPoint).foldl step s).Inside start (ps.reverse ++ points) found := by
  induction ps generalizing s points with
  | nil => exact h
  | cons p ps ih =>
    rw [List.all_cons, Bool.and_eq_true] at hps
    cases p with
    | half unit => cases hps.1
    | char c =>
      rw [List.flatMap_cons, foldl_append, List.reverse_cons, List.append_assoc]
      exact ih (h.escapedChar c) hps.2

end Inside

/-- A text is read as it was written. -/
theorem Idle.string (h : s.Idle m) {t : Spelling} (ht : t.isWhole = true)
    (hm : m.step .document (.string t) = .ok m') : ((stringLiteral t).foldl step s).Idle m' := by
  have hopen : (s.step '"').Inside s.position [] s.found := by
    rw [h.step_eq]
    exact ⟨⟨none, rfl⟩, rfl⟩
  obtain ⟨⟨mark, hmode⟩, hfound⟩ := hopen.all ht
  rw [List.append_nil] at hmode
  have hclose : (stringLiteral t).foldl step s =
      ((t.points.flatMap escapedPoint).foldl step (s.step '"')).step '"' := by
    rw [stringLiteral, foldl_append]
    rfl
  have htoken : Content.token ⟨t.points.reverse, none, mark⟩ = .string t := by
    rw [Content.token, Content.settle]
    simp
  have hnext := h.emit hm s.position
    (((t.points.flatMap escapedPoint).foldl step (s.step '"')).position + 1) .between rfl
  rw [← hfound] at hnext
  rw [hclose, step, read, hmode]
  simp only [if_pos, htoken]
  exact hnext

/-! ## The end of the text -/

theorem Idle.close {j : Json} (h : s.Idle (.finished j)) :
    Json.run .document (.running .value []) s.close = .ok (.finished j) := by
  rw [Scan.close, h.mode]
  exact (h.emit (t := .finish) rfl s.position 0 .between rfl).run

theorem Ready.close {j : Json} (h : s.Ready (.finished j)) :
    Json.run .document (.running .value []) s.close = .ok (.finished j) := by
  rcases h with h | ⟨start, n, hmode, -, h⟩
  · exact h.close
  · rw [Scan.close, hmode]
    exact (h.emit (t := .finish) rfl s.position 0 .between rfl).run

/-- Nothing is read after a character that starts no token. -/
theorem foldl_halted (hs : s.mode = .halted) (cs : List Char) :
    (cs.foldl step s).mode = .halted := by
  induction cs generalizing s with
  | nil => exact hs
  | cons c cs ih => exact ih (by rw [step, read, hs]; exact hs)

theorem Ready.ne_halted (h : s.Ready m) : s.mode ≠ .halted := by
  rcases h with h | ⟨start, n, hmode, -, -⟩
  · rw [h.mode]
    exact nofun
  · rw [hmode]
    exact nofun

end Scan

end Promptbook.Json
