import Mathlib.Data.List.Basic
import Promptbook.Command.Run
import Promptbook.Proofs.Json.Numeral

/-!
# Messages that can be shown

What a message names may hold anything that reads like a mark.  Where it holds no bracket, the only
marks are those of the message itself.  A backslash at its end can still keep a closing mark from
being one, and the style then goes on to the end of the message, which does no harm.
-/

namespace Promptbook.Command.Markup

/-! ## Pieces of a text -/

section Pieces

variable {content rest : List Char}

theorem takeWhile_backslashes (k : ℕ) {d : Char} (hd : d ≠ '\\') :
    (List.replicate k '\\' ++ d :: rest).takeWhile (· = '\\') = List.replicate k '\\' := by
  induction k with
  | zero => simp [hd]
  | succ k ih => simpa [List.replicate_succ] using ih

theorem drop_backslashes (k : ℕ) (cs : List Char) : (List.replicate k '\\' ++ cs).drop k = cs :=
  List.drop_left' List.length_replicate

/-- Behind some backslashes there is a tag only where a bracket opens. -/
theorem tag?_backslashes (k : ℕ) {d : Char} (hback : d ≠ '\\') (hopen : d ≠ '[') :
    tag? (List.replicate k '\\' ++ d :: rest) = none := by
  rw [tag?, takeWhile_backslashes k hback, List.length_replicate, drop_backslashes]
  split
  next heq =>
    cases heq
    exact absurd rfl hopen
  next => rfl

theorem tag?_open (k : ℕ) : tag? (List.replicate k '\\' ++ '[' :: rest) =
    (content? rest).map fun content => (k, content) := by
  rw [tag?, takeWhile_backslashes k (by decide), List.length_replicate, drop_backslashes]
  rfl

theorem exists_backslashes {cs : List Char} (h : ∃ d ∈ cs, d ≠ '\\') :
    ∃ k d ds, cs = List.replicate k '\\' ++ d :: ds ∧ d ≠ '\\' := by
  induction cs with
  | nil => simp at h
  | cons c cs ih =>
    by_cases hc : c = '\\'
    · obtain ⟨k, d, ds, rfl, hd⟩ := ih (by simpa [hc] using h)
      exact ⟨k + 1, d, ds, by rw [hc, List.replicate_succ, List.cons_append], hd⟩
    · exact ⟨0, c, cs, rfl, hc⟩

/-- A text without brackets is followed by a tag only where it consists of backslashes. -/
theorem tag?_eq_none {cs : List Char} (hcs : '[' ∉ cs) (hother : ∃ d ∈ cs, d ≠ '\\') :
    tag? (cs ++ rest) = none := by
  obtain ⟨k, d, ds, rfl, hd⟩ := exists_backslashes hother
  rw [List.append_assoc, List.cons_append]
  apply tag?_backslashes k hd
  rintro rfl
  exact hcs (List.mem_append_right _ List.mem_cons_self)

/-- Whether characters may stand in a tag. -/
structure IsContent (content : List Char) : Prop where
  starts : ∃ c ∈ content.head?, startsTag c = true
  closed : ∀ c ∈ content, c ≠ ']' ∧ c ≠ '['

theorem content?_append (h : IsContent content) :
    content? (content ++ ']' :: rest) = some content := by
  obtain ⟨c, hhead, hc⟩ := h.starts
  obtain ⟨cs, rfl⟩ := List.head?_eq_some_iff.1 hhead
  have hrun : (cs ++ ']' :: rest).takeWhile (fun d => d ≠ ']' && d ≠ '[') = cs := by
    rw [List.takeWhile_append_of_pos]
    · simp
    · intro d hd
      simpa using h.closed d (List.mem_cons_of_mem c hd)
  rw [List.cons_append, content?, hrun]
  simp [hc]

/-- The content of a piece that is a tag. -/
def Piece.mark? : Piece → Option (List Char)
  | plain _ => none
  | tag _ content => some content

/-- The tags of a text, wherever they stand. -/
def marks (cs : List Char) : List (List Char) := (pieces 0 0 [] cs).filterMap Piece.mark?

theorem marks_consPlain (before : List Char) (ps : List Piece) :
    (Piece.consPlain before ps).filterMap Piece.mark? = ps.filterMap Piece.mark? := by
  rw [Piece.consPlain]
  split_ifs <;> rfl

/-- A backslash that is left over keeps a tag from being one. -/
theorem marks_ofTag (i k : ℕ) (content : List Char) :
    (Piece.ofTag i k content).filterMap Piece.mark? = if k % 2 = 1 then [] else [content] := by
  rw [Piece.ofTag]
  split_ifs <;> rfl

/-- The tags of a text do not depend on what stands before it. -/
theorem marks_pieces (i skip : ℕ) (before cs : List Char) :
    (pieces i skip before cs).filterMap Piece.mark? =
      (pieces 0 skip [] cs).filterMap Piece.mark? := by
  induction cs generalizing i skip before with
  | nil => cases skip <;> simp only [pieces, marks_consPlain]
  | cons c cs ih =>
    cases skip with
    | succ skip => rw [pieces, pieces, ih (i + 1), ih (0 + 1)]
    | zero =>
      rw [pieces, pieces]
      cases tag? (c :: cs) with
      | none => simp only [ih (i + 1), ih (0 + 1) 0 [c]]
      | some t =>
        simp only [marks_consPlain, List.filterMap_append, marks_ofTag, ih (i + 1), ih (0 + 1)]

/-- What has been read as part of a tag is skipped. -/
theorem marks_skip (cs : List Char) :
    (pieces 0 cs.length [] (cs ++ rest)).filterMap Piece.mark? = marks rest := by
  induction cs with
  | nil => rfl
  | cons c cs ih => rw [List.length_cons, List.cons_append, pieces, marks_pieces, ih]

theorem marks_cons_of_none {c : Char} {cs : List Char} (h : tag? (c :: cs) = none) :
    marks (c :: cs) = marks cs := by
  rw [marks, pieces, h]
  exact marks_pieces ..

theorem marks_backslashes (hcontent : IsContent content) (k : ℕ) :
    marks (List.replicate k '\\' ++ ('[' :: content ++ ']' :: rest)) =
      (if k % 2 = 1 then [] else [content]) ++ marks rest := by
  have htag : tag? (List.replicate k '\\' ++ ('[' :: content ++ ']' :: rest)) =
      some (k, content) := by
    rw [List.cons_append, tag?_open, content?_append hcontent]
    rfl
  have hlist : ∃ c cs, cs.length = k + content.length + 1 ∧
      List.replicate k '\\' ++ ('[' :: content ++ ']' :: rest) = c :: (cs ++ rest) := by
    cases k with
    | zero => exact ⟨'[', content ++ [']'], by simp, by simp⟩
    | succ k =>
      refine ⟨'\\', List.replicate k '\\' ++ '[' :: content ++ [']'], ?_, ?_⟩
      · simp
        omega
      · simp [List.replicate_succ]
  obtain ⟨c, cs, hlength, hcs⟩ := hlist
  rw [hcs] at htag ⊢
  rw [marks, pieces, htag]
  simp only [marks_consPlain, List.filterMap_append, marks_ofTag, marks_pieces (0 + 1), ← hlength,
    marks_skip]

/-- Behind a text without brackets a tag counts, unless a backslash keeps it from being one. -/
theorem marks_text_append {cs : List Char} (hcs : '[' ∉ cs) (hcontent : IsContent content) :
    marks (cs ++ ('[' :: content ++ ']' :: rest)) = content :: marks rest ∨
    cs.getLast? = some '\\' ∧
      marks (cs ++ ('[' :: content ++ ']' :: rest)) = marks rest := by
  induction cs with
  | nil => exact .inl (marks_backslashes hcontent 0)
  | cons c cs ih =>
    rw [List.mem_cons, not_or] at hcs
    by_cases hother : ∃ d ∈ c :: cs, d ≠ '\\'
    · have hnone : tag? (c :: cs ++ ('[' :: content ++ ']' :: rest)) = none :=
        tag?_eq_none (List.not_mem_cons_of_ne_of_not_mem hcs.1 hcs.2) hother
      rw [List.cons_append] at hnone ⊢
      rw [marks_cons_of_none hnone]
      rcases ih hcs.2 with hmark | ⟨hlast, hnone⟩
      · exact .inl hmark
      · refine .inr ⟨?_, hnone⟩
        rw [List.getLast?_cons, hlast]
        rfl
    · have hall : ∀ d ∈ c :: cs, d = '\\' := by simpa using hother
      rw [List.eq_replicate_of_mem hall, marks_backslashes hcontent]
      split_ifs
      · refine .inr ⟨?_, rfl⟩
        rw [List.getLast?_replicate, List.length_cons, if_neg (Nat.succ_ne_zero _)]
      · exact .inl rfl

end Pieces

/-! ## Tags that are closed in turn -/

/-- A tag that names a style as its normal form does. -/
structure IsMark (name : List Char) : Prop where
  content : IsContent name
  noParameters : '=' ∉ name
  noAction : name.head? ≠ some '@'
  noClosing : name.head? ≠ some '/'
  notBlank : (Text.trim Text.isGap name).isEmpty = false
  normal : Markup.style name = .ok (String.ofList name)
  known : Style.check name = .ok ()

/-- Whether tags close no more than the tags that are open, the innermost first. -/
inductive Closes : List String → List (List Char) → Prop
  | done {opened : List String} : Closes opened []
  | opening {opened : List String} {name : List Char} {ms : List (List Char)} (h : IsMark name)
    (hms : Closes (String.ofList name :: opened) ms) : Closes opened (name :: ms)
  | closing {opened : List String} {name : List Char} {ms : List (List Char)} (h : IsMark name)
    (hms : Closes opened ms) : Closes (String.ofList name :: opened) (('/' :: name) :: ms)
  | closingAny {opened : List String} {style : String} {ms : List (List Char)}
    (hms : Closes opened ms) : Closes (style :: opened) (['/'] :: ms)

theorem span_eq {name : List Char} (h : '=' ∉ name) : name.span (· ≠ '=') = (name, []) := by
  have hall : ∀ c ∈ name, decide (c ≠ '=') = true := by
    rintro c hc
    apply decide_eq_true
    rintro rfl
    exact h hc
  rw [List.span_eq_takeWhile_dropWhile, List.takeWhile_eq_self_iff.2 hall,
    List.dropWhile_eq_nil_iff.2 hall]

/-- A tag that leaves a known style wherever it is closed. -/
structure OpenTag.Known (t : OpenTag) : Prop where
  noAction : t.isAction = false
  style : ∀ finish, Style.check (t.stretch finish).style = .ok ()

/-- Whether all styles of what has been read are known. -/
structure Reading.Known (r : Reading) : Prop where
  opened : ∀ t ∈ r.opened, t.Known
  stretches : ∀ s ∈ r.stretches, Style.check s.style = .ok ()

theorem IsMark.known_openTag {name : List Char} (h : IsMark name) (start : ℕ) :
    (⟨start, String.ofList name, none⟩ : OpenTag).Known where
  noAction := by
    rw [OpenTag.isAction, String.toList_ofList]
    exact decide_eq_false h.noAction
  style finish := by
    rw [OpenTag.stretch, String.toList_ofList, Option.elim_none, List.append_nil]
    exact h.known

namespace Reading.Known

variable {r : Reading}

/-- The innermost tag is closed. -/
theorem close_head (h : r.Known) {t : OpenTag} {ts : List OpenTag} (hopened : r.opened = t :: ts) :
    ∃ r', r.close t = .ok r' ∧ r'.Known ∧ r'.opened = ts := by
  have ht := h.opened t (hopened ▸ List.mem_cons_self)
  have hclose : t.close r.position = .ok [t.stretch r.position] := by
    rw [OpenTag.close, ht.noAction]
    rfl
  refine ⟨{ r with stretches := t.stretch r.position :: r.stretches, opened := ts }, ?_, ?_, rfl⟩
  · rw [Reading.close, hclose, hopened]
    simp only [List.erase_cons_head]
    rfl
  · refine ⟨fun t' ht' => h.opened t' (hopened ▸ List.mem_cons_of_mem t ht'), ?_⟩
    rw [List.forall_mem_cons]
    exact ⟨ht.style _, h.stretches⟩

theorem step_opening (h : r.Known) {name : List Char} (hname : IsMark name) (position : ℕ) :
    ∃ r', r.step (.tag position name) = .ok r' ∧ r'.Known ∧
      r'.opened.map (·.style) = String.ofList name :: r.opened.map (·.style) := by
  obtain ⟨c, hhead, -⟩ := hname.content.starts
  obtain ⟨cs, rfl⟩ := List.head?_eq_some_iff.1 hhead
  refine ⟨{ r with opened := ⟨r.position, String.ofList (c :: cs), none⟩ :: r.opened }, ?_, ?_, rfl⟩
  · rw [Reading.step, span_eq hname.noParameters]
    split
    next heq =>
      cases heq
      exact absurd rfl hname.noClosing
    next heq =>
      cases heq
      rw [hname.normal]
      rfl
  · refine ⟨?_, h.stretches⟩
    rw [List.forall_mem_cons]
    exact ⟨hname.known_openTag _, h.opened⟩

theorem step_closing (h : r.Known) {name : List Char} (hname : IsMark name) (position : ℕ)
    {opened : List String} (hopened : r.opened.map (·.style) = String.ofList name :: opened) :
    ∃ r', r.step (.tag position ('/' :: name)) = .ok r' ∧ r'.Known ∧
      r'.opened.map (·.style) = opened := by
  obtain ⟨t, ts, hts, hstyle, rfl⟩ := List.map_eq_cons_iff.1 hopened
  obtain ⟨r', hr', hknown, rfl⟩ := h.close_head hts
  refine ⟨r', ?_, hknown, rfl⟩
  have hslash : '=' ∉ '/' :: name := by
    rw [List.mem_cons, not_or]
    exact ⟨by decide, hname.noParameters⟩
  have hfound : r.opened.find? (fun t => t.style = String.ofList name) = some t := by
    rw [hts]
    exact List.find?_cons_of_pos (decide_eq_true hstyle)
  rw [Reading.step, span_eq hslash]
  simp only [hname.notBlank, Bool.false_eq_true, if_false, hname.normal]
  change (r.opened.find? fun t => t.style = String.ofList name).elim _ _ = _
  rw [hfound]
  exact hr'

theorem step_closingAny (h : r.Known) (position : ℕ) {style : String}
    {opened : List String} (hopened : r.opened.map (·.style) = style :: opened) :
    ∃ r', r.step (.tag position ['/']) = .ok r' ∧ r'.Known ∧
      r'.opened.map (·.style) = opened := by
  obtain ⟨t, ts, hts, hstyle, rfl⟩ := List.map_eq_cons_iff.1 hopened
  obtain ⟨r', hr', hknown, rfl⟩ := h.close_head hts
  refine ⟨r', ?_, hknown, rfl⟩
  rw [Reading.step, span_eq (by decide)]
  simp only [hts]
  exact hr'

end Reading.Known

/-- A text whose tags are closed in turn is read. -/
theorem Reading.Known.foldlM {ps : List Piece} {r : Reading} (h : r.Known)
    (hps : Closes (r.opened.map (·.style)) (ps.filterMap Piece.mark?)) :
    ∃ r', ps.foldlM Reading.step r = .ok r' ∧ r'.Known := by
  induction ps generalizing r with
  | nil => exact ⟨r, rfl, h⟩
  | cons p ps ih =>
    have hstep : ∃ r', r.step p = .ok r' ∧ r'.Known ∧
        Closes (r'.opened.map (·.style)) (ps.filterMap Piece.mark?) := by
      cases p with
      | plain cs => exact ⟨_, rfl, ⟨h.opened, h.stretches⟩, hps⟩
      | tag position content =>
        generalize hopened : r.opened.map (·.style) = opened at hps
        change Closes opened (content :: ps.filterMap Piece.mark?) at hps
        cases hps with
        | opening hname hms =>
          obtain ⟨r', hr', hknown, hopened'⟩ := h.step_opening hname position
          refine ⟨r', hr', hknown, ?_⟩
          rw [hopened', hopened]
          exact hms
        | closing hname hms =>
          obtain ⟨r', hr', hknown, rfl⟩ := h.step_closing hname position hopened
          exact ⟨r', hr', hknown, hms⟩
        | closingAny hms =>
          obtain ⟨r', hr', hknown, rfl⟩ := h.step_closingAny position hopened
          exact ⟨r', hr', hknown, hms⟩
    obtain ⟨r₁, hr₁, hknown, hrest⟩ := hstep
    rw [List.foldlM_cons, hr₁]
    exact ih hknown hrest

theorem Reading.Known.allStretches {r : Reading} (h : r.Known) :
    ∀ s ∈ r.allStretches, Style.check s.style = .ok () := by
  intro s hs
  rw [Reading.allStretches, arranged, List.mem_mergeSort, List.mem_reverse, List.mem_append,
    List.mem_reverse, List.mem_map] at hs
  rcases hs with hs | ⟨t, ht, rfl⟩
  · exact h.stretches s hs
  · exact (h.opened t ht).style _

/-- Whether the tags of a text are closed in turn, whatever has been open before. -/
def Closed (cs : List Char) : Prop := ∀ opened, Closes opened (marks cs)

theorem IsMark.closing {name : List Char} (h : IsMark name) : IsContent ('/' :: name) where
  starts := ⟨'/', rfl, rfl⟩
  closed := by
    rw [List.forall_mem_cons]
    exact ⟨by decide, h.content.closed⟩

/-- A text without brackets may stand between a tag and the one that closes it. -/
theorem Closed.mark {rest : List Char} (hrest : Closed rest) {before name inner closing : List Char}
    (hbefore : '[' ∉ before) (hlast : before.getLast? ≠ some '\\') (hname : IsMark name)
    (hinner : '[' ∉ inner) (hclosing : closing = '/' :: name ∨ closing = ['/']) :
    Closed (before ++ ('[' :: name ++ ']' :: (inner ++ ('[' :: closing ++ ']' :: rest)))) := by
  have hcontent : IsContent closing := by
    rcases hclosing with rfl | rfl
    · exact hname.closing
    · exact ⟨⟨'/', rfl, rfl⟩, by simp⟩
  intro opened
  rcases marks_text_append hbefore hname.content with hmark | ⟨hback, -⟩
  · rw [hmark]
    apply Closes.opening hname
    rcases marks_text_append hinner hcontent with hmark | ⟨-, hnone⟩
    · rw [hmark]
      rcases hclosing with rfl | rfl
      · exact .closing hname (hrest opened)
      · exact .closingAny (hrest opened)
    · rw [hnone]
      exact hrest _
  · exact absurd hback hlast

end Promptbook.Command.Markup

namespace Promptbook.Command

open Markup

end Promptbook.Command
