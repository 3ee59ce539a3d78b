import Promptbook.Proofs.Scenario.Shapes
import Promptbook.Scenario.Load

/-!
# Scenarios are read back as they were written

A scenario that was read from a text is written when all its strings are texts, and its text is
read back as the same scenario when all its numbers are finite.  A string that is spelled with half
of a surrogate pair keeps the scenario from being written at all; beats or characters that stand in
a text as a text of their own may hold such a string.
-/

namespace Promptbook

open Record

theorem fromSource_eq_ok {τ : Type} {source : String} {c : Checked τ} {t : τ}
    (h : fromSource source c = .ok t) : c = .ok t := by
  cases c with
  | error ps => cases h
  | ok t' =>
    cases h
    rfl

namespace Scenario

/-- The texts and numbers that a scenario holds. -/
def atoms (s : Scenario) : List Atom := (Contents.taggedShape s.origin).atoms s.toContents

/-- A scenario is read from the members of an object. -/
theorem exists_of_read_eq_ok {j : Json} {s : Scenario} (h : read j = .ok s) :
    ∃ ms, j = .object ms ∧
      (Contents.taggedShape s.origin).read (.object ms) = .ok s.toContents := by
  revert h
  fun_cases read j with
  | case1 | case2 | case4 => exact nofun
  | case3 ms tag _ o _ =>
    intro h
    obtain ⟨c, hc, rfl⟩ := exists_of_map_eq_ok h
    exact ⟨ms, rfl, under_eq_ok hc⟩

/-- A scenario that is read keeps to the bounds of its fields. -/
theorem admits_of_read {j : Json} (hj : j.isBrief) {s : Scenario} (h : read j = .ok s) :
    (Contents.taggedShape s.origin).Admits s.toContents := by
  obtain ⟨ms, rfl, hread⟩ := exists_of_read_eq_ok h
  have hform : Grain.value.Holds Json.isBrief (.object ms) := hj
  exact (Contents.taggedShape s.origin).admits_of_readAt
    (Contents.faithful_taggedShape s.origin).sound .document hform hread

theorem exists_of_decode_eq_ok {text : String} {s : Scenario} (h : decode text = .ok s) :
    ∃ j, Json.parse .document text = .ok j ∧ read j = .ok s := by
  rw [decode] at h
  cases hj : Json.parse .document text with
  | error m =>
    rw [hj] at h
    cases h
  | ok j =>
    rw [hj] at h
    exact ⟨j, rfl, h⟩

/-- A scenario from a text keeps to the bounds of its fields. -/
theorem admits_of_ofText {source text : String} {s : Scenario} (h : ofText source text = .ok s) :
    (Contents.taggedShape s.origin).Admits s.toContents := by
  obtain ⟨j, hj, hread⟩ := exists_of_decode_eq_ok (fromSource_eq_ok h)
  have hbrief := Json.parse_brief (d := .document) (by decide) hj
  exact admits_of_read hbrief hread

theorem isWhole_write_iff (s : Scenario) :
    s.write.isWhole = true ↔ ∀ a ∈ s.atoms, a.isWhole = true :=
  (Contents.taggedShape s.origin).holds_isWhole_write_iff
    (Contents.faithful_taggedShape s.origin) s.toContents

/-- The tag of a scenario is found among the members that are written. -/
theorem exists_finite_write (s : Scenario) : ∃ ms, s.write.finite = .object ms ∧
    Json.lookup? "type" ms = some (.text (Vocabulary.word s.origin)) := by
  refine ⟨_, rfl, ?_⟩
  refine Shape.holding_finiteMembers (Contents.faithful_taggedShape s.origin) s.toContents
    ("type", .text (Vocabulary.word s.origin)) ?_
  exact List.mem_cons_of_mem _ <| List.mem_cons_of_mem _ <| List.mem_cons_of_mem _ <|
    List.mem_cons_self ..

/-- What is under a tag is read as the tag tells. -/
theorem read_of_tag {ms : List (Spelling × Json)} {o : Origin}
    (htag : Json.lookup? "type" ms = some (.text (Vocabulary.word o))) :
    read (.object ms) = (Checked.under (.key (Vocabulary.word o))
      ((Contents.taggedShape o).read (.object ms))).map fun c => ⟨c, o⟩ := by
  have horigin : origin? (.text (Vocabulary.word o)) = some o := by
    rw [origin?, Spelling.text?_ofString]
    exact Vocabulary.ofWord?_word _ o
  simp only [read, htag, horigin]

/-- A scenario that its shape admits comes back from its layout. -/
theorem returns_read {s : Scenario} (h : (Contents.taggedShape s.origin).Admits s.toContents) :
    Returns s s.atoms (read s.write.finite) := by
  obtain ⟨ms, hms, htag⟩ := s.exists_finite_write
  have hform : Grain.value.Holding s.write s.write.finite := rfl
  have hcontents := (Contents.taggedShape s.origin).returns_readAt
    (Contents.faithful_taggedShape s.origin) .document h hform
  rw [hms] at hcontents ⊢
  rw [read_of_tag htag]
  exact (hcontents.under (.key (Vocabulary.word s.origin))).map fun c => (⟨c, s.origin⟩ : Scenario)

/-- The text of a scenario, with every indentation and also when a line break follows. -/
theorem returns_decode_lineBreak {s : Scenario}
    (h : (Contents.taggedShape s.origin).Admits s.toContents)
    (hwhole : ∀ a ∈ s.atoms, a.isWhole = true) (indent ending : Option Nat) (level : Nat) :
    Returns s s.atoms
      (decode (s.write.render indent ++ String.ofList (Json.lineBreak ending level))) := by
  have hs := Contents.faithful_taggedShape s.origin
  have hw := s.isWhole_write_iff.2 hwhole
  have hb := (Contents.taggedShape s.origin).holds_isBrief_write hs h
  have hheight : (Contents.taggedShape s.origin).height = 8 := rfl
  have hd : s.write.depth ≤ Json.Dialect.filledDepth := by
    refine ((Contents.taggedShape s.origin).holds_depth_write_le hs s.toContents).trans ?_
    rw [hheight]
    decide
  rw [decode, Json.parse_render_lineBreak indent hd hw hb]
  exact returns_read h

theorem returns_decode {s : Scenario} (h : (Contents.taggedShape s.origin).Admits s.toContents)
    (hwhole : ∀ a ∈ s.atoms, a.isWhole = true) (indent : Option Nat) :
    ∃ out, s.encode indent = .ok out ∧ Returns s s.atoms (decode out) := by
  have hreturns := returns_decode_lineBreak h hwhole indent none 0
  rw [show String.ofList (Json.lineBreak none 0) = "" from rfl, String.append_empty] at hreturns
  exact ⟨_, Json.written_of_isWhole indent (s.isWhole_write_iff.2 hwhole), hreturns⟩

end Scenario

/-- Problems that ask for numbers make a document unreadable. -/
theorem Record.Returns.ofSource {s : Scenario} {as : List Atom} {c : Checked Scenario}
    (h : Returns s as c) (source : String) :
    ((∀ a ∈ as, a.isFinite = true) → fromSource source c = .ok s) ∧
    ((∃ a ∈ as, a.isFinite = false) → ∃ ps,
      fromSource source c = .error (.unreadable ⟨source, .problems ps⟩) ∧
      ∀ p ∈ ps, p.fault = .notNumber) := by
  cases h with
  | whole h =>
    refine ⟨fun _ => rfl, ?_⟩
    rintro ⟨a, ha, hinfinite⟩
    rw [h a ha] at hinfinite
    cases hinfinite
  | @lossy a ha hinfinite ps hps =>
    constructor
    · intro h
      rw [h a ha] at hinfinite
      cases hinfinite
    · intro _
      have hdeep : Problem.tooDeep? ps = none := by
        rw [Problem.tooDeep?, List.findSome?_eq_none_iff]
        intro p hp
        rw [hps p hp]
      refine ⟨ps, ?_, hps⟩
      rw [fromSource, Failure.ofProblems, hdeep]

/-- What becomes of a scenario from a text when it is written with any indentation.  If a string of
it holds half of a surrogate pair, it is not written.  Otherwise it is, and the new text holds just
the scenario if all its numbers are finite; if one is not, the new text cannot be read, because
null stands where a number is due. -/
theorem scenario_round_trip {source text : String} {s : Scenario}
    (h : Scenario.ofText source text = .ok s) (indent : Option Nat) (source' : String) :
    ((∃ a ∈ s.atoms, a.isWhole = false) → ∃ u, s.encode indent = .error u) ∧
    ((∀ a ∈ s.atoms, a.isWhole = true) → ∃ out, s.encode indent = .ok out ∧
      ((∀ a ∈ s.atoms, a.isFinite = true) → Scenario.ofText source' out = .ok s) ∧
      ((∃ a ∈ s.atoms, a.isFinite = false) → ∃ ps,
        Scenario.ofText source' out = .error (.unreadable ⟨source', .problems ps⟩) ∧
        ∀ p ∈ ps, p.fault = .notNumber)) := by
  constructor
  · rintro ⟨a, ha, hhalf⟩
    refine Json.exists_written_eq_error indent (Bool.eq_false_iff.2 ?_)
    intro hw
    rw [s.isWhole_write_iff.1 hw a ha] at hhalf
    cases hhalf
  · intro hwhole
    have hadmits := Scenario.admits_of_ofText h
    obtain ⟨out, hout, hreturns⟩ := Scenario.returns_decode hadmits hwhole indent
    exact ⟨out, hout, hreturns.ofSource source'⟩

/-- The text of a scenario with one beat of a given length. -/
def saluteText (duration : String) : String :=
  "\x7b\"type\":\"beat\",\"beats\":[\x7b\"id\":\"b\",\"name\":\"Salute\",\"duration\":" ++
    duration ++ "\x7d]\x7d"

/-- A scenario with one beat of a given length. -/
def salute (duration : Float) : Scenario :=
  ⟨⟨"", [⟨"b", "Salute", "", duration, .empty⟩], []⟩, .beat⟩

theorem atoms_salute (duration : Float) : (salute duration).atoms =
    [.text "", .text "b", .text "Salute", .text "", .number duration] := rfl

theorem scenario_round_trip_salute :
    (Scenario.ofText inlineSource (saluteText "4.5") = .ok (salute 4.5) ∧
      ∃ out, (salute 4.5).encode (some 2) = .ok out ∧
        Scenario.ofText inlineSource out = .ok (salute 4.5)) ∧
    (Scenario.ofText inlineSource (saluteText "Infinity") = .ok (salute Double.infinity) ∧
      ∃ out, (salute Double.infinity).encode none = .ok out ∧
        ∃ ps, Scenario.ofText inlineSource out =
          .error (.unreadable ⟨inlineSource, .problems ps⟩)) := by
  have hsalute : Scenario.ofText inlineSource (saluteText "4.5") = .ok (salute 4.5) := rfl
  have hendless : Scenario.ofText inlineSource (saluteText "Infinity") =
      .ok (salute Double.infinity) := rfl
  refine ⟨⟨hsalute, ?_⟩, ⟨hendless, ?_⟩⟩
  · obtain ⟨out, hout, hback, -⟩ :=
      (scenario_round_trip hsalute (some 2) inlineSource).2 (List.all_eq_true.1 rfl)
    exact ⟨out, hout, hback (List.all_eq_true.1 rfl)⟩
  · obtain ⟨out, hout, -, hlost⟩ :=
      (scenario_round_trip hendless none inlineSource).2 (List.all_eq_true.1 rfl)
    have hinfinite : Atom.number Double.infinity ∈ (salute Double.infinity).atoms := by
      rw [atoms_salute]
      exact List.mem_of_getLast? rfl
    obtain ⟨ps, hps, -⟩ := hlost ⟨_, hinfinite, rfl⟩
    exact ⟨out, hout, ps, hps⟩

/-- A text with its beats in a text of their own, where an id is half of a surrogate pair. -/
def halfText : String :=
  "\x7b\"type\":\"beat\",\"beats\":\"[" ++
    "\x7b\\\"id\\\":\\\"\\\\ud800\\\",\\\"name\\\":\\\"n\\\"\x7d]\"\x7d"

/-- All numbers of a scenario may be finite, and still it cannot be written. -/
theorem scenario_with_half_unwritten : ∃ s, Scenario.ofText inlineSource halfText = .ok s ∧
    (∀ a ∈ s.atoms, a.isFinite = true) ∧ ∃ u, s.encode none = .error u := by
  refine ⟨⟨⟨"", [⟨⟨[.half 0xd800]⟩, "n", "", 3.0, .empty⟩], []⟩, .beat⟩, rfl, ?_, ?_⟩
  · exact List.all_eq_true.1 rfl
  · exact ⟨⟨0, 1, 0xd800⟩, rfl⟩

end Promptbook
