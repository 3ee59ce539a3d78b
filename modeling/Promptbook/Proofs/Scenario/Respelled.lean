import Promptbook.Proofs.Record.Respelled
import Promptbook.Proofs.Scenario.Mended

/-!
# Scenarios spelled in another way

The names of the fields of a scenario, of layered beats and of characters do not get in each other's
way, and no law looks at anything but the fields.  So it does not matter to what is read which of
its names a field has, in which order the members stand and what stands beside them, the zone of a
place included.  It matters only to the text: what stands beside the fields must be JSON as well.
-/

namespace Promptbook

open Record

theorem LayeredBeat.parted_shape : LayeredBeat.shape.Parted := by
  simp [shape, locationShape, linesShape, gesturesShape, walksShape, Shape.wrapped,
    LineEntry.shape, GestureEntry.shape, WalkEntry.shape, Place.canvasShape, Place.fields,
    Shape.Parted, Shape.keyNames, Key.single]

namespace Scenario

/-- Whether a value is another spelling of a scenario, in a single step.  The steps do not depend on
the tag. -/
def Respelled (j j' : Json) : Prop := ∃ o, (Contents.taggedShape o).Respelled j j'

variable {j j' : Json} {ms ms' : List (Spelling × Json)} {o : Origin}

/-- A key with a single name is spelled in one way. -/
theorem eq_of_renamed_single {name : String} (h : (Key.single name).Renamed ms ms') : ms' = ms := by
  obtain ⟨-, h⟩ | ⟨-, h⟩ := h
  · exact h.trans Json.rename_self
  · exact h.trans Json.rename_self

/-- A step within the fields of a scenario leaves the tag alone. -/
theorem lookup?_type_of_fields (h : (Contents.fields (.field "type"
      (.literal (Vocabulary.word o)) (some ()) .done)).Respelled ms ms') :
    Json.lookup? "type" ms' = Json.lookup? "type" ms := by
  have hother : ∀ name ∈ ["description", "beats", "characters"], "type" ≠ name := by decide
  rw [List.forall_mem_cons, List.forall_mem_cons, List.forall_mem_singleton] at hother
  obtain ⟨hdescription, hbeats, hcharacters⟩ := hother
  obtain h | h | h | h | h | h | h | h | h := h
  · exact h.lookup?_eq hdescription hdescription
  · exact h.lookup?_eq hdescription hdescription
  · exact h.lookup?_eq hbeats hbeats
  · exact h.lookup?_eq hbeats hbeats
  · exact h.lookup?_eq hcharacters hcharacters
  · exact h.lookup?_eq hcharacters hcharacters
  -- The tag itself has one name, and a word is spelled in one way.
  · exact congrArg (Json.lookup? "type") (eq_of_renamed_single h)
  · obtain ⟨name, -, front, i, i', back, h, -⟩ := h
    exact h.elim
  · exact h.elim

/-- What is read of a scenario, if anything, is the same after a step. -/
theorem toOption_read_of_respelled (h : Respelled j j') :
    (read j').toOption = (read j).toOption := by
  obtain ⟨o, ms, ms', rfl, rfl, h⟩ := h
  have htype : Json.lookup? "type" ms' = Json.lookup? "type" ms := by
    obtain h | h | ⟨hnodup, hperm⟩ := h
    · exact lookup?_type_of_fields h
    · have hmem : "type" ∈ ((Contents.fields (.field "type" (.literal (Vocabulary.word o))
          (some ()) .done)).keyNames) := by simp [Contents.fields, Shape.keyNames, Key.single]
      rw [← Json.lookup?_only hmem, h, Json.lookup?_only hmem]
    · exact Json.lookup?_perm hnodup hperm "type"
  rw [read, read, htype]
  cases Json.lookup? "type" ms with
  | none => rfl
  | some tag =>
    dsimp only
    cases origin? tag with
    | none => rfl
    | some o' =>
      dsimp only
      rw [Checked.toOption_map, Checked.toOption_map, Checked.toOption_under,
        Checked.toOption_under, Shape.read, Shape.read]
      have hcontents : (Contents.taggedShape o').Respelled (.object ms) (.object ms') :=
        ⟨ms, ms', rfl, rfl, h⟩
      rw [(Contents.taggedShape o').toOption_readAt_of_respelled
        (Contents.separate_taggedShape o').parted .document hcontents]

/-- What is read of a scenario, if anything, is the same after any number of steps. -/
theorem toOption_read_of_steps (h : Relation.ReflTransGen Respelled j j') :
    (read j').toOption = (read j).toOption := by
  induction h with
  | refl => rfl
  | tail _ hstep ih => exact (toOption_read_of_respelled hstep).trans ih

end Scenario

theorem toOption_fromSource {τ : Type} (source : String) (c : Checked τ) :
    (fromSource source c).toOption = c.toOption := by
  cases c <;> rfl

/-- What is read of a list in a text, if anything, is the same for another spelling of the list. -/
theorem toOption_readDocument_of_steps {τ : Type} {s : Shape .value τ} (hs : s.Parted)
    {text text' : String} {j j' : Json} (hparse : Json.parse .document text = .ok j)
    (hparse' : Json.parse .document text' = .ok j')
    (h : Relation.ReflTransGen (Shape.list s).Respelled j j') :
    ((Shape.list s).readDocument text').toOption = ((Shape.list s).readDocument text).toOption := by
  rw [Shape.readDocument, Shape.readDocument, hparse, hparse']
  exact (Shape.list s).toOption_read_of_steps hs h

/-- The zone of a place follows from its coordinates, whatever stands beside them. -/
theorem Place.read_of_only {ms ms' : List (Spelling × Json)}
    (h : Json.only ["x", "y"] ms' = Json.only ["x", "y"] ms) :
    Place.shape.read (.object ms') = Place.shape.read (.object ms) := by
  have hfields : fields.readAt .document ms' = fields.readAt .document ms := by
    refine fields.readAt_eq_of_lookup? fun name hname => ?_
    have hmem : name ∈ ["x", "y"] := by
      simpa [fields, Shape.keyNames, Key.single] using hname
    rw [← Json.lookup?_only hmem, h, Json.lookup?_only hmem]
  exact congrArg (· >>= Packing.accept _) hfields

/-- A document may be spelled in any way.  Two texts that hold the same but for steps of spelling
are both refused, or the same scenario, layered beats or characters are read of both; and whatever
stands beside the coordinates of a place, its zone follows from them. -/
theorem respelled_read_alike :
    (∀ source text text' j j', Json.parse .document text = .ok j →
      Json.parse .document text' = .ok j' → Relation.ReflTransGen Scenario.Respelled j j' →
        (Scenario.ofText source text').toOption = (Scenario.ofText source text).toOption) ∧
    (∀ text text' j j', Json.parse .document text = .ok j → Json.parse .document text' = .ok j' →
      Relation.ReflTransGen (Shape.list LayeredBeat.shape).Respelled j j' →
        (readLayeredBeats text').toOption = (readLayeredBeats text).toOption) ∧
    (∀ text text' j j', Json.parse .document text = .ok j → Json.parse .document text' = .ok j' →
      Relation.ReflTransGen (Shape.list Character.shape).Respelled j j' →
        (readCharacters text').toOption = (readCharacters text).toOption) ∧
    ∀ ms ms' p, Json.only ["x", "y"] ms' = Json.only ["x", "y"] ms →
      Place.shape.read (.object ms) = .ok p → Place.shape.read (.object ms') = .ok p ∧
        ∃ out, Place.shape.write p = .object out ∧
          Json.lookup? "zone" out = some (.text (Vocabulary.word (Zone.ofX p.x))) := by
  refine ⟨?_, ?_, ?_, ?_⟩
  · intro source text text' j j' hparse hparse' h
    rw [Scenario.ofText_of_parse source hparse, Scenario.ofText_of_parse source hparse',
      toOption_fromSource, toOption_fromSource, Scenario.toOption_read_of_steps h]
  · intro text text' j j' hparse hparse' h
    exact toOption_readDocument_of_steps LayeredBeat.parted_shape hparse hparse' h
  · intro text text' j j' hparse hparse' h
    exact toOption_readDocument_of_steps Character.separate_shape.parted hparse hparse' h
  · intro ms ms' p h hp
    exact ⟨(Place.read_of_only h).trans hp, _, rfl, rfl⟩

/-- What is short and shallow and holds nothing but texts is read as it was written. -/
theorem Json.parse_render {j : Json} (hd : j.depth ≤ Dialect.filledDepth) (hw : j.isWhole = true)
    (hb : j.isBrief) (hfinite : j.finite = j) : parse .document (j.render none) = .ok j := by
  have hparse := parse_render_lineBreak none hd hw hb none 0
  rwa [show String.ofList (lineBreak none 0) = "" from rfl, String.append_empty, hfinite] at hparse

/-- A beat with a note, a location under its other name, a character from back to front and a place
with a wrong zone are read as they are without. -/
theorem respelled_read_alike_rooftop :
    let scenario (beat : List (Spelling × Json)) : Json :=
      .object [("type", .text "beat"), ("beats", .array [.object beat])]
    let plain : List (Spelling × Json) := [("id", .text "b"), ("name", .text "Noon")]
    let noted : List (Spelling × Json) :=
      [("id", .text "b"), ("note", .array [.null]), ("name", .text "Noon")]
    let layered (key : String) : Json := .array [.object [("id", .text "b"), ("name", .text "Noon"),
      (key, .object [("location", .text "ROOFTOP")])]]
    let anna : List (Spelling × Json) :=
      [("id", .text "anna"), ("name", .text "Anna"), ("gender", .text "FEMALE")]
    let place : List (Spelling × Json) := [("x", .number 0.9), ("y", .number 0.5)]
    let zoned : List (Spelling × Json) :=
      [("x", .number 0.9), ("zone", .text "STAGE_LEFT"), ("y", .number 0.5)]
    ((Scenario.ofText inlineSource ((scenario plain).render none)).toOption.isSome = true ∧
      (Scenario.ofText inlineSource ((scenario noted).render none)).toOption =
        (Scenario.ofText inlineSource ((scenario plain).render none)).toOption) ∧
    ((readLayeredBeats ((layered "locationLayer").render none)).toOption.isSome = true ∧
      (readLayeredBeats ((layered "location_layer").render none)).toOption =
        (readLayeredBeats ((layered "locationLayer").render none)).toOption) ∧
    (readCharacters ((Json.array [.object anna.reverse]).render none)).toOption =
      (readCharacters ((Json.array [.object anna]).render none)).toOption ∧
    Place.shape.read (.object place) = .ok ⟨0.9, 0.5⟩ ∧
    Place.shape.read (.object zoned) = .ok ⟨0.9, 0.5⟩ := by
  intro scenario plain noted layered anna place zoned
  obtain ⟨hscenario, hlayered, hcharacters, hplace⟩ := respelled_read_alike
  have hbeat : Beat.shape.Respelled (.object plain) (.object noted) :=
    ⟨plain, noted, rfl, rfl, .inr (.inl (Json.only_of_notMem (by decide) _ [_] [_]))⟩
  have hbeats : (Shape.embedded (.list Beat.shape)).Respelled (.array [.object plain])
      (.array [.object noted]) := ⟨_, _, ⟨[], _, _, [], hbeat, rfl, rfl⟩, rfl, rfl⟩
  have hnoted : Scenario.Respelled (scenario plain) (scenario noted) := by
    refine ⟨.beat, _, _, rfl, rfl, .inl (.inr (.inr (.inr (.inl ?_))))⟩
    exact ⟨"beats", .inl rfl, [_], _, _, [], hbeats, rfl, rfl⟩
  have hroof : (Shape.list LayeredBeat.shape).Respelled (layered "locationLayer")
      (layered "location_layer") := by
    refine ⟨[], _, _, [], ⟨_, _, rfl, rfl, .inl ?_⟩, rfl, rfl⟩
    exact .inr (.inr (.inr (.inr (.inr (.inr (.inl (.inl ⟨rfl, rfl⟩)))))))
  have hanna : (Shape.list Character.shape).Respelled (.array [.object anna])
      (.array [.object anna.reverse]) := by
    refine ⟨[], _, _, [], ⟨_, _, rfl, rfl, .inr (.inr ⟨by decide, ?_⟩)⟩, rfl, rfl⟩
    exact List.reverse_perm anna
  have hbrief : ((scenario plain).isBrief ∧ (scenario noted).isBrief) ∧
      (∀ key, (layered key).isBrief) ∧ (Json.array [.object anna]).isBrief ∧
        (Json.array [.object anna.reverse]).isBrief := by
    simp [scenario, plain, noted, layered, anna, Json.isBrief, Json.itemsBrief, Json.membersBrief,
      Json.memberBrief]
  obtain ⟨⟨hbrief, hbrief'⟩, hlayers, hcast, hcast'⟩ := hbrief
  have hplain : Json.parse .document ((scenario plain).render none) = .ok (scenario plain) :=
    Json.parse_render (by decide) rfl hbrief rfl
  have hlayer : Json.parse .document ((layered "locationLayer").render none) =
      .ok (layered "locationLayer") := Json.parse_render (by decide) rfl (hlayers _) rfl
  refine ⟨⟨?_, ?_⟩, ⟨?_, ?_⟩, ?_, rfl, ?_⟩
  · rw [Scenario.ofText_of_parse inlineSource hplain]
    rfl
  · exact hscenario _ _ _ _ _ hplain (Json.parse_render (by decide) rfl hbrief' rfl)
      (.single hnoted)
  · rw [readLayeredBeats, Shape.readDocument, hlayer]
    rfl
  · exact hlayered _ _ _ _ hlayer (Json.parse_render (by decide) rfl (hlayers _) rfl)
      (.single hroof)
  · exact hcharacters _ _ _ _ (Json.parse_render (by decide) rfl hcast rfl)
      (Json.parse_render (by decide) rfl hcast' rfl) (.single hanna)
  · exact (hplace place zoned ⟨0.9, 0.5⟩ rfl rfl).1

/-! ## Members that nest too deeply -/

namespace Json

/-- Arrays in arrays, a number of levels deep. -/
def nest : ℕ → Json
  | 0 => .array []
  | n + 1 => .array [nest n]

theorem print_nest (n level : ℕ) :
    print none level (nest n) = List.replicate (n + 1) '[' ++ List.replicate (n + 1) ']' := by
  induction n generalizing level with
  | zero => rfl
  | succ n ih =>
    rw [nest, print, ih, List.replicate_succ (n := n + 1), List.replicate_succ' (n := n + 1)]
    simp only [lineBreak, printItems, Option.elim_none, List.append_nil, List.nil_append,
      List.cons_append, List.append_assoc]

theorem print_noted (j : Json) :
    print none 0 (.object [("type", .text "beat"), ("note", j)]) =
      "\x7b\"type\":\"beat\",\"note\":".toList ++ print none 1 j ++ "\x7d".toList := by
  have hnil : ∀ level, lineBreak none level = [] := fun _ => rfl
  simp only [print, printMembers, printMember, hnil, List.append_nil]
  rfl

end Json

/-- Without JSON there is no scenario. -/
theorem Scenario.toOption_decode_of_run {cs : List Char}
    (h : (Json.run .document (.running .value []) (Json.lex cs)).toOption.isNone = true) :
    (Scenario.decode (String.ofList cs)).toOption = none := by
  rw [decode, Json.parse, String.toList_ofList]
  cases hrun : Json.run .document (.running .value []) (Json.lex cs) with
  | ok m =>
    rw [hrun] at h
    cases h
  | error e =>
    by_cases hmark : cs.head? = some '\ufeff'
    · rw [if_pos hmark]
      rfl
    · rw [if_neg hmark]
      rfl

/-- A scenario can be read, and cannot be read any more with a member beside its fields that nests
too deeply for a document. -/
theorem deep_note_refused :
    let plain : Json := .object [("type", .text "beat")]
    let noted : Json := .object [("type", .text "beat"), ("note", .nest 300)]
    Scenario.Respelled plain noted ∧
      (Scenario.decode (plain.render none)).toOption = some ⟨⟨"", [], []⟩, .beat⟩ ∧
      (Scenario.decode (noted.render none)).toOption = none := by
  intro plain noted
  have hnoted : Scenario.Respelled plain noted :=
    ⟨.beat, _, _, rfl, rfl, .inr (.inl (Json.only_of_notMem (by decide) _ [_] []))⟩
  have hplain : (Scenario.decode (plain.render none)).toOption = some ⟨⟨"", [], []⟩, .beat⟩ := by
    have hbrief : plain.isBrief := by
      simp [plain, Json.isBrief, Json.membersBrief, Json.memberBrief]
    rw [Scenario.decode, Json.parse_render (by decide) rfl hbrief rfl]
    rfl
  have hrefused : (Scenario.decode (noted.render none)).toOption = none := by
    rw [Json.render, Json.print_noted, Json.print_nest]
    exact Scenario.toOption_decode_of_run (by decide +kernel)
  exact ⟨hnoted, hplain, hrefused⟩

end Promptbook
