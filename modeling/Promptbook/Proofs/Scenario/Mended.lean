import Promptbook.Proofs.Record.Mended
import Promptbook.Proofs.Scenario.Doubled

/-!
# Scenarios that were refused

The answer to a document that holds no scenario names each place at which something is wrong, and
nothing else.  With a valid value at each of them the document holds a scenario; with valid values
at all of them but one, it is refused for that one.
-/

namespace Promptbook

open Record

theorem Beat.separate_shape : Beat.shape.Separate := by
  simp [Beat.shape, Layers.shape, Part.shape, Movement.shape, Place.shape, Place.fields,
    Emotion.shape, Gesture.shape, Voice.shape, Backdrop.shape, Lighting.shape, Sound.shape,
    SoundCue.shape, Line.shape, Shape.Separate, Shape.keyNames, Key.single]

theorem Character.separate_shape : Character.shape.Separate := by
  simp [shape, Shape.Separate, Shape.keyNames, Key.single]

theorem Contents.separate_taggedShape (o : Origin) : (taggedShape o).Separate := by
  simp [taggedShape, fields, Shape.Separate, Shape.keyNames, Key.single, Beat.separate_shape,
    Character.separate_shape]

/-- The problem of the contents of a scenario as it is told, under the word of the tag. -/
def Record.Problem.underTag (o : Origin) (p : Problem) : Problem :=
  p.under (.key (Vocabulary.word o))

/-- Only one of some problems is left when the places of all the others are taken away. -/
theorem Record.Problem.filter_eq_singleton {ps : List Problem} (hps : (ps.map path).Nodup)
    {p : Problem} (hp : p ∈ ps) {places : List (List Step)}
    (h : (p.path :: places).Perm (ps.map path)) :
    ps.filter (fun q => q.path ∉ places) = [p] := by
  obtain ⟨hnotMem, -⟩ := List.nodup_cons.1 (h.nodup_iff.2 hps)
  apply List.perm_singleton.1
  apply (List.perm_ext_iff_of_nodup (hps.of_map.filter _) (List.nodup_singleton p)).2
  intro q
  rw [List.mem_filter, List.mem_singleton, decide_eq_true_iff]
  constructor
  · rintro ⟨hq, hplace⟩
    have hmem := h.mem_iff.2 (List.mem_map_of_mem hq)
    exact List.inj_on_of_nodup_map hps hq hp ((List.mem_cons.1 hmem).resolve_right hplace)
  · rintro rfl
    exact ⟨hp, hnotMem⟩

/-- What is told of a source is told as its problems. -/
theorem fromSource_of_told {τ : Type} (source : String) {ps : List Problem}
    (h : ∀ p ∈ ps, p.fault.isTooDeep = false) :
    fromSource source (.error ps : Checked τ) = .error (.unreadable ⟨source, .problems ps⟩) := by
  rw [fromSource, Failure.ofProblems, Problem.tooDeep?_eq_none h]

namespace Scenario

theorem ofText_of_parse (source : String) {text : String} {j : Json}
    (hparse : Json.parse .document text = .ok j) :
    ofText source text = fromSource source (read j) := by
  rw [ofText, decode, hparse]

/-- Whether the lists of a scenario stand in its document as they are, and not as texts. -/
def BareLists (ms : List (Spelling × Json)) : Prop :=
  ∀ name ∈ listNames, ∀ s, Json.lookup? name ms ≠ some (.text s)

variable {ms : List (Spelling × Json)} {o : Origin} {p : Problem}

theorem BareLists.shallowLists (h : BareLists ms) : ShallowLists ms :=
  fun name hname s _ hs _ => absurd hs (h name hname s)

/-- The problems of a list stand at places in the document. -/
theorem BareLists.leads {τ : Type} (h : BareLists ms) {name : String} (hname : name ∈ listNames)
    {s : Shape .value τ} (hs : s.Separate) (hplain : s.Plain) {default : Option (List τ)}
    (hp : p ∈ (readField name default
      (readEmbedded (readList (s.readAt .embedded))) ms).problems) :
    Json.Leads p.path (.object ms) := by
  refine leads_of_mem_readField (fun name' j hfind q hq => ?_) hp
  rw [Key.find?_single] at hfind
  obtain ⟨j, hlookup, ⟨⟩⟩ := Option.map_eq_some_iff.1 hfind
  have hne : ∀ t, j ≠ .text t := by
    rintro t rfl
    exact h name hname t hlookup
  rw [readEmbedded_of_ne_text _ hne] at hq
  exact (Shape.list s).leads_of_mem_problems hs hplain .embedded hq

/-- At no place in the contents of a scenario are there two problems. -/
theorem nodup_path_of_problems {ps : List Problem}
    (hps : ((Contents.taggedShape o).read (.object ms)).problems = ps) :
    (ps.map Problem.path).Nodup := by
  rw [← hps]
  exact ((Contents.taggedShape o).itemized_readAt (Contents.separate_taggedShape o)
    .document (.object ms)).nodup_path

section Tagged

variable (htag : Json.lookup? "type" ms = some (.text (Vocabulary.word o)))

include htag

/-- The problems of the contents under a tag are those of the fields other than the tag. -/
theorem mem_problems_of_tag (hp : p ∈ ((Contents.taggedShape o).read (.object ms)).problems) :
    p ∈ (readField "description" (some ("" : Spelling)) (Shape.text.readAt .document) ms).problems ∨
    p ∈ (readField "beats" (some [])
      (readEmbedded (readList (Beat.shape.readAt .embedded))) ms).problems ∨
    p ∈ (readField "characters" (some [])
      (readEmbedded (readList (Character.shape.readAt .embedded))) ms).problems := by
  have htype : readField "type" (some ())
      ((Shape.literal (Vocabulary.word o)).readAt .document) ms = .ok () := by
    have hfind : (Key.single "type").find? ms = some ("type", .text (Vocabulary.word o)) := by
      rw [Key.find?_single, htag]
      rfl
    rw [readField_of_find?_eq_some hfind]
    exact congrArg (Checked.under _ <| Checked.ofScalar ·) (if_pos rfl)
  have hfields : p ∈ ((Contents.fields (.field "type" (.literal (Vocabulary.word o)) (some ())
      .done)).readAt .document ms).problems := by
    rwa [← Checked.problems_accept (Contents.separate_taggedShape o).2]
  rw [Contents.readAt_fields, Shape.readAt, htype, Shape.readAt] at hfields
  simpa only [Checked.problems_both, Checked.problems_ok, List.append_nil, List.mem_append]
    using hfields

/-- A problem of the contents stands at a place in the document that is not the tag. -/
theorem place_of_mem_problems (hlists : BareLists ms)
    (hp : p ∈ ((Contents.taggedShape o).read (.object ms)).problems) :
    Json.Leads p.path (.object ms) ∧ ∃ name π, p.path = .key name :: π ∧ name ≠ "type" := by
  have hkey : ∀ {τ : Type} {name : String} {default : Option τ} {read : Json → Checked τ},
      name ≠ "type" → p ∈ (readField name default read ms).problems →
      ∃ name π, p.path = .key name :: π ∧ name ≠ "type" := by
    intro τ name default read hname hp
    obtain ⟨name', π, hname', hpath⟩ := key_of_mem_readField hp
    exact ⟨name', π, hpath, hname'.elim (· ▸ hname) (· ▸ hname)⟩
  rcases mem_problems_of_tag htag hp with hdescription | hbeats | hcharacters
  · refine ⟨leads_of_mem_readField (fun _ _ _ q hq => ?_) hdescription,
      hkey (by decide) hdescription⟩
    exact Shape.leads_of_mem_problems .text trivial trivial .document hq
  · exact ⟨hlists.leads (by decide) Beat.separate_shape Beat.plain_shape hbeats,
      hkey (by decide) hbeats⟩
  · exact ⟨hlists.leads (by decide) Character.separate_shape Character.plain_shape hcharacters,
      hkey (by decide) hcharacters⟩

section Mend

variable (hlists : BareLists ms) {ps : List Problem}
  (hps : ((Contents.taggedShape o).read (.object ms)).problems = ps)
  {rs : List (List Step × Json)}
  (hv : ∀ r ∈ rs, (Contents.taggedShape o).Takes .document r.1 r.2)

include hlists hps hv

/-- With valid values at the places of some of its problems, a scenario has the others left. -/
theorem exists_read_mend (hnodup : (rs.map Prod.fst).Nodup)
    (hmem : ∀ r ∈ rs, r.1 ∈ ps.map Problem.path) :
    ∃ c : Checked Contents, c.Itemized ∧
      c.problems = ps.filter (fun p => p.path ∉ rs.map Prod.fst) ∧
      read (Json.mend rs (.object ms)) =
        (Checked.under (.key (Vocabulary.word o)) c).map fun c => ⟨c, o⟩ := by
  have hplace : ∀ r ∈ rs, Json.Leads r.1 (.object ms) ∧
      ∃ name π, r.1 = .key name :: π ∧ name ≠ "type" := by
    intro r hr
    obtain ⟨p, hp, hpath⟩ := List.mem_map.1 (hmem r hr)
    rw [← hpath]
    exact place_of_mem_problems htag hlists (hps ▸ hp)
  obtain ⟨ms', hmend, hlookup⟩ := Json.exists_mend_object (fun r hr => (hplace r hr).2) ms
  refine ⟨(Contents.taggedShape o).read (.object ms'), ?_, ?_, ?_⟩
  · exact (Contents.taggedShape o).itemized_readAt (Contents.separate_taggedShape o) .document _
  · rw [← hmend, ← hps]
    rw [← hps] at hmem
    exact (Contents.taggedShape o).problems_mend (Contents.separate_taggedShape o) .document
      hnodup hmem (fun r hr => (hplace r hr).1) hv
  · rw [hmend, read_of_tag (hlookup.trans htag)]

/-- With valid values at the places of all its problems, a scenario is read. -/
theorem exists_read_mend_eq_ok (hrs : (rs.map Prod.fst).Perm (ps.map Problem.path)) :
    ∃ s, read (Json.mend rs (.object ms)) = .ok s := by
  have hmem : ∀ r ∈ rs, r.1 ∈ ps.map Problem.path :=
    fun r hr => hrs.mem_iff.1 (List.mem_map_of_mem hr)
  obtain ⟨c, hitemized, hleft, hmend⟩ :=
    exists_read_mend htag hlists hps hv (hrs.nodup_iff.2 (nodup_path_of_problems hps)) hmem
  have hnone : ps.filter (fun p => p.path ∉ rs.map Prod.fst) = [] := by
    rw [List.filter_eq_nil_iff]
    intro p hp hnot
    exact of_decide_eq_true hnot (hrs.mem_iff.2 (List.mem_map_of_mem hp))
  obtain ⟨c, rfl⟩ := hitemized.exists_ok (hleft.trans hnone)
  exact ⟨⟨c, o⟩, hmend⟩

/-- With valid values at the places of all its problems but one, a scenario is refused for it. -/
theorem read_mend_eq_error (hp : p ∈ ps)
    (hrs : (p.path :: rs.map Prod.fst).Perm (ps.map Problem.path)) :
    read (Json.mend rs (.object ms)) = .error [p.underTag o] := by
  have hmem : ∀ r ∈ rs, r.1 ∈ ps.map Problem.path :=
    fun r hr => hrs.mem_iff.1 (List.mem_cons_of_mem _ (List.mem_map_of_mem hr))
  obtain ⟨c, -, hleft, hmend⟩ := exists_read_mend htag hlists hps hv
    (List.nodup_cons.1 (hrs.nodup_iff.2 (nodup_path_of_problems hps))).2 hmem
  rw [Problem.filter_eq_singleton (nodup_path_of_problems hps) hp hrs] at hleft
  have hpc : p ∈ c.problems := by
    rw [hleft]
    exact List.mem_singleton_self p
  rw [hmend, Checked.eq_error_of_problems hpc, hleft]
  rfl

end Mend

end Tagged

/-- A document that holds no scenario, with a valid tag and lists that do not stand in texts, is
refused with problems under the tag.  No two of them stand at the same place, nor one inside the
place of another.  With valid values at the places of all of them the document holds a scenario,
and with valid values at all places but one it is refused for the problem there. -/
theorem ofText_mend {source text : String} {ms : List (Spelling × Json)} {o : Origin}
    (hparse : Json.parse .document text = .ok (.object ms))
    (htag : Json.lookup? "type" ms = some (.text (Vocabulary.word o))) (hlists : BareLists ms)
    {f : Failure} (hf : ofText source text = .error f) :
    ∃ ps : List Problem,
      f = .unreadable ⟨source, .problems (ps.map (·.underTag o))⟩ ∧ ps ≠ [] ∧
      (ps.map (·.underTag o)).Pairwise (fun p q => Apart p.path q.path) ∧
      (∀ p ∈ ps, Json.Leads p.path (.object ms)) ∧
      (∀ rs, (rs.map Prod.fst).Perm (ps.map Problem.path) →
        (∀ r ∈ rs, (Contents.taggedShape o).Takes .document r.1 r.2) →
        ∃ s, read (Json.mend rs (.object ms)) = .ok s ∧
          ∀ text', Json.parse .document text' = .ok (Json.mend rs (.object ms)) →
            ofText source text' = .ok s) ∧
      ∀ p ∈ ps, ∀ rs, (p.path :: rs.map Prod.fst).Perm (ps.map Problem.path) →
        (∀ r ∈ rs, (Contents.taggedShape o).Takes .document r.1 r.2) →
        read (Json.mend rs (.object ms)) = .error [p.underTag o] ∧
          ∀ text', Json.parse .document text' = .ok (Json.mend rs (.object ms)) →
            ofText source text' = .error (.unreadable ⟨source, .problems [p.underTag o]⟩) := by
  rw [ofText_of_parse source hparse, read_of_tag htag] at hf
  cases hc : (Contents.taggedShape o).read (.object ms) with
  | ok c =>
    rw [hc] at hf
    cases hf
  | error ps =>
    have hread : read (.object ms) = .error (ps.map (·.underTag o)) := by
      rw [read_of_tag htag, hc]
      rfl
    have htold := told_read hlists.shallowLists _ hread
    rw [← read_of_tag htag, hread, fromSource_of_told source htold] at hf
    cases hf
    have hps : ((Contents.taggedShape o).read (.object ms)).problems = ps := by
      rw [hc]
      rfl
    obtain ⟨hne, hapart⟩ := (Contents.taggedShape o).itemized_readAt
      (Contents.separate_taggedShape o) .document (.object ms) ps hc
    refine ⟨ps, rfl, hne, List.pairwise_map.2 (hapart.imp fun h => Apart.cons_iff.2 (.inr h)),
      fun p hp => (place_of_mem_problems htag hlists (hps ▸ hp)).1, ?_, ?_⟩
    · intro rs hrs hv
      obtain ⟨s, hs⟩ := exists_read_mend_eq_ok htag hlists hps hv hrs
      refine ⟨s, hs, fun text' hparse' => ?_⟩
      rw [ofText_of_parse source hparse', hs]
      rfl
    · intro p hp rs hrs hv
      have hone := read_mend_eq_error htag hlists hps hv hp hrs
      refine ⟨hone, fun text' hparse' => ?_⟩
      rw [ofText_of_parse source hparse', hone]
      exact fromSource_of_told source
        (List.forall_mem_singleton.2 (htold _ (List.mem_map_of_mem hp)))

/-- A beat without an identifier and with a number for its name is refused for both, and for the one
that is left when the other is mended. -/
theorem ofText_mend_nameless :
    ofText inlineSource (beatsText "[\x7b\"name\":5\x7d]") =
      .error (.unreadable ⟨inlineSource, .problems
        [⟨[.key "beat", .key "beats", .index 0, .key "id"], .missing⟩,
          ⟨[.key "beat", .key "beats", .index 0, .key "name"], .notText⟩]⟩) ∧
    (∃ s, ofText inlineSource (beatsText "[\x7b\"name\":\"n\",\"id\":\"b\"\x7d]") = .ok s) ∧
    ofText inlineSource (beatsText "[\x7b\"name\":5,\"id\":\"b\"\x7d]") =
      .error (.unreadable ⟨inlineSource, .problems
        [⟨[.key "beat", .key "beats", .index 0, .key "name"], .notText⟩]⟩) := by
  have hparse : Json.parse .document (beatsText "[\x7b\"name\":5\x7d]") =
      .ok (.object [("type", .text "beat"),
        ("beats", .array [.object [("name", .integer 5)]])]) := rfl
  have hrefused : ofText inlineSource (beatsText "[\x7b\"name\":5\x7d]") =
      .error (.unreadable ⟨inlineSource, .problems
        [⟨[.key "beat", .key "beats", .index 0, .key "id"], .missing⟩,
          ⟨[.key "beat", .key "beats", .index 0, .key "name"], .notText⟩]⟩) := rfl
  have hlists : BareLists [("type", .text "beat"),
      ("beats", .array [.object [("name", .integer 5)]])] := by
    intro name hname s
    rcases List.mem_pair.1 hname with rfl | rfl
    · exact nofun
    · exact nofun
  obtain ⟨ps, hps, -, -, -, hall, hone⟩ := ofText_mend (o := .beat) hparse rfl hlists hrefused
  have hinj : Function.Injective (Problem.underTag .beat) := by
    rintro ⟨π, f⟩ ⟨π', f'⟩ h
    cases h
    rfl
  obtain rfl : ps = [⟨[.key "beats", .index 0, .key "id"], .missing⟩,
      ⟨[.key "beats", .index 0, .key "name"], .notText⟩] := by
    apply List.map_injective_iff.2 hinj
    exact (DocumentFault.problems.inj (congrArg Unreadable.fault (Failure.unreadable.inj hps))).symm
  have hid : (Contents.taggedShape .beat).Takes .document
      [.key "beats", .index 0, .key "id"] (.text "b") :=
    ⟨⟨0, rfl⟩, "b", rfl⟩
  have hname : (Contents.taggedShape .beat).Takes .document
      [.key "beats", .index 0, .key "name"] (.text "n") :=
    ⟨⟨0, rfl⟩, "n", rfl⟩
  refine ⟨hrefused, ?_, ?_⟩
  · obtain ⟨s, -, hs⟩ := hall
      [([.key "beats", .index 0, .key "id"], .text "b"),
        ([.key "beats", .index 0, .key "name"], .text "n")] (List.Perm.refl _)
      (List.forall_mem_cons.2 ⟨hid, List.forall_mem_singleton.2 hname⟩)
    exact ⟨s, hs _ rfl⟩
  · exact (hone _ (List.mem_cons_of_mem _ (List.mem_singleton_self _))
      [([.key "beats", .index 0, .key "id"], .text "b")] (List.Perm.swap ..)
      (List.forall_mem_singleton.2 hid)).2 _ rfl

end Scenario

end Promptbook
