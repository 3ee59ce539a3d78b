import Promptbook.Proofs.Json.Dialects
import Promptbook.Proofs.Record.Told
import Promptbook.Proofs.Scenario.RoundTrip

/-!
# Lists in texts of their own

The beats of a scenario, and its characters, may stand in a document as a text that holds the list.
Such a text is read as the list would be; a text that holds no list is a problem like any other.
-/

namespace Promptbook

open Record

namespace Record

variable {τ : Type}

theorem Key.find?_single (name : String) (ms : List (Spelling × Json)) :
    (Key.single name).find? ms = (Json.lookup? name ms).map fun j => (name, j) := by
  rw [Key.find?, Key.single]
  cases Json.lookup? name ms <;> rfl

/-- A field is read alike from members that its reader takes alike. -/
theorem readField_congr {read : Json → Checked τ} {name : String} (default : Option τ)
    {ms ms' : List (Spelling × Json)}
    (h : (Json.lookup? name ms').map read = (Json.lookup? name ms).map read) :
    readField (.single name) default read ms' = readField (.single name) default read ms := by
  simp only [readField, Key.find?_single]
  cases hms : Json.lookup? name ms with
  | none =>
    rw [hms, Option.map_none, Option.map_eq_none_iff] at h
    rw [h]
  | some j =>
    rw [hms, Option.map_some, Option.map_eq_some_iff] at h
    obtain ⟨j', hms', hread⟩ := h
    rw [hms']
    exact congrArg (Checked.under (.key name)) hread

/-- Only a text that holds a list is read where a list is due. -/
theorem exists_array_of_readEmbedded {read : Json → Checked τ} {s : Spelling} {ts : List τ}
    (h : readEmbedded (readList read) (.text s) = .ok ts) :
    ∃ t js, s.text? = some t ∧ Json.parse .embedded t = .ok (.array js) := by
  rw [readEmbedded] at h
  cases ht : s.text? with
  | none =>
    rw [ht] at h
    cases h
  | some t =>
    cases hj : Json.parse .embedded t with
    | error m =>
      simp only [ht, hj] at h
      cases h
    | ok j =>
      simp only [ht, hj] at h
      obtain ⟨js, rfl, -⟩ := readList_eq_ok h
      exact ⟨t, js, rfl, hj⟩

end Record

theorem Beat.plain_shape : Beat.shape.Plain := by
  simp [Beat.shape, Layers.shape, Part.shape, Movement.shape, Place.shape, Place.fields,
    Emotion.shape, Gesture.shape, Voice.shape, Backdrop.shape, Lighting.shape, Sound.shape,
    SoundCue.shape, Line.shape, Shape.Plain]

theorem Character.plain_shape : Character.shape.Plain := by
  simp [shape, Shape.Plain]

/-- The fields of the contents are read one after the other. -/
theorem Contents.readAt_fields {σ : Type} (rest : Shape .members σ) (ms : List (Spelling × Json)) :
    (Contents.fields rest).readAt .document ms =
      (readField "description" (some ("" : Spelling)) (Shape.text.readAt .document) ms).both
        ((readField "beats" (some [])
          (readEmbedded (readList (Beat.shape.readAt .embedded))) ms).both
        ((readField "characters" (some [])
          (readEmbedded (readList (Character.shape.readAt .embedded))) ms).both
        (rest.readAt .document ms))) := rfl

namespace Scenario

/-- The names under which a scenario has lists that may stand in texts. -/
def listNames : List String := ["beats", "characters"]

/-- A member of a scenario, and how it may stand there as well: beats or characters as a text that
holds the list. -/
inductive Doubled : Spelling × Json → Spelling × Json → Prop
  | same (m : Spelling × Json) : Doubled m m
  | inText {name : String} (hname : name ∈ listNames) {d : Json.Dialect} (hd : d ≠ .free)
    {t : String} {js : List Json} (ht : Json.parse d t = .ok (.array js)) :
    Doubled (name, .array js) (name, .text t)

/-- Whether the texts in which lists of a scenario stand nest no more deeply than they may. -/
def ShallowLists (ms : List (Spelling × Json)) : Prop :=
  ∀ name ∈ listNames, ∀ s t,
    Json.lookup? name ms = some (.text s) → s.text? = some t → Json.Shallow t

namespace Doubled

variable {m m' : Spelling × Json}

theorem fst_eq (h : Doubled m m') : m.1 = m'.1 := by
  cases h <;> rfl

/-- What is no list of the scenario stands as it is. -/
theorem snd_eq (h : Doubled m m') {name : String} (hname : name ∉ listNames)
    (hm : m.1 = name) : m.2 = m'.2 := by
  cases h with
  | same => rfl
  | inText hlist =>
    obtain rfl := Spelling.ofString_inj.1 hm
    exact absurd hlist hname

/-- A text that holds a list is read as the list is. -/
theorem readEmbedded_eq {τ : Type} (h : Doubled m m') (read : Json → Checked τ) :
    readEmbedded read m.2 = readEmbedded read m'.2 := by
  cases h with
  | same => rfl
  | inText hname hd ht =>
    simp only [readEmbedded, Spelling.text?_ofString, Json.parse_embedded hd ht]

end Doubled

section Doubled

variable {ms ms' : List (Spelling × Json)} (h : List.Forall₂ Doubled ms ms')

include h

theorem map_lookup?_of_doubled {α : Type} {f : Json → α} {name : String}
    (hf : ∀ m m', Doubled m m' → m.1 = name → f m.2 = f m'.2) :
    (Json.lookup? name ms').map f = (Json.lookup? name ms).map f :=
  Json.map_lookup?_congr (h.imp fun m m' hm => ⟨hm.fst_eq, hf m m' hm⟩)

theorem lookup?_of_doubled {name : String} (hname : name ∉ listNames) :
    Json.lookup? name ms' = Json.lookup? name ms := by
  have hmap := map_lookup?_of_doubled (f := id) h fun m m' hm => hm.snd_eq hname
  rwa [Option.map_id, id, id] at hmap

/-- A field that is no list is read as it stands. -/
theorem readField_of_doubled {τ : Type} {name : String} (hname : name ∉ listNames)
    (read : Json → Checked τ) (default : Option τ) :
    readField name default read ms' = readField name default read ms := by
  apply readField_congr
  rw [lookup?_of_doubled h hname]

/-- A list is read alike whether it stands in a text or not. -/
theorem readField_embedded_of_doubled {τ : Type} (name : String) (read : Json → Checked τ)
    (default : Option τ) :
    readField name default (readEmbedded read) ms' =
      readField name default (readEmbedded read) ms := by
  apply readField_congr
  apply map_lookup?_of_doubled h
  intro m m' hm _
  exact hm.readEmbedded_eq read

theorem readAt_fields_of_doubled {σ : Type} {rest : Shape .members σ}
    (hrest : rest.readAt .document ms' = rest.readAt .document ms) :
    (Contents.fields rest).readAt .document ms' = (Contents.fields rest).readAt .document ms := by
  rw [Contents.readAt_fields, Contents.readAt_fields, hrest,
    readField_of_doubled h (by decide), readField_embedded_of_doubled h,
    readField_embedded_of_doubled h]

/-- A scenario is read alike whether its lists stand in texts or not. -/
theorem read_of_doubled : read (.object ms') = read (.object ms) := by
  have htag : Json.lookup? "type" ms' = Json.lookup? "type" ms :=
    lookup?_of_doubled h (by decide)
  have hcontents : ∀ o, (Contents.taggedShape o).read (.object ms') =
      (Contents.taggedShape o).read (.object ms) := by
    intro o
    have htype := readField_of_doubled h (show "type" ∉ listNames by decide)
      ((Shape.literal (Vocabulary.word o)).readAt .document) (some ())
    exact congrArg (· >>= _) (readAt_fields_of_doubled h (congrArg (·.both (.ok ())) htype))
  simp only [read, htag, hcontents]

end Doubled

/-! ## Texts without lists -/

section Told

variable {ms : List (Spelling × Json)} (hshallow : ShallowLists ms)

include hshallow

/-- A list is told with all that is wrong when the text that it may stand in is shallow. -/
theorem told_readField {τ : Type} {name : String} (hname : name ∈ listNames)
    {s : Shape .value τ} (hs : s.Plain) (default : Option (List τ)) :
    (readField name default (readEmbedded (readList (s.readAt .embedded))) ms).Told := by
  apply Checked.Told.readField
  intro m hm
  rw [Key.find?_single] at hm
  obtain ⟨j, hj, rfl⟩ := Option.map_eq_some_iff.1 hm
  apply Checked.Told.readEmbedded
  · exact Shape.told_readAt (.list s) hs .embedded
  · rintro s t rfl ht
    exact hshallow name hname s t hj ht

theorem told_readAt_fields {σ : Type} {rest : Shape .members σ} (hrest : rest.Plain) :
    ((Contents.fields rest).readAt .document ms).Told := by
  rw [Contents.readAt_fields]
  have hdescription : (readField "description" (some ("" : Spelling))
      (Shape.text.readAt .document) ms).Told :=
    Checked.Told.readField (fun m _ => Shape.told_readAt .text trivial .document m.2) _
  have hbeats := told_readField hshallow (show "beats" ∈ listNames by decide)
    Beat.plain_shape (some [])
  have hcharacters := told_readField hshallow (show "characters" ∈ listNames by decide)
    Character.plain_shape (some [])
  exact hdescription.both (hbeats.both (hcharacters.both (rest.told_readAt hrest .document ms)))

/-- All that is wrong with a scenario is told when its texts are shallow. -/
theorem told_read : (read (.object ms)).Told := by
  have hcontents : ∀ o, ((Contents.taggedShape o).read (.object ms)).Told := by
    intro o
    have htag : (Shape.field "type" (.literal (Vocabulary.word o)) (some ()) .done).Plain :=
      ⟨trivial, trivial⟩
    apply Checked.Told.bind (told_readAt_fields hshallow htag)
    apply Checked.Told.accept
    exact nofun
  rw [read]
  split
  next => exact .fail rfl
  next =>
    split
    next => exact .fail rfl
    next o _ => exact ((hcontents o).under _).map _

end Told

/-- A list that is read from a text is one that the text holds. -/
theorem exists_array_of_readField {τ : Type} {ms : List (Spelling × Json)} {name : String}
    {read : Json → Checked τ} {default : Option (List τ)} {ts : List τ}
    (h : readField name default (readEmbedded (readList read)) ms = .ok ts) {s : Spelling}
    (hs : Json.lookup? name ms = some (.text s)) :
    ∃ t js, s.text? = some t ∧ Json.parse .embedded t = .ok (.array js) := by
  rw [readField, Key.find?_single, hs] at h
  exact exists_array_of_readEmbedded (under_eq_ok h)

/-- The texts in which the lists of a scenario stand hold lists. -/
theorem exists_array_of_read {ms : List (Spelling × Json)} {sc : Scenario}
    (h : read (.object ms) = .ok sc) {name : String} (hname : name ∈ listNames) {s : Spelling}
    (hs : Json.lookup? name ms = some (.text s)) :
    ∃ t js, s.text? = some t ∧ Json.parse .embedded t = .ok (.array js) := by
  obtain ⟨ms, ⟨⟩, hread⟩ := exists_of_read_eq_ok h
  obtain ⟨u, hfields, -⟩ := exists_of_bind_eq_ok hread
  rw [Contents.readAt_fields] at hfields
  obtain ⟨-, hlists⟩ := Checked.both_eq_ok_iff.1 hfields
  obtain ⟨hbeats, hrest⟩ := Checked.both_eq_ok_iff.1 hlists
  obtain ⟨hcharacters, -⟩ := Checked.both_eq_ok_iff.1 hrest
  rcases List.mem_pair.1 hname with rfl | rfl
  · exact exists_array_of_readField hbeats hs
  · exact exists_array_of_readField hcharacters hs

/-- Whether the beats and the characters of a scenario stand in its document as lists or as texts
that hold these lists, the scenario is the same, and so is all that is wrong with it.  A text that
holds no list makes the document unreadable. -/
theorem decode_of_doubled {text : String} {ms : List (Spelling × Json)}
    (hparse : Json.parse .document text = .ok (.object ms)) :
    (∀ text' ms', Json.parse .document text' = .ok (.object ms') → List.Forall₂ Doubled ms ms' →
      decode text' = decode text) ∧
    ∀ name ∈ listNames, ∀ s, Json.lookup? name ms = some (.text s) →
      (∀ t js, s.text? = some t → Json.parse .embedded t ≠ .ok (.array js)) →
      ShallowLists ms → ∀ source, ∃ ps,
        ofText source text = .error (.unreadable ⟨source, .problems ps⟩) := by
  have hdecode : decode text = read (.object ms) := by rw [decode, hparse]
  constructor
  · intro text' ms' hparse' hms
    rw [hdecode, ← read_of_doubled hms, decode, hparse']
  · intro name hname s hs hnone hshallow source
    cases hread : read (.object ms) with
    | ok sc =>
      obtain ⟨t, js, ht, hjs⟩ := exists_array_of_read hread hname hs
      exact absurd hjs (hnone t js ht)
    | error ps =>
      have htold : Problem.tooDeep? ps = none :=
        Problem.tooDeep?_eq_none (told_read hshallow ps hread)
      refine ⟨ps, ?_⟩
      rw [ofText, hdecode, hread, fromSource, Failure.ofProblems, htold]

/-- The text of a scenario with some beats. -/
def beatsText (beats : String) : String :=
  "\x7b\"type\":\"beat\",\"beats\":" ++ beats ++ "\x7d"

/-- A beat stands in a text of its own as well as without one, but not in a text within a text. -/
theorem decode_of_doubled_beat :
    decode (beatsText "\"[\x7b\\\"id\\\":\\\"b\\\",\\\"name\\\":\\\"n\\\"\x7d]\"") =
      decode (beatsText "[\x7b\"id\":\"b\",\"name\":\"n\"\x7d]") ∧
    ∃ ps, ofText inlineSource (beatsText "\"\\\"[]\\\"\"") =
      .error (.unreadable ⟨inlineSource, .problems ps⟩) := by
  have hplain : Json.parse .document (beatsText "[\x7b\"id\":\"b\",\"name\":\"n\"\x7d]") =
      .ok (.object [("type", .text "beat"),
        ("beats", .array [.object [("id", .text "b"), ("name", .text "n")]])]) := rfl
  have hdoubled : Json.parse .document
      (beatsText "\"[\x7b\\\"id\\\":\\\"b\\\",\\\"name\\\":\\\"n\\\"\x7d]\"") =
      .ok (.object [("type", .text "beat"),
        ("beats", .text "[\x7b\"id\":\"b\",\"name\":\"n\"\x7d]")]) := rfl
  have hredoubled : Json.parse .document (beatsText "\"\\\"[]\\\"\"") =
      .ok (.object [("type", .text "beat"), ("beats", .text "\"[]\"")]) := rfl
  constructor
  · apply (decode_of_doubled hplain).1 _ _ hdoubled
    have hlist : Doubled ("beats", .array [.object [("id", .text "b"), ("name", .text "n")]])
        ("beats", .text "[\x7b\"id\":\"b\",\"name\":\"n\"\x7d]") :=
      .inText (by decide) (d := .embedded) nofun rfl
    exact .cons (.same _) (.cons hlist .nil)
  · have hinner : Json.parse .embedded "\"[]\"" = .ok (.text "[]") := rfl
    apply (decode_of_doubled hredoubled).2 "beats" (by decide) _ rfl
    · rintro t js ⟨⟩ hjs
      cases hinner.symm.trans hjs
    · intro name hname s t hs ht m hm
      rcases List.mem_pair.1 hname with rfl | rfl
      · cases hs
        cases ht
        cases hinner.symm.trans hm
      · cases hs

end Scenario

end Promptbook
