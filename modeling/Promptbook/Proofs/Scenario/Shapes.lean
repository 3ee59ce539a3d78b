import Promptbook.Proofs.Record.Admitted
import Promptbook.Proofs.Record.Returned
import Promptbook.Scenario.Basic

/-!
# The shapes of a scenario are faithful

No two fields of a record are written under one name, every default keeps to the bounds of its
field, and where a value may be null, null never stands for a number.  The zone of a place, which
is written beside the coordinates, is a word.
-/

namespace Promptbook

open Record

namespace Record.Shape

variable {σ τ : Type}

theorem faithful_required {key : Key} {s : Shape .value τ} {rest : Shape .members σ}
    (hs : s.Faithful) (hrest : rest.Faithful) : (field key s none rest).Faithful :=
  ⟨hs, nofun, hrest⟩

theorem faithful_defaulted {key : Key} {s : Shape .value τ} {d : τ} {rest : Shape .members σ}
    (hs : s.Faithful) (hd : s.Admits d) (hrest : rest.Faithful) :
    (field key s (some d) rest).Faithful := by
  refine ⟨hs, ?_, hrest⟩
  intro d' hd'
  cases hd'
  exact hd

theorem admits_none (s : Shape .value τ) : (optional s).Admits none := by
  intro t ht
  cases ht

theorem admits_nil (s : Shape .value τ) : (list s).Admits [] := List.forall_mem_nil _

theorem admits_integer {least : Option Int} {n : Int} (hleast : belowLeast? least n = none)
    (hn : -wholeLimit < n ∧ n < wholeLimit) : (integer least).Admits n :=
  ⟨hleast, Json.isBrief_of_lt_wholeLimit hn.1 hn.2⟩

/-- A record whose members are just its fields. -/
theorem faithful_record {fields : Shape .members σ} {p : Packing σ τ} (hfields : fields.Faithful)
    (hp : ∀ u, p.unpack (p.pack u) = u) (hderived : ∀ t, p.derived t = [])
    (hnames : fields.names.Nodup) : (record fields p).Faithful := by
  refine ⟨hfields, hp, ?_, ?_⟩
  · intro t m hm
    rw [hderived] at hm
    cases hm
  · intro t
    rw [hderived, List.map_nil, List.append_nil]
    exact hnames.map fun _ _ => Spelling.ofString_inj.1

end Record.Shape

open Record.Shape

theorem Character.faithful_shape : Character.shape.Faithful := by
  refine faithful_record ?_ (fun _ => rfl) (fun _ => rfl) (by decide)
  exact faithful_required trivial <| faithful_required trivial <| faithful_required trivial trivial

theorem Voice.faithful_shape : Voice.shape.Faithful := by
  refine faithful_record ?_ (fun _ => rfl) (fun _ => rfl) (by decide)
  refine faithful_defaulted trivial rfl ?_
  refine faithful_defaulted trivial (admits_integer rfl (by decide)) ?_
  refine faithful_defaulted trivial (admits_integer rfl (by decide)) ?_
  refine faithful_defaulted trivial rfl ?_
  exact faithful_defaulted trivial trivial trivial

theorem Place.faithful_shape : Place.shape.Faithful := by
  refine ⟨?_, fun _ => rfl, ?_, ?_⟩
  · exact faithful_required trivial <| faithful_required trivial trivial
  · intro p m hm
    rw [List.mem_singleton.1 hm]
    exact ⟨"zone", _, rfl⟩
  · intro p
    have hnames : (["x", "y", "zone"].map Spelling.ofString).Nodup :=
      List.Nodup.map (fun _ _ => Spelling.ofString_inj.1) (by decide)
    exact hnames

/-! ## Beats -/

theorem Movement.faithful_shape : Movement.shape.Faithful := by
  refine faithful_record ?_ (fun _ => rfl) (fun _ => rfl) (by decide)
  refine faithful_required trivial ?_
  refine faithful_defaulted ⟨Place.faithful_shape, rfl⟩ (admits_none _) ?_
  refine faithful_defaulted ⟨Place.faithful_shape, rfl⟩ (admits_none _) ?_
  exact faithful_defaulted trivial trivial trivial

theorem Emotion.faithful_shape : Emotion.shape.Faithful := by
  refine faithful_record ?_ (fun _ => rfl) (fun _ => rfl) (by decide)
  refine faithful_required trivial ?_
  exact faithful_defaulted trivial rfl trivial

theorem Gesture.faithful_shape : Gesture.shape.Faithful := by
  refine faithful_record ?_ (fun _ => rfl) (fun _ => rfl) (by decide)
  refine faithful_required trivial ?_
  exact faithful_defaulted ⟨trivial, rfl⟩ (admits_none _) trivial

theorem Part.faithful_shape : Part.shape.Faithful := by
  refine faithful_record ?_ (fun _ => rfl) (fun _ => rfl) (by decide)
  refine faithful_required trivial <| faithful_required trivial <| faithful_required trivial ?_
  refine faithful_required Movement.faithful_shape ?_
  refine faithful_required Emotion.faithful_shape ?_
  refine faithful_defaulted ⟨Gesture.faithful_shape, rfl⟩ (admits_none _) ?_
  refine faithful_defaulted trivial trivial ?_
  exact faithful_defaulted ⟨Voice.faithful_shape, rfl⟩ (admits_none _) trivial

theorem Line.faithful_shape : Line.shape.Faithful := by
  refine faithful_record ?_ (fun _ => rfl) (fun _ => rfl) (by decide)
  refine faithful_defaulted trivial trivial ?_
  refine faithful_required trivial <| faithful_required trivial ?_
  refine faithful_defaulted trivial trivial ?_
  refine faithful_defaulted trivial rfl ?_
  exact faithful_defaulted trivial (admits_integer rfl (by decide)) trivial

theorem Backdrop.faithful_shape : Backdrop.shape.Faithful := by
  refine faithful_record ?_ (fun _ => rfl) (fun _ => rfl) (by decide)
  refine faithful_required trivial ?_
  refine faithful_defaulted ⟨trivial, rfl⟩ (admits_none _) ?_
  exact faithful_defaulted trivial trivial trivial

theorem Lighting.faithful_shape : Lighting.shape.Faithful := by
  refine faithful_record ?_ (fun _ => rfl) (fun _ => rfl) (by decide)
  refine faithful_defaulted trivial rfl ?_
  refine faithful_defaulted trivial trivial ?_
  exact faithful_defaulted ⟨trivial, rfl⟩ (admits_none _) trivial

theorem SoundCue.faithful_shape : SoundCue.shape.Faithful := by
  refine faithful_record ?_ (fun _ => rfl) (fun _ => rfl) (by decide)
  refine faithful_required trivial ?_
  refine faithful_defaulted trivial rfl ?_
  exact faithful_defaulted trivial rfl trivial

theorem Sound.faithful_shape : Sound.shape.Faithful := by
  refine faithful_record ?_ (fun _ => rfl) (fun _ => rfl) (by decide)
  refine faithful_defaulted ⟨trivial, rfl⟩ (admits_none _) ?_
  exact faithful_defaulted SoundCue.faithful_shape (admits_nil _) trivial

theorem Layers.faithful_shape : Layers.shape.Faithful := by
  refine faithful_record ?_ (fun _ => rfl) (fun _ => rfl) (by decide)
  refine faithful_defaulted Part.faithful_shape (admits_nil _) ?_
  refine faithful_defaulted ⟨Backdrop.faithful_shape, rfl⟩ (admits_none _) ?_
  refine faithful_defaulted ⟨Lighting.faithful_shape, rfl⟩ (admits_none _) ?_
  refine faithful_defaulted ⟨Sound.faithful_shape, rfl⟩ (admits_none _) ?_
  exact faithful_defaulted Line.faithful_shape (admits_nil _) trivial

theorem Layers.admits_empty : Layers.shape.Admits .empty :=
  ⟨⟨admits_nil _, admits_none _, admits_none _, admits_none _, admits_nil _, trivial⟩, rfl⟩

theorem Beat.faithful_shape : Beat.shape.Faithful := by
  refine faithful_record ?_ (fun _ => rfl) (fun _ => rfl) (by decide)
  refine faithful_required trivial <| faithful_required trivial ?_
  refine faithful_defaulted trivial trivial ?_
  refine faithful_defaulted trivial rfl ?_
  exact faithful_defaulted Layers.faithful_shape Layers.admits_empty trivial

/-- The contents of a scenario can be told from what is written, under either tag. -/
theorem Contents.faithful_taggedShape (o : Origin) : (Contents.taggedShape o).Faithful := by
  have hnames : ["description", "beats", "characters", "type"].Nodup := by decide
  refine faithful_record ?_ (fun _ => rfl) (fun _ => rfl) hnames
  refine faithful_defaulted trivial trivial ?_
  refine faithful_defaulted ⟨Beat.faithful_shape, rfl⟩ (admits_nil _) ?_
  refine faithful_defaulted ⟨Character.faithful_shape, rfl⟩ (admits_nil _) ?_
  exact faithful_defaulted trivial trivial trivial

end Promptbook
