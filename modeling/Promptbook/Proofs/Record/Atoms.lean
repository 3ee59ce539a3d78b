import Promptbook.Proofs.Json.Members
import Promptbook.Record.Shape

/-!
# The atoms of a record

A value is laid out with texts and numbers at its leaves.  Of these atoms depends whether it can be
written, and whether it comes back when it is read again; the rest of the layout never matters, as
long as the shape is faithful.
-/

namespace Promptbook.Record

/-- A text or a number that a value holds. -/
inductive Atom where
  | text (s : Spelling)
  | number (x : Float)
  | integer (n : Int)

namespace Atom

/-- Whether an atom is no text with halves of surrogate pairs. -/
def isWhole : Atom → Bool
  | text s => s.isWhole
  | _ => true

/-- Whether an atom is no double that is infinite or no number. -/
def isFinite : Atom → Bool
  | number x => x.isFinite
  | _ => true

end Atom

namespace Shape

/-- The texts and numbers that a value lays out, in order. -/
def atoms : {g : Grain} → {τ : Type} → Shape g τ → τ → List Atom
  | _, _, text, t => [.text t]
  | _, _, number _, x => [.number x]
  | _, _, integer _, n => [.integer n]
  | _, _, flag, _ => []
  | _, _, word _, _ => []
  | _, _, literal _, _ => []
  | _, _, raw, _ => []
  | _, _, optional s, t => t.elim [] s.atoms
  | _, _, list s, ts => ts.flatMap s.atoms
  | _, _, embedded s, t => s.atoms t
  | _, _, record fields p, t => fields.atoms (p.unpack t)
  | _, _, done, _ => []
  | _, _, field _ s _ rest, t => s.atoms t.1 ++ rest.atoms t.2

/-- Whether a value keeps to the bounds and the laws of its shape, with whole numbers that are
short enough to be read. -/
def Admits : {g : Grain} → {τ : Type} → Shape g τ → τ → Prop
  | _, _, text, _ => True
  | _, _, number r, x => r.fault? x = none
  | _, _, integer least, n => belowLeast? least n = none ∧ (Json.integer n).isBrief
  | _, _, flag, _ => True
  | _, _, word _, _ => True
  | _, _, literal _, _ => True
  | _, _, raw, j => j.isBrief
  | _, _, optional s, t => ∀ u ∈ t, s.Admits u
  | _, _, list s, ts => ∀ t ∈ ts, s.Admits t
  | _, _, embedded s, t => s.Admits t
  | _, _, record fields p, t => fields.Admits (p.unpack t) ∧ p.law t = none
  | _, _, done, _ => True
  | _, _, field _ s _ rest, t => s.Admits t.1 ∧ rest.Admits t.2

/-- The names under which fields are written. -/
def names : {g : Grain} → {τ : Type} → Shape g τ → List String
  | _, _, field key _ _ rest => key.name :: rest.names
  | _, _, _ => []

/-- How deep a layout may nest. -/
def height : {g : Grain} → {τ : Type} → Shape g τ → Nat
  | _, _, optional s => s.height
  | _, _, list s => s.height + 1
  | _, _, embedded s => s.height
  | _, _, record fields _ => fields.height + 1
  | _, _, field _ s _ rest => max s.height rest.height
  | _, _, _ => 0

/-- Whether a layout is a list. -/
def isList : {g : Grain} → {τ : Type} → Shape g τ → Bool
  | _, _, list _ => true
  | _, _, _ => false

/-- Whether a layout is never null, even where null stands for a number. -/
def isSolid : {g : Grain} → {τ : Type} → Shape g τ → Bool
  | _, _, number _ => false
  | _, _, raw => false
  | _, _, optional _ => false
  | _, _, embedded s => s.isSolid
  | _, _, _ => true

/-- Whether what follows from a value is written as a word. -/
def IsWord (m : Spelling × Json) : Prop :=
  ∃ name w : String, m = (Spelling.ofString name, Json.text (Spelling.ofString w))

/-- A shape from whose layouts the value can be told. -/
def Faithful : {g : Grain} → {τ : Type} → Shape g τ → Prop
  | _, _, raw => False
  | _, _, optional s => s.Faithful ∧ s.isSolid = true
  | _, _, list s => s.Faithful
  | _, _, embedded s => s.Faithful ∧ s.isList = true
  | _, _, record fields p =>
    fields.Faithful ∧ (∀ u, p.unpack (p.pack u) = u) ∧ (∀ t, ∀ m ∈ p.derived t, IsWord m) ∧
      ∀ t, (fields.names.map Spelling.ofString ++ (p.derived t).map Prod.fst).Nodup
  | _, _, field _ s default rest => s.Faithful ∧ (∀ d ∈ default, s.Admits d) ∧ rest.Faithful
  | _, _, _ => True

/-- Whether every text of a value can be written, those in members that follow from it and those in
any JSON value included. -/
def Spelled : {g : Grain} → {τ : Type} → Shape g τ → τ → Prop
  | _, _, text, t => t.isWhole = true
  | _, _, raw, j => j.finite.isWhole = true
  | _, _, optional s, t => ∀ u ∈ t, s.Spelled u
  | _, _, list s, ts => ∀ t ∈ ts, s.Spelled t
  | _, _, embedded s, t => s.Spelled t
  | _, _, record fields p, t =>
    fields.Spelled (p.unpack t) ∧ Json.membersWhole (p.derived t) = true
  | _, _, field _ s _ rest, t => s.Spelled t.1 ∧ rest.Spelled t.2
  | _, _, _, _ => True

/-! ## What is written -/

/-- Each field is written under its name. -/
theorem map_fst_write : {σ : Type} → (s : Shape .members σ) → (t : σ) →
    (s.write t).map Prod.fst = s.names.map Spelling.ofString
  | _, done, _ => rfl
  | _, field key _ _ rest, t => congrArg (Spelling.ofString key.name :: ·) (rest.map_fst_write t.2)

end Shape

/-- What is said of a value, or of the value of each member. -/
def Grain.Holds (P : Json → Prop) : (g : Grain) → g.Form → Prop
  | .value, j => P j
  | .members, ms => ∀ m ∈ ms, P m.2

namespace Shape

theorem memberWhole_of_isWord {m : Spelling × Json} (h : IsWord m) : Json.memberWhole m = true := by
  obtain ⟨name, w, rfl⟩ := h
  rw [Json.memberWhole, Json.isWhole, Spelling.isWhole_ofString, Spelling.isWhole_ofString]
  rfl

theorem membersWhole_write_iff {σ : Type} (s : Shape .members σ) (t : σ) :
    Json.membersWhole (s.write t) = true ↔ ∀ m ∈ s.write t, m.2.isWhole = true := by
  rw [Json.membersWhole_eq_all, List.all_eq_true]
  refine forall₂_congr fun m hm => ?_
  have hname : m.1.isWhole = true := by
    have hmem := List.mem_map_of_mem (f := Prod.fst) hm
    rw [map_fst_write] at hmem
    obtain ⟨name, -, hname⟩ := List.mem_map.1 hmem
    rw [← hname, Spelling.isWhole_ofString]
  rw [Json.memberWhole, hname, Bool.true_and]

/-- A layout can be written just in case every text of the value can. -/
theorem holds_isWhole_write_iff_spelled {g : Grain} {τ : Type} (s : Shape g τ) (t : τ) :
    g.Holds (fun j => j.isWhole = true) (s.write t) ↔ s.Spelled t := by
  induction s with
  | text | raw => exact Iff.rfl
  | number | integer | flag => exact iff_of_true rfl trivial
  | done => exact iff_of_true (List.forall_mem_nil _) trivial
  | word | literal => exact iff_of_true (Spelling.isWhole_ofString _) trivial
  | optional s ih =>
    cases t with
    | none => exact iff_of_true rfl nofun
    | some t => exact (ih t).trans ⟨fun h u hu => Option.some.inj hu ▸ h, fun h => h t rfl⟩
  | list s ih =>
    change Json.itemsWhole (t.map s.write) = true ↔ ∀ u ∈ t, s.Spelled u
    rw [Json.itemsWhole_eq_all, List.all_eq_true, List.forall_mem_map]
    exact forall₂_congr fun u _ => ih u
  | embedded s ih => exact ih t
  | record fields p ih =>
    change Json.membersWhole (fields.write (p.unpack t) ++ p.derived t) = true ↔ _ ∧ _
    rw [Json.membersWhole_eq_all, List.all_append, Bool.and_eq_true, ← Json.membersWhole_eq_all,
      ← Json.membersWhole_eq_all, membersWhole_write_iff]
    exact and_congr_left' (ih (p.unpack t))
  | field key s default rest ihs ih =>
    change (∀ m ∈ ((key.name : Spelling), s.write t.1) :: rest.write t.2, _) ↔ _ ∧ _
    rw [List.forall_mem_cons]
    exact and_congr (ihs t.1) (ih t.2)

/-- Where the members that follow from a value are words, its texts are among its atoms. -/
theorem spelled_iff_atoms {g : Grain} {τ : Type} (s : Shape g τ) (hs : s.Faithful) (t : τ) :
    s.Spelled t ↔ ∀ a ∈ s.atoms t, a.isWhole = true := by
  induction s with
  | text =>
    change t.isWhole = true ↔ ∀ a ∈ [Atom.text t], a.isWhole = true
    rw [List.forall_mem_singleton]
    rfl
  | number | integer => exact iff_of_true trivial (List.forall_mem_singleton.2 rfl)
  | flag | word | literal | done => exact iff_of_true trivial (List.forall_mem_nil _)
  | raw => exact hs.elim
  | optional s ih =>
    cases t with
    | none => exact iff_of_true nofun (List.forall_mem_nil _)
    | some t =>
      have hsome : (optional s).Spelled (some t) ↔ s.Spelled t :=
        ⟨fun h => h t rfl, fun h u hu => Option.some.inj hu ▸ h⟩
      exact hsome.trans (ih hs.1 t)
  | list s ih =>
    change _ ↔ ∀ a ∈ t.flatMap s.atoms, _
    rw [List.forall_mem_flatMap]
    exact forall₂_congr fun u _ => ih hs u
  | embedded s ih => exact ih hs.1 t
  | record fields p ih =>
    refine Iff.trans (and_iff_left ?_) (ih hs.1 (p.unpack t))
    rw [Json.membersWhole_eq_all]
    exact List.all_eq_true.2 fun m hm => memberWhole_of_isWord (hs.2.2.1 t m hm)
  | field key s default rest ihs ih =>
    change _ ↔ ∀ a ∈ s.atoms t.1 ++ rest.atoms t.2, _
    rw [List.forall_mem_append]
    exact and_congr (ihs hs.1 t.1) (ih hs.2.2 t.2)

/-- A layout holds no text but words and the texts of the value. -/
theorem holds_isWhole_write_iff {g : Grain} {τ : Type} (s : Shape g τ) (hs : s.Faithful) (t : τ) :
    g.Holds (fun j => j.isWhole = true) (s.write t) ↔ ∀ a ∈ s.atoms t, a.isWhole = true :=
  (s.holds_isWhole_write_iff_spelled t).trans (s.spelled_iff_atoms hs t)

/-- The whole numbers in a layout are short enough where the shape admits the value. -/
theorem holds_isBrief_write {g : Grain} {τ : Type} (s : Shape g τ) (hs : s.Faithful) {t : τ}
    (h : s.Admits t) : g.Holds Json.isBrief (s.write t) := by
  induction s with
  | text | number | flag | word | literal => trivial
  | integer => exact h.2
  | raw => exact hs.elim
  | optional s ih =>
    cases t with
    | none => trivial
    | some t => exact ih hs.1 (h t rfl)
  | list s ih =>
    refine (Json.itemsBrief_iff _).2 (List.forall_mem_map.2 ?_)
    exact fun u hu => ih hs (h u hu)
  | embedded s ih => exact ih hs.1 h
  | record fields p ih =>
    refine (Json.membersBrief_iff _).2 (List.forall_mem_append.2 ⟨ih hs.1 h.1, ?_⟩)
    intro m hm
    obtain ⟨name, w, rfl⟩ := hs.2.2.1 t m hm
    trivial
  | done => exact List.forall_mem_nil _
  | field key s default rest ihs ih =>
    exact List.forall_mem_cons.2 ⟨ihs hs.1 h.1, ih hs.2.2 h.2⟩

/-- A layout nests no deeper than its shape. -/
theorem holds_depth_write_le {g : Grain} {τ : Type} (s : Shape g τ) (hs : s.Faithful) (t : τ) :
    g.Holds (fun j => j.depth ≤ s.height) (s.write t) := by
  induction s with
  | text | number | flag | word | literal | integer => exact le_rfl
  | raw => exact hs.elim
  | optional s ih =>
    cases t with
    | none => exact Nat.zero_le _
    | some t => exact ih hs.1 t
  | list s ih => exact Json.depth_array_le (List.forall_mem_map.2 fun u _ => ih hs u)
  | embedded s ih => exact ih hs.1 t
  | record fields p ih =>
    refine Json.depth_object_le (List.forall_mem_append.2 ⟨ih hs.1 (p.unpack t), ?_⟩)
    intro m hm
    obtain ⟨name, w, rfl⟩ := hs.2.2.1 t m hm
    exact Nat.zero_le _
  | done => exact List.forall_mem_nil _
  | field key s default rest ihs ih =>
    refine List.forall_mem_cons.2 ⟨(ihs hs.1 t.1).trans (le_max_left ..), ?_⟩
    exact fun m hm => (ih hs.2.2 t.2 m hm).trans (le_max_right ..)

end Shape

end Promptbook.Record
