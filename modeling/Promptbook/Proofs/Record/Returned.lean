import Promptbook.Proofs.Record.Atoms

/-!
# What is written comes back

A value that its shape admits is read back from its layout.  Where null stands in the layout for a
number that is not finite, there are problems instead, and each of them says that a number is due.
-/

namespace Promptbook.Record

variable {σ τ : Type}

/-- What reading a layout again ends with: the value where all its numbers are finite, and otherwise
the places at which a number is due. -/
inductive Returns (t : τ) (as : List Atom) : Checked τ → Prop
  | whole (h : ∀ a ∈ as, a.isFinite = true) : Returns t as (.ok t)
  | lossy {a : Atom} (ha : a ∈ as) (hinfinite : a.isFinite = false) {ps : List Problem}
    (hps : ∀ p ∈ ps, p.fault = .notNumber) : Returns t as (.error ps)

namespace Returns

variable {s : σ} {t : τ} {as bs : List Atom} {a : Checked σ} {b : Checked τ}

theorem eq_ok (h : Returns t bs b) (hfinite : ∀ a ∈ bs, a.isFinite = true) : b = .ok t := by
  cases h with
  | whole => rfl
  | lossy ha hinfinite =>
    rw [hfinite _ ha] at hinfinite
    cases hinfinite

theorem eq_of_ok {u : τ} (h : Returns t bs (.ok u)) : u = t := by
  cases h
  rfl

theorem under (h : Returns t bs b) (step : Step) : Returns t bs (Checked.under step b) := by
  cases h with
  | whole h => exact .whole h
  | lossy ha hinfinite hps => exact .lossy ha hinfinite (List.forall_mem_map.2 hps)

theorem map (h : Returns s as a) (f : σ → τ) : Returns (f s) as (a.map f) := by
  cases h with
  | whole h => exact .whole h
  | lossy ha hinfinite hps => exact .lossy ha hinfinite hps

theorem both (h : Returns s as a) (h' : Returns t bs b) : Returns (s, t) (as ++ bs) (a.both b) := by
  cases h with
  | whole h =>
    cases h' with
    | whole h' => exact .whole (List.forall_mem_append.2 ⟨h, h'⟩)
    | lossy hb hinfinite hps => exact .lossy (List.mem_append_right as hb) hinfinite hps
  | lossy ha hinfinite hps =>
    cases h' with
    | whole h' => exact .lossy (List.mem_append_left bs ha) hinfinite hps
    | lossy hb _ hqs =>
      exact .lossy (List.mem_append_left bs ha) hinfinite (List.forall_mem_append.2 ⟨hps, hqs⟩)

/-- The items of a list come back one by one. -/
theorem each {read : σ → Checked τ} {lay : τ → σ} {atoms : τ → List Atom} {ts : List τ}
    (h : ∀ t ∈ ts, Returns t (atoms t) (read (lay t))) (i : ℕ) :
    Returns ts (ts.flatMap atoms) (Checked.each read i (ts.map lay)) := by
  induction ts generalizing i with
  | nil => exact .whole (List.forall_mem_nil _)
  | cons t ts ih =>
    rw [List.forall_mem_cons] at h
    rw [List.flatMap_cons]
    exact ((h.1.under (.index i)).both (ih h.2 (i + 1))).map fun r => r.1 :: r.2

/-- The fields of a value that keeps its law make up the value again. -/
theorem accept {p : Packing σ τ} (h : Returns (p.unpack t) as a) (hlaw : p.law t = none) :
    Returns t as (a >>= p.accept) := by
  cases h with
  | whole h =>
    have haccept : p.accept (p.unpack t) = .ok t := by
      rw [Packing.accept, p.pack_unpack, hlaw]
      rfl
    change Returns t as (p.accept (p.unpack t))
    rw [haccept]
    exact .whole h
  | lossy ha hinfinite hps => exact .lossy ha hinfinite hps

end Returns

/-- Whether a form holds what was written, with null for each number that is not finite: a value
is just that, and members are found by their names. -/
def Grain.Holding : (g : Grain) → g.Form → g.Form → Prop
  | .value, written, j => j = written.finite
  | .members, written, ms => ∀ m ∈ written, Json.lookup? m.1 ms = some m.2.finite

namespace Shape

theorem exists_write_eq_array {s : Shape .value τ} (h : s.isList = true) (t : τ) :
    ∃ js, s.write t = .array js := by
  cases s with
  | list s => exact ⟨_, rfl⟩
  | _ => cases h

/-- A solid layout is never null. -/
theorem finite_write_ne_null : {τ : Type} → (s : Shape .value τ) → s.isSolid = true → (t : τ) →
    (s.write t).finite ≠ .null
  | _, text, _, _ | _, integer _, _, _ | _, flag, _, _ | _, word _, _, _ | _, literal _, _, _
  | _, list _, _, _ | _, record _ _, _, _ => nofun
  | _, embedded s, h, t => s.finite_write_ne_null h t

theorem readOptional_of_ne_null (read : Json → Checked τ) {j : Json} (h : j ≠ .null) :
    readOptional read j = (read j).map some := by
  cases j with
  | null => exact absurd rfl h
  | _ => rfl

/-- The members of a record are found by their names. -/
theorem holding_finiteMembers {fields : Shape .members σ} {p : Packing σ τ}
    (hs : (record fields p).Faithful) (t : τ) : Grain.members.Holding (fields.write (p.unpack t))
      (Json.finiteMembers (fields.write (p.unpack t) ++ p.derived t)) := by
  intro m hm
  rw [Json.finiteMembers_eq_map]
  have hfst : Prod.fst ∘ Json.finiteMember = Prod.fst := by
    funext m
    exact Json.fst_finiteMember m
  have hnames : (((fields.write (p.unpack t) ++ p.derived t).map Json.finiteMember).map
      Prod.fst).Nodup := by
    rw [List.map_map, hfst, List.map_append, map_fst_write]
    exact hs.2.2.2 t
  have hfound := Json.lookup?_of_nodup hnames
    (List.mem_map_of_mem (f := Json.finiteMember) (List.mem_append_left _ hm))
  rwa [Json.fst_finiteMember, Json.snd_finiteMember] at hfound

/-- A number within its bounds comes back where it is finite. -/
theorem returns_readNumber (site : Site) {r : Range} {x : Float} (h : r.fault? x = none) :
    Returns x [.number x] (Checked.ofScalar (readNumber site r (Json.number x).finite)) := by
  rw [Json.finite]
  split_ifs with hx
  · have hread : readNumber site r (.number x) = .ok x := by
      change within (r.fault? x) x = .ok x
      rw [h]
      rfl
    rw [hread]
    exact .whole (List.forall_mem_singleton.2 hx)
  · have hinfinite : (Atom.number x).isFinite = false := Bool.eq_false_iff.2 hx
    exact .lossy (List.mem_singleton_self _) hinfinite (List.forall_mem_singleton.2 rfl)

/-- A value that a faithful shape admits comes back from its layout. -/
theorem returns_readAt {g : Grain} (s : Shape g τ) (hs : s.Faithful) (site : Site) {t : τ}
    (h : s.Admits t) {form : g.Form} (hform : g.Holding (s.write t) form) :
    Returns t (s.atoms t) (s.readAt site form) := by
  induction s generalizing site with
  | text =>
    cases hform
    exact .whole (List.forall_mem_singleton.2 rfl)
  | number r =>
    cases hform
    exact returns_readNumber site h
  | integer least =>
    cases hform
    have hread : readInteger least (.integer t) = .ok t := by
      change within (belowLeast? least t) t = .ok t
      rw [h.1]
      rfl
    change Returns t _ (Checked.ofScalar (readInteger least (.integer t)))
    rw [hread]
    exact .whole (List.forall_mem_singleton.2 rfl)
  | flag =>
    cases hform
    exact .whole (List.forall_mem_nil _)
  | word v =>
    cases hform
    have hread : readWord v (.text (v.word t)) = .ok t := by
      rw [readWord, readSpelled, Spelling.text?_ofString, Option.elim_some, v.ofWord?_word]
      rfl
    change Returns t _ (Checked.ofScalar (readWord v (.text (v.word t))))
    rw [hread]
    exact .whole (List.forall_mem_nil _)
  | literal w =>
    cases hform
    have hread : readLiteral w (.text w) = .ok t := if_pos rfl
    change Returns t _ (Checked.ofScalar (readLiteral w (.text w)))
    rw [hread]
    exact .whole (List.forall_mem_nil _)
  | raw => exact hs.elim
  | optional s ih =>
    cases hform
    cases t with
    | none => exact .whole (List.forall_mem_nil _)
    | some t =>
      -- Null would be read as no value at all, but a solid layout is never null.
      change Returns _ _ (readOptional (s.readAt site) (s.write t).finite)
      rw [readOptional_of_ne_null _ (s.finite_write_ne_null hs.2 t)]
      exact (ih hs.1 site (h t rfl) rfl).map some
  | list s ih =>
    cases hform
    change Returns _ _ (Checked.each (s.readAt site) 0 (Json.finiteItems (t.map s.write)))
    rw [Json.finiteItems_eq_map, List.map_map]
    exact Returns.each (fun u hu => ih hs site (h u hu) rfl) 0
  | embedded s ih =>
    cases hform
    obtain ⟨js, hjs⟩ := exists_write_eq_array hs.2 t
    have hread := ih hs.1 .embedded h rfl
    change Returns _ _ (readEmbedded (s.readAt .embedded) (s.write t).finite)
    rw [hjs] at hread ⊢
    exact hread
  | record fields p ih =>
    cases hform
    exact (ih hs.1 site h.1 (holding_finiteMembers hs t)).accept h.2
  | done => exact .whole (List.forall_mem_nil _)
  | field key s default rest ihs ih =>
    -- Fields are looked up among all the members, so the rest is read from the same form.
    have hwritten := List.forall_mem_cons.1 hform
    have hfound : key.find? form = some (key.name, (s.write t.1).finite) := by
      rw [Key.find?, hwritten.1]
    have hfield := (ihs hs.1 site h.1 rfl).under (.key key.name)
    change Returns t _ ((readField key default (s.readAt site) form).both (rest.readAt site form))
    rw [readField, hfound]
    exact hfield.both (ih hs.2.2 site h.2 hwritten.2)

end Shape

end Promptbook.Record
