import Mathlib.Logic.Relation
import Promptbook.Proofs.Record.Itemized
import Promptbook.Proofs.Record.Returned

/-!
# Documents spelled in another way

A shape looks up the names of its fields and overlooks all other members, so there are many ways to
spell a document: with either name of a field, with more members, and with the members in another
order.  Which of them a document is spelled in decides which problems are told, but neither whether
there are any nor what is read when there are none.
-/

namespace Promptbook

/-! ## Members under other names -/

namespace Json

variable {name name' : Spelling} {ms ms' : List (Spelling × Json)}

/-- Members with one name exchanged for another. -/
def rename (name name' : Spelling) (ms : List (Spelling × Json)) : List (Spelling × Json) :=
  ms.map fun m => if m.1 = name then (name', m.2) else m

/-- The members under some names. -/
def only (names : List String) (ms : List (Spelling × Json)) : List (Spelling × Json) :=
  ms.filter fun m => m.1 ∈ names.map Spelling.ofString

theorem rename_self : rename name name ms = ms := by
  rw [rename, List.map_id'']
  intro m
  split_ifs with h
  · rw [← h]
  · rfl

/-- What is found under a name after the exchange was found before under the name that became it. -/
theorem lookup?_rename {found found' : Spelling}
    (h : ∀ m ∈ ms, (if m.1 = name then name' else m.1) = found' ↔ m.1 = found) :
    lookup? found' (rename name name' ms) = lookup? found ms := by
  induction ms using List.reverseRecOn with
  | nil => rfl
  | append_singleton ms m ih =>
    rw [List.forall_mem_append, List.forall_mem_singleton] at h
    obtain ⟨hms, hm⟩ := h
    rw [rename, List.map_append, List.map_singleton, lookup?_append_singleton,
      lookup?_append_singleton, ← rename, ih hms]
    have hvalue : (if m.1 = name then (name', m.2) else m).2 = m.2 := by split_ifs <;> rfl
    rw [hvalue, apply_ite Prod.fst]
    exact if_congr hm rfl rfl

theorem lookup?_rename_old (hne : name ≠ name') : lookup? name (rename name name' ms) = none := by
  rw [lookup?_eq_none_iff, rename, List.map_map, List.mem_map]
  rintro ⟨m, -, hm⟩
  rw [Function.comp_apply, apply_ite Prod.fst] at hm
  split_ifs at hm with h
  · exact hne hm.symm
  · exact h hm

theorem lookup?_rename_new (h : lookup? name' ms = none) :
    lookup? name' (rename name name' ms) = lookup? name ms := by
  refine lookup?_rename fun m hm => ?_
  have hne : m.1 ≠ name' := fun heq => lookup?_eq_none_iff.1 h (heq ▸ List.mem_map_of_mem hm)
  split_ifs with hname
  · exact iff_of_true rfl hname
  · exact iff_of_false hne hname

theorem lookup?_rename_of_ne {other : Spelling} (h : other ≠ name) (h' : other ≠ name') :
    lookup? other (rename name name' ms) = lookup? other ms := by
  refine lookup?_rename fun m _ => ?_
  split_ifs with hname
  · exact iff_of_false h'.symm (hname ▸ h.symm)
  · exact Iff.rfl

theorem lookup?_only {names : List String} {name : String} (h : name ∈ names) :
    lookup? name (only names ms) = lookup? name ms := by
  induction ms using List.reverseRecOn with
  | nil => rfl
  | append_singleton ms m ih =>
    rw [only, List.filter_append, List.filter_singleton, lookup?_append_singleton, ← ih]
    by_cases hm : m.1 = name
    · have hmem : m.1 ∈ names.map Spelling.ofString := hm ▸ List.mem_map_of_mem h
      rw [decide_eq_true hmem, if_pos hm]
      exact (lookup?_append_singleton ..).trans (if_pos hm)
    · rw [if_neg hm]
      cases decide (m.1 ∈ names.map Spelling.ofString) with
      | false => exact congrArg (lookup? name) (List.append_nil _)
      | true => exact (lookup?_append_singleton ..).trans (if_neg hm)

/-- A member under another name may stand anywhere or nowhere. -/
theorem only_of_notMem {names : List String} {name : String} (h : name ∉ names) (j : Json)
    (front back : List (Spelling × Json)) :
    only names (front ++ ((name : Spelling), j) :: back) = only names (front ++ back) := by
  have hnotMem : (name : Spelling) ∉ names.map Spelling.ofString := by
    intro hmem
    obtain ⟨name', hname', heq⟩ := List.mem_map.1 hmem
    exact h (Spelling.ofString_inj.1 heq ▸ hname')
  rw [only, only, List.filter_append, List.filter_append, List.filter_cons_of_neg]
  simpa using hnotMem

/-- Where no two members share a name, their order does not matter. -/
theorem lookup?_perm (hnodup : (ms.map Prod.fst).Nodup) (hperm : ms'.Perm ms) (name : Spelling) :
    lookup? name ms' = lookup? name ms := by
  have hnodup' : (ms'.map Prod.fst).Nodup := (hperm.map Prod.fst).nodup_iff.2 hnodup
  have hsome : ∀ j, lookup? name ms' = some j ↔ lookup? name ms = some j := by
    intro j
    constructor
    · intro h
      exact lookup?_of_nodup hnodup (hperm.mem_iff.1 (mem_of_lookup? h))
    · intro h
      exact lookup?_of_nodup hnodup' (hperm.mem_iff.2 (mem_of_lookup? h))
  exact Option.ext hsome

/-- Where one member has a value that looks as its value did before, members are found alike. -/
theorem map_lookup?_of_changed {α : Type} {f : Json → α} {i i' : Json}
    (h : name = name' → f i = f i') (front back : List (Spelling × Json)) :
    (lookup? name' (front ++ (name, i') :: back)).map f =
      (lookup? name' (front ++ (name, i) :: back)).map f := by
  apply map_lookup?_congr
  have hsame : ∀ ms : List (Spelling × Json), List.Forall₂
      (fun m m' => m.1 = m'.1 ∧ (m.1 = name' → f m.2 = f m'.2)) ms ms :=
    fun ms => List.forall₂_same.2 fun m _ => ⟨rfl, fun _ => rfl⟩
  exact List.rel_append (hsame front) (.cons ⟨rfl, h⟩ (hsame back))

/-- Whether a value is found where a list or an object is due: the value itself, or a text that
holds it as JSON. -/
def Embeds : Json → Json → Prop
  | .text s, i => ∃ t, s.text? = some t ∧ Json.parse .embedded t = .ok i
  | j, i => j = i

end Json

namespace Record

variable {σ τ : Type}

/-! ## Steps -/

/-- Whether a field is spelled in two ways that differ in its name; it has no more than one of the
names in the first. -/
def Key.Renamed (k : Key) (ms ms' : List (Spelling × Json)) : Prop :=
  (Json.lookup? k.alternative ms = none ∧ ms' = Json.rename k.name k.alternative ms) ∨
    (Json.lookup? k.name ms = none ∧ ms' = Json.rename k.alternative k.name ms)

/-- Whether a field is spelled in two ways that differ in one value that stands under one of its
names. -/
def Key.Changed (k : Key) (R : Json → Json → Prop) (ms ms' : List (Spelling × Json)) : Prop :=
  ∃ name : String, (name = k.name ∨ name = k.alternative) ∧ ∃ front i i' back, R i i' ∧
    ms = front ++ ((name : Spelling), i) :: back ∧ ms' = front ++ ((name : Spelling), i') :: back

namespace Shape

/-- Whether a form is another spelling of a form, which differs from it in a single step at one
object: a field has its other name, members that are no fields have come, changed or gone, or the
members, no two of which share a name, stand in another order. -/
def Respelled : {g : Grain} → {τ : Type} → Shape g τ → g.Form → g.Form → Prop
  | _, _, optional s, j, j' => s.Respelled j j'
  | _, _, list s, j, j' =>
    ∃ front i i' back, s.Respelled i i' ∧
      j = .array (front ++ i :: back) ∧ j' = .array (front ++ i' :: back)
  | _, _, embedded s, j, j' => ∃ i i', s.Respelled i i' ∧ j.Embeds i ∧ j'.Embeds i'
  | _, _, record fields _, j, j' =>
    ∃ ms ms', j = .object ms ∧ j' = .object ms' ∧
      (fields.Respelled ms ms' ∨
        Json.only fields.keyNames ms' = Json.only fields.keyNames ms ∨
        (ms.map Prod.fst).Nodup ∧ ms'.Perm ms)
  | _, _, field key s _ rest, ms, ms' =>
    key.Renamed ms ms' ∨ key.Changed s.Respelled ms ms' ∨ rest.Respelled ms ms'
  | _, _, _, _, _ => False

/-- A shape no two of whose fields are looked up under the same name. -/
def Parted : {g : Grain} → {τ : Type} → Shape g τ → Prop
  | _, _, optional s => s.Parted
  | _, _, list s => s.Parted
  | _, _, embedded s => s.Parted
  | _, _, record fields _ => fields.Parted
  | _, _, field key s _ rest =>
    s.Parted ∧ (key.name ∉ rest.keyNames ∧ key.alternative ∉ rest.keyNames) ∧ rest.Parted
  | _, _, _ => True

theorem Separate.parted {g : Grain} {s : Shape g τ} (h : s.Separate) : s.Parted := by
  induction s with
  | text | number | integer | flag | word | literal | raw | done => trivial
  | optional s ih | list s ih | embedded s ih => exact ih h
  | record fields p ih => exact ih h.1
  | field key s default rest ih ihrest => exact ⟨ih h.1, h.2.1, ihrest h.2.2⟩

end Shape

/-! ## What a step leaves -/

section Key

variable {key : Key} {ms ms' : List (Spelling × Json)} {name : String} {R : Json → Json → Prop}

theorem Key.Renamed.lookup?_eq (h : key.Renamed ms ms') (hname : name ≠ key.name)
    (halternative : name ≠ key.alternative) : Json.lookup? name ms' = Json.lookup? name ms := by
  have hname' : (name : Spelling) ≠ key.name := fun heq => hname (Spelling.ofString_inj.1 heq)
  have halternative' : (name : Spelling) ≠ key.alternative :=
    fun heq => halternative (Spelling.ofString_inj.1 heq)
  obtain ⟨-, rfl⟩ | ⟨-, rfl⟩ := h
  · exact Json.lookup?_rename_of_ne hname' halternative'
  · exact Json.lookup?_rename_of_ne halternative' hname'

/-- A field has the same value under its other name. -/
theorem Key.Renamed.lookup?_or (h : key.Renamed ms ms') :
    (Json.lookup? key.name ms').or (Json.lookup? key.alternative ms') =
      (Json.lookup? key.name ms).or (Json.lookup? key.alternative ms) := by
  by_cases hne : (key.name : Spelling) = key.alternative
  · rw [Renamed, ← hne, Json.rename_self, or_self] at h
    rw [h.2]
  · obtain ⟨habsent, rfl⟩ | ⟨habsent, rfl⟩ := h
    · rw [Json.lookup?_rename_old hne, Json.lookup?_rename_new habsent, habsent, Option.or_none,
        Option.none_or]
    · rw [Json.lookup?_rename_old (Ne.symm hne), Json.lookup?_rename_new habsent, habsent,
        Option.or_none, Option.none_or]

theorem Key.Changed.lookup?_eq (h : key.Changed R ms ms') (hname : name ≠ key.name)
    (halternative : name ≠ key.alternative) : Json.lookup? name ms' = Json.lookup? name ms := by
  obtain ⟨name', hname', front, i, i', back, -, rfl, rfl⟩ := h
  have hne : name ≠ name' := by
    rintro rfl
    exact hname'.elim hname halternative
  have hfound : (Json.lookup? name (front ++ ((name' : Spelling), i') :: back)).map id =
      (Json.lookup? name (front ++ ((name' : Spelling), i) :: back)).map id :=
    Json.map_lookup?_of_changed (fun heq => absurd (Spelling.ofString_inj.1 heq).symm hne) front back
  rwa [Option.map_id_fun, id, id] at hfound

/-- Where a changed value looks as it did before, so does the field. -/
theorem Key.Changed.map_lookup? {α : Type} {f : Json → α} (h : key.Changed R ms ms')
    (hf : ∀ i i', R i i' → f i' = f i) (name : Spelling) :
    (Json.lookup? name ms').map f = (Json.lookup? name ms).map f := by
  obtain ⟨name', -, front, i, i', back, hR, rfl, rfl⟩ := h
  exact Json.map_lookup?_of_changed (fun _ => (hf i i' hR).symm) front back

end Key

namespace Shape

/-- A step within the fields of a shape leaves the other members alone. -/
theorem Respelled.lookup?_eq {ms ms' : List (Spelling × Json)} {name : String} :
    {σ : Type} → {s : Shape .members σ} → s.Respelled ms ms' → name ∉ s.keyNames →
      Json.lookup? name ms' = Json.lookup? name ms
  | _, field key s default rest, h, hname => by
    obtain ⟨hname, hbehind⟩ := List.ne_and_not_mem_of_not_mem_cons hname
    obtain ⟨halternative, hrest⟩ := List.ne_and_not_mem_of_not_mem_cons hbehind
    obtain h | h | h := h
    · exact h.lookup?_eq hname halternative
    · exact h.lookup?_eq hname halternative
    · exact h.lookup?_eq hrest

/-- Null is spelled in one way. -/
theorem Respelled.ne_null : {τ : Type} → {s : Shape .value τ} → {j j' : Json} →
    s.Respelled j j' → j ≠ .null ∧ j' ≠ .null
  | _, optional s, _, _, h => ne_null (s := s) h
  | _, list _, _, _, h => by
    obtain ⟨front, i, i', back, -, rfl, rfl⟩ := h
    exact ⟨nofun, nofun⟩
  | _, embedded s, _, _, h => by
    obtain ⟨i, i', h, hj, hj'⟩ := h
    obtain ⟨hi, hi'⟩ := ne_null (s := s) h
    constructor
    · rintro rfl
      exact hi hj.symm
    · rintro rfl
      exact hi' hj'.symm
  | _, record _ _, _, _, h => by
    obtain ⟨ms, ms', rfl, rfl, -⟩ := h
    exact ⟨nofun, nofun⟩

end Shape

/-! ## Answers without their problems -/

namespace Checked

theorem toOption_under (s : Step) (c : Checked τ) : (under s c).toOption = c.toOption := by
  cases c <;> rfl

theorem toOption_map (c : Checked σ) (f : σ → τ) :
    Except.toOption (c.map f) = c.toOption.map f := by
  cases c <;> rfl

theorem toOption_bind (c : Checked σ) (f : σ → Checked τ) :
    Except.toOption (c >>= f) = c.toOption.bind fun s => (f s).toOption := by
  cases c <;> rfl

theorem toOption_both (a : Checked σ) (b : Checked τ) :
    (both a b).toOption = a.toOption.bind fun s => b.toOption.map fun t => (s, t) := by
  cases a <;> cases b <;> rfl

theorem toOption_each (read : σ → Checked τ) (n : ℕ) (xs : List σ) :
    (each read n xs).toOption = xs.mapM fun x => (read x).toOption := by
  induction xs generalizing n with
  | nil => rfl
  | cons x xs ih =>
    rw [each, toOption_map, toOption_both, toOption_under, ih, List.mapM_cons]
    cases (read x).toOption with
    | none => rfl
    | some t => cases xs.mapM fun x => (read x).toOption <;> rfl

end Checked

theorem toOption_readField (key : Key) (default : Option τ) (read : Json → Checked τ)
    (ms : List (Spelling × Json)) : (readField key default read ms).toOption =
      (((Json.lookup? key.name ms).or (Json.lookup? key.alternative ms)).map fun j =>
        (read j).toOption).getD default := by
  rw [readField, Key.find?]
  cases Json.lookup? key.name ms with
  | some j => exact Checked.toOption_under ..
  | none =>
    cases Json.lookup? key.alternative ms with
    | some j => exact Checked.toOption_under ..
    | none => cases default <;> rfl

theorem readEmbedded_of_embeds (read : Json → Checked τ) {j i : Json} (h : j.Embeds i) :
    readEmbedded read j = read i := by
  cases j with
  | text s =>
    obtain ⟨t, ht, hi⟩ := h
    simp only [readEmbedded, ht, hi]
  | _ => exact congrArg read h

namespace Shape

/-! ## What is read after a step -/

/-- What is read, if anything, is the same after a step. -/
theorem toOption_readAt_of_respelled {g : Grain} (s : Shape g τ) (hs : s.Parted) (site : Site)
    {form form' : g.Form} (h : s.Respelled form form') :
    (s.readAt site form').toOption = (s.readAt site form).toOption := by
  induction s generalizing site with
  | text | number | integer | flag | word | literal | raw | done => exact h.elim
  | optional s ih =>
    obtain ⟨hne, hne'⟩ := Respelled.ne_null (s := s) h
    rw [readAt, readAt, readOptional_of_ne_null _ hne, readOptional_of_ne_null _ hne',
      Checked.toOption_map, Checked.toOption_map, ih hs site h]
  | list s ih =>
    obtain ⟨front, i, i', back, h, rfl, rfl⟩ := h
    rw [readAt, readAt, readList, readList, Checked.toOption_each, Checked.toOption_each,
      List.mapM_append, List.mapM_append, List.mapM_cons, List.mapM_cons, ih hs site h]
  | embedded s ih =>
    obtain ⟨i, i', h, hj, hj'⟩ := h
    rw [readAt, readAt, readEmbedded_of_embeds _ hj, readEmbedded_of_embeds _ hj', ih hs .embedded h]
  | record fields p ih =>
    obtain ⟨ms, ms', rfl, rfl, h⟩ := h
    -- Of the three kinds of steps, only those within the fields change what is looked up.
    have hfields : (fields.readAt site ms').toOption = (fields.readAt site ms).toOption := by
      obtain h | h | ⟨hnodup, hperm⟩ := h
      · exact ih hs site h
      · rw [fields.readAt_eq_of_lookup? fun name hname => ?_]
        rw [← Json.lookup?_only hname, h, Json.lookup?_only hname]
      · rw [fields.readAt_eq_of_lookup? fun name _ => Json.lookup?_perm hnodup hperm name]
    rw [readAt, readAt, readMembers, readMembers, Checked.toOption_bind, Checked.toOption_bind,
      hfields]
  | field key s default rest ih ihrest =>
    obtain ⟨hs, ⟨hname, halternative⟩, hrest⟩ := hs
    -- The fields behind have other names, so a step at this one is nothing to them, nor theirs to it.
    have hother : ∀ name ∈ rest.keyNames, name ≠ key.name ∧ name ≠ key.alternative :=
      fun name hmem => ⟨fun heq => hname (heq ▸ hmem), fun heq => halternative (heq ▸ hmem)⟩
    rw [readAt, readAt, Checked.toOption_both, Checked.toOption_both, toOption_readField,
      toOption_readField]
    obtain h | h | h := h
    · rw [h.lookup?_or, rest.readAt_eq_of_lookup? fun name hmem =>
        h.lookup?_eq (hother name hmem).1 (hother name hmem).2]
    · have hfound := h.map_lookup? (f := fun j => (s.readAt site j).toOption)
        fun i i' hi => ih hs site hi
      rw [Option.map_or, hfound, hfound, ← Option.map_or, rest.readAt_eq_of_lookup? fun name hmem =>
        h.lookup?_eq (hother name hmem).1 (hother name hmem).2]
    · rw [h.lookup?_eq hname, h.lookup?_eq halternative, ihrest hrest site h]

/-- What is read, if anything, is the same after any number of steps. -/
theorem toOption_read_of_steps (s : Shape .value τ) (hs : s.Parted) {j j' : Json}
    (h : Relation.ReflTransGen s.Respelled j j') : (s.read j').toOption = (s.read j).toOption := by
  induction h with
  | refl => rfl
  | tail _ hstep ih => exact (s.toOption_readAt_of_respelled hs .document hstep).trans ih

end Shape

end Record

end Promptbook
