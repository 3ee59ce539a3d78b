import Promptbook.Proofs.Json.Members
import Promptbook.Record.Problem

/-!
# Places in a document

A path leads into a document by the names of members and the numbers of items.  The last name may
be missing: the place is then one where a member can be added.  Two places are apart when neither
lies inside the other, and what is put at one leaves the other where it is.
-/

namespace Promptbook

open Record

/-! ## Paths -/

namespace Record

/-- Whether of two paths neither goes on where the other ends. -/
def Apart (p q : List Step) : Prop := ¬ p <+: q ∧ ¬ q <+: p

namespace Apart

variable {s t : Step} {p q : List Step}

theorem symm (h : Apart p q) : Apart q p := ⟨h.2, h.1⟩

theorem ne (h : Apart p q) : p ≠ q := by
  rintro rfl
  exact h.1 (List.prefix_refl p)

theorem cons_iff : Apart (s :: p) (t :: q) ↔ s ≠ t ∨ Apart p q := by
  rw [Apart, Apart, List.cons_prefix_cons, List.cons_prefix_cons]
  by_cases h : s = t
  · simp [h]
  · simp [h, Ne.symm h]

theorem of_ne (h : s ≠ t) : Apart (s :: p) (t :: q) := cons_iff.2 (.inl h)

theorem not_nil_left : ¬ Apart [] q := fun h => h.1 q.nil_prefix

theorem not_nil_right : ¬ Apart p [] := fun h => h.2 p.nil_prefix

end Apart

end Record

namespace Json

/-! ## Members by name -/

theorem lookup?_eq_none_iff {name : Spelling} {ms : List (Spelling × Json)} :
    lookup? name ms = none ↔ name ∉ ms.map Prod.fst := by
  induction ms using List.reverseRecOn with
  | nil => simp
  | append_singleton ms m ih =>
    rw [lookup?_append_singleton, List.map_append, List.mem_append, List.map_singleton,
      List.mem_singleton]
    by_cases h : m.1 = name
    · simp [h]
    · simp [h, ih, Ne.symm h]

/-- Members with another value under a name.  A name that is missing is added behind the others, a
name that stands there more than once gets each of its values changed. -/
def alter (name : Spelling) (f : Json → Json) (ms : List (Spelling × Json)) :
    List (Spelling × Json) :=
  if name ∈ ms.map Prod.fst then ms.map fun m => if m.1 = name then (m.1, f m.2) else m
  else ms ++ [(name, f null)]

theorem lookup?_map_of_name (name name' : Spelling) (f : Json → Json)
    (ms : List (Spelling × Json)) :
    lookup? name' (ms.map fun m => if m.1 = name then (m.1, f m.2) else m) =
      if name' = name then (lookup? name' ms).map f else lookup? name' ms := by
  induction ms using List.reverseRecOn with
  | nil => simp
  | append_singleton ms m ih =>
    rw [List.map_append, List.map_singleton, lookup?_append_singleton, lookup?_append_singleton, ih]
    by_cases hm : m.1 = name
    · by_cases hname : name' = name
      · simp [hm, hname]
      · simp [hm, hname, Ne.symm hname]
    · by_cases hname : name' = name
      · simp [hm, hname]
      · simp [hm, hname]

theorem lookup?_alter_self (name : Spelling) (f : Json → Json) (ms : List (Spelling × Json)) :
    lookup? name (alter name f ms) = some (f ((lookup? name ms).getD null)) := by
  rw [alter]
  split_ifs with h
  · rw [lookup?_map_of_name, if_pos rfl]
    cases hms : lookup? name ms with
    | none => exact absurd h (lookup?_eq_none_iff.1 hms)
    | some j => rfl
  · rw [lookup?_append_singleton, if_pos rfl, lookup?_eq_none_iff.2 h]
    rfl

theorem lookup?_alter_of_ne {name name' : String} (h : name' ≠ name) (f : Json → Json)
    (ms : List (Spelling × Json)) : lookup? name' (alter name f ms) = lookup? name' ms := by
  have hne : (name' : Spelling) ≠ name := fun heq => h (Spelling.ofString_inj.1 heq)
  rw [alter]
  split_ifs
  · rw [lookup?_map_of_name, if_neg hne]
  · rw [lookup?_append_singleton, if_neg hne.symm]

/-! ## Values at places -/

/-- A document with a value at the place to which a path leads, and as it is where there is no such
place. -/
def put : List Step → Json → Json → Json
  | [], v, _ => v
  | .key k :: p, v, object ms => object (alter k (put p v) ms)
  | .index i :: p, v, array js => array (js.modify i (put p v))
  | _ :: _, _, j => j

/-- The members of an object with a value at the place to which a path leads. -/
def putMember : List Step → Json → List (Spelling × Json) → List (Spelling × Json)
  | .key k :: p, v, ms => alter k (put p v) ms
  | _, _, ms => ms

/-- A document with values at some places, put there one after the other. -/
def mend (rs : List (List Step × Json)) (j : Json) : Json :=
  rs.foldl (fun j r => put r.1 r.2 j) j

/-- Whether a path leads to a place in a document, the place of a missing member included. -/
def Leads : List Step → Json → Prop
  | [], _ => True
  | .key k :: p, object ms => (lookup? k ms).elim (p = []) (Leads p)
  | .index i :: p, array js => ∃ j, js[i]? = some j ∧ Leads p j
  | _ :: _, _ => False

@[simp] theorem put_nil (v j : Json) : put [] v j = v := by rw [put]

@[simp] theorem mend_nil (j : Json) : mend [] j = j := rfl

@[simp] theorem mend_cons (r : List Step × Json) (rs : List (List Step × Json)) (j : Json) :
    mend (r :: rs) j = mend rs (put r.1 r.2 j) := rfl

theorem put_object (s : Step) (p : List Step) (v : Json) (ms : List (Spelling × Json)) :
    put (s :: p) v (object ms) = object (putMember (s :: p) v ms) := by
  cases s <;> rfl

variable {s : Step} {p q : List Step} {v j : Json}

/-- Within a value nothing is put but in an array or an object, which stays one. -/
theorem put_cons (s : Step) (p : List Step) (v j : Json) :
    put (s :: p) v j = j ∨ (∃ js, put (s :: p) v j = array js) ∨
      ∃ ms, put (s :: p) v j = object ms := by
  cases s with
  | key k =>
    cases j with
    | object ms => exact .inr (.inr ⟨_, rfl⟩)
    | _ => exact .inl rfl
  | index i =>
    cases j with
    | array js => exact .inr (.inl ⟨_, rfl⟩)
    | _ => exact .inl rfl

theorem put_cons_ne_null (h : j ≠ null) : put (s :: p) v j ≠ null := by
  rcases put_cons s p v j with hput | ⟨js, hput⟩ | ⟨ms, hput⟩
  · rwa [hput]
  · rw [hput]
    exact nofun
  · rw [hput]
    exact nofun

theorem put_cons_ne_text (h : ∀ t, j ≠ text t) (t : Spelling) : put (s :: p) v j ≠ text t := by
  rcases put_cons s p v j with hput | ⟨js, hput⟩ | ⟨ms, hput⟩
  · rw [hput]
    exact h t
  · rw [hput]
    exact nofun
  · rw [hput]
    exact nofun

theorem Leads.exists_object {k : String} (hj : Leads (.key k :: p) j) : ∃ ms, j = object ms := by
  cases j with
  | object ms => exact ⟨ms, rfl⟩
  | _ => exact hj.elim

theorem Leads.exists_array {i : Nat} (hj : Leads (.index i :: p) j) : ∃ js, j = array js := by
  cases j with
  | array js => exact ⟨js, rfl⟩
  | _ => exact hj.elim

/-- A path leads no further into null or a text. -/
theorem Leads.ne (hj : Leads (s :: p) j) : j ≠ null ∧ ∀ t, j ≠ text t := by
  cases s with
  | key k =>
    obtain ⟨ms, rfl⟩ := hj.exists_object
    exact ⟨nofun, fun _ => nofun⟩
  | index i =>
    obtain ⟨js, rfl⟩ := hj.exists_array
    exact ⟨nofun, fun _ => nofun⟩

theorem leads_key_of_lookup? {k : String} {ms : List (Spelling × Json)}
    (h : lookup? k ms = some j) : Leads (.key k :: p) (object ms) ↔ Leads p j := by
  rw [Leads, h]
  rfl

theorem leads_key_of_lookup?_eq_none {k : String} {ms : List (Spelling × Json)}
    (h : lookup? k ms = none) : Leads (.key k :: p) (object ms) ↔ p = [] := by
  rw [Leads, h]
  rfl

/-- A change under a name leaves a place where it is, unless it is the place of that member. -/
theorem Leads.alter {k k' : String} {f : Json → Json} {ms : List (Spelling × Json)}
    (hj : Leads (.key k :: p) (object ms))
    (hf : k = k' → p ≠ [] ∧ ∀ i, Leads p i → Leads p (f i)) :
    Leads (.key k :: p) (object (alter k' f ms)) := by
  by_cases hk : k = k'
  · subst hk
    obtain ⟨hp, hf⟩ := hf rfl
    cases hms : lookup? k ms with
    | none => exact absurd ((leads_key_of_lookup?_eq_none hms).1 hj) hp
    | some i =>
      refine (leads_key_of_lookup? (lookup?_alter_self ..)).2 ?_
      rw [hms]
      exact hf i ((leads_key_of_lookup? hms).1 hj)
  · rw [Leads, lookup?_alter_of_ne hk]
    exact hj

/-- A change of an item leaves a place where it is. -/
theorem Leads.modify {i n : Nat} {f : Json → Json} {js : List Json}
    (hj : Leads (.index i :: p) (array js)) (hf : i = n → ∀ i, Leads p i → Leads p (f i)) :
    Leads (.index i :: p) (array (js.modify n f)) := by
  obtain ⟨j, hi, hlead⟩ := hj
  by_cases hn : i = n
  · refine ⟨f j, ?_, hf hn j hlead⟩
    rw [List.getElem?_modify, hi, Option.map_eq_map, Option.map_some, if_pos hn.symm]
  · refine ⟨j, ?_, hlead⟩
    rw [List.getElem?_modify, hi, Option.map_eq_map, Option.map_some, if_neg (Ne.symm hn)]

/-- What is put at one place leaves the places apart from it. -/
theorem Leads.put (hj : Leads p j) (h : Apart p q) (v : Json) : Leads p (put q v j) := by
  induction p generalizing q j with
  | nil => exact absurd h Apart.not_nil_left
  | cons s p ih =>
    cases q with
    | nil => exact absurd h Apart.not_nil_right
    | cons t q =>
      have hpq : s = t → Apart p q := fun hst => (Apart.cons_iff.1 h).resolve_left (· hst)
      cases s with
      | key k =>
        obtain ⟨ms, rfl⟩ := hj.exists_object
        cases t with
        | index n => exact hj
        | key k' =>
          refine hj.alter fun hk => ⟨?_, fun i hi => ih hi (hpq (congrArg Step.key hk))⟩
          rintro rfl
          exact Apart.not_nil_left (hpq (congrArg Step.key hk))
      | index i =>
        obtain ⟨js, rfl⟩ := hj.exists_array
        cases t with
        | key k' => exact hj
        | index n => exact hj.modify fun hi j hlead => ih hlead (hpq (congrArg Step.index hi))

/-- Members under a name stay as they are when no path starts with the name. -/
theorem exists_mend_object {rs : List (List Step × Json)} {name : String}
    (h : ∀ r ∈ rs, ∃ k p, r.1 = .key k :: p ∧ k ≠ name) (ms : List (Spelling × Json)) :
    ∃ ms', mend rs (object ms) = object ms' ∧ lookup? name ms' = lookup? name ms := by
  induction rs generalizing ms with
  | nil => exact ⟨ms, rfl, rfl⟩
  | cons r rs ih =>
    rw [List.forall_mem_cons] at h
    obtain ⟨⟨k, p, hr, hk⟩, hrs⟩ := h
    obtain ⟨ms', hmend, hlookup⟩ := ih hrs (alter k (put p r.2) ms)
    refine ⟨ms', ?_, ?_⟩
    · rw [mend_cons, hr]
      exact hmend
    · rw [hlookup, lookup?_alter_of_ne hk.symm]

end Json

end Promptbook
