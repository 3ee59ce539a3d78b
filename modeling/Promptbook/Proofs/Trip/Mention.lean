import Mathlib.Data.List.Dedup
import Mathlib.Data.List.Induction
import Promptbook.Layered.Flatten

/-!
# Who takes part in a layered beat

The ids that a layered beat mentions, each once, are ranked by first mention; the parts of the
flattened beat follow that order and drop the ids that the directory does not know.  This module
states the order through lists alone: how a list without its repetitions behaves under appending
and filtering, and what the parts of a beat are as a list indexed by characters.
-/

namespace Promptbook

section FirstMention

variable {ι : Type} [DecidableEq ι]

theorem nodup_eraseDups (xs : List ι) : xs.eraseDups.Nodup := by
  match xs with
  | [] => simp
  | x :: xs =>
    rw [List.eraseDups_cons, List.nodup_cons]
    refine ⟨by simp, nodup_eraseDups (xs.filter fun y => !y == x)⟩
termination_by xs.length
decreasing_by exact Nat.lt_succ_of_le (List.length_filter_le _ _)

theorem eraseDups_of_nodup {xs : List ι} (h : xs.Nodup) : xs.eraseDups = xs := by
  induction xs with
  | nil => rfl
  | cons x xs ih =>
    rw [List.nodup_cons] at h
    have hx : (xs.filter fun y => !y == x) = xs := by
      rw [List.filter_eq_self]
      intro y hy
      have hne : y ≠ x := by
        rintro rfl
        exact h.1 hy
      simpa using hne
    rw [List.eraseDups_cons, hx, ih h.2]

/-- Which repetitions are dropped does not depend on the ids that are left out. -/
theorem filter_eraseDups (p : ι → Bool) (xs : List ι) :
    xs.eraseDups.filter p = (xs.filter p).eraseDups := by
  match xs with
  | [] => rfl
  | x :: xs =>
    have ih := filter_eraseDups p (xs.filter fun y => !y == x)
    rw [List.eraseDups_cons, List.filter_cons, List.filter_cons, ih, List.filter_filter]
    split
    · rw [List.eraseDups_cons, List.filter_filter]
      simp only [Bool.and_comm]
    · rename_i hx
      congr 1
      refine List.filter_congr fun y _ => ?_
      by_cases e : y = x
      · simp [e, hx]
      · simp [e]
termination_by xs.length
decreasing_by exact Nat.lt_succ_of_le (List.length_filter_le _ _)

/-- A later list adds the ids that the earlier one does not hold. -/
theorem eraseDups_append_filter (xs ys : List ι) :
    (xs ++ ys).eraseDups = xs.eraseDups ++ (ys.filter (· ∉ xs)).eraseDups := by
  rw [List.eraseDups_append]
  congr 2
  refine List.filter_congr fun y _ => ?_
  simp

/-- The ids of a list, each once, come in the order in which they are first named. -/
theorem pairwise_idxOf_eraseDups (xs : List ι) :
    xs.eraseDups.Pairwise fun x y => xs.idxOf x < xs.idxOf y := by
  induction xs using List.reverseRecOn with
  | nil => exact .nil
  | append_singleton xs x ih =>
    have hidx : ∀ y ∈ xs.eraseDups, (xs ++ [x]).idxOf y = xs.idxOf y := fun y hy =>
      List.idxOf_append_of_mem (List.mem_eraseDups.1 hy)
    rw [eraseDups_append_filter, List.pairwise_append]
    refine ⟨ih.imp_of_mem fun hy hz hlt => ?_, ?_, ?_⟩
    · rwa [hidx _ hy, hidx _ hz]
    · by_cases hx : x ∈ xs <;> simp [hx, List.eraseDups_cons]
    · intro y hy z hz
      have hz := List.mem_filter.1 (List.mem_eraseDups.1 hz)
      have hnew : z ∉ xs := of_decide_eq_true hz.2
      rw [hidx y hy, List.idxOf_append_of_notMem hnew]
      exact Nat.lt_of_lt_of_le (List.idxOf_lt_length_of_mem (List.mem_eraseDups.1 hy))
        (Nat.le_add_right ..)

/-- A later list leaves the ranks of the ids in the earlier one as they are. -/
theorem idxOf_eraseDups_append {xs : List ι} (ys : List ι) {x : ι} (hx : x ∈ xs) :
    (xs ++ ys).eraseDups.idxOf x = xs.eraseDups.idxOf x := by
  rw [eraseDups_append_filter]
  exact List.idxOf_append_of_mem (List.mem_eraseDups.2 hx)

/-- Naming ids once more changes nothing. -/
theorem eraseDups_append_of_subset {xs ys : List ι} (h : ys ⊆ xs) (zs : List ι) :
    (xs ++ ys ++ zs).eraseDups = (xs ++ zs).eraseDups := by
  have hys : ys.filter (· ∉ xs) = [] :=
    List.filter_eq_nil_iff.2 fun y hy => by simpa using h hy
  have hmem : ∀ z, decide (z ∉ xs ++ ys) = decide (z ∉ xs) := by
    intro z
    rw [decide_eq_decide, List.mem_append]
    exact not_congr ⟨fun hz => hz.elim id fun hz => h hz, .inl⟩
  rw [eraseDups_append_filter, eraseDups_append_filter, hys, List.eraseDups_nil, List.append_nil,
    eraseDups_append_filter xs zs, funext hmem]

/-- First mentions keep their order when the ids of the middle list, as they came first, are named
again in its place and all ids after them. -/
theorem eraseDups_regroup (xs ys zs : List ι) :
    let us := (xs ++ ys ++ zs).eraseDups
    (xs ++ us.filter (· ∈ ys) ++ us).eraseDups = us := by
  intro us
  have hus : us = xs.eraseDups ++ (ys.filter (· ∉ xs)).eraseDups ++
      (zs.filter (· ∉ xs ++ ys)).eraseDups := by
    rw [← eraseDups_append_filter, ← eraseDups_append_filter]
  have hys : (us.filter (· ∈ ys)).filter (· ∉ xs) = (ys.filter (· ∉ xs)).eraseDups := by
    have hxs : (xs.filter fun y => decide (y ∉ xs) && decide (y ∈ ys)) = [] := by
      simp +contextual
    have hzs : ((zs.filter fun y => decide (y ∉ xs) && decide (y ∈ ys)).filter
        (· ∉ ys.filter (· ∉ xs))) = [] := by
      rw [List.filter_eq_nil_iff]
      intro y hy
      simp only [List.mem_filter, Bool.and_eq_true, decide_eq_true_eq] at hy ⊢
      exact fun h => h ⟨hy.2.2, hy.2.1⟩
    have hys : (ys.filter fun y => decide (y ∉ xs) && decide (y ∈ ys)) = ys.filter (· ∉ xs) :=
      List.filter_congr (by simp +contextual)
    rw [List.filter_filter, filter_eraseDups, List.filter_append, List.filter_append, hxs, hys,
      List.nil_append, eraseDups_append_filter, hzs, List.eraseDups_nil, List.append_nil]
  have hzs : us.filter (· ∉ xs ++ us.filter (· ∈ ys)) = (zs.filter (· ∉ xs ++ ys)).eraseDups := by
    have hmem : ∀ y ∈ us, decide (y ∉ xs ++ us.filter (· ∈ ys)) = decide (y ∉ xs ++ ys) := by
      intro y hy
      simp [hy]
    have hxys : (xs ++ ys).filter (· ∉ xs ++ ys) = [] := by
      rw [List.filter_eq_nil_iff]
      intro y hy
      simpa only [decide_eq_true_eq, not_not] using hy
    rw [List.filter_congr hmem, filter_eraseDups, List.filter_append, hxys, List.nil_append]
  rw [eraseDups_append_filter, eraseDups_append_filter, hys, hzs,
    eraseDups_of_nodup (nodup_eraseDups _), eraseDups_of_nodup (nodup_eraseDups _), hus]

/-- In a list without repetitions the rank of an id is its first index. -/
theorem filterMap_zipIdx_of_nodup {β : Type} {xs : List ι} (h : xs.Nodup) (f : ι → Nat → Option β) :
    (xs.zipIdx.filterMap fun (x, i) => f x i) = xs.filterMap fun x => f x (xs.idxOf x) := by
  have hrank : ∀ e ∈ xs.zipIdx, f e.1 e.2 = f e.1 (xs.idxOf e.1) := by
    rintro ⟨x, i⟩ hx
    obtain ⟨hi, rfl⟩ := List.getElem?_eq_some_iff.1 (List.mk_mem_zipIdx_iff_getElem?.1 hx)
    rw [h.idxOf_getElem i hi]
  calc (xs.zipIdx.filterMap fun (x, i) => f x i)
      = xs.zipIdx.filterMap fun e => f e.1 (xs.idxOf e.1) := List.filterMap_congr hrank
    _ = (xs.zipIdx.map Prod.fst).filterMap fun x => f x (xs.idxOf x) := by
        rw [List.filterMap_map]; rfl
    _ = xs.filterMap fun x => f x (xs.idxOf x) := by rw [List.zipIdx_map_fst]

end FirstMention

namespace Directory

/-- Whether a directory knows an id. -/
def knows (d : Directory) (id : Spelling) : Bool := (d.lookup? id).isSome

/-- Whether no character of a directory has an id. -/
def Lacks (d : Directory) (id : Spelling) : Prop := ∀ c ∈ d, c.id ≠ id

instance (d : Directory) (id : Spelling) : Decidable (d.Lacks id) :=
  inferInstanceAs (Decidable (∀ c ∈ d, c.id ≠ id))

theorem lookup?_eq_none_iff {d : Directory} {id : Spelling} :
    d.lookup? id = none ↔ d.Lacks id := by
  rw [lookup?, List.find?_eq_none]
  exact forall₂_congr fun c _ => not_congr beq_iff_eq

/-- What is made of known ids only needs the known ids. -/
theorem filterMap_filter_knows {β : Type} (d : Directory) (f : Spelling → Character → β)
    (ids : List Spelling) :
    ((ids.filter d.knows).filterMap fun id => (d.lookup? id).map (f id)) =
      ids.filterMap fun id => (d.lookup? id).map (f id) := by
  rw [List.filterMap_filter]
  refine List.filterMap_congr fun id _ => ?_
  cases hc : d.lookup? id <;> simp [knows, hc]

end Directory

namespace LayeredBeat

variable {α : Type} (b : LayeredBeat α) (d : Directory)

theorem nodup_involved : b.involved.Nodup := nodup_eraseDups _

@[simp] theorem mem_involved {id : Spelling} : id ∈ b.involved ↔ id ∈ b.mentioned :=
  List.mem_eraseDups

/-- The characters of a layered beat that a directory knows, in the order of first mention. -/
def known : List Character := b.involved.filterMap d.lookup?

/-- The place among all mentioned ids at which an id comes first. -/
def rank (id : Spelling) : Nat := b.involved.idxOf id

theorem mem_known_iff {c : Character} :
    c ∈ b.known d ↔ c.id ∈ b.mentioned ∧ d.lookup? c.id = some c := by
  simp only [known, List.mem_filterMap, mem_involved]
  constructor
  · rintro ⟨id, hid, hc⟩
    obtain rfl := Directory.id_of_lookup? hc
    exact ⟨hid, hc⟩
  · rintro ⟨hid, hc⟩
    exact ⟨c.id, hid, hc⟩

/-- The ids of the known characters are the known ids. -/
theorem ids_known : (b.known d).map (·.id) = b.involved.filter d.knows := by
  rw [known]
  induction b.involved with
  | nil => rfl
  | cons id ids ih =>
    cases hc : d.lookup? id with
    | none => simpa [List.filter_cons, Directory.knows, hc] using ih
    | some c => simpa [List.filter_cons, Directory.knows, hc, Directory.id_of_lookup? hc] using ih

variable [Measure α]

theorem parts_eq_filterMap :
    b.parts d = b.involved.filterMap fun id => (d.lookup? id).map (b.part (b.rank id)) :=
  filterMap_zipIdx_of_nodup b.nodup_involved fun id i => (d.lookup? id).map (b.part i)

/-- A flattened beat holds one part for each known character, made with the rank of its id. -/
theorem parts_eq_map : b.parts d = (b.known d).map fun c => b.part (b.rank c.id) c := by
  rw [parts_eq_filterMap, known, List.map_filterMap]
  refine List.filterMap_congr fun id _ => ?_
  cases hc : d.lookup? id with
  | none => rfl
  | some c => rw [Option.map_some, Option.map_some, Directory.id_of_lookup? hc]

theorem ids_parts : (b.parts d).map (·.characterId) = b.involved.filter d.knows := by
  rw [parts_eq_map, List.map_map, ← ids_known]
  rfl

theorem nodup_ids_parts : ((b.parts d).map (·.characterId)).Nodup := by
  rw [ids_parts]
  exact b.nodup_involved.filter _

theorem mem_parts_iff {p : Part α} :
    p ∈ b.parts d ↔ ∃ c ∈ b.known d, b.part (b.rank c.id) c = p := by
  rw [parts_eq_map, List.mem_map]

/-- The part with a mentioned id is that of the character whom the directory knows by it. -/
theorem find?_parts {d : Directory} {id : Spelling} (hid : id ∈ b.mentioned) :
    ((b.parts d).find? fun p => p.characterId == id) =
      (d.lookup? id).map (b.part (b.rank id)) := by
  cases hc : d.lookup? id with
  | none =>
    refine List.find?_eq_none.2 fun p hp hpid => ?_
    obtain ⟨c, hcmem, rfl⟩ := (b.mem_parts_iff d).1 hp
    have hcid : c.id = id := eq_of_beq hpid
    have hlookup := ((b.mem_known_iff d).1 hcmem).2
    rw [hcid, hc] at hlookup
    cases hlookup
  | some c =>
    obtain rfl := Directory.id_of_lookup? hc
    have hmem : b.part (b.rank c.id) c ∈ b.parts d :=
      (b.mem_parts_iff d).2 ⟨c, (b.mem_known_iff d).2 ⟨hid, hc⟩, rfl⟩
    exact find?_of_nodup (b.nodup_ids_parts d) hmem

end LayeredBeat

end Promptbook
