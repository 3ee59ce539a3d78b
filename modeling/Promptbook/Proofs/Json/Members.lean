import Promptbook.Proofs.Json.RoundTrip

/-!
# Items and members one by one

What is said of a list of items, or of the members of an object, is said of each of them.  A value
can be written exactly when all its strings are texts.
-/

namespace Promptbook.Json

theorem itemsWhole_eq_all (js : List Json) : itemsWhole js = js.all isWhole := by
  induction js with
  | nil => rfl
  | cons j js ih => rw [itemsWhole, ih, List.all_cons]

theorem membersWhole_eq_all (ms : List (Spelling × Json)) :
    membersWhole ms = ms.all memberWhole := by
  induction ms with
  | nil => rfl
  | cons m ms ih => rw [membersWhole, ih, List.all_cons]

theorem itemsBrief_iff (js : List Json) : itemsBrief js ↔ ∀ j ∈ js, j.isBrief := by
  induction js with
  | nil => simp [itemsBrief]
  | cons j js ih => rw [itemsBrief, ih, List.forall_mem_cons]

theorem membersBrief_iff (ms : List (Spelling × Json)) :
    membersBrief ms ↔ ∀ m ∈ ms, m.2.isBrief := by
  induction ms with
  | nil => simp [membersBrief]
  | cons m ms ih => rw [membersBrief, ih, List.forall_mem_cons, memberBrief]

theorem finiteItems_eq_map (js : List Json) : finiteItems js = js.map finite := by
  induction js with
  | nil => rfl
  | cons j js ih => rw [finiteItems, ih, List.map_cons]

@[simp] theorem fst_finiteMember (m : Spelling × Json) : (finiteMember m).1 = m.1 := by
  cases m
  rfl

@[simp] theorem snd_finiteMember (m : Spelling × Json) : (finiteMember m).2 = m.2.finite := by
  cases m
  rfl

theorem finiteMembers_eq_map (ms : List (Spelling × Json)) :
    finiteMembers ms = ms.map finiteMember := by
  induction ms with
  | nil => rfl
  | cons m ms ih => rw [finiteMembers, ih, List.map_cons]

theorem depthOfItems_le_iff (js : List Json) (n : Nat) :
    depthOfItems js ≤ n ↔ ∀ j ∈ js, j.depth ≤ n := by
  induction js with
  | nil => simp [depthOfItems]
  | cons j js ih => rw [depthOfItems, max_le_iff, ih, List.forall_mem_cons]

theorem depthOfMembers_le_iff (ms : List (Spelling × Json)) (n : Nat) :
    depthOfMembers ms ≤ n ↔ ∀ m ∈ ms, m.2.depth ≤ n := by
  induction ms with
  | nil => simp [depthOfMembers]
  | cons m ms ih => rw [depthOfMembers, max_le_iff, ih, List.forall_mem_cons, depthOfMember]

theorem depth_array_le {js : List Json} {n : Nat} (h : ∀ j ∈ js, j.depth ≤ n) :
    (array js).depth ≤ n + 1 := by
  rcases js with _ | ⟨j, js⟩
  · exact Nat.zero_le _
  · exact Nat.succ_le_succ ((depthOfItems_le_iff (j :: js) n).2 h)

theorem depth_object_le {ms : List (Spelling × Json)} {n : Nat} (h : ∀ m ∈ ms, m.2.depth ≤ n) :
    (object ms).depth ≤ n + 1 := by
  rcases ms with _ | ⟨m, ms⟩
  · exact Nat.zero_le _
  · exact Nat.succ_le_succ ((depthOfMembers_le_iff (m :: ms) n).2 h)

/-! ## Values that can be written -/

theorem Unwritable.inText?_eq_none_iff (s : Spelling) :
    Unwritable.inText? s = none ↔ s.isWhole = true := by
  rw [Unwritable.inText?, Spelling.isWhole, List.span_eq_takeWhile_dropWhile]
  cases hrest : s.points.dropWhile fun p => !p.isHalf with
  | nil => simpa using List.dropWhile_eq_nil_iff.1 hrest
  | cons p ps =>
    have hp : p.isHalf = true := by
      have := List.head_dropWhile_not (fun p => !p.isHalf) (l := s.points) (by simp [hrest])
      simpa [hrest] using this
    have hmem : p ∈ s.points := by
      have hsuffix := List.dropWhile_suffix (fun p : CodePoint => !p.isHalf) (l := s.points)
      rw [hrest] at hsuffix
      exact hsuffix.subset (List.mem_cons_self ..)
    cases p with
    | char c => cases hp
    | half unit =>
      simp only [Unwritable.unit?, Option.map_some, reduceCtorEq, false_iff]
      intro hall
      cases List.all_eq_true.1 hall _ hmem

mutual

/-- A value can be written when all its strings are texts. -/
theorem unwritable?_eq_none_iff (j : Json) : unwritable? j = none ↔ j.isWhole = true := by
  match j with
  | null | bool _ | integer _ | number _ => exact ⟨fun _ => rfl, fun _ => rfl⟩
  | text s => exact Unwritable.inText?_eq_none_iff s
  | array js => exact itemsUnwritable?_eq_none_iff js
  | object ms => exact membersUnwritable?_eq_none_iff ms

theorem itemsUnwritable?_eq_none_iff (js : List Json) :
    itemsUnwritable? js = none ↔ itemsWhole js = true := by
  match js with
  | [] => exact ⟨fun _ => rfl, fun _ => rfl⟩
  | j :: js =>
    rw [itemsUnwritable?, itemsWhole, Option.or_eq_none_iff, Bool.and_eq_true,
      unwritable?_eq_none_iff j, itemsUnwritable?_eq_none_iff js]

theorem membersUnwritable?_eq_none_iff (ms : List (Spelling × Json)) :
    membersUnwritable? ms = none ↔ membersWhole ms = true := by
  match ms with
  | [] => exact ⟨fun _ => rfl, fun _ => rfl⟩
  | m :: ms =>
    rw [membersUnwritable?, membersWhole, Option.or_eq_none_iff, Bool.and_eq_true,
      memberUnwritable?_eq_none_iff m, membersUnwritable?_eq_none_iff ms]

theorem memberUnwritable?_eq_none_iff (m : Spelling × Json) :
    memberUnwritable? m = none ↔ memberWhole m = true := by
  match m with
  | (name, j) =>
    rw [memberUnwritable?, memberWhole, Option.or_eq_none_iff, Bool.and_eq_true,
      Unwritable.inText?_eq_none_iff, unwritable?_eq_none_iff j]

end

/-- A value whose strings are texts is written. -/
theorem written_of_isWhole (indent : Option Nat) {j : Json} (h : j.isWhole = true) :
    j.written indent = .ok (j.render indent) :=
  (written_eq_ok_iff ..).2 ⟨(unwritable?_eq_none_iff j).2 h, rfl⟩

/-- A value with a string that is no text is not written. -/
theorem exists_written_eq_error (indent : Option Nat) {j : Json} (h : j.isWhole = false) :
    ∃ u, j.written indent = .error u := by
  cases hu : unwritable? j with
  | none => rw [(unwritable?_eq_none_iff j).1 hu] at h; cases h
  | some u => exact ⟨u, by rw [written, hu]⟩

/-! ## Members by name -/

/-- Where no two members share a name, each is found by its name. -/
theorem lookup?_of_nodup {ms : List (Spelling × Json)} (h : (ms.map Prod.fst).Nodup)
    {m : Spelling × Json} (hm : m ∈ ms) : lookup? m.1 ms = some m.2 := by
  induction ms using List.reverseRecOn with
  | nil => cases hm
  | append_singleton ms n ih =>
    rw [List.map_append, List.nodup_append] at h
    rw [lookup?_append_singleton]
    rcases List.mem_append.1 hm with hm | hm
    · have hne : n.1 ≠ m.1 := fun heq =>
        h.2.2 _ (List.mem_map_of_mem hm) _ (List.mem_singleton_self _) heq.symm
      rw [if_neg hne, ih h.1 hm]
    · rw [List.mem_singleton.1 hm, if_pos rfl]

/-- What is found by its name is a member. -/
theorem mem_of_lookup? {ms : List (Spelling × Json)} {name : Spelling} {j : Json}
    (h : lookup? name ms = some j) : (name, j) ∈ ms := by
  induction ms using List.reverseRecOn with
  | nil => cases h
  | append_singleton ms n ih =>
    rw [lookup?_append_singleton] at h
    split_ifs at h with hn
    · cases h
      exact List.mem_append_right _ (hn ▸ List.mem_singleton_self n)
    · exact List.mem_append_left _ (ih h)

/-- Members with the same names, whose values look alike, are found alike. -/
theorem map_lookup?_congr {α : Type} {f : Json → α} {name : Spelling}
    {ms ms' : List (Spelling × Json)}
    (h : List.Forall₂ (fun m m' => m.1 = m'.1 ∧ (m.1 = name → f m.2 = f m'.2)) ms ms') :
    (lookup? name ms').map f = (lookup? name ms).map f := by
  have hfrom : ∀ found found' : Option Json, found'.map f = found.map f →
      (ms'.foldl (fun found m => if m.1 = name then some m.2 else found) found').map f =
        (ms.foldl (fun found m => if m.1 = name then some m.2 else found) found).map f := by
    induction h with
    | nil => exact fun _ _ hfound => hfound
    | @cons m m' ms ms' hm _ ih =>
      intro found found' hfound
      rw [List.foldl_cons, List.foldl_cons]
      apply ih
      rw [← hm.1]
      split_ifs with hname
      · rw [Option.map_some, Option.map_some, hm.2 hname]
      · exact hfound
  exact hfrom none none rfl

end Promptbook.Json
