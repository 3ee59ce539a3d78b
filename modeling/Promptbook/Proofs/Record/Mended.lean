import Promptbook.Proofs.Record.Itemized

/-!
# Problems mended

A value that may stand at the place of a problem mends that problem and no other: nothing that is
told was the cause of something else that is told, and nothing hides behind it.  Problems are
therefore mended one by one in any order.
-/

namespace Promptbook.Record

variable {σ τ : Type}

/-! ## One problem less -/

namespace Checked

/-- Whether a second reading finds wrong what a first one does, but for the problems at a place. -/
def Mends (π : List Step) (c c' : Checked τ) : Prop :=
  c'.problems = c.problems.filter fun p => p.path ≠ π

namespace Mends

variable {π : List Step} {a a' : Checked σ} {b b' : Checked τ}

/-- What is wrong with a value as a whole is all that is wrong with it. -/
theorem of_nil (hb : b.Itemized) {p : Problem} (hp : p ∈ b.problems) (hpath : p.path = []) (t : τ) :
    Mends [] b (.ok t) := by
  rw [Mends, problems_ok, eq_comm, List.filter_eq_nil_iff]
  intro q hq hne
  have hqp := hb.apart hq hp (by simpa [hpath] using hne)
  rw [hpath] at hqp
  exact Apart.not_nil_right hqp

theorem under (h : Mends π b b') (s : Step) :
    Mends (s :: π) (Checked.under s b) (Checked.under s b') := by
  have hcomp : ((fun p : Problem => decide (p.path ≠ s :: π)) ∘ (·.under s)) =
      fun p : Problem => decide (p.path ≠ π) := by
    funext p
    simp [Problem.under]
  rw [Mends, problems_under, problems_under, h, List.filter_map, hcomp]

theorem map (h : Mends π a a') (f : σ → τ) : Mends π (a.map f) (a'.map f) := by
  rw [Mends, problems_map, problems_map, h]

theorem both_left (h : Mends π a a') (hb : ∀ q ∈ b.problems, q.path ≠ π) :
    Mends π (a.both b) (a'.both b) := by
  have hkept : b.problems.filter (fun q => decide (q.path ≠ π)) = b.problems :=
    List.filter_eq_self.2 fun q hq => decide_eq_true (hb q hq)
  rw [Mends, problems_both, problems_both, List.filter_append, h, hkept]

theorem both_right (h : Mends π b b') (ha : ∀ p ∈ a.problems, p.path ≠ π) :
    Mends π (a.both b) (a.both b') := by
  have hkept : a.problems.filter (fun p => decide (p.path ≠ π)) = a.problems :=
    List.filter_eq_self.2 fun p hp => decide_eq_true (ha p hp)
  rw [Mends, problems_both, problems_both, List.filter_append, h, hkept]

/-- An item is mended by itself. -/
theorem each {read : σ → Checked τ} {f : σ → σ} {xs : List σ} {n : Nat} {x : σ}
    (hx : xs[n]? = some x) (h : Mends π (read x) (read (f x))) (i : Nat) :
    Mends (.index (i + n) :: π) (Checked.each read i xs) (Checked.each read i (xs.modify n f)) := by
  induction xs generalizing n i with
  | nil => cases hx
  | cons y ys ih =>
    cases n with
    | zero =>
      cases hx
      refine ((h.under (.index i)).both_left ?_).map fun r => r.1 :: r.2
      intro q hq heq
      obtain ⟨k, z, -, q, -, rfl⟩ := exists_of_mem_each hq
      have hin : i + 1 + k = i := Step.index.inj (List.cons.inj heq).1
      omega
    | succ n =>
      rw [← Nat.succ_add_eq_add_succ]
      refine ((ih hx (i + 1)).both_right ?_).map fun r => r.1 :: r.2
      intro p hp heq
      rw [problems_under, List.mem_map] at hp
      obtain ⟨p, -, rfl⟩ := hp
      have hin : i = i + 1 + n := Step.index.inj (List.cons.inj heq).1
      omega

theorem accept {pk : Packing σ τ} (h : Mends π a a') (hlaw : ∀ t, pk.law t = none) :
    Mends π (a >>= pk.accept) (a' >>= pk.accept) := by
  rw [Mends, problems_accept hlaw, problems_accept hlaw, h]

end Mends

end Checked

/-! ## Values at places -/

/-- A form with a value at the place to which a path leads. -/
def Grain.put : (g : Grain) → List Step → Json → g.Form → g.Form
  | .value => Json.put
  | .members => Json.putMember

/-! ## Fields -/

section Key

variable {key : Key} {ms : List (Spelling × Json)} {name : String}

/-- A field that is found has the value that is put there. -/
theorem Key.find?_alter {j : Json} (h : key.find? ms = some (name, j)) (f : Json → Json) :
    key.find? (Json.alter name f ms) = some (name, f j) := by
  rw [Key.find?] at h
  cases hname : Json.lookup? key.name ms with
  | some i =>
    rw [hname] at h
    cases h
    rw [Key.find?, Json.lookup?_alter_self, hname]
    rfl
  | none =>
    rw [hname] at h
    obtain ⟨i, hi, heq⟩ := Option.map_eq_some_iff.1 h
    cases heq
    have hne : key.name ≠ key.alternative := by
      intro heq
      rw [heq, hi] at hname
      cases hname
    rw [Key.find?, Json.lookup?_alter_of_ne hne, hname, Json.lookup?_alter_self, hi]
    rfl

/-- A field that is missing is found under its name when it is added. -/
theorem Key.find?_alter_of_eq_none (h : key.find? ms = none) (f : Json → Json) :
    key.find? (Json.alter key.name f ms) = some (key.name, f .null) := by
  rw [Key.find?, Json.lookup?_alter_self, Key.lookup?_of_find?_eq_none h]
  rfl

/-- A field under other names is read as before. -/
theorem readField_put_of_ne {default : Option τ} {read : Json → Checked τ} {π : List Step}
    {v : Json} (h : name ≠ key.name) (h' : name ≠ key.alternative) :
    readField key default read (Grain.members.put (.key name :: π) v ms) =
      readField key default read ms :=
  readField_eq_of_lookup? (Json.lookup?_alter_of_ne h.symm ..)
    (Json.lookup?_alter_of_ne h'.symm ..)

/-- A field is mended by what mends its value, or by its value where it is missing. -/
theorem mends_readField {default : Option τ} {read : Json → Checked τ} {p : Problem}
    (hp : p ∈ (readField key default read ms).problems) {v : Json}
    (hfound : ∀ name j, key.find? ms = some (name, j) → ∀ q ∈ (read j).problems,
      q.under (.key name) = p → Checked.Mends q.path (read j) (read (Json.put q.path v j)))
    (hmissing : p.path = [.key key.name] → key.find? ms = none → ∃ t, read v = .ok t) :
    Checked.Mends p.path (readField key default read ms)
      (readField key default read (Grain.members.put p.path v ms)) := by
  rcases exists_of_mem_readField hp with ⟨name, j, hfind, q, hq, rfl⟩ | ⟨hfind, rfl, rfl⟩
  · have hmends := hfound name j hfind q hq rfl
    have hfind' := Key.find?_alter hfind (Json.put q.path v)
    change Checked.Mends _ _ (readField key default read (Json.alter name (Json.put q.path v) ms))
    rw [readField_of_find?_eq_some hfind, readField_of_find?_eq_some hfind']
    exact hmends.under (.key name)
  · obtain ⟨t, ht⟩ := hmissing rfl hfind
    have hfind' := Key.find?_alter_of_eq_none hfind (Json.put [] v)
    change Checked.Mends _ _ (readField key none read (Json.alter key.name (Json.put [] v) ms))
    rw [readField_of_find?_eq_none hfind, readField_of_find?_eq_some hfind', Json.put_nil, ht]
    simp [Checked.Mends, Checked.problems]

end Key

namespace Shape

/-- Whether a value may stand at a place in what a shape lays out. -/
def Takes : {g : Grain} → {τ : Type} → Shape g τ → Site → List Step → Json → Prop
  | .value, _, s, site, [], v => ∃ t, s.readAt site v = .ok t
  | _, _, optional s, site, st :: π, v => s.Takes site (st :: π) v
  | _, _, list s, site, st :: π, v => (∃ i, st = .index i) ∧ s.Takes site π v
  | _, _, embedded s, _, st :: π, v => s.Takes .embedded (st :: π) v
  | _, _, record fields _, site, st :: π, v => fields.Takes site (st :: π) v
  | _, _, field key s _ rest, site, st :: π, v =>
    if st = .key key.name ∨ st = .key key.alternative then s.Takes site π v
    else rest.Takes site (st :: π) v
  | _, _, _, _, _, _ => False

variable {site : Site} {s : Shape .value τ} {π : List Step} {v : Json}

theorem takes_nil_iff : s.Takes site [] v ↔ ∃ t, s.readAt site v = .ok t := by rw [Takes]

section Field

variable {key : Key} {default : Option τ} {rest : Shape .members σ} {name : String}

theorem takes_field_iff (h : name = key.name ∨ name = key.alternative) :
    (field key s default rest).Takes site (.key name :: π) v ↔ s.Takes site π v := by
  rw [Takes, if_pos (h.imp (congrArg Step.key) (congrArg Step.key))]

theorem takes_field_iff_of_ne (h : name ≠ key.name) (h' : name ≠ key.alternative) :
    (field key s default rest).Takes site (.key name :: π) v ↔
      rest.Takes site (.key name :: π) v := by
  rw [Takes, if_neg]
  rintro (heq | heq)
  · exact h (Step.key.inj heq)
  · exact h' (Step.key.inj heq)

end Field

/-- Fields under other names are read as before. -/
theorem readAt_put_of_ne (rest : Shape .members σ) {name : String} {ms : List (Spelling × Json)}
    (h : ∀ name' ∈ rest.keyNames, name ≠ name') :
    rest.readAt site (Grain.members.put (.key name :: π) v ms) = rest.readAt site ms := by
  apply rest.readAt_eq_of_lookup?
  intro name' hname'
  exact Json.lookup?_alter_of_ne (h name' hname').symm ..

section Side

variable {key : Key} {default : Option τ} {rest : Shape .members σ}
  (hs : (field key s default rest).Separate) {ms : List (Spelling × Json)} {p : Problem}

include hs

/-- What mends the first of some fields leaves the fields behind it as they are. -/
theorem mends_first (hp : p ∈ (readField key default (s.readAt site) ms).problems)
    (hmends : Checked.Mends p.path (readField key default (s.readAt site) ms)
      (readField key default (s.readAt site) (Grain.members.put p.path v ms))) :
    Checked.Mends p.path ((field key s default rest).readAt site ms)
      ((field key s default rest).readAt site (Grain.members.put p.path v ms)) := by
  obtain ⟨name, π, hname, hpath⟩ := key_of_mem_readField hp
  have hrest : rest.readAt site (Grain.members.put p.path v ms) = rest.readAt site ms := by
    rw [hpath]
    exact rest.readAt_put_of_ne fun _ => hs.ne hname
  change Checked.Mends _ _ (Checked.both _ (rest.readAt site _))
  rw [hrest]
  refine hmends.both_left fun q hq heq => ?_
  obtain ⟨name', hname', π', hpath'⟩ := rest.key_of_mem_problems hq
  rw [hpath, hpath'] at heq
  exact hs.ne hname hname' (Step.key.inj (List.cons.inj heq).1).symm

/-- What mends one of the fields behind the first leaves the first as it is. -/
theorem mends_rest (hp : p ∈ (rest.readAt site ms).problems)
    (hmends : Checked.Mends p.path (rest.readAt site ms)
      (rest.readAt site (Grain.members.put p.path v ms))) :
    Checked.Mends p.path ((field key s default rest).readAt site ms)
      ((field key s default rest).readAt site (Grain.members.put p.path v ms)) := by
  obtain ⟨name, hname, π, hpath⟩ := rest.key_of_mem_problems hp
  have hfirst : readField key default (s.readAt site) (Grain.members.put p.path v ms) =
      readField key default (s.readAt site) ms := by
    rw [hpath]
    exact readField_put_of_ne (hs.ne (.inl rfl) hname).symm (hs.ne (.inr rfl) hname).symm
  change Checked.Mends _ _ (Checked.both (readField key default (s.readAt site) _) _)
  rw [hfirst]
  refine hmends.both_right fun q hq heq => ?_
  obtain ⟨name', π', hname', hpath'⟩ := key_of_mem_readField hq
  rw [hpath, hpath'] at heq
  exact hs.ne hname' hname (Step.key.inj (List.cons.inj heq).1)

end Side

/-- To mend a problem it is enough to mend it within the value: what replaces the value as a whole
is read without a problem. -/
theorem mends_put_of_within (hs : s.Separate) {j : Json} {p : Problem}
    (hp : p ∈ (s.readAt site j).problems) (hlead : Json.Leads p.path j)
    (hv : s.Takes site p.path v)
    (hwithin : ∀ st π, p.path = st :: π → Json.Leads (st :: π) j → s.Takes site (st :: π) v →
      Checked.Mends (st :: π) (s.readAt site j) (s.readAt site (Json.put (st :: π) v j))) :
    Checked.Mends p.path (s.readAt site j) (s.readAt site (Json.put p.path v j)) := by
  cases hpath : p.path with
  | nil =>
    rw [hpath, takes_nil_iff] at hv
    obtain ⟨t, ht⟩ := hv
    rw [Json.put_nil, ht]
    exact .of_nil (s.itemized_readAt hs site j) hp hpath t
  | cons st π =>
    rw [hpath] at hlead hv
    exact hwithin st π hpath hlead hv

/-- A value that may stand at the place of a problem mends it, where the path to the place goes on
within what the shape lays out. -/
theorem mends_put_within {g : Grain} (s : Shape g τ) (hs : s.Separate) (site : Site)
    {form : g.Form} {p : Problem} (hp : p ∈ (s.readAt site form).problems) {st : Step}
    (hpath : p.path = st :: π) (hlead : g.Leads (st :: π) form) (hv : s.Takes site (st :: π) v) :
    Checked.Mends (st :: π) (s.readAt site form) (s.readAt site (g.put (st :: π) v form)) := by
  induction s generalizing site p st π with
  | text | number | integer | flag | word | literal =>
    cases hpath.symm.trans (Checked.path_of_mem_ofScalar hp)
  | raw | done => cases hp
  | optional s ih =>
    have hne : form ≠ .null := (Json.Leads.ne hlead).1
    change Checked.Mends _ (readOptional (s.readAt site) form)
      (readOptional (s.readAt site) (Json.put (st :: π) v form))
    rw [readAt, readOptional_of_ne_null _ hne, Checked.problems_map] at hp
    rw [readOptional_of_ne_null _ hne, readOptional_of_ne_null _ (Json.put_cons_ne_null hne)]
    exact (ih hs site hp hpath hlead hv).map some
  | list s ih =>
    obtain ⟨⟨i, rfl⟩, hv⟩ := hv
    obtain ⟨js, rfl⟩ := Json.Leads.exists_array hlead
    obtain ⟨j, hj, hlead⟩ := hlead
    obtain ⟨n, j', hj', q, hq, rfl⟩ := Checked.exists_of_mem_each hp
    rw [Nat.zero_add] at hpath
    cases hpath
    obtain rfl := Option.some.inj (hj.symm.trans hj')
    have hitem := mends_put_of_within (s := s) hs hq hlead hv fun _ _ => ih hs site hq
    have hitems := hitem.each hj 0
    rw [Nat.zero_add] at hitems
    exact hitems
  | embedded s ih =>
    have hne := (Json.Leads.ne hlead).2
    change Checked.Mends _ (readEmbedded (s.readAt .embedded) form)
      (readEmbedded (s.readAt .embedded) (Json.put (st :: π) v form))
    rw [readAt, readEmbedded_of_ne_text _ hne] at hp
    rw [readEmbedded_of_ne_text _ hne, readEmbedded_of_ne_text _ (Json.put_cons_ne_text hne)]
    exact ih hs .embedded hp hpath hlead hv
  | record fields pk ih =>
    cases form with
    | object ms =>
      have hfields : p ∈ (fields.readAt site ms).problems := by
        rwa [← Checked.problems_accept hs.2]
      change Checked.Mends _ _ ((record fields pk).readAt site (Json.put (st :: π) v (.object ms)))
      rw [Json.put_object]
      exact (ih hs.1 site hfields hpath hlead hv).accept hs.2
    | _ =>
      obtain rfl := List.mem_singleton.1 hp
      cases hpath
  | field key s default rest ihs ih =>
    rw [readAt, Checked.problems_both, List.mem_append] at hp
    rcases hp with hp | hp
    · obtain ⟨name, π', hname, hpath'⟩ := key_of_mem_readField hp
      obtain ⟨rfl, rfl⟩ := List.cons.inj (hpath.symm.trans hpath')
      rw [takes_field_iff hname] at hv
      rw [← hpath]
      refine mends_first hs hp (mends_readField hp ?_ ?_)
      · rintro name j hfind q hq rfl
        cases hpath
        have hlead := (Json.leads_key_of_lookup? (Key.of_find?_eq_some hfind).2).1 hlead
        exact mends_put_of_within hs.1 hq hlead hv fun _ _ => ihs hs.1 site hq
      · intro hmissing hfind
        cases hpath.symm.trans hmissing
        exact takes_nil_iff.1 hv
    · obtain ⟨name, hname, π', hpath'⟩ := rest.key_of_mem_problems hp
      obtain ⟨rfl, rfl⟩ := List.cons.inj (hpath.symm.trans hpath')
      have hne : name ≠ key.name := (hs.ne (.inl rfl) hname).symm
      have hne' : name ≠ key.alternative := (hs.ne (.inr rfl) hname).symm
      have hmends := ih hs.2.2 site hp hpath hlead ((takes_field_iff_of_ne hne hne').1 hv)
      rw [← hpath] at hmends ⊢
      exact mends_rest hs hp hmends

/-! ## Problems one after the other -/

/-- Values that may stand at the places of some problems mend these and leave the others. -/
theorem problems_mend (s : Shape .value τ) (hs : s.Separate) (site : Site) {j : Json}
    {rs : List (List Step × Json)} (hnodup : (rs.map Prod.fst).Nodup)
    (hmem : ∀ r ∈ rs, r.1 ∈ (s.readAt site j).problems.map Problem.path)
    (hlead : ∀ r ∈ rs, Json.Leads r.1 j) (hv : ∀ r ∈ rs, s.Takes site r.1 r.2) :
    (s.readAt site (Json.mend rs j)).problems =
      (s.readAt site j).problems.filter fun p => p.path ∉ rs.map Prod.fst := by
  induction rs generalizing j with
  | nil => simp
  | cons r rs ih =>
    rw [List.map_cons, List.nodup_cons] at hnodup
    obtain ⟨hr, hnodup⟩ := hnodup
    rw [List.forall_mem_cons] at hmem hlead hv
    obtain ⟨p, hp, hpath⟩ := List.mem_map.1 hmem.1
    have hstep : Checked.Mends r.1 (s.readAt site j) (s.readAt site (Json.put r.1 r.2 j)) := by
      rw [← hpath] at hlead hv ⊢
      exact mends_put_of_within hs hp hlead.1 hv.1 fun _ _ => s.mends_put_within hs site hp
    have hne : ∀ r' ∈ rs, r'.1 ≠ r.1 := fun r' hr' heq => hr (heq ▸ List.mem_map_of_mem hr')
    -- The other places still hold problems, and the paths still lead there.
    have hmem' : ∀ r' ∈ rs,
        r'.1 ∈ (s.readAt site (Json.put r.1 r.2 j)).problems.map Problem.path := by
      intro r' hr'
      obtain ⟨q, hq, hqpath⟩ := List.mem_map.1 (hmem.2 r' hr')
      rw [hstep, List.mem_map]
      refine ⟨q, List.mem_filter.2 ⟨hq, decide_eq_true ?_⟩, hqpath⟩
      rw [hqpath]
      exact hne r' hr'
    have hlead' : ∀ r' ∈ rs, Json.Leads r'.1 (Json.put r.1 r.2 j) := by
      intro r' hr'
      obtain ⟨q, hq, hqpath⟩ := List.mem_map.1 (hmem.2 r' hr')
      apply (hlead.2 r' hr').put
      rw [← hqpath, ← hpath]
      apply (s.itemized_readAt hs site j).apart hq hp
      rw [hqpath, hpath]
      exact hne r' hr'
    rw [Json.mend_cons, ih hnodup hmem' hlead' hv.2, hstep, List.filter_filter]
    congr 1
    funext q
    simp only [List.map_cons, List.mem_cons, not_or, Bool.decide_and, Bool.and_comm]

end Shape

end Promptbook.Record
