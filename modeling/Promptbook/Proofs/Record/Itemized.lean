import Promptbook.Proofs.Record.Places
import Promptbook.Proofs.Record.Returned
import Promptbook.Proofs.Record.Told

/-!
# Problems by their places

Reading goes on behind whatever is wrong, so that all problems of a document are told at once.  No
two of them are told at the same place, nor one at a place that holds the place of another, and
each path leads to a place in the document.
-/

namespace Promptbook.Record

variable {σ τ : Type}

/-! ## All that is wrong -/

namespace Checked

/-- All that is wrong, which is nothing where a value was read. -/
def problems : Checked τ → List Problem
  | .ok _ => []
  | .error ps => ps

variable {p : Problem}

@[simp] theorem problems_ok (t : τ) : problems (.ok t) = [] := rfl

@[simp] theorem problems_under (s : Step) (c : Checked τ) :
    (under s c).problems = c.problems.map (·.under s) := by
  cases c <;> rfl

@[simp] theorem problems_map (c : Checked σ) (f : σ → τ) :
    Checked.problems (c.map f) = c.problems := by
  cases c <;> rfl

@[simp] theorem problems_both (a : Checked σ) (b : Checked τ) :
    (a.both b).problems = a.problems ++ b.problems := by
  cases a with
  | ok s => cases b <;> rfl
  | error ps =>
    cases b with
    | ok t => exact (List.append_nil ps).symm
    | error qs => rfl

@[simp] theorem problems_each_cons (read : σ → Checked τ) (i : Nat) (x : σ) (xs : List σ) :
    (each read i (x :: xs)).problems =
      (read x).problems.map (·.under (.index i)) ++ (each read (i + 1) xs).problems := by
  rw [each, problems_map, problems_both, problems_under]

/-- Where there is no law, nothing is wrong with a record but what is wrong with its fields. -/
theorem problems_accept {pk : Packing σ τ} (h : ∀ t, pk.law t = none) (c : Checked σ) :
    Checked.problems (c >>= pk.accept) = c.problems := by
  cases c with
  | ok s =>
    change (pk.accept s).problems = []
    rw [Packing.accept, h]
    rfl
  | error ps => rfl

theorem eq_error_of_problems {c : Checked τ} (h : p ∈ c.problems) : c = .error c.problems := by
  cases c with
  | ok t => cases h
  | error ps => rfl

theorem path_of_mem_ofScalar {e : Except Fault τ} (h : p ∈ (ofScalar e).problems) :
    p.path = [] := by
  cases e with
  | ok t => cases h
  | error f =>
    obtain rfl := List.mem_singleton.1 h
    rfl

theorem exists_of_mem_each {read : σ → Checked τ} {i : Nat} {xs : List σ}
    (h : p ∈ (each read i xs).problems) :
    ∃ n x, xs[n]? = some x ∧ ∃ q ∈ (read x).problems, q.under (.index (i + n)) = p := by
  induction xs generalizing i with
  | nil => cases h
  | cons x xs ih =>
    rw [problems_each_cons, List.mem_append, List.mem_map] at h
    rcases h with h | h
    · exact ⟨0, x, rfl, h⟩
    · obtain ⟨n, y, hn, hy⟩ := ih h
      refine ⟨n + 1, y, hn, ?_⟩
      rwa [← Nat.succ_add_eq_add_succ]

/-- Whether what is wrong is told item by item: there is something wrong, and no two problems
stand at the same place, nor one inside the place of another. -/
def Itemized (c : Checked τ) : Prop :=
  ∀ ps, c = .error ps → ps ≠ [] ∧ ps.Pairwise fun p q => Apart p.path q.path

namespace Itemized

variable {a : Checked σ} {b : Checked τ}

theorem ok (t : τ) : Itemized (.ok t) := nofun

theorem singleton (p : Problem) : Itemized (.error [p] : Checked τ) := by
  rintro ps ⟨⟩
  exact ⟨List.cons_ne_nil p [], List.pairwise_singleton ..⟩

theorem fail (f : Fault) : (Checked.fail f : Checked τ).Itemized := singleton _

theorem ofScalar (e : Except Fault τ) : (Checked.ofScalar e).Itemized := by
  cases e with
  | ok t => exact ok t
  | error f => exact fail f

theorem under (h : b.Itemized) (s : Step) : (Checked.under s b).Itemized := by
  cases b with
  | ok t => exact ok t
  | error ps =>
    rintro qs ⟨⟩
    obtain ⟨hne, hps⟩ := h ps rfl
    refine ⟨fun hnil => hne (List.map_eq_nil_iff.1 hnil), List.pairwise_map.2 (hps.imp ?_)⟩
    exact fun hpq => Apart.cons_iff.2 (.inr hpq)

theorem exists_ok (h : b.Itemized) (hnil : b.problems = []) : ∃ t, b = .ok t := by
  cases b with
  | ok t => exact ⟨t, rfl⟩
  | error ps => exact absurd hnil (h ps rfl).1

/-- Where what is wrong is told item by item, different places are apart. -/
theorem apart (h : b.Itemized) {p q : Problem} (hp : p ∈ b.problems) (hq : q ∈ b.problems)
    (hne : p.path ≠ q.path) : Apart p.path q.path := by
  cases b with
  | ok t => cases hp
  | error ps =>
    have hsymm : Std.Symm fun p q : Problem => Apart p.path q.path := ⟨fun _ _ => Apart.symm⟩
    apply (h ps rfl).2.forall hp hq
    rintro rfl
    exact hne rfl

theorem nodup_path (h : b.Itemized) : (b.problems.map Problem.path).Nodup := by
  cases b with
  | ok t => exact List.nodup_nil
  | error ps => exact List.pairwise_map.2 ((h ps rfl).2.imp Apart.ne)

theorem map (h : a.Itemized) (f : σ → τ) : Itemized (a.map f) := by
  cases a with
  | ok s => exact ok (f s)
  | error ps =>
    rintro qs ⟨⟩
    exact h ps rfl

theorem both (ha : a.Itemized) (hb : b.Itemized)
    (h : ∀ p ∈ a.problems, ∀ q ∈ b.problems, Apart p.path q.path) : (a.both b).Itemized := by
  cases a with
  | ok s =>
    cases b with
    | ok t => exact ok (s, t)
    | error qs =>
      rintro rs ⟨⟩
      exact hb qs rfl
  | error ps =>
    cases b with
    | ok t =>
      rintro rs ⟨⟩
      exact ha ps rfl
    | error qs =>
      rintro rs ⟨⟩
      obtain ⟨hne, hps⟩ := ha ps rfl
      obtain ⟨-, hqs⟩ := hb qs rfl
      exact ⟨List.append_ne_nil_of_left_ne_nil hne qs, List.pairwise_append.2 ⟨hps, hqs, h⟩⟩

theorem each {read : σ → Checked τ} (h : ∀ x, (read x).Itemized) (i : Nat) (xs : List σ) :
    (Checked.each read i xs).Itemized := by
  induction xs generalizing i with
  | nil => exact ok []
  | cons x xs ih =>
    refine (both ((h x).under (.index i)) (ih (i + 1)) ?_).map fun r => r.1 :: r.2
    intro p hp q hq
    rw [problems_under, List.mem_map] at hp
    obtain ⟨p, -, rfl⟩ := hp
    obtain ⟨n, y, -, q, -, rfl⟩ := exists_of_mem_each hq
    -- A later item has a larger number.
    refine Apart.of_ne fun heq => ?_
    have hin : i = i + 1 + n := Step.index.inj heq
    omega

end Itemized

end Checked

/-! ## Fields -/

section Key

variable {key : Key} {ms ms' : List (Spelling × Json)} {name : String} {j : Json}

theorem Key.of_find?_eq_some (h : key.find? ms = some (name, j)) :
    (name = key.name ∨ name = key.alternative) ∧ Json.lookup? name ms = some j := by
  rw [Key.find?] at h
  cases hname : Json.lookup? key.name ms with
  | some i =>
    rw [hname] at h
    cases h
    exact ⟨.inl rfl, hname⟩
  | none =>
    rw [hname] at h
    obtain ⟨i, hi, heq⟩ := Option.map_eq_some_iff.1 h
    cases heq
    exact ⟨.inr rfl, hi⟩

theorem Key.lookup?_of_find?_eq_none (h : key.find? ms = none) :
    Json.lookup? key.name ms = none := by
  rw [Key.find?] at h
  cases hname : Json.lookup? key.name ms with
  | some i =>
    rw [hname] at h
    cases h
  | none => rfl

theorem readField_of_find?_eq_some (h : key.find? ms = some (name, j)) (default : Option τ)
    (read : Json → Checked τ) :
    readField key default read ms = Checked.under (.key name) (read j) := by
  rw [readField, h]

theorem readField_of_find?_eq_none (h : key.find? ms = none) (default : Option τ)
    (read : Json → Checked τ) : readField key default read ms =
      default.elim (.error [⟨[.key key.name], .missing⟩]) .ok := by
  rw [readField, h]

/-- A field is read alike from members that have the same values under its names. -/
theorem readField_eq_of_lookup? {default : Option τ} {read : Json → Checked τ}
    (hname : Json.lookup? key.name ms' = Json.lookup? key.name ms)
    (halternative : Json.lookup? key.alternative ms' = Json.lookup? key.alternative ms) :
    readField key default read ms' = readField key default read ms := by
  rw [readField, readField, Key.find?, Key.find?, hname, halternative]

/-- A problem of a field is one of the value that stands there, unless no value does. -/
theorem exists_of_mem_readField {default : Option τ} {read : Json → Checked τ} {p : Problem}
    (h : p ∈ (readField key default read ms).problems) :
    (∃ name j, key.find? ms = some (name, j) ∧
      ∃ q ∈ (read j).problems, q.under (.key name) = p) ∨
    key.find? ms = none ∧ default = none ∧ p = ⟨[.key key.name], .missing⟩ := by
  cases hfound : key.find? ms with
  | some m =>
    rw [readField_of_find?_eq_some hfound, Checked.problems_under, List.mem_map] at h
    exact .inl ⟨m.1, m.2, rfl, h⟩
  | none =>
    rw [readField_of_find?_eq_none hfound] at h
    cases default with
    | some d => cases h
    | none => exact .inr ⟨rfl, rfl, List.mem_singleton.1 h⟩

theorem key_of_mem_readField {default : Option τ} {read : Json → Checked τ} {p : Problem}
    (h : p ∈ (readField key default read ms).problems) :
    ∃ name π, (name = key.name ∨ name = key.alternative) ∧ p.path = .key name :: π := by
  rcases exists_of_mem_readField h with ⟨name, j, hfound, q, -, rfl⟩ | ⟨-, -, rfl⟩
  · exact ⟨name, q.path, (Key.of_find?_eq_some hfound).1, rfl⟩
  · exact ⟨key.name, [], .inl rfl, rfl⟩

theorem Checked.Itemized.readField {read : Json → Checked τ} (h : ∀ j, (read j).Itemized)
    (key : Key) (default : Option τ) (ms : List (Spelling × Json)) :
    (readField key default read ms).Itemized := by
  cases hfound : key.find? ms with
  | some m =>
    rw [readField_of_find?_eq_some hfound]
    exact (h m.2).under (.key m.1)
  | none =>
    rw [readField_of_find?_eq_none hfound]
    cases default with
    | some d => exact ok d
    | none => exact singleton _

/-- The problems of a field stand in the object that has it. -/
theorem leads_of_mem_readField {default : Option τ} {read : Json → Checked τ}
    (hread : ∀ name j, key.find? ms = some (name, j) →
      ∀ q ∈ (read j).problems, Json.Leads q.path j) {p : Problem}
    (h : p ∈ (readField key default read ms).problems) : Json.Leads p.path (.object ms) := by
  rcases exists_of_mem_readField h with ⟨name, j, hfound, q, hq, rfl⟩ | ⟨hfound, -, rfl⟩
  · have hlookup := (Key.of_find?_eq_some hfound).2
    exact (Json.leads_key_of_lookup? hlookup).2 (hread name j hfound q hq)
  · have hlookup := Key.lookup?_of_find?_eq_none hfound
    exact (Json.leads_key_of_lookup?_eq_none hlookup).2 rfl

end Key

/-- What is no text stands for itself. -/
theorem readEmbedded_of_ne_text (read : Json → Checked τ) {j : Json} (h : ∀ t, j ≠ .text t) :
    readEmbedded read j = read j := by
  cases j with
  | text t => exact absurd rfl (h t)
  | _ => rfl

/-! ## Shapes -/

/-- Whether a path leads to a place in a form. -/
def Grain.Leads : (g : Grain) → List Step → g.Form → Prop
  | .value, p, j => Json.Leads p j
  | .members, p, ms => Json.Leads p (.object ms)

theorem Grain.leads_nil (g : Grain) (form : g.Form) : g.Leads [] form := by
  cases g <;> rw [Leads, Json.Leads] <;> trivial

namespace Shape

/-- The names under which the fields of a shape are looked up. -/
def keyNames : {g : Grain} → {τ : Type} → Shape g τ → List String
  | _, _, field key _ _ rest => key.name :: key.alternative :: rest.keyNames
  | _, _, _ => []

/-- A shape whose fields have nothing to do with each other: no two are looked up under the same
name, and no law ties them together. -/
def Separate : {g : Grain} → {τ : Type} → Shape g τ → Prop
  | _, _, optional s => s.Separate
  | _, _, list s => s.Separate
  | _, _, embedded s => s.Separate
  | _, _, record fields p => fields.Separate ∧ ∀ t, p.law t = none
  | _, _, field key s _ rest =>
    s.Separate ∧ (key.name ∉ rest.keyNames ∧ key.alternative ∉ rest.keyNames) ∧ rest.Separate
  | _, _, _ => True

/-- Members are read alike when they have the same values under the names of the fields. -/
theorem readAt_eq_of_lookup? {site : Site} {ms ms' : List (Spelling × Json)} :
    {σ : Type} → (s : Shape .members σ) →
      (∀ name ∈ s.keyNames, Json.lookup? name ms' = Json.lookup? name ms) →
      s.readAt site ms' = s.readAt site ms
  | _, done, _ => rfl
  | _, field key s default rest, h => by
    obtain ⟨hname, hbehind⟩ := List.forall_mem_cons.1 h
    obtain ⟨halternative, hrest⟩ := List.forall_mem_cons.1 hbehind
    rw [readAt, readAt, readField_eq_of_lookup? hname halternative, rest.readAt_eq_of_lookup? hrest]

/-- The problems of members stand under the names of the fields. -/
theorem key_of_mem_problems {site : Site} {ms : List (Spelling × Json)} {p : Problem} :
    {σ : Type} → (s : Shape .members σ) → p ∈ (s.readAt site ms).problems →
      ∃ name ∈ s.keyNames, ∃ π, p.path = .key name :: π
  | _, done, h => nomatch h
  | _, field key s default rest, h => by
    rw [readAt, Checked.problems_both, List.mem_append] at h
    rcases h with h | h
    · obtain ⟨name, π, hname, hpath⟩ := key_of_mem_readField h
      refine ⟨name, ?_, π, hpath⟩
      rcases hname with rfl | rfl
      · exact List.mem_cons_self ..
      · exact List.mem_cons_of_mem _ (List.mem_cons_self ..)
    · obtain ⟨name, hname, hpath⟩ := rest.key_of_mem_problems h
      exact ⟨name, List.mem_cons_of_mem _ (List.mem_cons_of_mem _ hname), hpath⟩

/-- A name of a field is none of the fields behind it. -/
theorem Separate.ne {key : Key} {s : Shape .value τ} {default : Option τ}
    {rest : Shape .members σ} (hs : (field key s default rest).Separate) {name name' : String}
    (hname : name = key.name ∨ name = key.alternative) (hname' : name' ∈ rest.keyNames) :
    name ≠ name' := by
  rintro rfl
  rcases hname with rfl | rfl
  · exact hs.2.1.1 hname'
  · exact hs.2.1.2 hname'

/-- What is wrong with a value is told item by item. -/
theorem itemized_readAt {g : Grain} (s : Shape g τ) (hs : s.Separate) (site : Site)
    (form : g.Form) : (s.readAt site form).Itemized := by
  induction s generalizing site with
  | text | number | integer | flag | word | literal => exact .ofScalar _
  | raw => exact .ok form
  | optional s ih =>
    cases form with
    | null => exact .ok none
    | _ => exact (ih hs site _).map some
  | list s ih =>
    cases form with
    | array js => exact .each (ih hs site) 0 js
    | _ => exact .fail .notArray
  | embedded s ih =>
    change (readEmbedded (s.readAt .embedded) form).Itemized
    fun_cases readEmbedded (s.readAt .embedded) form with
    | case1 => exact .fail .brokenText
    | case2 t _ _ j _ => exact ih hs .embedded j
    | case3 _ _ _ m _ => exact .fail (.malformed m)
    | case4 => exact ih hs .embedded form
  | record fields p ih =>
    cases form with
    | object ms =>
      change Checked.Itemized (fields.readAt site ms >>= p.accept)
      cases hfields : fields.readAt site ms with
      | ok u =>
        change (p.accept u).Itemized
        rw [Packing.accept, hs.2]
        exact .ok _
      | error ps =>
        rintro qs ⟨⟩
        exact ih hs.1 site ms ps hfields
    | _ => exact .fail .notObject
  | done => exact .ok ()
  | field key s default rest ihs ih =>
    refine .both (.readField (ihs hs.1 site) key default form) (ih hs.2.2 site form) ?_
    intro p hp q hq
    obtain ⟨name, π, hname, hpath⟩ := key_of_mem_readField hp
    obtain ⟨name', hname', π', hpath'⟩ := rest.key_of_mem_problems hq
    rw [hpath, hpath']
    exact .of_ne fun heq => hs.ne hname hname' (Step.key.inj heq)

/-- The problems of a value stand at places in it, unless they are those of a text that stands for
a list. -/
theorem leads_of_mem_problems {g : Grain} (s : Shape g τ) (hs : s.Separate) (hplain : s.Plain)
    (site : Site) {form : g.Form} {p : Problem} (hp : p ∈ (s.readAt site form).problems) :
    g.Leads p.path form := by
  induction s generalizing p with
  | text | number | integer | flag | word | literal =>
    rw [Checked.path_of_mem_ofScalar hp]
    exact Grain.leads_nil ..
  | raw | done => cases hp
  | optional s ih =>
    by_cases hform : form = .null
    · subst hform
      cases hp
    · rw [readAt, readOptional_of_ne_null _ hform, Checked.problems_map] at hp
      exact ih hs hplain hp
  | list s ih =>
    cases form with
    | array js =>
      obtain ⟨n, j, hn, q, hq, rfl⟩ := Checked.exists_of_mem_each hp
      rw [Nat.zero_add]
      exact ⟨j, hn, ih hs hplain hq⟩
    | _ =>
      obtain rfl := List.mem_singleton.1 hp
      trivial
  | embedded s => exact hplain.elim
  | record fields p ih =>
    cases form with
    | object ms =>
      apply ih hs.1 hplain.1
      rwa [← Checked.problems_accept hs.2]
    | _ =>
      obtain rfl := List.mem_singleton.1 hp
      trivial
  | field key s default rest ihs ih =>
    rw [readAt, Checked.problems_both, List.mem_append] at hp
    rcases hp with hp | hp
    · exact leads_of_mem_readField (fun _ j _ q hq => ihs hs.1 hplain.1 hq) hp
    · exact ih hs.2.2 hplain.2 hp

end Shape

end Promptbook.Record
