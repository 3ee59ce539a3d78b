import Promptbook.Proofs.Command.Marks
import Promptbook.Proofs.Scene.Written

/-!
# What a command leaves behind

A command makes its payload before it shows or writes anything, and what keeps it from making one
leaves the folder alone.  After a payload has been written there is still a report to be shown.  The
report names the file, and a path may hold what reads like a mark; so a command may fail with its
payload already in place.  Without brackets in what it names only the length of a script can keep
the report from being shown.
-/

namespace Promptbook

open Record

namespace Command

/-! ## Results -/

namespace Result

/-- What stands at a place after a command. -/
def entryAt (r : Result) (f : Folder) (l : FilePlace) : Option Entry :=
  match r.written with
  | some (place, text) => if l = place then some (.file text.toUTF8.toList) else f.entry? l
  | none => f.entry? l

/-- The command failed and left nothing but a message. -/
structure Refused (r : Result) : Prop where
  exit : r.exit ≠ 0
  stdout : r.stdout = ""
  files : ∀ f l, r.entryAt f l = f.entry? l

end Result

section Stores

variable {r : Result} {l : FilePlace} {payload : String} {unreported : Crash → Prop}

end Stores

/-! ## Commands -/

namespace Invocation

/-- The path of the file that an invocation asks for. -/
def output : Invocation → Option String
  | help => none
  | compile _ output => output
  | reconcile _ _ output _ => output
  | template _ _ _ output => output

/-- The texts that the report on an invocation names. -/
def named (w : Surroundings) : Invocation → List String
  | help => []
  | compile scenario output => (w.folder.resolve scenario).name :: output.toList
  | reconcile _ _ output _ => output.toList
  | template _ _ _ output => output.toList

end Invocation

variable {w : Surroundings} {r : Result}

theorem eq_resolve_of_input {path : String} {l : FilePlace} (h : w.input path = .ok l) :
    w.folder.resolve path = l := by
  rw [Surroundings.input] at h
  split at h
  · cases h
  · exact Except.ok.inj h

theorem mapError_eq_ok {σ ε ε' : Type} {a : Except ε σ} {f : ε → ε'} {t : σ}
    (h : a.mapError f = .ok t) : a = .ok t := by
  cases a with
  | error e => cases h
  | ok s =>
    cases h
    rfl

/-- A scenario that the command makes of layered beats is delivered as a whole. -/
theorem exists_deliver_of_reconcile {layered characters : String} {output : Option String}
    {strict : Bool} (h : reconcile w layered characters output strict = .ok r) :
    ∃ d bs beats payload, w.load readCharacters (w.folder.resolve characters) = .ok d ∧
      w.load readLayeredBeats (w.folder.resolve layered) = .ok bs ∧
      LayeredBeat.flattenAll strict bs d = .ok beats ∧
      Scenario.encode (some 2) ⟨⟨"Reconciled from " ++ (w.folder.resolve layered).name,
        beats, d⟩, .layeredBeat⟩ = .ok payload ∧
      ∃ s : Scenario, w.deliver payload output (fun path l =>
        report l payload (Panel.text ⟨"Scenario Ready", scenarioReport s path⟩)) = .ok r := by
  rw [reconcile] at h
  obtain ⟨l, hl, h⟩ := exists_of_bind_eq_ok h
  obtain rfl := eq_resolve_of_input hl
  obtain ⟨c, hc, h⟩ := exists_of_bind_eq_ok h
  obtain rfl := eq_resolve_of_input hc
  obtain ⟨-, -, h⟩ := exists_of_bind_eq_ok h
  obtain ⟨-, -, h⟩ := exists_of_bind_eq_ok h
  obtain ⟨-, -, h⟩ := exists_of_bind_eq_ok h
  obtain ⟨d, hd, h⟩ := exists_of_bind_eq_ok h
  obtain ⟨bs, hbs, h⟩ := exists_of_bind_eq_ok h
  obtain ⟨beats, hbeats, h⟩ := exists_of_bind_eq_ok h
  obtain ⟨payload, hpayload, h⟩ := exists_of_bind_eq_ok h
  exact ⟨d, bs, beats, payload, hd, hbs, mapError_eq_ok hbeats, mapError_eq_ok hpayload, _, h⟩

/-- A folder that holds some texts in ASCII under their names. -/
def desk (texts : List (String × String)) : Surroundings where
  folder := {
    current := ⟨"/stage", []⟩
    entries := (⟨"/stage", []⟩, .directory) :: texts.map fun t =>
      (⟨"/stage", [t.1]⟩, .file (t.2.toList.map fun c => .ofNat c.toNat)) }
  environment := {}

end Command

end Promptbook
