import Promptbook.Proofs.Command.Delivered
import Promptbook.Proofs.Scenario.Layered

/-!
# What one command writes and another reads

What is written of layered beats is read back as the same scenario, with one exception: a time that
is infinite is written as null, and the scenario cannot be read again.  A time that is finite and
yet too long for milliseconds is read back, but no script can be made of it.  Both kinds of times
pass the schema of layered beats, so that a scenario that is written need not be one that can be
compiled.  Where all times have a value in milliseconds, it can.
-/

namespace Promptbook

open Record

theorem exists_of_load_eq_ok {τ : Type} {read : String → Checked τ} {path name : String}
    {entry : Option Entry} {t : τ} (h : load read path name entry = .ok t) :
    ∃ text, read text = .ok t := by
  rw [load] at h
  split at h
  · cases h
  · cases htext : Entry.text path name entry with
    | error f =>
      rw [htext] at h
      cases h
    | ok text =>
      rw [htext] at h
      exact ⟨text, fromSource_eq_ok h⟩

/-! ## The commands -/

namespace Command

/-- The text that a command leaves in a file: in its own, or in one that its output goes to. -/
def Result.document (r : Result) : String := (r.written.map (·.2)).getD r.stdout

/-- A text in the file at a path that can be looked for. -/
structure Surroundings.Holds (w : Surroundings) (path text : String) : Prop where
  short : w.folder.isTooLong (w.folder.resolve path) = false
  printable : '\x00' ∉ (w.folder.resolve path).path.toList
  file : ∃ bytes, w.folder.entry? (w.folder.resolve path) = some (.file bytes) ∧
    Utf8.decode bytes = .ok text

/-- What is delivered is the payload, with a line break when it is shown. -/
theorem exists_document_of_deliver {w : Surroundings} {payload : String} {output : Option String}
    {shown : String → FilePlace → Except MarkupFault String} {r : Result}
    (h : w.deliver payload output (fun path l => report l payload (shown path l)) = .ok r) :
    ∃ ending, r.document = payload ++ String.ofList (Json.lineBreak ending 0) := by
  cases output with
  | none =>
    cases h
    exact ⟨some 0, rfl⟩
  | some path =>
    rw [Surroundings.deliver] at h
    cases hl : w.folder.target path with
    | error u => simp [hl] at h
    | ok l =>
      simp only [hl, Except.ok.injEq] at h
      refine ⟨none, ?_⟩
      rw [← h, show String.ofList (Json.lineBreak none 0) = "" from rfl, String.append_empty]
      cases shown (tidyPath path) l <;> simp [report, Result.document]

/-- What a scenario that was written by the command is made of. -/
theorem reconcile_eq_ok {w : Surroundings} {layered characters : String} {output : Option String}
    {strict : Bool} {r : Result} (h : reconcile w layered characters output strict = .ok r) :
    ∃ d bs, w.load readCharacters (w.folder.resolve characters) = .ok d ∧
      w.load readLayeredBeats (w.folder.resolve layered) = .ok bs ∧ (∀ b ∈ bs, b.Valid) ∧
      ∃ out ending, r.document = out ++ String.ofList (Json.lineBreak ending 0) ∧
        (Scenario.ofLayered ("Reconciled from " ++ (w.folder.resolve layered).name) bs d).encode
          (some 2) = .ok out := by
  obtain ⟨d, bs, beats, out, hd, hbs, hbeats, hout, s, h⟩ := exists_deliver_of_reconcile h
  obtain rfl := LayeredBeat.flattenAll_eq_ok hbeats
  obtain ⟨ending, hr⟩ := exists_document_of_deliver h
  obtain ⟨text, htext⟩ := exists_of_load_eq_ok (mapError_eq_ok hbs)
  exact ⟨d, bs, hd, hbs, valid_of_readLayeredBeats htext, out, ending, hr, hout⟩

/-! ## Compiling what a file holds -/

theorem Stop.exit_panel (p : Panel) : (Stop.panel p).result.exit = 1 := by
  rw [result]
  cases p.text <;> rfl

theorem Stop.exit_ofFailure (f : Failure) : (ofFailure f).result.exit = 1 := by
  cases f with
  | time | tooDeep => rfl
  | unreadable | unknownCharacters | badSetting | zeroInPath => exact exit_panel _

/-- Of a file that can be read only the text matters. -/
theorem compile_eq_of_holds {w : Surroundings} {path text : String} (h : w.Holds path text) :
    compile w path none = (do
      let s ← (fromSource (w.folder.resolve path).name (Scenario.decode text)).mapError .ofFailure
      let script ← (Script.compile .names none w.environment false s.beats).mapError .ofFailure
      let payload ← writtenText (script.document.written (some 2))
      return { exit := 0, stdout := payload ++ "\n" }) := by
  obtain ⟨bytes, hbytes, hdecode⟩ := h.file
  have hinput : w.input path = .ok (w.folder.resolve path) := by
    simp [Surroundings.input, hbytes]
  have hexists : w.checkExists (w.folder.resolve path) = .ok () := by
    simp [Surroundings.checkExists, h.short, hbytes]
  have hload : w.load Scenario.decode (w.folder.resolve path) =
      (fromSource (w.folder.resolve path).name (Scenario.decode text)).mapError .ofFailure := by
    simp [Surroundings.load, load, h.printable, hbytes, Entry.text, hdecode]
  rw [compile, hinput, ← hload]
  simp only [bind, Except.bind, hexists, Surroundings.checkOutput]
  rfl

section Holds

variable {w : Surroundings} {path text : String} (h : w.Holds path text)

include h

theorem exists_stop_of_decode {ps : List Problem} (hdecode : Scenario.decode text = .error ps) :
    ∃ stop, compile w path none = .error stop ∧ stop.result.exit = 1 := by
  rw [compile_eq_of_holds h, hdecode]
  exact ⟨_, rfl, Stop.exit_ofFailure _⟩

variable {s : Scenario} (hdecode : Scenario.decode text = .ok s) {size : StageSize}
  (hsize : StageSize.ofEnvironment w.environment = .ok size)

include hdecode hsize

/-- On a stage that the environment asks for, only the script is left to be made and written. -/
theorem compile_eq_of_decode : compile w path none =
    ((Script.ofBeats .names size false s.beats).mapError fun e => Stop.crash (.time e)) >>=
      fun script => (writtenText (script.document.written (some 2))).map
        fun payload => { exit := 0, stdout := payload ++ "\n" } := by
  have hcompile : Script.compile .names none w.environment false s.beats =
      (Script.ofBeats .names size false s.beats).mapError .time := by
    rw [Script.compile, Option.elim_none, hsize]
  rw [compile_eq_of_holds h, hdecode]
  change (Script.compile .names none w.environment false s.beats).mapError _ >>= _ = _
  rw [hcompile]
  cases Script.ofBeats .names size false s.beats with
  | error e => rfl
  | ok script =>
    change writtenText (script.document.written (some 2)) >>= _ = Except.map _ _
    cases writtenText (script.document.written (some 2)) <;> rfl

theorem exists_stop_of_ofBeats {e : Double.NonFinite}
    (hscript : Script.ofBeats .names size false s.beats = .error e) :
    ∃ stop, compile w path none = .error stop ∧ stop.result.exit = 1 := by
  refine ⟨.crash (.time e), ?_, rfl⟩
  rw [compile_eq_of_decode h hdecode hsize, hscript]
  rfl

theorem compile_of_ofBeats {script : Script String} {payload : String}
    (hscript : Script.ofBeats .names size false s.beats = .ok script)
    (hpayload : script.document.written (some 2) = .ok payload) :
    compile w path none = .ok { exit := 0, stdout := payload ++ "\n" } := by
  rw [compile_eq_of_decode h hdecode hsize, hscript]
  change (writtenText (script.document.written (some 2))).map _ = _
  rw [hpayload]
  rfl

end Holds

section Reconciled

variable {description : Spelling} {bs : List (LayeredBeat Float)} {d : Directory} {out : String}
  {indent ending : Option Nat} {w : Surroundings} {path : String} {size : StageSize}
  (hvalid : ∀ b ∈ bs, b.Valid)
  (hout : (Scenario.ofLayered description bs d).encode indent = .ok out)
  (h : w.Holds path (out ++ String.ofList (Json.lineBreak ending 0)))
  (hsize : StageSize.ofEnvironment w.environment = .ok size)

include hvalid hout h hsize

/-- Where all times have milliseconds, the script of the layered beats is made. -/
theorem compile_of_timed (ht : ∀ b ∈ bs, b.Timed) : ∃ script payload,
    Script.ofBeats .names size false (bs.map (·.flatten d)) = .ok script ∧
    script.document.written (some 2) = .ok payload ∧
    compile w path none = .ok { exit := 0, stdout := payload ++ "\n" } := by
  obtain ⟨hwhole, hreturns⟩ :=
    Scenario.returns_decode_of_encode (Scenario.admits_ofLayered hvalid) hout ending
  have hdecode := hreturns.eq_ok (Scenario.isFinite_atoms_ofLayered hvalid ht)
  obtain ⟨script, hscript⟩ := Script.exists_ofBeats_flatten_iff.2 ht
  obtain ⟨payload, hpayload⟩ :=
    Script.exists_written_document (Scenario.spelled_beats hwhole) hscript (some 2)
  exact ⟨script, payload, hscript, hpayload, compile_of_ofBeats h hdecode hsize hscript hpayload⟩

/-- Whether the scenario can be read or not, no script is made where a time has no milliseconds. -/
theorem exists_stop_of_not_timed (ht : ¬ ∀ b ∈ bs, b.Timed) :
    ∃ stop, compile w path none = .error stop ∧ stop.result.exit = 1 := by
  obtain ⟨-, hreturns⟩ :=
    Scenario.returns_decode_of_encode (Scenario.admits_ofLayered hvalid) hout ending
  cases hdecode : Scenario.decode (out ++ String.ofList (Json.lineBreak ending 0)) with
  | error ps => exact exists_stop_of_decode h hdecode
  | ok s =>
    rw [hdecode] at hreturns
    obtain rfl := hreturns.eq_of_ok
    cases hscript : Script.ofBeats .names size false (bs.map (·.flatten d)) with
    | error e => exact exists_stop_of_ofBeats h hdecode hsize hscript
    | ok script => exact absurd (Script.exists_ofBeats_flatten_iff.1 ⟨script, hscript⟩) ht

end Reconciled

/-- A scenario that was written is compiled, on a stage of any size, to the script of the layered
beats that were loaded, unless one of their times has no value in milliseconds: then it is
refused. -/
theorem compile_reconciled {w : Surroundings} {layered characters : String}
    {output : Option String} {strict : Bool} {r : Result}
    (h : reconcile w layered characters output strict = .ok r) :
    ∃ d bs, w.load readCharacters (w.folder.resolve characters) = .ok d ∧
      w.load readLayeredBeats (w.folder.resolve layered) = .ok bs ∧
      ∀ (w' : Surroundings) (path : String) (size : StageSize), w'.Holds path r.document →
        StageSize.ofEnvironment w'.environment = .ok size →
        ((∀ b ∈ bs, b.Timed) → ∃ script payload,
          Script.ofBeats .names size false (bs.map (·.flatten d)) = .ok script ∧
          script.document.written (some 2) = .ok payload ∧
          compile w' path none = .ok { exit := 0, stdout := payload ++ "\n" }) ∧
        ((¬ ∀ b ∈ bs, b.Timed) →
          ∃ stop, compile w' path none = .error stop ∧ stop.result.exit = 1) := by
  obtain ⟨d, bs, hd, hbs, hvalid, out, ending, hr, hout⟩ := reconcile_eq_ok h
  refine ⟨d, bs, hd, hbs, fun w' path size hholds hsize => ?_⟩
  rw [hr] at hholds
  exact ⟨compile_of_timed hvalid hout hholds hsize,
    exists_stop_of_not_timed hvalid hout hholds hsize⟩

/-! ## Long nights -/

theorem decodeFrom_ascii {cs : List Char} (h : ∀ c ∈ cs, c.toNat < 0x80) (i : ℕ) :
    Utf8.decodeFrom i none (cs.map fun c => .ofNat c.toNat) = .ok cs := by
  induction cs generalizing i with
  | nil => rfl
  | cons c cs ih =>
    rw [List.forall_mem_cons] at h
    have hbyte : (UInt8.ofNat c.toNat).toNat = c.toNat :=
      UInt8.toNat_ofNat_of_lt (h.1.trans (by decide))
    rw [List.map_cons, Utf8.decodeFrom, hbyte, if_pos h.1, ih h.2, Char.ofNat_toNat]
    rfl

theorem holds_desk {text : String} (h : ∀ c ∈ text.toList, c.toNat < 0x80) :
    (desk [("scenario.json", text)]).Holds "scenario.json" text where
  short := by rfl
  printable := by
    change '\x00' ∉ (FilePlace.path ⟨"/stage", ["scenario.json"]⟩).toList
    decide
  file := by
    refine ⟨_, rfl, ?_⟩
    rw [Utf8.decode, decodeFrom_ascii h]
    exact congrArg Except.ok String.ofList_toList

/-- A folder with a text of one layered beat, which lasts for the given time, and no cast. -/
def nightDesk (duration : String) : Surroundings :=
  let beats := "[\x7b\"id\":\"b\",\"name\":\"Night\",\"duration\":" ++ duration ++ "\x7d]"
  desk [("layers.json", beats), ("cast.json", "[]")]

/-- The layered beat of that text. -/
def night (duration : Float) : LayeredBeat Float :=
  ⟨"b", "Night", some duration, .stageFloor, [], [], []⟩

/-- The scenario of that layered beat. -/
def nightScenario (duration : Float) : Scenario :=
  .ofLayered ("Reconciled from " ++ "layers.json") [night duration] []

theorem lt_of_mem_lineBreak {ending : Option ℕ} :
    ∀ c ∈ Json.lineBreak ending 0, c.toNat < 0x80 := by
  cases ending <;> simp [Json.lineBreak]

/-- The scenario of a night is shown, and its text can stand in a folder. -/
theorem exists_reconcile_night (duration : String) (x : Float)
    (hexit : (reconcile (nightDesk duration) "layers.json" "cast.json" none false).toOption.map
      (·.exit) = some 0)
    (hcast : ((nightDesk duration).load readCharacters
      ((nightDesk duration).folder.resolve "cast.json")).toOption = some [])
    (hlayers : ((nightDesk duration).load readLayeredBeats
      ((nightDesk duration).folder.resolve "layers.json")).toOption = some [night x])
    (hascii : ((Json.print (some 2) 0 (nightScenario x).write).all fun c => c.toNat < 0x80) =
      true) :
    ∃ r out ending, reconcile (nightDesk duration) "layers.json" "cast.json" none false = .ok r ∧
      r.exit = 0 ∧ r.document = out ++ String.ofList (Json.lineBreak ending 0) ∧
      (nightScenario x).encode (some 2) = .ok out ∧
      (desk [("scenario.json", r.document)]).Holds "scenario.json" r.document := by
  cases hr : reconcile (nightDesk duration) "layers.json" "cast.json" none false with
  | error stop => simp [hr, Except.toOption] at hexit
  | ok r =>
    obtain ⟨d, bs, hd, hbs, -, out, ending, hdocument, hout⟩ := reconcile_eq_ok hr
    rw [hd] at hcast
    rw [hbs] at hlayers
    obtain rfl := Option.some.inj hcast
    obtain rfl := Option.some.inj hlayers
    have hscenario : (nightScenario x).encode (some 2) = .ok out := hout
    refine ⟨r, out, ending, rfl, ?_, hdocument, hscenario, holds_desk ?_⟩
    · rw [hr] at hexit
      exact Option.some.inj hexit
    · obtain ⟨-, rfl⟩ := (Json.written_eq_ok_iff _ _ _).1 hscenario
      rw [hdocument, String.toList_append, String.toList_ofList, Json.render,
        String.toList_ofList, List.forall_mem_append]
      exact ⟨fun c hc => of_decide_eq_true (List.all_eq_true.1 hascii c hc), lt_of_mem_lineBreak⟩

/-- A night of some seconds is compiled. -/
theorem compile_reconciled_night :
    ∃ r, reconcile (nightDesk "9.5") "layers.json" "cast.json" none false = .ok r ∧ r.exit = 0 ∧
      ∃ payload, compile (desk [("scenario.json", r.document)]) "scenario.json" none =
        .ok { exit := 0, stdout := payload ++ "\n" } := by
  obtain ⟨r, -, -, hr, hexit, -, -, hholds⟩ :=
    exists_reconcile_night "9.5" 9.5 (by decide +kernel) (by decide +kernel) (by decide +kernel)
      (by decide +kernel)
  obtain ⟨d, bs, -, hbs, hcompile⟩ := compile_reconciled hr
  have hload : (nightDesk "9.5").load readLayeredBeats
      ((nightDesk "9.5").folder.resolve "layers.json") = .ok [night 9.5] := by rfl
  obtain rfl := Except.ok.inj (hload.symm.trans hbs)
  have ht : ∀ b ∈ [night 9.5], b.Timed := by
    rw [List.forall_mem_singleton]
    exact ⟨exists_millis_iff.2 (by decide), nofun⟩
  obtain ⟨script, payload, -, -, hpayload⟩ := (hcompile _ _ _ hholds rfl).1 ht
  exact ⟨r, hr, hexit, payload, hpayload⟩

/-- A night that never ends in milliseconds is written and yet refused. -/
theorem long_night_refused :
    ∃ r, reconcile (nightDesk "1e306") "layers.json" "cast.json" none false = .ok r ∧ r.exit = 0 ∧
      ∃ stop, compile (desk [("scenario.json", r.document)]) "scenario.json" none = .error stop ∧
        stop.result.exit = 1 := by
  obtain ⟨r, out, ending, hr, hexit, hdocument, hout, hholds⟩ :=
    exists_reconcile_night "1e306" 1e306 (by decide +kernel) (by decide +kernel)
      (by decide +kernel) (by decide +kernel)
  have hvalid : ∀ b ∈ [night 1e306], b.Valid := by decide +kernel
  have ht : ¬ ∀ b ∈ [night 1e306], b.Timed := by
    rw [List.forall_mem_singleton]
    intro ht
    have hfinite : ((1e306 : Float) * 1000.0).isFinite = true := exists_millis_iff.1 ht.duration
    exact absurd hfinite (by decide +kernel)
  refine ⟨r, hr, hexit, ?_⟩
  rw [hdocument] at hholds ⊢
  exact exists_stop_of_not_timed hvalid hout hholds rfl ht

end Command

end Promptbook
