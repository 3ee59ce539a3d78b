import Promptbook.Json.Written
import Promptbook.Proofs.Json.Scanning

/-!
# Written values are read back

A value that is printed and parsed again comes back as it was, but for null in place of each number
that is not finite.  This holds of values whose strings are texts, whose whole numbers are not too
long and which are not nested too deeply, with every indentation.
-/

namespace Promptbook.Json

mutual

/-- Whether every whole number is short enough to be read. -/
def isBrief : Json → Prop
  | integer n => (Nat.toDigits 10 n.natAbs).length ≤ Numeral.digitLimit
  | array js => itemsBrief js
  | object ms => membersBrief ms
  | _ => True

/-- Whether every whole number in some items is short enough to be read. -/
def itemsBrief : List Json → Prop
  | [] => True
  | j :: js => isBrief j ∧ itemsBrief js

/-- Whether every whole number in some members is short enough to be read. -/
def membersBrief : List (Spelling × Json) → Prop
  | [] => True
  | m :: ms => memberBrief m ∧ membersBrief ms

/-- Whether every whole number in the value of a member is short enough to be read. -/
def memberBrief : Spelling × Json → Prop
  | (_, j) => isBrief j

end

namespace Machine

/-- A value is due: after a comma or a name, or as the first item of an array. -/
def Due (next : Expectation) (stack : List Frame) : Prop :=
  next = .value ∨ next = .firstItem ∧ ∃ below, stack = .array [] :: below

theorem step_of_due {next : Expectation} {stack : List Frame} (h : Due next stack) {d : Dialect}
    {t : Token} {m : Machine} (ht : startValue d stack t = .ok m) :
    step d (.running next stack) t = .ok m := by
  rcases h with rfl | ⟨rfl, below, rfl⟩
  · cases t <;> exact ht
  · cases t <;> first | exact ht | cases ht

section Faults

variable {stack : List Frame} (h : stack.length ≤ Dialect.filledDepth)

include h in
theorem contentFault?_eq_none : contentFault? .document stack = none :=
  if_neg fun hd => absurd hd.2 h.not_gt

include h in
theorem startValue_scalar (j : Json) :
    startValue .document stack (.scalar j) = .ok (deliver j stack) := by
  rw [startValue, contentFault?_eq_none h]
  rfl

include h in
theorem startValue_openArray : startValue .document stack .openArray =
    .ok (.running .firstItem (.array [] :: stack)) := by
  rw [startValue, contentFault?_eq_none h]
  rfl

include h in
theorem startValue_openObject : startValue .document stack .openObject =
    .ok (.running .firstName (.object [] none :: stack)) := by
  rw [startValue, contentFault?_eq_none h]
  rfl

include h in
theorem startValue_number (j : Json) {digits : Nat} (hd : digits ≤ Numeral.digitLimit) :
    startValue .document stack (.number j digits) = .ok (deliver j stack) := by
  change guarded (contentFault? .document stack <|> numberFault? .document _ digits) _ = _
  rw [contentFault?_eq_none h, numberFault?, if_neg hd.not_gt]
  rfl

include h in
theorem startValue_string {t : Spelling} (ht : t.isWhole = true) :
    startValue .document stack (.string t) = .ok (deliver (.text t) stack) := by
  rw [startValue, contentFault?_eq_none h]
  simp [stringFault?, ht, guarded]

theorem startName_string {members : List (Spelling × Json)} {below : List Frame}
    (h : (Frame.object members none :: below).length ≤ Dialect.filledDepth) {t : Spelling}
    (ht : t.isWhole = true) : startName .document members below (.string t) =
      .ok (.running .colon (.object members (some t) :: below)) := by
  rw [startName, contentFault?_eq_none h]
  simp [stringFault?, ht, guarded]

end Faults

theorem step_of_name {next : Expectation} (h : next = .name ∨ next = .firstName)
    {members : List (Spelling × Json)} {name : Option Spelling} {stack : List Frame} {d : Dialect}
    {t : Spelling} {m : Machine} (ht : startName d members stack (.string t) = .ok m) :
    step d (.running next (.object members name :: stack)) (.string t) = .ok m := by
  rcases h with rfl | rfl <;> exact ht

end Machine

namespace Scan

open Machine

theorem endsNumber_comma : EndsNumber ',' := endsNumber rfl (by decide) (by decide) (by decide)
theorem endsNumber_closeArray : EndsNumber ']' :=
  endsNumber rfl (by decide) (by decide) (by decide)
theorem endsNumber_closeObject : EndsNumber '\x7d' :=
  endsNumber rfl (by decide) (by decide) (by decide)

variable {s : Scan} {next : Expectation} {stack : List Frame}

/-- A whole number is read back. -/
theorem Idle.integer (h : s.Idle (.running next stack)) (hdue : Due next stack)
    (hd : stack.length ≤ Dialect.filledDepth) {n : Int}
    (hn : (Nat.toDigits 10 n.natAbs).length ≤ Numeral.digitLimit) :
    ((Text.decimal n).toList.foldl step s).Ready (deliver (.integer n) stack) := by
  obtain ⟨m, hm, hcomplete, hjson, hdigits⟩ := Numeric.read?_toDigits (decide (n < 0)) n.natAbs
  have hsign : (if decide (n < 0) = true then -(n.natAbs : Int) else n.natAbs) = n := by
    by_cases hneg : n < 0
    · rw [if_pos (decide_eq_true hneg)]
      omega
    · rw [if_neg (by simpa using hneg)]
      omega
  rw [hsign] at hjson
  have hstep : Machine.step .document (.running next stack) (.number m.json m.digits) =
      .ok (deliver (.integer n) stack) := by
    refine step_of_due hdue ?_
    rw [hjson, startValue_number hd _ (hdigits ▸ hn)]
  have hnumber := h.number (decide (n < 0)) Nat.toDigits_ne_nil hm hcomplete hstep
  rw [Text.decimal, String.toList_ofList]
  simpa using hnumber

/-- A finite double is read back. -/
theorem Idle.double (h : s.Idle (.running next stack)) (hdue : Due next stack)
    (hd : stack.length ≤ Dialect.filledDepth) {x : Float} (hx : x.isFinite = true) :
    ((Layout.document.render x).toList.foldl step s).Ready (deliver (.number x) stack) := by
  obtain ⟨p, hp⟩ := Double.isFinite_iff.1 hx
  obtain ⟨m, hm, hcomplete, hjson, hdigits⟩ := Numeric.read?_render hp
  have hstep : Machine.step .document (.running next stack) (.number m.json m.digits) =
      .ok (deliver (.number x) stack) := by
    refine step_of_due hdue ?_
    rw [hjson, startValue_number hd _ (hdigits.trans (by decide : 16 ≤ Numeral.digitLimit))]
  have hne : Layout.document.decimal (Shortest.ofParts p) ≠ [] := by
    intro hnil
    rw [hnil] at hm
    cases hm
    cases hcomplete
  have hnumber := h.number p.negative hne hm hcomplete hstep
  rw [Layout.render, hp, String.toList_ofList]
  exact hnumber

/-! ## Values, items and members -/

mutual

/-- A value that is due is read back from what it is written as. -/
theorem Idle.value (indent : Option Nat) (level : Nat) (j : Json) {s : Scan} {next : Expectation}
    {stack : List Frame} (h : s.Idle (.running next stack)) (hdue : Due next stack)
    (hd : stack.length + j.depth ≤ Dialect.filledDepth) (hw : j.isWhole = true) (hb : j.isBrief) :
    ((print indent level j).foldl step s).Ready (deliver j.finite stack) := by
  have hlen : stack.length ≤ Dialect.filledDepth := by omega
  match j with
  | null =>
    exact .idle (h.null (step_of_due hdue (startValue_scalar hlen _)))
  | bool b =>
    exact .idle (h.bool b (step_of_due hdue (startValue_scalar hlen _)))
  | Json.integer n => exact h.integer hdue hlen hb
  | Json.number x =>
    rw [print, finite]
    split_ifs with hx
    · exact h.double hdue hlen hx
    · exact .idle (h.null (step_of_due hdue (startValue_scalar hlen _)))
  | text t =>
    exact .idle (h.string hw (step_of_due hdue (startValue_string hlen hw)))
  | array [] =>
    have hopen := h.mark isMark_openArray
      (step_of_due hdue (startValue_openArray hlen))
    exact .idle (hopen.mark isMark_closeArray rfl)
  | array (j :: js) =>
    rw [depth] at hd
    rw [isWhole, itemsWhole, Bool.and_eq_true] at hw
    rw [isBrief, itemsBrief] at hb
    have hopen := h.mark isMark_openArray
      (step_of_due hdue (startValue_openArray hlen))
    have hfirst := (hopen.lineBreak indent (level + 1)).value indent (level + 1) j
      (.inr ⟨rfl, _, rfl⟩) (by rw [List.length_cons]; omega) hw.1 hb.1
    have hitems := hfirst.items indent (level + 1) js (by omega) hw.2 hb.2
    have hclose := (hitems.lineBreak indent level).mark isMark_closeArray endsNumber_closeArray rfl
    rw [print, finite, finiteItems]
    simp only [List.cons_append, List.foldl_cons, foldl_append, List.foldl_nil]
    simpa using Ready.idle hclose
  | object [] =>
    have hopen := h.mark isMark_openObject
      (step_of_due hdue (startValue_openObject hlen))
    exact .idle (hopen.mark isMark_closeObject rfl)
  | object (m :: ms) =>
    rw [depth] at hd
    rw [isWhole, membersWhole, Bool.and_eq_true] at hw
    rw [isBrief, membersBrief] at hb
    have hopen := h.mark isMark_openObject
      (step_of_due hdue (startValue_openObject hlen))
    have hfirst := (hopen.lineBreak indent (level + 1)).member indent (level + 1) m
      (.inr rfl) (by omega) hw.1 hb.1
    have hmembers := hfirst.members indent (level + 1) ms (by omega) hw.2 hb.2
    have hclose :=
      (hmembers.lineBreak indent level).mark isMark_closeObject endsNumber_closeObject rfl
    rw [print, finite, finiteMembers]
    simp only [List.cons_append, List.foldl_cons, foldl_append, List.foldl_nil]
    simpa using Ready.idle hclose

/-- The items after the first are read back. -/
theorem Ready.items (indent : Option Nat) (level : Nat) (js : List Json) {s : Scan}
    {items : List Json} {stack : List Frame}
    (h : s.Ready (.running .separator (.array items :: stack)))
    (hd : stack.length + 1 + depthOfItems js ≤ Dialect.filledDepth) (hw : itemsWhole js = true)
    (hb : itemsBrief js) : ((printItems indent level js).foldl step s).Ready
      (.running .separator (.array ((finiteItems js).reverse ++ items) :: stack)) := by
  match js with
  | [] => exact h
  | j :: js =>
    rw [depthOfItems] at hd
    rw [itemsWhole, Bool.and_eq_true] at hw
    rw [itemsBrief] at hb
    have hcomma := (h.mark isMark_comma endsNumber_comma rfl).lineBreak indent level
    have hitem := hcomma.value indent level j (.inl rfl) (by rw [List.length_cons]; omega) hw.1 hb.1
    have hitems := hitem.items indent level js (by omega) hw.2 hb.2
    rw [printItems, finiteItems]
    simp only [List.cons_append, List.foldl_cons, foldl_append]
    simpa using hitems

/-- The members after the first are read back. -/
theorem Ready.members (indent : Option Nat) (level : Nat) (ms : List (Spelling × Json)) {s : Scan}
    {members : List (Spelling × Json)} {stack : List Frame}
    (h : s.Ready (.running .separator (.object members none :: stack)))
    (hd : stack.length + 1 + depthOfMembers ms ≤ Dialect.filledDepth) (hw : membersWhole ms = true)
    (hb : membersBrief ms) : ((printMembers indent level ms).foldl step s).Ready
      (.running .separator (.object ((finiteMembers ms).reverse ++ members) none :: stack)) := by
  match ms with
  | [] => exact h
  | m :: ms =>
    rw [depthOfMembers] at hd
    rw [membersWhole, Bool.and_eq_true] at hw
    rw [membersBrief] at hb
    have hcomma := (h.mark isMark_comma endsNumber_comma rfl).lineBreak indent level
    have hmember := hcomma.member indent level m (.inl rfl) (by omega) hw.1 hb.1
    have hmembers := hmember.members indent level ms (by omega) hw.2 hb.2
    rw [printMembers, finiteMembers]
    simp only [List.cons_append, List.foldl_cons, foldl_append]
    simpa using hmembers

/-- A member is read back where its name is due. -/
theorem Idle.member (indent : Option Nat) (level : Nat) (m : Spelling × Json) {s : Scan}
    {next : Expectation} {members : List (Spelling × Json)} {stack : List Frame}
    (h : s.Idle (.running next (.object members none :: stack)))
    (hnext : next = .name ∨ next = .firstName)
    (hd : stack.length + 1 + depthOfMember m ≤ Dialect.filledDepth) (hw : memberWhole m = true)
    (hb : memberBrief m) : ((printMember indent level m).foldl step s).Ready
      (.running .separator (.object (finiteMember m :: members) none :: stack)) := by
  match m with
  | (name, j) =>
    rw [depthOfMember] at hd
    rw [memberWhole, Bool.and_eq_true] at hw
    rw [memberBrief] at hb
    have hlen : (Frame.object members none :: stack).length ≤ Dialect.filledDepth := by
      rw [List.length_cons]
      omega
    have hname := h.string hw.1 (step_of_name hnext (startName_string hlen hw.1))
    have hvalue := (hname.nameMark indent rfl).value indent level j (.inl rfl)
      (by rw [List.length_cons]; omega) hw.2 hb
    rw [printMember, finiteMember]
    rw [foldl_append, foldl_append]
    exact hvalue

end

end Scan

/-- A value that is written is read back, with null for each number that is not finite.  A line
break may follow; without indentation that is nothing. -/
theorem parse_render_lineBreak (indent : Option Nat) {j : Json}
    (hd : j.depth ≤ Dialect.filledDepth) (hw : j.isWhole = true) (hb : j.isBrief)
    (ending : Option Nat) (level : Nat) :
    parse .document (j.render indent ++ String.ofList (lineBreak ending level)) = .ok j.finite := by
  have hstart : ({} : Scan).Idle (.running .value []) := ⟨rfl, rfl⟩
  have hprint : ((print indent 0 j).foldl Scan.step {}).Ready (.finished j.finite) :=
    hstart.value indent 0 j (.inl rfl) (by simpa using hd) hw hb
  have hready : ((print indent 0 j ++ lineBreak ending level).foldl Scan.step {}).Ready
      (.finished j.finite) := by
    rw [Scan.foldl_append]
    exact hprint.lineBreak ending level
  have hmark : (print indent 0 j ++ lineBreak ending level).head? ≠ some '\ufeff' := by
    intro hhead
    obtain ⟨cs, hcs⟩ := List.head?_eq_some_iff.1 hhead
    rw [hcs] at hready
    exact hready.ne_halted (Scan.foldl_halted rfl cs)
  rw [parse, render, String.toList_append, String.toList_ofList, String.toList_ofList, if_neg hmark,
    lex, hready.close]

end Promptbook.Json
