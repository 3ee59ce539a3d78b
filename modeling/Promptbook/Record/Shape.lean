import Promptbook.Record.Scalar

/-!
# Shapes of records

A shape says how a value is laid out in a document.  From it come a reader, which tells every
problem of a value, and a writer.  A field may be found under either of two names and is written
under the first; a field that is absent may have a default.
-/

namespace Promptbook.Record

/-- Whether a shape lays out a whole value or the members of an object. -/
inductive Grain where
  | value
  | members
  deriving DecidableEq, Repr

/-- What a shape of a grain is read from and written to. -/
@[reducible] def Grain.Form : Grain → Type
  | value => Json
  | members => List (Spelling × Json)

/-- The names of a field: the one that is written, and another that is read as well. -/
structure Key where
  name : String
  alternative : String
  deriving DecidableEq, Repr

/-- A field with a single name. -/
def Key.single (name : String) : Key := ⟨name, name⟩

instance : Coe String Key := ⟨Key.single⟩

/-- The member of a field with the name it stands under; the first name goes before the other. -/
def Key.find? (k : Key) (ms : List (Spelling × Json)) : Option (String × Json) :=
  match Json.lookup? k.name ms with
  | some j => some (k.name, j)
  | none => (Json.lookup? k.alternative ms).map fun j => (k.alternative, j)

/-- How the fields of a record make up a value: a law that ties them together, and members that
follow from the value, which are written and not read. -/
structure Packing (σ τ : Type) where
  pack : σ → τ
  unpack : τ → σ
  pack_unpack : ∀ t, pack (unpack t) = t := by intros; rfl
  law : τ → Option Fault := fun _ => none
  derived : τ → List (Spelling × Json) := fun _ => []

/-- The value of some fields, where it keeps the law. -/
def Packing.accept {σ τ : Type} (p : Packing σ τ) (s : σ) : Checked τ :=
  (p.law (p.pack s)).elim (.ok (p.pack s)) Checked.fail

/-- How a value is laid out in a document. -/
inductive Shape : Grain → Type → Type 1 where
  | text : Shape .value Spelling
  | number (r : Range) : Shape .value Float
  | integer (least : Option Int) : Shape .value Int
  | flag : Shape .value Bool
  | word {τ : Type} (v : Vocabulary τ) : Shape .value τ
  | literal (w : String) : Shape .value Unit
  /-- Any JSON value. -/
  | raw : Shape .value Json
  /-- A value or null. -/
  | optional {τ : Type} (s : Shape .value τ) : Shape .value (Option τ)
  | list {τ : Type} (s : Shape .value τ) : Shape .value (List τ)
  /-- A value, or a text that holds the value as JSON. -/
  | embedded {τ : Type} (s : Shape .value τ) : Shape .value τ
  | record {σ τ : Type} (fields : Shape .members σ) (p : Packing σ τ) : Shape .value τ
  /-- No further fields. -/
  | done : Shape .members Unit
  | field {σ τ : Type} (key : Key) (s : Shape .value τ) (default : Option τ)
      (rest : Shape .members σ) : Shape .members (τ × σ)

/-- A scalar as a checked value. -/
def Checked.ofScalar {τ : Type} : Except Fault τ → Checked τ
  | .ok t => .ok t
  | .error f => fail f

/-- A value or null. -/
def readOptional {τ : Type} (read : Json → Checked τ) : Json → Checked (Option τ)
  | .null => .ok none
  | j => (read j).map some

/-- A list of values. -/
def readList {τ : Type} (read : Json → Checked τ) : Json → Checked (List τ)
  | .array js => Checked.each read 0 js
  | _ => Checked.fail .notArray

/-- A value, or a text that holds it. -/
def readEmbedded {τ : Type} (read : Json → Checked τ) : Json → Checked τ
  | .text s =>
    match s.text? with
    | none => Checked.fail .brokenText
    | some t =>
      match Json.parse .embedded t with
      | .ok j => read j
      | .error m => Checked.fail (.malformed m)
  | j => read j

/-- The members of an object. -/
def readMembers {τ : Type} (read : List (Spelling × Json) → Checked τ) : Json → Checked τ
  | .object ms => read ms
  | _ => Checked.fail .notObject

/-- The value of a field. -/
def readField {τ : Type} (key : Key) (default : Option τ) (read : Json → Checked τ)
    (ms : List (Spelling × Json)) : Checked τ :=
  match key.find? ms with
  | some (name, j) => Checked.under (.key name) (read j)
  | none => default.elim (.error [⟨[.key key.name], .missing⟩]) .ok

namespace Shape

/-- A word of the vocabulary of a type. -/
abbrev choice (τ : Type) [v : Vocabulary τ] : Shape .value τ := word v

/-- The value that is laid out at a site, or all that is wrong with it. -/
def readAt (site : Site) : {g : Grain} → {τ : Type} → Shape g τ → g.Form → Checked τ
  | _, _, text, j => .ofScalar (readText j)
  | _, _, number r, j => .ofScalar (readNumber site r j)
  | _, _, integer least, j => .ofScalar (readInteger least j)
  | _, _, flag, j => .ofScalar (readFlag j)
  | _, _, word v, j => .ofScalar (readWord v j)
  | _, _, literal w, j => .ofScalar (readLiteral w j)
  | _, _, raw, j => .ok j
  | _, _, optional s, j => readOptional (readAt site s) j
  | _, _, list s, j => readList (readAt site s) j
  | _, _, embedded s, j => readEmbedded (readAt .embedded s) j
  | _, _, record fields p, j => readMembers (fun ms => readAt site fields ms >>= p.accept) j
  | _, _, done, _ => .ok ()
  | _, _, field key s default rest, ms =>
    (readField key default (readAt site s) ms).both (readAt site rest ms)

/-- The value that is laid out in a document, or all that is wrong with it. -/
def read {g : Grain} {τ : Type} (s : Shape g τ) (form : g.Form) : Checked τ :=
  readAt .document s form

/-- The layout of a value. -/
def write : {g : Grain} → {τ : Type} → Shape g τ → τ → g.Form
  | _, _, text, t => .text t
  | _, _, number _, x => .number x
  | _, _, integer _, n => .integer n
  | _, _, flag, b => .bool b
  | _, _, word v, t => .text (v.word t)
  | _, _, literal w, _ => .text w
  | _, _, raw, j => j.finite
  | _, _, optional s, t => t.elim .null s.write
  | _, _, list s, ts => .array (ts.map s.write)
  | _, _, embedded s, t => s.write t
  | _, _, record fields p, t => .object (fields.write (p.unpack t) ++ p.derived t)
  | _, _, done, _ => []
  | _, _, field key s _ rest, t => (key.name, s.write t.1) :: rest.write t.2

/-- The value that JSON lays out, where the JSON could stand in a document. -/
def readValue {τ : Type} (s : Shape .value τ) (j : Json) : Checked τ :=
  if Json.Dialect.documentAllows j then s.read j else Checked.fail .invalid

/-- The value that a document holds. -/
def readDocument {τ : Type} (s : Shape .value τ) (text : String) : Checked τ :=
  match Json.parse .document text with
  | .ok j => s.read j
  | .error _ => Checked.fail .invalid

end Shape

end Promptbook.Record
