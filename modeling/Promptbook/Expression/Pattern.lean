import Promptbook.Number.Numeral
import Promptbook.Expression.Tree

/-!
# Grammars and how they are read

A rule of a grammar has several ways, which are tried in order; the first that fits is taken, and
what a repeated part takes is never given back.  A way is a list of items, and what it builds is a
function of the trees of its items.  Some ways only explain what is wrong; they are tried when a
text has turned out to be none of the grammar.  Results are kept by position for the rules that
ask for it: a rule that starts with itself grows from such a result.
-/

namespace Promptbook.Expression

/-- What a token has to be. -/
inductive Wanted where
  | mark (text : String)
  | name
  /-- A name that a word starts with that is reserved in some places. -/
  | softName
  | figure
  | quotation
  | lineEnd
  | finish
  deriving DecidableEq, Repr

/-- What a way asks for at a position. -/
inductive Item (ρ : Type) where
  | token (w : Wanted)
  | rule (r : ρ)
  | choice (ways : List (List (Item ρ)))
  | optional (i : Item ρ)
  | many (i : Item ρ)
  | some (i : Item ρ)
  /-- One or more, with a mark between them. -/
  | separated (mark : Wanted) (i : Item ρ)
  | ahead (i : Item ρ)
  | notAhead (i : Item ρ)
  /-- From here on no other way is tried. -/
  | cut

/-- Why a text is no expression, or why reading it ends. -/
inductive Fault where
  /-- The tokens are out of order, in words. -/
  | wording (text : String)
  /-- An expression in a template is none, in its own words. -/
  | inner (text : String)
  | token (f : TokenFault) (opened : List Bracket)
  | tooDeep
  deriving DecidableEq, Repr

/-- Where a way has been found: the line of its first token and the number of brackets that are open
behind its last one. -/
structure Extent where
  line : Nat
  level : Nat
  deriving DecidableEq, Repr

/-- What becomes of the trees of a way: their result, or nothing, in which case the rule fails. -/
structure Built where
  cautions : List Caution := []
  result : Except Fault (Option (List Tree))

/-- A way of a rule. -/
structure Way (ρ : Type) where
  items : List (Item ρ)
  build : Extent → List Tree → Built := fun _ parts => { result := .ok (some parts) }
  /-- It only explains what is wrong. -/
  explains : Bool := false

/-- Whether the results of a rule are kept. -/
inductive Retention where
  | dropped
  | kept
  /-- The rule starts with itself, and its results grow. -/
  | growing
  deriving DecidableEq, Repr

/-- A grammar. -/
structure Grammar (ρ : Type) where
  ways : ρ → List (Way ρ)
  retention : ρ → Retention
  /-- Inside such a rule nothing is explained. -/
  isPlain : ρ → Bool

/-- What has been read so far: how many tokens have been looked at, what was told about them, and
the results that are kept by position. -/
structure Progress (ρ : Type) where
  fetched : Nat := 0
  cautions : List Caution := []
  results : Array (List (ρ × Option (List Tree × Nat))) := #[]

/-- A reader of tokens. -/
abbrev Reader (ρ α : Type) := ExceptT Fault (StateM (Progress ρ)) α

/-- Where a rule is read: how many rules, choices and repetitions it stands in, and whether it may
explain what is wrong. -/
structure Site where
  depth : Nat
  explains : Bool
  deriving DecidableEq, Repr

/-- How many rules, choices and repetitions may stand in each other. -/
def depthLimit : Nat := 6000

/-- What an item or a list of items comes to. -/
inductive Outcome where
  | found (parts : List Tree) (next : Nat)
  | missed
  /-- No other way is tried. -/
  | stopped

/-- Whether a lexeme is what is wanted. -/
def Wanted.fits : Wanted → Lexeme → Bool
  | mark text, .mark s => text == s
  | name, .name _ => true
  | softName, .name word => softWords.any fun soft => word.toList.isPrefixOf soft.toList
  | figure, .figure _ | figure, .longFigure _ => true
  | quotation, .quotation _ => true
  | lineEnd, .lineEnd => true
  | finish, .finish => true
  | _, _ => false

/-- The wording of a number with too many digits. -/
def longFigure (digits : Nat) : String :=
  Promptbook.Numeral.tooManyDigits digits ++
    " - Consider hexadecimal for huge integer literals to avoid decimal conversion limits."

/-- The trees that a token becomes. -/
def Token.trees (t : Token) : Except Fault (List Tree) :=
  match t.lexeme with
  | .name word => .ok [.node (.name word) t.line []]
  | .figure f => .ok [.node (.constant (.figure f)) t.line []]
  | .quotation q => .ok [.node (.quotation q) t.line []]
  | .longFigure digits => .error (.wording (longFigure digits))
  | _ => .ok []

namespace Site

/-- The site one level deeper. -/
def deeper {ρ : Type} (s : Site) : Reader ρ Site :=
  if depthLimit ≤ s.depth then throw .tooDeep else return { s with depth := s.depth + 1 }

end Site

section

variable {ρ : Type} [DecidableEq ρ] (tokens : Array Token)

/-- The token at a position; the last one is a fault or the end. -/
def tokenAt (i : Nat) : Token :=
  (tokens[i]?).getD (tokens.back?.getD { lexeme := .finish, line := 1, opened := [] })

/-- Looks at a token. -/
def fetch (i : Nat) : Reader ρ Token := do
  let t := tokenAt tokens i
  modify fun p =>
    if i < p.fetched then p
    else { p with
      fetched := i + 1
      cautions := p.cautions ++ t.caution.toList
      results := p.results.push [] }
  match t.lexeme with
  | .fault f => throw (.token f t.opened)
  | _ => return t

/-- Reads one token. -/
def readToken (w : Wanted) (i : Nat) : Reader ρ Outcome := do
  let t ← fetch tokens i
  if w.fits t.lexeme then return .found (← t.trees) (i + 1) else return .missed

/-- Reads as often as something is found, given a bound. -/
def readMany (read : Nat → Reader ρ Outcome) : Nat → Nat → Reader ρ (List Tree × Nat)
  | 0, i => return ([], i)
  | n + 1, i => do
    match ← read i with
    | .found ps j =>
      let (qs, k) ← readMany read n j
      return (ps ++ qs, k)
    | _ => return ([], i)

variable (call : Site → ρ → Nat → Reader ρ (Option (List Tree × Nat)))

mutual

/-- Reads an item at a position. -/
def readItem : Item ρ → Site → Nat → Reader ρ Outcome
  | .token w, _, i => readToken tokens w i
  | .rule r, s, i => do
    match ← call s r i with
    | some (ps, j) => return .found ps j
    | none => return .missed
  | .choice ways, s, i => do readFirst ways (← s.deeper) i
  | .optional x, s, i => do
    match ← readItem x s i with
    | .found ps j => return .found ps j
    | _ => return .found [] i
  | .many x, s, i => do
    let s ← s.deeper
    let (ps, j) ← readMany (readItem x s) (tokens.size + 1) i
    return .found ps j
  | .some x, s, i => do
    let s ← s.deeper
    let (ps, j) ← readMany (readItem x s) (tokens.size + 1) i
    return if i < j then .found ps j else .missed
  | .separated w x, s, i => do
    let s ← s.deeper
    match ← readItem x s i with
    | .found ps j =>
      let s ← s.deeper
      let (qs, k) ← readMany (fun i => do
        match ← readToken tokens w i with
        | .found _ j => readItem x s j
        | o => return o) (tokens.size + 1) j
      return .found (ps ++ qs) k
    | _ => return .missed
  | .ahead x, s, i => do
    match ← readItem x s i with
    | .found _ _ => return .found [] i
    | _ => return .missed
  | .notAhead x, s, i => do
    match ← readItem x s i with
    | .found _ _ => return .missed
    | _ => return .found [] i
  | .cut, _, i => return .found [] i

/-- Reads items one behind the other. -/
def readAll : List (Item ρ) → Site → Nat → Reader ρ Outcome
  | [], _, i => return .found [] i
  | .cut :: items, s, i => do
    match ← readAll items s i with
    | .missed => return .stopped
    | o => return o
  | item :: items, s, i => do
    match ← readItem item s i with
    | .found ps j =>
      match ← readAll items s j with
      | .found qs k => return .found (ps ++ qs) k
      | o => return o
    | _ => return .missed

/-- Reads the first list of items that fits. -/
def readFirst : List (List (Item ρ)) → Site → Nat → Reader ρ Outcome
  | [], _, _ => return .missed
  | items :: ways, s, i => do
    match ← readAll items s i with
    | .missed => readFirst ways s i
    | o => return o

end

/-- Reads the first way that fits and builds its result. -/
def readWays : List (Way ρ) → Site → Nat → Reader ρ (Option (List Tree × Nat))
  | [], _, _ => return none
  | w :: ways, s, i => do
    if w.explains && !s.explains then readWays ways s i
    else match ← readAll tokens call w.items s i with
      | .missed => readWays ways s i
      | .stopped => return none
      | .found ps j =>
        let built := w.build
          ⟨(tokenAt tokens i).line, (tokenAt tokens (j - 1)).opened.length⟩ ps
        modify fun p => { p with cautions := p.cautions ++ built.cautions }
        match built.result with
        | .error f => throw f
        | .ok none => return none
        | .ok (some qs) => return some (qs, j)

/-- The kept result of a rule at a position. -/
def kept (r : ρ) (i : Nat) : Reader ρ (Option (Option (List Tree × Nat))) := do
  let _ ← fetch tokens i
  return ((← get).results.getD i []).lookup r

/-- Keeps a result, in the place of an earlier one. -/
def keep (r : ρ) (i : Nat) (result : Option (List Tree × Nat)) : Reader ρ Unit :=
  modify fun p => { p with
    results := p.results.modify i fun kept => (r, result) :: kept.filter fun k => k.1 ≠ r }

/-- Reads a rule that starts with itself as often as its result gets longer, given a bound. -/
def grow (r : ρ) (i : Nat) (read : Reader ρ (Option (List Tree × Nat))) :
    Nat → Option (List Tree × Nat) → Reader ρ (Option (List Tree × Nat))
  | 0, best => return best
  | n + 1, best => do
    keep r i best
    match ← read with
    | some (ps, j) => if best.elim i (·.2) < j then grow r i read n (some (ps, j)) else return best
    | none => return best

namespace Grammar

/-- Reads a rule at a position, given a bound on the rules that stand in each other. -/
def readRule (g : Grammar ρ) : Nat → Site → ρ → Nat → Reader ρ (Option (List Tree × Nat))
  | 0, _, _, _ => throw .tooDeep
  | n + 1, site, r, i => do
    let s ← site.deeper
    let s := { s with explains := s.explains && !g.isPlain r }
    let read (s : Site) := readWays tokens (readRule g n) (g.ways r) s i
    match g.retention r with
    | .dropped => read s
    | .kept =>
      match ← kept tokens r i with
      | some result => return result
      | none =>
        let result ← read s
        keep r i result
        return result
    | .growing =>
      match ← kept tokens r i with
      | some result => return result
      | none =>
        let s ← s.deeper
        grow r i (read s) (tokens.size + 1) none

/-- Reads a rule from the first token on. -/
def read (g : Grammar ρ) (r : ρ) (explains : Bool) (p : Progress ρ) :
    Except Fault (Option (List Tree × Nat)) × Progress ρ :=
  (g.readRule tokens (depthLimit + 1) ⟨0, explains⟩ r 0).run.run p

end Grammar

end

end Promptbook.Expression
