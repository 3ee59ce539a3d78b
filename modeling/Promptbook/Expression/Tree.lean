import Promptbook.Expression.Token

/-!
# Expressions as trees

An expression is a tree whose nodes have a kind and a line.  Kinds are told apart as far as
literals and messages do so.
-/

namespace Promptbook.Expression

/-- A constant. -/
inductive Constant where
  | nothing
  | truth (b : Bool)
  | ellipsis
  | figure (f : Figure)
  | text
  | bytes
  deriving DecidableEq, Repr

/-- What a node is. -/
inductive Kind where
  | name (word : String)
  | constant (c : Constant)
  /-- A string that has not been joined with its neighbours yet. -/
  | quotation (q : Quotation)
  /-- A string with fields. -/
  | template
  | tuple
  | set
  /-- A table; its parts are entries and unpacked tables. -/
  | table
  | entry
  | unpacked
  | starred
  /-- A number under a plus or a minus sign. -/
  | signed
  | sum
  | difference
  /-- Any other operation on values. -/
  | operation
  | comparison
  /-- The right side of a comparison that asks for membership. -/
  | membership
  | conditional
  | function
  | assignment
  | production
  | awaiting
  | member
  | call
  /-- The arguments of a call; positional ones stand as they are. -/
  | arguments
  | keyword
  | spread
  | generator
  | setGenerator
  | tableGenerator
  deriving DecidableEq, Repr

/-- A node with its line and its parts. -/
inductive Tree where
  | node (kind : Kind) (line : Nat) (parts : List Tree)
  deriving Repr

/-- The words for a constant in a message. -/
def Constant.description : Constant → String
  | nothing => "None"
  | truth true => "True"
  | truth false => "False"
  | ellipsis => "ellipsis"
  | _ => "literal"

/-- The words for a node in a message. -/
def Kind.description : Kind → String
  | name _ => "name"
  | constant c => c.description
  | template => "f-string expression"
  | tuple => "tuple"
  | set => "set display"
  | table => "dict literal"
  | starred => "starred"
  | comparison => "comparison"
  | conditional => "conditional expression"
  | function => "lambda"
  | assignment => "named expression"
  | production => "yield expression"
  | awaiting => "await expression"
  | member => "attribute"
  | call => "function call"
  | generator => "generator expression"
  | setGenerator => "set comprehension"
  | tableGenerator => "dict comprehension"
  | _ => "expression"

namespace Tree

/-- The kind of a node. -/
def kind : Tree → Kind
  | node k _ _ => k

/-- The words for a tree in a message. -/
def description (t : Tree) : String := t.kind.description

/-- The parts of the arguments of a call, where there are any. -/
def argumentParts : List Tree → List Tree
  | [node .arguments _ parts] => parts
  | parts => parts

/-- Whether an argument has a place rather than a name. -/
def isPositional (t : Tree) : Bool := t.kind ≠ .keyword && t.kind ≠ .spread

mutual

/-- The first part of a target of a loop that nothing can be assigned to. -/
def badTarget? : Tree → Option Tree
  | node .tuple _ parts => firstBadTarget? parts
  | node .starred _ parts => firstBadTarget? parts
  | node .comparison _ (left :: node .membership _ _ :: _) => badTarget? left
  | node .comparison _ _ => none
  | node (.name _) _ _ => none
  | node .member _ _ => none
  | t => some t

/-- The first such part in a list. -/
def firstBadTarget? : List Tree → Option Tree
  | [] => none
  | t :: ts => (badTarget? t).or (firstBadTarget? ts)

end

end Tree

end Promptbook.Expression
