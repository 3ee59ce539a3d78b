import Promptbook.Json.Lexer
import Promptbook.Number.Numeral

/-!
# Reading JSON

The tokens of a text drive a machine with a stack of open arrays and objects.  Two dialects are
read: documents, which nest less deeply and hold no halves of surrogate pairs, and embedded texts,
whose faults are told with their position.  Both limit the digits of a number.
-/

namespace Promptbook.Json

/-- The kinds of text. -/
inductive Dialect where
  /-- Documents. -/
  | document
  /-- Texts that stand inside a document. -/
  | embedded
  /-- Texts without any limit. -/
  | free
  deriving DecidableEq, Repr

namespace Dialect

/-- How deep arrays and objects that hold something may nest in a document. -/
def filledDepth : Nat := 200

/-- How deep arrays and objects of any kind may nest in an embedded text. -/
def openDepth : Nat := 986

/-- Whether a value could be read from a document. -/
def documentAllows (j : Json) : Bool := j.depth ≤ filledDepth && j.isWhole

end Dialect

/-- What is wrong with a text. -/
inductive SyntaxFault where
  | value
  | comma
  | colon
  | name
  | extra
  | string (fault : StringFault)
  | byteOrderMark
  /-- A whole number with too many digits in an embedded text. -/
  | digits (count : Nat)
  /-- An array, or an object, that is nested too deeply in an embedded text. -/
  | depth (isArray : Bool)
  /-- Something that documents do not hold. -/
  | dialect
  deriving DecidableEq, Repr

/-- The wording of what is wrong. -/
def SyntaxFault.message : SyntaxFault → String
  | .value => "Expecting value"
  | .comma => "Expecting ',' delimiter"
  | .colon => "Expecting ':' delimiter"
  | .name => "Expecting property name enclosed in double quotes"
  | .extra => "Extra data"
  | .string .unterminated => "Unterminated string starting at"
  | .string .control => "Invalid control character at"
  | .string .escape => "Invalid \\escape"
  | .string .unicodeEscape => "Invalid \\uXXXX escape"
  | .byteOrderMark => "Unexpected UTF-8 BOM (decode using utf-8-sig)"
  | .digits count => Numeral.tooManyDigits count
  | .depth isArray =>
    "maximum recursion depth exceeded while decoding a JSON " ++
      (if isArray then "array" else "object") ++ " from a unicode string"
  | .dialect => "Unsupported text"

/-- Whether a fault is told with its place. -/
def SyntaxFault.isPlaced : SyntaxFault → Bool
  | .digits _ | .depth _ => false
  | _ => true

/-- A fault and its place: the position from 0, and the line and column from 1. -/
structure Malformed where
  fault : SyntaxFault
  position : Nat
  line : Nat
  column : Nat
  deriving DecidableEq, Repr

/-- The wording of a fault, with its place where that is told. -/
def Malformed.message (m : Malformed) : String :=
  if m.fault.isPlaced then
    m.fault.message ++ ": line " ++ Text.decimal m.line ++ " column " ++ Text.decimal m.column ++
      " (char " ++ Text.decimal m.position ++ ")"
  else m.fault.message

/-- A fault at a position of a text. -/
def Malformed.ofPosition (cs : List Char) (fault : SyntaxFault) (position : Nat) : Malformed :=
  let before := cs.take position
  ⟨fault, position, before.count '\n' + 1, (before.reverse.takeWhile (· ≠ '\n')).length + 1⟩

/-- An open array or object with what it holds so far, the last first, and the name of the member
that is being read. -/
inductive Frame where
  | array (items : List Json)
  | object (members : List (Spelling × Json)) (name : Option Spelling)

/-- What may come next. -/
inductive Expectation where
  | value
  | firstItem
  | name
  | firstName
  | colon
  | separator

/-- The state of the machine. -/
inductive Machine where
  | running (next : Expectation) (stack : List Frame)
  | finished (j : Json)

namespace Machine

/-- A value has been read: it goes to the innermost open array or object. -/
def deliver (j : Json) : List Frame → Machine
  | [] => .finished j
  | .array items :: stack => .running .separator (.array (j :: items) :: stack)
  | .object members name :: stack =>
    .running .separator (.object ((name.map fun n => (n, j)).toList ++ members) none :: stack)

/-- What is wrong with a whole number, or with another number, that has some digits before its
point. -/
def numberFault? (d : Dialect) (isWhole : Bool) (digits : Nat) : Option SyntaxFault :=
  match d with
  | .document => if Numeral.digitLimit < digits then some .dialect else none
  | .embedded => if isWhole && Numeral.digitLimit < digits then some (.digits digits) else none
  | .free => none

/-- What is wrong with an array, or with an object, below some open ones. -/
def depthFault? (d : Dialect) (isArray : Bool) (stack : List Frame) : Option SyntaxFault :=
  if d = .embedded ∧ Dialect.openDepth ≤ stack.length then some (.depth isArray) else none

/-- What is wrong with anything inside some open arrays and objects. -/
def contentFault? (d : Dialect) (stack : List Frame) : Option SyntaxFault :=
  if d = .document ∧ Dialect.filledDepth < stack.length then some .dialect else none

/-- What is wrong with a string. -/
def stringFault? (d : Dialect) (s : Spelling) : Option SyntaxFault :=
  if d = .document ∧ !s.isWhole then some .dialect else none

/-- A machine, unless there is a fault. -/
def guarded (fault : Option SyntaxFault) (m : Machine) : Except SyntaxFault Machine :=
  fault.elim (.ok m) .error

/-- A token where a value is due. -/
def startValue (d : Dialect) (stack : List Frame) (t : Token) : Except SyntaxFault Machine :=
  let fault := contentFault? d stack
  match t with
  | .openArray =>
    guarded (fault <|> depthFault? d true stack) (.running .firstItem (.array [] :: stack))
  | .openObject =>
    guarded (fault <|> depthFault? d false stack) (.running .firstName (.object [] none :: stack))
  | .scalar j => guarded fault (deliver j stack)
  | .number j digits =>
    let isWhole := match j with
      | .integer _ => true
      | _ => false
    guarded (fault <|> numberFault? d isWhole digits) (deliver j stack)
  | .string s => guarded (fault <|> stringFault? d s) (deliver (.text s) stack)
  | .faulty fault _ => .error (.string fault)
  | _ => .error .value

/-- A token where the name of a member is due. -/
def startName (d : Dialect) (members : List (Spelling × Json)) (stack : List Frame) :
    Token → Except SyntaxFault Machine
  | .string s =>
    guarded (contentFault? d (.object members none :: stack) <|> stringFault? d s)
      (.running .colon (.object members (some s) :: stack))
  | .faulty fault _ => .error (.string fault)
  | _ => .error .name

/-- One step of the machine. -/
def step (d : Dialect) : Machine → Token → Except SyntaxFault Machine
  | .finished j, .finish => .ok (.finished j)
  | .finished _, _ => .error .extra
  | .running .firstItem (.array _ :: stack), .closeArray => .ok (deliver (.array []) stack)
  | .running .firstName (.object _ _ :: stack), .closeObject => .ok (deliver (.object []) stack)
  | .running .separator (.array items :: stack), .closeArray =>
    .ok (deliver (.array items.reverse) stack)
  | .running .separator (.object members _ :: stack), .closeObject =>
    .ok (deliver (.object members.reverse) stack)
  | .running .separator (.array items :: stack), .comma =>
    .ok (.running .value (.array items :: stack))
  | .running .separator (.object members _ :: stack), .comma =>
    .ok (.running .name (.object members none :: stack))
  | .running .separator _, _ => .error .comma
  | .running .colon stack, .colon => .ok (.running .value stack)
  | .running .colon _, _ => .error .colon
  | .running .name (.object members _ :: stack), t
  | .running .firstName (.object members _ :: stack), t => startName d members stack t
  | .running _ stack, t => startValue d stack t

end Machine

/-- The position that a fault at a token is told with: that of the fault inside the string where
the string is at fault, else that of the token. -/
def Lexeme.faultPosition (l : Lexeme) : SyntaxFault → Nat
  | .string _ => match l.token with
    | .faulty _ position => position
    | _ => l.start
  | _ => l.start

/-- Runs the machine on some tokens. -/
def run (d : Dialect) : Machine → List Lexeme → Except (SyntaxFault × Nat) Machine
  | m, [] => .ok m
  | m, l :: ls =>
    match m.step d l.token with
    | .ok m => run d m ls
    | .error f => .error (f, l.faultPosition f)

/-- The value of a text, or the first fault. -/
def parse (d : Dialect) (text : String) : Except Malformed Json :=
  let cs := text.toList
  if cs.head? = some '\ufeff' then .error (.ofPosition cs .byteOrderMark 0)
  else match run d (.running .value []) (lex cs) with
    | .ok (.finished j) => .ok j
    | .ok (.running ..) => .error (.ofPosition cs .value cs.length)
    | .error (f, position) => .error (.ofPosition cs f position)

end Promptbook.Json
