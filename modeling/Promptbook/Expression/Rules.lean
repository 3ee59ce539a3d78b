import Promptbook.Expression.Pattern

/-!
# The grammar of expressions

The rules of expressions, from conditions down to names and brackets, and with them the rules that
explain what is wrong with a text that is no expression.  A text is an expression up to the end of
its tokens; a field of a template is an expression at their start.
-/

namespace Promptbook.Expression

/-- A rule of the grammar. -/
inductive Rule where
  | text | field
  | expressions | expression | plainExpression | production | starExpressions | starExpression
  | starNamedExpressions | starNamedExpression | assignment | namedExpression
  | disjunction | conjunction | inversion | comparison | compared
  | bitwiseOr | bitwiseXor | bitwiseAnd | shift | sum | term | factor | power | awaited | primary
  | atom | group | strings | tuple | set | table | entries | entry | pair
  | loops | loop | generator | setGenerator | tableGenerator
  | arguments | argumentList | keywords | starred | keywordOrStarred | keywordOrSpread
  | function | parameters | parameterList | slashPlain | slashDefault | starParameters
  | spreadParameter | plainParameter | defaultParameter | anyParameter | parameter | defaultValue
  | targets | target | dottedTarget | targetAtom | targetTuple | targetPrimary | targetAhead
  | badExpression | badLegacy | badNamed | badGroup | badEntries | badPair | badGenerator
  | badTableGenerator | badLoop | badArguments | badKeyword | badParameters | badDefault
  | badParametersStart | badStarParameters | badSpreadParameter
  deriving DecidableEq, Repr

namespace Rule

instance : Coe String (Item Rule) := ⟨fun text => .token (.mark text)⟩

instance : Coe Rule (Item Rule) := ⟨.rule⟩

/-- A way that builds a node of its trees. -/
def node (kind : Kind) (items : List (Item Rule)) : Way Rule where
  items := items
  build e parts := { result := .ok (some [.node kind e.line parts]) }

/-- A way whose result are its trees. -/
def pass (items : List (Item Rule)) : Way Rule := { items := items }

/-- A way whose trees do not count. -/
def drop (items : List (Item Rule)) : Way Rule where
  items := items
  build _ _ := { result := .ok (some []) }

/-- A way that is tried for what it explains, or not taken at all. -/
def explain (r : Rule) : Way Rule := { items := [r], explains := true }

/-- A way that tells what is wrong. -/
def fault (wording : String) (items : List (Item Rule)) : Way Rule where
  items := items
  build _ _ := { result := .error (.wording wording) }

/-- A way that may tell what is wrong, and otherwise ends the rule. -/
def judge (items : List (Item Rule)) (wording? : Extent → List Tree → Option String) :
    Way Rule where
  items := items
  build e parts := { result := (wording? e parts).elim (.ok none) fun w => .error (.wording w) }

/-- A call; its arguments stand in it as they are. -/
def called (items : List (Item Rule)) : Way Rule where
  items := items
  build e parts := { result := .ok (some [.node .call e.line (match parts with
    | f :: given => f :: Tree.argumentParts given
    | [] => [])]) }

/-- The description of the first tree. -/
def described : List Tree → String
  | t :: _ => t.description
  | [] => ""

/-- The general wording of tokens out of order. -/
def outOfOrder : String := "invalid syntax"

/-- The wording of an equals sign where a comparison or a name for a value may be meant. -/
def equalsSign : String := outOfOrder ++ ". Maybe you meant '==' or ':=' instead of '='?"

/-- Two operands without an operator: in brackets a comma may be missing.  Words that were
statements once are told of by a rule of their own. -/
def missingComma (e : Extent) : List Tree → Option String
  | .node (.name word) _ _ :: _ =>
    if word = "print" ∨ word = "exec" ∨ e.level = 0 then none
    else some (outOfOrder ++ ". Perhaps you forgot a comma?")
  | _ => if e.level = 0 then none else some (outOfOrder ++ ". Perhaps you forgot a comma?")

/-- Words that were statements once. -/
def legacyStatement (_ : Extent) : List Tree → Option String
  | .node (.name word) _ _ :: _ =>
    if word = "print" ∨ word = "exec" then
      some ("Missing parentheses in call to '" ++ word ++ "'. Did you mean " ++ word ++ "(...)?")
    else none
  | _ => none

/-- A generator beside other arguments. -/
def bareGenerator : String := "Generator expression must be parenthesized"

/-- A generator behind other arguments; one that is alone needs no brackets. -/
def crowdedGenerator (_ : Extent) (parts : List Tree) : Option String :=
  if ((Tree.argumentParts parts).filter Tree.isPositional).length ≤ 1 then none
  else some bareGenerator

/-- Arguments in the wrong order. -/
def argumentOrder (_ : Extent) : List Tree → Option String
  | .node _ _ parts :: _ =>
    some ("positional argument follows keyword argument" ++
      if parts.any (·.kind = .spread) then " unpacking" else "")
  | [] => none

/-- A target that nothing can be assigned to. -/
def badTarget (_ : Extent) : List Tree → Option String
  | t :: _ => t.badTarget?.map fun t => "cannot assign to " ++ t.description
  | [] => none

/-- The name of a value. -/
def name : Item Rule := .token .name

/-- A list of one or more with commas between. -/
def list (i : Item Rule) : Item Rule := .separated (.mark ",") i

/-- Arguments that have a place rather than a name. -/
def positional : Item Rule :=
  list (.choice [
    [starred], [.choice [[assignment], [expression, .notAhead ":="]], .notAhead "="]])

/-- The ways of a rule; strings that follow each other are joined by a function of their line. -/
def ways (join : Extent → List Tree → Built) : Rule → List (Way Rule)
  | text => [pass [expressions, .many (.token .lineEnd), .token .finish]]
  | field => [pass [starExpressions]]
  | expressions => [
    node .tuple [expression, .some (.choice [[",", expression]]), .optional ","],
    node .tuple [expression, ","],
    pass [expression]]
  | expression => [
    explain badExpression,
    explain badLegacy,
    node .conditional [disjunction, "if", disjunction, "else", expression],
    pass [disjunction],
    pass [function]]
  | plainExpression => [
    node .conditional [disjunction, "if", disjunction, "else", expression],
    pass [disjunction],
    pass [function]]
  | production => [
    node .production ["yield", "from", expression],
    node .production ["yield", .optional starExpressions]]
  | starExpressions => [
    node .tuple [starExpression, .some (.choice [[",", starExpression]]), .optional ","],
    node .tuple [starExpression, ","],
    pass [starExpression]]
  | starExpression => [node .starred ["*", bitwiseOr], pass [expression]]
  | starNamedExpressions => [pass [list starNamedExpression, .optional ","]]
  | starNamedExpression => [node .starred ["*", bitwiseOr], pass [namedExpression]]
  | assignment => [node .assignment [name, ":=", .cut, expression]]
  | namedExpression => [
    pass [assignment],
    explain badNamed,
    pass [expression, .notAhead ":="]]
  | disjunction => [
    node .operation [conjunction, .some (.choice [["or", conjunction]])],
    pass [conjunction]]
  | conjunction => [
    node .operation [inversion, .some (.choice [["and", inversion]])],
    pass [inversion]]
  | inversion => [node .operation ["not", inversion], pass [comparison]]
  | comparison => [node .comparison [bitwiseOr, .some compared], pass [bitwiseOr]]
  | compared => [
    pass [.choice [["==", bitwiseOr]]],
    pass [.choice [["!=", bitwiseOr]]],
    pass [.choice [["<=", bitwiseOr]]],
    pass [.choice [["<", bitwiseOr]]],
    pass [.choice [[">=", bitwiseOr]]],
    pass [.choice [[">", bitwiseOr]]],
    pass [.choice [["not", "in", bitwiseOr]]],
    node .membership [.choice [["in", bitwiseOr]]],
    pass [.choice [["is", "not", bitwiseOr]]],
    pass [.choice [["is", bitwiseOr]]]]
  | bitwiseOr => [node .operation [bitwiseOr, "|", bitwiseXor], pass [bitwiseXor]]
  | bitwiseXor => [node .operation [bitwiseXor, "^", bitwiseAnd], pass [bitwiseAnd]]
  | bitwiseAnd => [node .operation [bitwiseAnd, "&", shift], pass [shift]]
  | shift => [
    node .operation [shift, "<<", sum],
    node .operation [shift, ">>", sum],
    pass [sum]]
  | sum => [node .sum [sum, "+", term], node .difference [sum, "-", term], pass [term]]
  | term => [
    node .operation [term, "*", factor],
    node .operation [term, "/", factor],
    node .operation [term, "//", factor],
    node .operation [term, "%", factor],
    node .operation [term, "@", factor],
    pass [factor]]
  | factor => [
    node .signed ["+", factor],
    node .signed ["-", factor],
    node .operation ["~", factor],
    pass [power]]
  | power => [node .operation [awaited, "**", factor], pass [awaited]]
  | awaited => [node .awaiting ["await", primary], pass [primary]]
  | primary => [
    node .member [primary, ".", name],
    called [primary, generator],
    called [primary, "(", .optional arguments, ")"],
    pass [atom]]
  | atom => [
    pass [name],
    node (.constant (.truth true)) ["True"],
    node (.constant (.truth false)) ["False"],
    node (.constant .nothing) ["None"],
    pass [.ahead (.token .quotation), strings],
    pass [.token .figure],
    pass [.ahead "(", .choice [[tuple], [group], [generator]]],
    pass [.ahead "\x7b", .choice [[table], [set], [tableGenerator], [setGenerator]]],
    node (.constant .ellipsis) ["..."]]
  | group => [
    pass ["(", .choice [[production], [namedExpression]], ")"],
    explain badGroup]
  | strings => [{ items := [.some (.token .quotation)], build := join }]
  | tuple => [node .tuple ["(",
      .optional (.choice [[starNamedExpression, ",", .optional starNamedExpressions]]), ")"]]
  | set => [node .set ["\x7b", starNamedExpressions, "\x7d"]]
  | table => [
    node .table ["\x7b", .optional entries, "\x7d"],
    drop ["\x7b", badEntries, "\x7d"]]
  | entries => [pass [list entry, .optional ","]]
  | entry => [node .unpacked ["**", bitwiseOr], pass [pair]]
  | pair => [node .entry [expression, ":", expression]]
  | loops => [drop [.some loop]]
  | loop => [
    drop ["async", "for", targets, "in", .cut, disjunction, .many (.choice [["if", disjunction]])],
    drop ["for", targets, "in", .cut, disjunction, .many (.choice [["if", disjunction]])],
    explain badLoop]
  | generator => [
    node .generator
      ["(", .choice [[assignment], [expression, .notAhead ":="]], loops, ")"],
    explain badGenerator]
  | setGenerator => [
    node .setGenerator ["\x7b", namedExpression, loops, "\x7d"],
    explain badGenerator]
  | tableGenerator => [
    node .tableGenerator ["\x7b", pair, loops, "\x7d"],
    explain badTableGenerator]
  | arguments => [
    pass [argumentList, .optional ",", .ahead ")"],
    explain badArguments]
  | argumentList => [
    node .arguments [positional, .optional (.choice [[",", keywords]])],
    node .arguments [keywords]]
  | keywords => [
    pass [list keywordOrStarred, ",", list keywordOrSpread],
    pass [list keywordOrStarred],
    pass [list keywordOrSpread]]
  | starred => [node .starred ["*", expression]]
  | keywordOrStarred => [
    explain badKeyword,
    node .keyword [name, "=", expression],
    pass [starred]]
  | keywordOrSpread => [
    explain badKeyword,
    node .keyword [name, "=", expression],
    node .spread ["**", expression]]
  | function => [node .function ["lambda", .optional parameters, ":", expression]]
  | parameters => [explain badParameters, pass [parameterList]]
  | parameterList => [
    pass [slashPlain, .many plainParameter, .many defaultParameter, .optional starParameters],
    pass [slashDefault, .many defaultParameter, .optional starParameters],
    pass [.some plainParameter, .many defaultParameter, .optional starParameters],
    pass [.some defaultParameter, .optional starParameters],
    pass [starParameters]]
  | slashPlain => [
    pass [.some plainParameter, "/", ","],
    pass [.some plainParameter, "/", .ahead ":"]]
  | slashDefault => [
    pass [.many plainParameter, .some defaultParameter, "/", ","],
    pass [.many plainParameter, .some defaultParameter, "/", .ahead ":"]]
  | starParameters => [
    explain badStarParameters,
    pass ["*", plainParameter, .many anyParameter, .optional spreadParameter],
    pass ["*", ",", .some anyParameter, .optional spreadParameter],
    pass [spreadParameter]]
  | spreadParameter => [explain badSpreadParameter, pass ["**", plainParameter]]
  | plainParameter => [pass [parameter, ","], pass [parameter, .ahead ":"]]
  | defaultParameter => [
    pass [parameter, defaultValue, ","],
    pass [parameter, defaultValue, .ahead ":"]]
  | anyParameter => [
    pass [parameter, .optional defaultValue, ","],
    pass [parameter, .optional defaultValue, .ahead ":"]]
  | parameter => [pass [name]]
  | defaultValue => [pass ["=", expression], explain badDefault]
  | targets => [
    pass [target, .notAhead ","],
    pass [target, .many (.choice [[",", target]]), .optional ","]]
  | target => [pass ["*", .choice [[.notAhead "*", target]]], pass [dottedTarget]]
  | dottedTarget => [
    pass [targetPrimary, ".", name, .notAhead targetAhead],
    pass [targetAtom]]
  | targetAtom => [
    pass [name],
    pass ["(", dottedTarget, ")"],
    pass ["(", .optional targetTuple, ")"]]
  | targetTuple => [
    pass [target, .some (.choice [[",", target]]), .optional ","],
    pass [target, ","]]
  | targetPrimary => [
    pass [targetPrimary, ".", name, .ahead targetAhead],
    pass [targetPrimary, generator, .ahead targetAhead],
    pass [targetPrimary, "(", .optional arguments, ")", .ahead targetAhead],
    pass [atom, .ahead targetAhead]]
  | targetAhead => [pass ["("], pass ["."]]
  | badExpression => [
    judge [.notAhead (.choice [[name, .token .quotation], [.token .softName]]),
      disjunction, plainExpression] missingComma,
    fault "expected 'else' after 'if' expression"
      [disjunction, "if", disjunction, .notAhead (.choice [["else"], [":"]])]]
  | badLegacy => [judge [name, .notAhead "(", starExpressions] legacyStatement]
  | badNamed => [
    judge [expression, ":=", expression] fun _ parts =>
      some ("cannot use assignment expressions with " ++ described parts),
    fault equalsSign [name, "=", bitwiseOr, .notAhead (.choice [["="], [":="]])],
    judge [.notAhead (.choice [[tuple], [generator], ["True"], ["None"], ["False"]]),
      bitwiseOr, "=", bitwiseOr, .notAhead (.choice [["="], [":="]])] fun _ parts =>
      some ("cannot assign to " ++ described parts ++
        " here. Maybe you meant '==' instead of '='?")]
  | badGroup => [
    fault "cannot use starred expression here" ["(", starred, ")"],
    fault "cannot use double starred expression here" ["(", "**", expression, ")"]]
  | badEntries => [
    drop [list entry, ",", badPair],
    fault "cannot use a starred expression in a dictionary value" [expression, ":", "*", bitwiseOr],
    fault "expression expected after dictionary key and ':'"
      [expression, ":", .ahead (.choice [["\x7d"], [","]])]]
  | badPair => [
    fault "':' expected after dictionary key" [expression, .notAhead ":"],
    fault "cannot use a starred expression in a dictionary value" [expression, ":", "*", bitwiseOr],
    fault "expression expected after dictionary key and ':'"
      [expression, ":", .ahead (.choice [["\x7d"], [","]])]]
  | badGenerator => [
    fault "iterable unpacking cannot be used in comprehension"
      [.choice [["("], ["\x7b"]], starred, loops],
    fault "did you forget parentheses around the comprehension target?"
      ["\x7b", starNamedExpression, ",", starNamedExpressions, loops],
    fault "did you forget parentheses around the comprehension target?"
      ["\x7b", starNamedExpression, ",", loops]]
  | badTableGenerator => [
    fault "dict unpacking cannot be used in dict comprehension"
      ["\x7b", "**", bitwiseOr, loops, "\x7d"]]
  | badLoop => [judge [.optional "async", "for", starExpressions] badTarget]
  | badArguments => [
    fault "iterable argument unpacking follows keyword argument unpacking"
      [argumentList, ",", "*"],
    fault bareGenerator
      [expression, loops, ",", .optional (.choice [[argumentList], [expression, loops]])],
    fault equalsSign [name, "=", expression, loops],
    judge [argumentList, loops] crowdedGenerator,
    fault bareGenerator [argumentList, ",", expression, loops],
    judge [argumentList, ",", argumentList] argumentOrder]
  | badKeyword => [
    fault "cannot assign to True" ["True", "="],
    fault "cannot assign to False" ["False", "="],
    fault "cannot assign to None" ["None", "="],
    fault equalsSign [name, "=", expression, loops],
    fault "expression cannot contain assignment, perhaps you meant \"==\"?"
      [.notAhead (.choice [[name, "="]]), expression, "="]]
  | badParameters => [
    fault "non-default argument follows default argument"
      [.many plainParameter, badParametersStart, plainParameter],
    fault "Lambda expression parameters cannot be parenthesized"
      [.many plainParameter, "(", list parameter, .optional ",", ")"],
    fault "at least one argument must precede /" ["/", ","],
    fault "/ may appear only once"
      [.choice [[slashPlain], [slashDefault]], .many anyParameter, "/"],
    fault "/ must be ahead of *"
      [.optional (.choice [[slashPlain], [slashDefault]]), .many anyParameter, "*",
        .choice [[","], [plainParameter]], .many anyParameter, "/"],
    fault "expected comma between / and *" [.some anyParameter, "/", "*"]]
  | badDefault => [fault "expected default value expression"
      ["=", .ahead (.choice [[")"], [","]])]]
  | badParametersStart => [pass [slashDefault], pass [.some defaultParameter]]
  | badStarParameters => [
    fault "named arguments must follow bare *"
      ["*", .choice [[":"], [",", .choice [[":"], ["**"]]]]],
    fault "var-positional argument cannot have default value" ["*", parameter, "="],
    fault "* argument may appear only once"
      ["*", .choice [[plainParameter], [","]], .many anyParameter, "*",
        .choice [[plainParameter], [","]]]]
  | badSpreadParameter => [
    fault "var-keyword argument cannot have default value" ["**", parameter, "="],
    fault "arguments cannot follow var-keyword argument" ["**", parameter, ",", parameter],
    fault "arguments cannot follow var-keyword argument"
      ["**", parameter, ",", .choice [["*"], ["**"], ["/"]]]]

/-- Whether the results of a rule are kept. -/
def retention : Rule → Retention
  | expression | starExpression | disjunction | conjunction | inversion | factor | awaited
  | strings | arguments | target | dottedTarget | badNamed => .kept
  | bitwiseOr | bitwiseXor | bitwiseAnd | shift | sum | term | primary | targetPrimary => .growing
  | _ => .dropped

/-- The grammar, given how strings that follow each other are joined. -/
def grammar (join : Extent → List Tree → Built) : Grammar Rule where
  ways := ways join
  retention := retention
  isPlain r := r = plainExpression

end Rule

end Promptbook.Expression
