import QueryCheck.Condition.Lexer
import QueryCheck.Number.Binary64

/-!
# Condition trees from tokens

The grammar, weakest binding first: `or`, `and`, `not`, chains of comparisons, sums, products, signs,
and values. Sums, products, `and` and `or` associate to the left. A tree may have at most `maxDepth`
levels, links of comparison chains not counted; the cursor carries the levels in use.
-/

namespace QueryCheck.Condition

/-- A place in the tokens: the token there, those behind it, and the levels in use. -/
structure Cursor where
  current : Placed
  later : List Placed
  depth : Nat
deriving DecidableEq

abbrev Parser (α : Type) := Cursor → Except ParseError (α × Cursor)

def maxDepth : Nat := 64

namespace Cursor

def token (c : Cursor) : Token :=
  c.current.token

/-- The token behind the current one; the last token stands behind itself. -/
def nextToken (c : Cursor) : Token :=
  match c.later with
  | [] => c.current.token
  | next :: _ => next.token

/-- One token on; the last token is never left. -/
def advance (c : Cursor) : Cursor :=
  match c.later with
  | [] => c
  | next :: later => { c with current := next, later }

def fail (c : Cursor) (fault : Fault) : ParseError :=
  ⟨fault, c.current.offset⟩

def deepen (c : Cursor) : Except ParseError Cursor :=
  if maxDepth ≤ c.depth then .error (c.fail .nestedTooDeeply)
  else .ok { c with depth := c.depth + 1 }

def expect (c : Cursor) (token : Token) : Except ParseError Cursor :=
  if c.token = token then .ok c.advance else .error (c.fail (.expected token c.token))

end Cursor

namespace Parser

def nested {α : Type} (parse : Parser α) : Parser α := fun c => do
  let inner ← c.deepen
  let (result, after) ← parse inner
  .ok (result, { after with depth := c.depth })

/-- Links `operator operand` of a chain that associates to the left, each one level deeper. -/
def links (operator : Token → Option (Expr → Expr → Expr)) (operand : Parser Expr) :
    Nat → Expr → Parser Expr
  | 0, left, c => .ok (left, c)
  | steps + 1, left, c =>
    match operator c.token with
    | none => .ok (left, c)
    | some build => do
      let deeper ← c.deepen
      let (right, after) ← operand deeper.advance
      links operator operand steps (build left right) after

/-- An operand and its chain; each link takes a token, so their number bounds the links. -/
def chain (operator : Token → Option (Expr → Expr → Expr)) (operand : Parser Expr) : Parser Expr :=
  fun c => do
    let (first, after) ← operand c
    let (result, last) ← links operator operand after.later.length first after
    .ok (result, { last with depth := c.depth })

def orOperator : Token → Option (Expr → Expr → Expr)
  | .word "or" => some .or
  | _ => none

def andOperator : Token → Option (Expr → Expr → Expr)
  | .word "and" => some .and
  | _ => none

def sumOperator : Token → Option (Expr → Expr → Expr)
  | .plus => some (.arithmetic .add)
  | .minus => some (.arithmetic .sub)
  | _ => none

def productOperator : Token → Option (Expr → Expr → Expr)
  | .star => some (.arithmetic .mul)
  | .slash => some (.arithmetic .div)
  | .percent => some (.arithmetic .mod)
  | _ => none

/-- A comparison operator at the cursor, and the cursor behind it; two of them have two words. -/
def comparison (c : Cursor) : Option (Comparison × Cursor) :=
  match c.token with
  | .equal => some (.equal, c.advance)
  | .notEqual => some (.notEqual, c.advance)
  | .less => some (.less, c.advance)
  | .lessEqual => some (.lessEqual, c.advance)
  | .greater => some (.greater, c.advance)
  | .greaterEqual => some (.greaterEqual, c.advance)
  | .word "in" => some (.isIn, c.advance)
  | .word "not" =>
    if c.nextToken = .word "in" then some (.notIn, c.advance.advance) else none
  | .word "is" =>
    if c.nextToken = .word "not" then some (.notIdentical, c.advance.advance)
    else some (.identical, c.advance)
  | _ => none

def comparisonLinks (operand : Parser Expr) : Nat → Parser (List (Comparison × Expr))
  | 0, c => .ok ([], c)
  | steps + 1, c =>
    match comparison c with
    | none => .ok ([], c)
    | some (op, after) => do
      let (right, after) ← operand after
      let (rest, after) ← comparisonLinks operand steps after
      .ok ((op, right) :: rest, after)

def comparisons (operand : Parser Expr) : Parser Expr := fun c => do
  let (first, after) ← operand c
  let (links, last) ← comparisonLinks operand after.later.length after
  .ok (if links.isEmpty then first else .compare first links, last)

def negations (operand : Parser Expr) : Nat → Parser Expr
  | 0, c => operand c
  | steps + 1, c =>
    if c.token = .word "not" then do
      let (inner, after) ← nested (negations operand steps) c.advance
      .ok (.not inner, after)
    else operand c

/-- Signs in front of an operand, each one level deeper; a plus leaves no node. -/
def signs (operand : Parser Expr) : Nat → Parser Expr
  | 0, c => operand c
  | steps + 1, c =>
    match c.token with
    | .minus => do
      let (inner, after) ← nested (signs operand steps) c.advance
      .ok (.neg inner, after)
    | .plus => nested (signs operand steps) c.advance
    | _ => operand c

/-- Expressions set apart by commas up to the closing token; a comma may stand before it. -/
def items (item : Parser Expr) (close : Token) : Nat → Parser (List Expr)
  | 0, c => do
    let after ← c.expect close
    .ok ([], after)
  | steps + 1, c =>
    if c.token = close then .ok ([], c.advance)
    else do
      let (first, after) ← item c
      if after.token = .comma then
        let (rest, last) ← items item close steps after.advance
        .ok (first :: rest, last)
      else
        let last ← after.expect close
        .ok ([first], last)

/-- Every item takes a token, so one step more than there are tokens behind the cursor is never used. -/
def itemList (item : Parser Expr) (close : Token) : Parser (List Expr) := fun c =>
  items item close (c.later.length + 1) c

def call (item : Parser Expr) (name : String) : Parser Expr := fun c =>
  match Builtin.ofName? name with
  | none => .error (c.fail (.unknownFunction name))
  | some builtin => do
    let (arguments, after) ← itemList item .closeParen c.advance.advance
    if builtin.admits arguments.length then .ok (.call builtin arguments, after)
    else .error (c.fail (.argumentCount builtin arguments.length))

def wordLiteral? : String → Option Literal
  | "true" => some (.bool true)
  | "True" => some (.bool true)
  | "false" => some (.bool false)
  | "False" => some (.bool false)
  | "null" => some .null
  | "None" => some .null
  | _ => none

def isKeyword (word : String) : Bool :=
  ["and", "or", "not", "in", "is"].contains word

def floatLiteral (lexeme : String) : Parser Expr := fun c =>
  match Binary64.read? lexeme.toList with
  | some value => .ok (.literal (.float value), c.advance)
  | none => .error (c.fail (.malformedFloat lexeme))

def word (item : Parser Expr) (text : String) : Parser Expr := fun c =>
  match wordLiteral? text with
  | some value => .ok (.literal value, c.advance)
  | none =>
    if isKeyword text then .error (c.fail (.unexpectedKeyword text))
    else if c.nextToken = .openParen then call item text c
    else .ok (.field text, c.advance)

def value (item : Parser Expr) : Parser Expr := fun c =>
  match c.token with
  | .integer n => .ok (.literal (.integer n), c.advance)
  | .float lexeme => floatLiteral lexeme c
  | .string text => .ok (.literal (.string text), c.advance)
  | .word text => word item text c
  | .openParen => do
    let (inner, after) ← item c.advance
    let last ← after.expect .closeParen
    .ok (inner, last)
  | .openBracket => do
    let (found, after) ← itemList item .closeBracket c.advance
    .ok (.list found, after)
  | other => .error (c.fail (.expectedValue other))

def signed (item : Parser Expr) : Parser Expr := fun c =>
  signs (value item) c.later.length c

def product (item : Parser Expr) : Parser Expr :=
  chain productOperator (signed item)

def sum (item : Parser Expr) : Parser Expr :=
  chain sumOperator (product item)

def comparisonChain (item : Parser Expr) : Parser Expr :=
  comparisons (sum item)

def negation (item : Parser Expr) : Parser Expr := fun c =>
  negations (comparisonChain item) c.later.length c

def conjunction (item : Parser Expr) : Parser Expr :=
  chain andOperator (negation item)

def disjunction (item : Parser Expr) : Parser Expr :=
  chain orOperator (conjunction item)

/-- A whole expression, one level deeper than its surroundings. Inside it at most `remaining` further
expressions may be nested; where none may, the levels are used up as well. -/
def expression : Nat → Parser Expr
  | 0 => fun c => .error (c.fail .nestedTooDeeply)
  | remaining + 1 => nested (disjunction (expression remaining))

end Parser

def parseTokens : List Placed → Except ParseError Expr
  | [] => .error ⟨.emptyExpression, 0⟩
  | first :: later =>
    let start : Cursor := ⟨first, later, 0⟩
    if start.token = .ending then .error (start.fail .emptyExpression)
    else do
      let (tree, last) ← Parser.expression maxDepth start
      if last.token = .ending then .ok tree else .error (last.fail (.trailing last.token))

def parse (text : String) : Except ParseError Expr := do
  let found ← tokens text.toList
  parseTokens found

end QueryCheck.Condition
