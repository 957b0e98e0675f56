import QueryCheck.Condition.Expression
import QueryCheck.Condition.Token
import QueryCheck.Number.Binary64

/-!
# The grammar of conditions

A phrase is a list of tokens with the tree that it stands for. Nothing here refers to the parser.

    disjunction := conjunction ("or" conjunction)*
    conjunction := negation ("and" negation)*
    negation    := "not" negation | comparison
    comparison  := sum (sign sum)*
    sum         := product (("+" | "-") product)*
    product     := signed (("*" | "/" | "%") signed)*
    signed      := "-" signed | "+" signed | value
    value       := integer | float | string | literal word | name
                 | builtin "(" items ")" | "(" disjunction ")" | "[" items "]"
    items       := nothing | disjunction | disjunction "," items
-/

namespace QueryCheck.Condition

set_option autoImplicit false

inductive Level where
  | disjunction
  | conjunction
  | negation
  | comparison
  | sum
  | product
  | signed
  | value
deriving DecidableEq

/-- The levels whose operators associate to the left, with the levels of their operands. -/
inductive Chained : Level → Level → Prop where
  | disjunction : Chained .disjunction .conjunction
  | conjunction : Chained .conjunction .negation
  | sum : Chained .sum .product
  | product : Chained .product .signed

/-- The levels whose phrases may be a phrase of the level below, as it stands. -/
inductive Plain : Level → Level → Prop where
  | negation : Plain .negation .comparison
  | comparison : Plain .comparison .sum
  | signed : Plain .signed .value

inductive Operator : Level → Token → (Expr → Expr → Expr) → Prop where
  | or : Operator .disjunction (.word "or") .or
  | and : Operator .conjunction (.word "and") .and
  | add : Operator .sum .plus (.arithmetic .add)
  | sub : Operator .sum .minus (.arithmetic .sub)
  | mul : Operator .product .star (.arithmetic .mul)
  | div : Operator .product .slash (.arithmetic .div)
  | mod : Operator .product .percent (.arithmetic .mod)

/-- The tokens of a comparison operator. -/
inductive Sign : List Token → Comparison → Prop where
  | equal : Sign [.equal] .equal
  | notEqual : Sign [.notEqual] .notEqual
  | less : Sign [.less] .less
  | lessEqual : Sign [.lessEqual] .lessEqual
  | greater : Sign [.greater] .greater
  | greaterEqual : Sign [.greaterEqual] .greaterEqual
  | isIn : Sign [.word "in"] .isIn
  | notIn : Sign [.word "not", .word "in"] .notIn
  | identical : Sign [.word "is"] .identical
  | notIdentical : Sign [.word "is", .word "not"] .notIdentical

inductive LiteralWord : String → Literal → Prop where
  | true : LiteralWord "true" (.bool true)
  | trueAlias : LiteralWord "True" (.bool true)
  | false : LiteralWord "false" (.bool false)
  | falseAlias : LiteralWord "False" (.bool false)
  | null : LiteralWord "null" .null
  | nullAlias : LiteralWord "None" .null

/-- The words that are no names. -/
def keywords : List String :=
  ["and", "or", "not", "in", "is", "true", "false", "null", "True", "False", "None"]

theorem valueless_is_keyword {word : String} (member : word ∈ ["and", "or", "not", "in", "is"]) :
    word ∈ keywords :=
  List.mem_append_left ["true", "false", "null", "True", "False", "None"] member

mutual

inductive Phrase : Level → List Token → Expr → Prop where
  | chain {level operand : Level} {first rest : List Token} {left tree : Expr}
      (chained : Chained level operand) (start : Phrase operand first left)
      (links : Chain level operand left rest tree) : Phrase level (first ++ rest) tree
  | plain {level below : Level} {phrase : List Token} {tree : Expr} (plain : Plain level below)
      (alone : Phrase below phrase tree) : Phrase level phrase tree
  | not {phrase : List Token} {tree : Expr} (operand : Phrase .negation phrase tree) :
      Phrase .negation (.word "not" :: phrase) (.not tree)
  | compare {first rest : List Token} {tree : Expr} {links : List (Comparison × Expr)}
      (start : Phrase .sum first tree) (linked : Links rest links) (some : links ≠ []) :
      Phrase .comparison (first ++ rest) (.compare tree links)
  | minus {phrase : List Token} {tree : Expr} (operand : Phrase .signed phrase tree) :
      Phrase .signed (.minus :: phrase) (.neg tree)
  | plus {phrase : List Token} {tree : Expr} (operand : Phrase .signed phrase tree) :
      Phrase .signed (.plus :: phrase) tree
  | integer (n : Int64) : Phrase .value [.integer n] (.literal (.integer n))
  | float {lexeme : String} {x : Float} (read : Binary64.read? lexeme.toList = some x) :
      Phrase .value [.float lexeme] (.literal (.float x))
  | string (text : String) : Phrase .value [.string text] (.literal (.string text))
  | literal {text : String} {literal : Literal} (known : LiteralWord text literal) :
      Phrase .value [.word text] (.literal literal)
  | name {text : String} (free : text ∉ keywords) : Phrase .value [.word text] (.field text)
  | call {phrase : List Token} {arguments : List Expr} (builtin : Builtin)
      (listed : Items phrase arguments) (admitted : builtin.admits arguments.length = true) :
      Phrase .value (.word builtin.name :: .openParen :: phrase ++ [.closeParen])
        (.call builtin arguments)
  | parentheses {phrase : List Token} {tree : Expr} (inner : Phrase .disjunction phrase tree) :
      Phrase .value (.openParen :: phrase ++ [.closeParen]) tree
  | list {phrase : List Token} {items : List Expr} (listed : Items phrase items) :
      Phrase .value (.openBracket :: phrase ++ [.closeBracket]) (.list items)

/-- What stands behind a left operand: each operator takes all that is left of it. -/
inductive Chain : Level → Level → Expr → List Token → Expr → Prop where
  | done (level operand : Level) (tree : Expr) : Chain level operand tree [] tree
  | link {level operand : Level} {left right tree : Expr} {sign : Token} {phrase rest : List Token}
      {build : Expr → Expr → Expr} (operator : Operator level sign build)
      (behind : Phrase operand phrase right) (links : Chain level operand (build left right) rest tree) :
      Chain level operand left (sign :: phrase ++ rest) tree

inductive Links : List Token → List (Comparison × Expr) → Prop where
  | done : Links [] []
  | link {words phrase rest : List Token} {op : Comparison} {right : Expr}
      {links : List (Comparison × Expr)} (sign : Sign words op) (behind : Phrase .sum phrase right)
      (linked : Links rest links) : Links (words ++ phrase ++ rest) ((op, right) :: links)

inductive Items : List Token → List Expr → Prop where
  | none : Items [] []
  | last {phrase : List Token} {item : Expr} (only : Phrase .disjunction phrase item) :
      Items phrase [item]
  | more {phrase rest : List Token} {item : Expr} {items : List Expr}
      (first : Phrase .disjunction phrase item) (others : Items rest items) :
      Items (phrase ++ .comma :: rest) (item :: items)

end

/-- The tokens of a condition derive a tree. -/
abbrev Derives (phrase : List Token) (tree : Expr) : Prop :=
  Phrase .disjunction phrase tree

end QueryCheck.Condition
