import DocTemplate.Expr.Parsing

/-!
# The grammar of expressions

Which lists of tokens are expressions, and with which tree, as rules without an algorithm:

* `expression := or ("?" expression ":" expression)?`
* `or := and ("||" and)*`, and so on down to `multiplicative := unary (("*" | "/" | "%") unary)*`
* `unary := ("!" | "-") unary | suffixed`
* `suffixed := primary ("." IDENT | "[" (STRING | NUMBER) "]" | "(" arguments ")")*`
* `primary := STRING | NUMBER | BOOLEAN | IDENT | "(" expression ")"`

## Main definitions

* `Grammar.Level` — the levels of the operators between two operands.
* `Grammar.Category` — what the rules are about.
* `Grammar.Derives` — the rules.
-/

namespace DocTemplate.Grammar

/-- The levels of the operators between two operands, from the loosest to the tightest. -/
inductive Level where
  | or | and | equality | relational | additive | multiplicative
deriving DecidableEq, Repr

/-- What the rules of the grammar are about. -/
inductive Category where
  | expression
  | level (l : Level)
  | unary | suffixed | primary
deriving DecidableEq, Repr

/-- What stands between the operators of a level. -/
def Level.operand : Level → Category
  | .or => .level .and
  | .and => .level .equality
  | .equality => .level .relational
  | .relational => .level .additive
  | .additive => .level .multiplicative
  | .multiplicative => .unary

/-- The signs of a level and the operators that they stand for. -/
inductive Level.Joins : Level → Symbol → BinaryOp → Prop
  | or : Joins .or .or .or
  | and : Joins .and .and .and
  | equal : Joins .equality .equal .equal
  | notEqual : Joins .equality .notEqual .notEqual
  | isIn : Joins .equality .isIn .isIn
  | less : Joins .relational .less .lessThan
  | greater : Joins .relational .greater .greaterThan
  | lessOrEqual : Joins .relational .lessOrEqual .lessThanOrEqual
  | greaterOrEqual : Joins .relational .greaterOrEqual .greaterThanOrEqual
  | plus : Joins .additive .plus .add
  | minus : Joins .additive .minus .subtract
  | times : Joins .multiplicative .times .multiply
  | over : Joins .multiplicative .over .divide
  | percent : Joins .multiplicative .percent .modulo

/-- The tokens of several phrases with commas between them. -/
def commaSeparated (phrases : List (List Token)) : List Token :=
  [Token.comma].intercalate phrases

@[simp] theorem commaSeparated_singleton (p : List Token) : commaSeparated [p] = p := by
  simp [commaSeparated]

theorem commaSeparated_cons (p : List Token) {ps : List (List Token)} (h : ps ≠ []) :
    commaSeparated (p :: ps) = p ++ .comma :: commaSeparated ps := by
  simp [commaSeparated, List.intercalate_cons_of_ne_nil h]

/-- The tokens that a rule of a category derives, with their tree. -/
inductive Derives : Category → List Token → Expr → Prop
  | unconditional {ts e} : Derives (.level .or) ts e → Derives .expression ts e
  | conditional {cs ts fs c t f} :
      Derives (.level .or) cs c → Derives .expression ts t → Derives .expression fs f →
      Derives .expression (cs ++ .question :: ts ++ .colon :: fs) (.ternary c t f)
  | operand {l ts e} : Derives l.operand ts e → Derives (.level l) ts e
  | joined {l sign op ts us lhs rhs} :
      l.Joins sign op → Derives (.level l) ts lhs → Derives l.operand us rhs →
      Derives (.level l) (ts ++ .operator sign :: us) (.binary op lhs rhs)
  | unsigned {ts e} : Derives .suffixed ts e → Derives .unary ts e
  | not {ts e} : Derives .unary ts e → Derives .unary (.operator .not :: ts) (.unary .not e)
  | negated {ts e} :
      Derives .unary ts e → Derives .unary (.operator .minus :: ts) (.unary .negate e)
  | bare {ts e} : Derives .primary ts e → Derives .suffixed ts e
  | member {ts path name} :
      Derives .suffixed ts (.path path) →
      Derives .suffixed (ts ++ [.dot, .identifier name]) (.path (path ++ "." ++ name))
  | textIndex {ts path s} :
      Derives .suffixed ts (.path path) → '.' ∉ s.toList →
      Derives .suffixed (ts ++ [.leftBracket, .string s, .rightBracket])
        (.path (path ++ "." ++ s))
  | numberIndex {ts path x} :
      Derives .suffixed ts (.path path) → '.' ∉ displayNumber x →
      Derives .suffixed (ts ++ [.leftBracket, .number x, .rightBracket])
        (.path (path ++ "." ++ String.ofList (displayNumber x)))
  | call {ts path} {args : List (List Token × Expr)} :
      Derives .suffixed ts (.path path) → (∀ a ∈ args, Derives .expression a.1 a.2) →
      Derives .suffixed (ts ++ .leftParen :: commaSeparated (args.map (·.1)) ++ [.rightParen])
        (.call path (args.map (·.2)))
  | string {s} : Derives .primary [.string s] (.literal (.string s))
  | number {x} : Derives .primary [.number x] (.literal (.number x))
  | boolean {b} : Derives .primary [.boolean b] (.literal (.boolean b))
  | identifier {name} : Derives .primary [.identifier name] (.path name)
  | parenthesised {ts e} :
      Derives .expression ts e → Derives .primary (.leftParen :: ts ++ [.rightParen]) e

end DocTemplate.Grammar
