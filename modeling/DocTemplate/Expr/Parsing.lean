import DocTemplate.Expr.Basic
import DocTemplate.Token.Lexing

/-!
# Reading expressions

The grammar, from the loosest binding to the tightest:

* an expression is a condition with two alternatives, `c ? a : b`, or an operand of level 0;
* an operand of level `n` is a chain of operands of level `n + 1` with operators of level `n`
  between them, and chains group to the left;
* above the last level stand `!` and `-` before an operand;
* then paths with their segments, calls, literals and parentheses.

Each function returns what it read together with the tokens behind it, which are fewer.

## Main definitions

* `Expr.expression` — the expression at the start of a list of tokens.
* `Expr.ofTokens` — the expression that a whole list of tokens spells.
* `Expr.parse` — the expression that a text spells.
-/

namespace DocTemplate

namespace BinaryOp

/-- How tightly an operator binds. -/
def level : BinaryOp → Nat
  | .or => 0
  | .and => 1
  | .equal | .notEqual | .isIn => 2
  | .lessThan | .lessThanOrEqual | .greaterThan | .greaterThanOrEqual => 3
  | .add | .subtract => 4
  | .multiply | .divide | .modulo => 5

/-- The number of levels. -/
def levels : Nat := 6

/-- The operator that a sign stands for between two operands. -/
def ofSymbol? : Symbol → Option BinaryOp
  | .equal => some .equal
  | .notEqual => some .notEqual
  | .lessOrEqual => some .lessThanOrEqual
  | .greaterOrEqual => some .greaterThanOrEqual
  | .and => some .and
  | .or => some .or
  | .plus => some .add
  | .minus => some .subtract
  | .times => some .multiply
  | .over => some .divide
  | .percent => some .modulo
  | .less => some .lessThan
  | .greater => some .greaterThan
  | .isIn => some .isIn
  | .assign | .not | .ampersand | .bar => none

/-- The operator of a level that a token stands for. -/
def ofToken? (level : Nat) : Token → Option BinaryOp
  | .operator s => (ofSymbol? s).filter (·.level == level)
  | _ => none

end BinaryOp

/-- The operator that a token stands for before an operand. -/
def UnaryOp.ofToken? : Token → Option UnaryOp
  | .operator .not => some .not
  | .operator .minus => some .negate
  | _ => none

namespace Expr

/-- The tokens behind what was read: fewer than before. -/
abbrev Rest (ts : List Token) := { rest : List Token // rest.length < ts.length }

/-- The tokens behind what may have been empty: not more than before. -/
abbrev Tail (ts : List Token) := { rest : List Token // rest.length ≤ ts.length }

theorem length_lt_of_cons {t : Token} {rest ts : List Token}
    (h : (t :: rest).length < ts.length) : rest.length < ts.length :=
  Nat.lt_of_succ_lt h

/-- The literal or name that a single token is. -/
def ofToken? : Token → Option Expr
  | .string s => some (.literal (.string s))
  | .number x => some (.literal (.number x))
  | .boolean b => some (.literal (.boolean b))
  | .identifier name => some (.path name)
  | _ => none

/-- The segment that a token in brackets names. -/
def segmentOf? : Token → Option String
  | .number x => some (String.ofList (displayNumber x))
  | .string s => some s
  | _ => none

/-- A path with one more segment. -/
def extend (e : Expr) (segment : String) : Except ParseError Expr :=
  match e with
  | .path text => .ok (.path (text ++ "." ++ segment))
  | _ => .error (.segmentOfNonPath segment)

mutual

/-- The expression at the start of the tokens. -/
def expression (ts : List Token) : Except ParseError (Expr × Rest ts) :=
  match operand 0 ts with
  | .error e => .error e
  | .ok (condition, ⟨rest, h⟩) =>
    match rest, h with
    | .question :: rest, h =>
      match expression rest with
      | .error e => .error e
      | .ok (whenTrue, ⟨rest', h'⟩) =>
        match rest', h' with
        | .colon :: rest', h' =>
          match expression rest' with
          | .error e => .error e
          | .ok (whenFalse, ⟨rest'', h''⟩) =>
            .ok (.ternary condition whenTrue whenFalse,
              ⟨rest'', Nat.lt_trans h'' <|
                Nat.lt_trans (length_lt_of_cons h') (length_lt_of_cons h)⟩)
        | rest', _ => .error (.missingColon rest'.head?)
    | rest, h => .ok (condition, ⟨rest, h⟩)
termination_by (ts.length, 3 + BinaryOp.levels)
decreasing_by all_goals grind

/-- The operand of a level at the start of the tokens. -/
def operand (level : Nat) (ts : List Token) : Except ParseError (Expr × Rest ts) :=
  if level < BinaryOp.levels then
    match operand (level + 1) ts with
    | .error e => .error e
    | .ok (lhs, ⟨rest, h⟩) =>
      match chain level lhs rest with
      | .error e => .error e
      | .ok (e, ⟨rest', h'⟩) => .ok (e, ⟨rest', by omega⟩)
  else prefixed ts
termination_by (ts.length, 2 + (BinaryOp.levels - level))
decreasing_by all_goals grind

/-- The further operands of a level, each behind an operator of that level. -/
def chain (level : Nat) (lhs : Expr) (ts : List Token) : Except ParseError (Expr × Tail ts) :=
  match ts with
  | [] => .ok (lhs, ⟨[], Nat.le_refl _⟩)
  | t :: rest =>
    match BinaryOp.ofToken? level t with
    | none => .ok (lhs, ⟨t :: rest, Nat.le_refl _⟩)
    | some op =>
      match operand (level + 1) rest with
      | .error e => .error e
      | .ok (rhs, ⟨rest', h⟩) =>
        match chain level (.binary op lhs rhs) rest' with
        | .error e => .error e
        | .ok (e, ⟨rest'', h'⟩) => .ok (e, ⟨rest'', by grind⟩)
termination_by (ts.length, 0)
decreasing_by all_goals grind

/-- Signs before an operand, and the operand. -/
def prefixed (ts : List Token) : Except ParseError (Expr × Rest ts) :=
  match ts with
  | [] => .error .unexpectedEnd
  | t :: rest =>
    match UnaryOp.ofToken? t with
    | some op =>
      match prefixed rest with
      | .error e => .error e
      | .ok (e, ⟨rest', h⟩) => .ok (.unary op e, ⟨rest', by grind⟩)
    | none =>
      match primary t rest with
      | .error e => .error e
      | .ok (e, ⟨rest', h⟩) =>
        match segments e rest' with
        | .error e => .error e
        | .ok (e, ⟨rest'', h'⟩) => .ok (e, ⟨rest'', by grind⟩)
termination_by (ts.length, 1)
decreasing_by all_goals grind

/-- A literal, a name or an expression in parentheses, which starts with the token `t`. -/
def primary (t : Token) (ts : List Token) : Except ParseError (Expr × Tail ts) :=
  match ofToken? t with
  | some e => .ok (e, ⟨ts, Nat.le_refl _⟩)
  | none =>
    match t with
    | .leftParen =>
      match expression ts with
      | .error e => .error e
      | .ok (e, ⟨rest, h⟩) =>
        match rest, h with
        | .rightParen :: rest, h => .ok (e, ⟨rest, by grind⟩)
        | rest, _ => .error (.expected .rightParen rest.head?)
    | t => .error (.unexpectedToken (some t))
termination_by (ts.length, 4 + BinaryOp.levels)
decreasing_by all_goals grind

/-- Segments and arguments behind an expression. -/
def segments (e : Expr) (ts : List Token) : Except ParseError (Expr × Tail ts) :=
  match ts with
  | .dot :: .identifier name :: rest =>
    match e.extend name with
    | .error e => .error e
    | .ok e =>
      match segments e rest with
      | .error e => .error e
      | .ok (e, ⟨rest', h⟩) => .ok (e, ⟨rest', by grind⟩)
  | .dot :: rest => .error (.expectedIdentifier rest.head?)
  | .leftBracket :: rest =>
    match rest with
    | [] => .error (.unexpectedToken none)
    | t :: rest =>
      match segmentOf? t with
      | none => .error (.unexpectedToken (some t))
      | some segment =>
        if segment.toList.contains '.' then .error (.invalidIndex segment)
        else
          match rest with
          | .rightBracket :: rest =>
            match e.extend segment with
            | .error e => .error e
            | .ok e =>
              match segments e rest with
              | .error e => .error e
              | .ok (e, ⟨rest', h⟩) => .ok (e, ⟨rest', by grind⟩)
          | rest => .error (.expected .rightBracket rest.head?)
  | .leftParen :: rest =>
    match e with
    | .path name =>
      match arguments rest with
      | .error e => .error e
      | .ok (args, ⟨rest', h⟩) =>
        match segments (.call name args) rest' with
        | .error e => .error e
        | .ok (e, ⟨rest'', h'⟩) => .ok (e, ⟨rest'', by grind⟩)
    | _ => .error .expectedFunctionName
  | ts => .ok (e, ⟨ts, Nat.le_refl _⟩)
termination_by (ts.length, 0)
decreasing_by all_goals grind

/-- The arguments of a call up to its closing parenthesis. -/
def arguments (ts : List Token) : Except ParseError (List Expr × Rest ts) :=
  match ts with
  | .rightParen :: rest => .ok ([], ⟨rest, Nat.lt_succ_self _⟩)
  | ts => argumentList ts
termination_by (ts.length, 5 + BinaryOp.levels)
decreasing_by all_goals grind

/-- The arguments of a call, at least one, up to its closing parenthesis. -/
def argumentList (ts : List Token) : Except ParseError (List Expr × Rest ts) :=
  match expression ts with
  | .error e => .error e
  | .ok (arg, ⟨rest, h⟩) =>
    match rest, h with
    | .comma :: rest, h =>
      match argumentList rest with
      | .error e => .error e
      | .ok (args, ⟨rest', h'⟩) => .ok (arg :: args, ⟨rest', by grind⟩)
    | .rightParen :: rest, h => .ok ([arg], ⟨rest, by grind⟩)
    | rest, _ => .error (.expected .rightParen rest.head?)
termination_by (ts.length, 4 + BinaryOp.levels)
decreasing_by all_goals grind

end

/-- The expression that a whole list of tokens spells. -/
def ofTokens (ts : List Token) : Except ParseError Expr :=
  match expression ts with
  | .error e => .error e
  | .ok (e, ⟨[], _⟩) => .ok e
  | .ok (_, ⟨t :: _, _⟩) => .error (.unexpectedToken (some t))

/-- The expression that a text spells. -/
def parse (text : String) : Except ParseError Expr :=
  match Token.ofText text with
  | .error e => .error e
  | .ok ts => ofTokens ts

end Expr

end DocTemplate
