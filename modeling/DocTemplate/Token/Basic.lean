import DocTemplate.Value.Writing

/-!
# Tokens

The pieces that an expression is written in, and what can be wrong with a written expression.

## Main definitions

* `Symbol` — the operator signs.
* `Token` — literals, names, signs and brackets. The end of the list of tokens is the end of the
  expression.
* `ParseError` — why a text is no expression, with its wording in `ParseError.message`.
-/

namespace DocTemplate

/-- The operator signs. Three of them belong to no operator. -/
inductive Symbol where
  | equal | notEqual | lessOrEqual | greaterOrEqual | and | or
  | plus | minus | times | over | percent | assign | not | less | greater | ampersand | bar
  | isIn
deriving DecidableEq, Repr

namespace Symbol

/-- How a sign is written. -/
def text : Symbol → String
  | .equal => "=="
  | .notEqual => "!="
  | .lessOrEqual => "<="
  | .greaterOrEqual => ">="
  | .and => "&&"
  | .or => "||"
  | .plus => "+"
  | .minus => "-"
  | .times => "*"
  | .over => "/"
  | .percent => "%"
  | .assign => "="
  | .not => "!"
  | .less => "<"
  | .greater => ">"
  | .ampersand => "&"
  | .bar => "|"
  | .isIn => "in"

/-- The sign of two characters. -/
def ofPair? : Char → Char → Option Symbol
  | '=', '=' => some .equal
  | '!', '=' => some .notEqual
  | '<', '=' => some .lessOrEqual
  | '>', '=' => some .greaterOrEqual
  | '&', '&' => some .and
  | '|', '|' => some .or
  | _, _ => none

/-- The sign of one character. -/
def ofChar? : Char → Option Symbol
  | '+' => some .plus
  | '-' => some .minus
  | '*' => some .times
  | '/' => some .over
  | '%' => some .percent
  | '=' => some .assign
  | '!' => some .not
  | '<' => some .less
  | '>' => some .greater
  | '&' => some .ampersand
  | '|' => some .bar
  | _ => none

end Symbol

/-- The pieces that an expression is written in. -/
inductive Token where
  | string (s : String)
  | number (x : Float)
  | boolean (b : Bool)
  | identifier (name : String)
  | operator (op : Symbol)
  | leftParen | rightParen | leftBracket | rightBracket
  | comma | dot | question | colon
deriving Repr

namespace Token

/-- What a token is called in a message. -/
def describe : Token → String
  | .string s => "string '" ++ s ++ "'"
  | .number x => "number " ++ String.ofList (displayNumber x)
  | .boolean true => "boolean true"
  | .boolean false => "boolean false"
  | .identifier name => "identifier '" ++ name ++ "'"
  | .operator op => "operator '" ++ op.text ++ "'"
  | .leftParen => "'('"
  | .rightParen => "')'"
  | .leftBracket => "'['"
  | .rightBracket => "']'"
  | .comma => "','"
  | .dot => "'.'"
  | .question => "'?'"
  | .colon => "':'"

/-- What is found at a place, which may be the end of the expression. -/
def describeFound : Option Token → String
  | some t => t.describe
  | none => "end of expression"

end Token

/-- Why a text is no expression. -/
inductive ParseError where
  /-- A string without its closing quote. -/
  | unterminatedString
  /-- A character that starts no token. -/
  | unexpectedCharacter (c : Char)
  /-- Digits and points that spell no number. -/
  | invalidNumber (text : String)
  /-- A bracket that is not closed. -/
  | expected (wanted : Token) (found : Option Token)
  /-- A condition without its second alternative. -/
  | missingColon (found : Option Token)
  /-- A point without a name behind it. -/
  | expectedIdentifier (found : Option Token)
  /-- Arguments behind something that is no name. -/
  | expectedFunctionName
  /-- A token where no expression can go on. -/
  | unexpectedToken (found : Option Token)
  /-- A segment behind something that is no path. -/
  | segmentOfNonPath (segment : String)
  /-- An index that would split into several segments. -/
  | invalidIndex (segment : String)
  /-- An operand is missing at the end. -/
  | unexpectedEnd
deriving Repr

/-- The wording of an error. -/
def ParseError.message : ParseError → String
  | .unterminatedString => "Unterminated string literal"
  | .unexpectedCharacter c => "Unexpected character: '" ++ String.singleton c ++ "'"
  | .invalidNumber text => "Invalid number: " ++ text
  | .expected wanted found =>
    "Expected " ++ wanted.describe ++ ", found " ++ Token.describeFound found
  | .missingColon found =>
    "Expected ':' in ternary expression, found " ++ Token.describeFound found
  | .expectedIdentifier found =>
    "Expected identifier after '.', found " ++ Token.describeFound found
  | .expectedFunctionName => "Expected function name before '('"
  | .unexpectedToken found => "Unexpected token: " ++ Token.describeFound found
  | .segmentOfNonPath segment =>
    "Unexpected token: property access '" ++ segment ++ "' on a non-path expression"
  | .invalidIndex segment =>
    "Index '" ++ segment ++ "' contains '.' and cannot address a single key"
  | .unexpectedEnd => "Unexpected end of expression"

end DocTemplate
