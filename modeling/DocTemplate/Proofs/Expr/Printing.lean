import DocTemplate.Proofs.Expr.Paths
import DocTemplate.Proofs.Token.Writing

/-!
# Printed expressions

Expressions written as texts, with parentheses where the levels of the operators need them and,
if that is wanted, also elsewhere. Whatever is printed is read back as it was.

Where an expression stands decides which parentheses it needs. Place 0 is that of a whole
expression, of an alternative of a condition and of an argument; place `n + 1` is that of an operand
of level `n`; the last place of operands is that behind a sign.

## Main definitions

* `Expr.place` — the tightest place at which an expression stands without parentheses.
* `Expr.Written` — the tokens of an expression at a place.
* `Expr.Prints` — the texts of an expression.
* `Expr.IsPrintable` — the expressions that have a text.

## Main statements

* `Expr.Written.derives` — what is written at a place is derived from the category of the place.
* `Expr.parse_prints` — what is printed is read back.
-/

namespace DocTemplate

/-- The sign of an operator between two operands. -/
def BinaryOp.sign : BinaryOp → Symbol
  | .add => .plus
  | .subtract => .minus
  | .multiply => .times
  | .divide => .over
  | .modulo => .percent
  | .equal => .equal
  | .notEqual => .notEqual
  | .lessThan => .less
  | .lessThanOrEqual => .lessOrEqual
  | .greaterThan => .greater
  | .greaterThanOrEqual => .greaterOrEqual
  | .and => .and
  | .or => .or
  | .isIn => .isIn

/-- The sign of an operator before its operand. -/
def UnaryOp.sign : UnaryOp → Symbol
  | .negate => .minus
  | .not => .not

theorem BinaryOp.text_sign (op : BinaryOp) : op.sign.text = op.symbol := by
  cases op <;> rfl

theorem UnaryOp.text_sign (op : UnaryOp) : op.sign.text = op.symbol := by
  cases op <;> rfl

/-- The text of a path: a name with segments behind it that hold no point. -/
inductive IsPath : String → Prop
  | name (n : Name) : IsPath n.text
  | segment {path s : String} (h : IsPath path) (hs : '.' ∉ s.toList) : IsPath (path ++ "." ++ s)

/-- The tokens of a path: a segment is a name behind a point or a string in brackets. -/
inductive WritesPath : List Token → String → Prop
  | name (n : Name) : WritesPath [.identifier n.text] n.text
  | member {ts : List Token} {path : String} (h : WritesPath ts path) (n : Name) :
      WritesPath (ts ++ [.dot, .identifier n.text]) (path ++ "." ++ n.text)
  | key {ts : List Token} {path s : String} (h : WritesPath ts path) (hs : '.' ∉ s.toList) :
      WritesPath (ts ++ [.leftBracket, .string s, .rightBracket]) (path ++ "." ++ s)

namespace Expr

open Grammar

/-- The tightest place at which an expression stands without parentheses. -/
def place : Expr → Nat
  | .ternary _ _ _ => 0
  | .binary op _ _ => op.level + 1
  | .unary _ _ => BinaryOp.levels + 1
  | .literal _ | .path _ | .call _ _ => BinaryOp.levels + 2

/-- The tokens of an expression at a place. Parentheses stand where the place needs them, and if
`extra` is true also around any other expression. -/
inductive Written (extra : Bool) : Nat → List Token → Expr → Prop
  | string {p : Nat} (s : String) : Written extra p [.string s] (.literal (.string s))
  | number {p : Nat} {run : List Char} {x : Float} (hrun : Token.IsRun run)
      (hx : Token.number? run = some x) : Written extra p [.number x] (.literal (.number x))
  | boolean {p : Nat} (b : Bool) : Written extra p [.boolean b] (.literal (.boolean b))
  | path {p : Nat} {ts : List Token} {text : String} (h : WritesPath ts text) :
      Written extra p ts (.path text)
  | call {p : Nat} {ts : List Token} {name : String} {args : List (List Token × Expr)}
      (h : WritesPath ts name) (hargs : ∀ a ∈ args, Written extra 0 a.1 a.2) :
      Written extra p (ts ++ .leftParen :: commaSeparated (args.map (·.1)) ++ [.rightParen])
        (.call name (args.map (·.2)))
  | unary {p : Nat} {ts : List Token} {e : Expr} {op : UnaryOp} (hp : p ≤ BinaryOp.levels + 1)
      (h : Written extra (BinaryOp.levels + 1) ts e) :
      Written extra p (.operator op.sign :: ts) (.unary op e)
  | binary {p : Nat} {ts us : List Token} {lhs rhs : Expr} {op : BinaryOp} (hp : p ≤ op.level + 1)
      (hlhs : Written extra (op.level + 1) ts lhs) (hrhs : Written extra (op.level + 2) us rhs) :
      Written extra p (ts ++ .operator op.sign :: us) (.binary op lhs rhs)
  | ternary {cs ts fs : List Token} {c t f : Expr} (hc : Written extra 1 cs c)
      (ht : Written extra 0 ts t) (hf : Written extra 0 fs f) :
      Written extra 0 (cs ++ .question :: ts ++ .colon :: fs) (.ternary c t f)
  | parenthesised {p : Nat} {ts : List Token} {e : Expr} (hneeded : extra = true ∨ e.place < p)
      (h : Written extra 0 ts e) : Written extra p (.leftParen :: ts ++ [.rightParen]) e

/-- The texts of an expression: its tokens with at least one blank between two of them. -/
def Prints (e : Expr) (extra : Bool) (text : String) : Prop :=
  ∃ ts, Written extra 0 ts e ∧ Token.Spaced text.toList ts

/-- The expressions that have a text: their literals are texts, truth values and numbers that digits
spell, and their paths start with a name. -/
inductive IsPrintable : Expr → Prop
  | string (s : String) : IsPrintable (.literal (.string s))
  | number {run : List Char} {x : Float} (hrun : Token.IsRun run)
      (hx : Token.number? run = some x) : IsPrintable (.literal (.number x))
  | boolean (b : Bool) : IsPrintable (.literal (.boolean b))
  | path {text : String} (h : IsPath text) : IsPrintable (.path text)
  | call {name : String} {args : List Expr} (h : IsPath name) (hargs : ∀ e ∈ args, IsPrintable e) :
      IsPrintable (.call name args)
  | unary {op : UnaryOp} {e : Expr} (h : IsPrintable e) : IsPrintable (.unary op e)
  | binary {op : BinaryOp} {lhs rhs : Expr} (hlhs : IsPrintable lhs) (hrhs : IsPrintable rhs) :
      IsPrintable (.binary op lhs rhs)
  | ternary {c t f : Expr} (hc : IsPrintable c) (ht : IsPrintable t) (hf : IsPrintable f) :
      IsPrintable (.ternary c t f)

end Expr

namespace Grammar

variable {p q : Nat} {ts : List Token} {e : Expr}

/-- The category of what stands at a place. -/
def Category.ofPlace : Nat → Category
  | 0 => .expression
  | n + 1 => if n ≤ BinaryOp.levels then ofRank n else .suffixed

/-- What stands at a place stands at the place before it. -/
theorem Derives.loosen (d : Derives (Category.ofPlace (p + 1)) ts e) :
    Derives (Category.ofPlace p) ts e := by
  match p, d with
  | 0, d => exact .unconditional d
  | 1, d | 2, d | 3, d | 4, d | 5, d | 6, d => exact .operand d
  | 7, d => exact .unsigned d
  | _ + 8, d => exact d

theorem Derives.of_le (hpq : p ≤ q) (d : Derives (Category.ofPlace q) ts e) :
    Derives (Category.ofPlace p) ts e := by
  induction hpq with
  | refl => exact d
  | step _ ih => exact ih d.loosen

theorem Derives.of_suffixed (d : Derives .suffixed ts e) (p : Nat) :
    Derives (Category.ofPlace p) ts e := by
  have htight : Category.ofPlace (p + 8) = .suffixed := rfl
  exact of_le (Nat.le_add_right p 8) (htight ▸ d)

/-- The level of an operator, with what stands around it. -/
theorem exists_level (op : BinaryOp) : ∃ l : Level, l.Joins op.sign op ∧
    Category.ofPlace (op.level + 1) = .level l ∧ Category.ofPlace (op.level + 2) = l.operand := by
  cases op <;> exact ⟨_, by constructor, rfl, rfl⟩

/-- What holds of a comma and in several phrases holds in the phrases with commas between them. -/
theorem forall_mem_commaSeparated {P : Token → Prop} (hcomma : P .comma)
    (phrases : List (List Token)) (h : ∀ phrase ∈ phrases, ∀ t ∈ phrase, P t) :
    ∀ t ∈ commaSeparated phrases, P t := by
  induction phrases with
  | nil => simp [commaSeparated]
  | cons phrase phrases ih =>
    obtain ⟨hphrase, hphrases⟩ := List.forall_mem_cons.mp h
    by_cases hnil : phrases = []
    · rwa [hnil, commaSeparated_singleton]
    · rw [commaSeparated_cons _ hnil, List.forall_mem_append, List.forall_mem_cons]
      exact ⟨hphrase, hcomma, ih hphrases⟩

end Grammar

open Grammar

theorem Name.form (n : Name) : Token.Form n.text.toList (.identifier n.text) :=
  .identifier n.isWord n.token_eq

theorem WritesPath.forms {ts : List Token} {text : String} (h : WritesPath ts text) :
    ∀ t ∈ ts, ∃ text, Token.Form text t := by
  induction h with
  | name n => simpa using ⟨_, n.form⟩
  | member _ n ih =>
    simp only [List.forall_mem_append, List.forall_mem_cons]
    exact ⟨ih, Token.exists_form_mark (c := '.') rfl, ⟨_, n.form⟩, List.forall_mem_nil _⟩
  | @key _ _ s _ _ ih =>
    simp only [List.forall_mem_append, List.forall_mem_cons]
    exact ⟨ih, Token.exists_form_mark (c := '[') rfl, Token.exists_form_string s,
      Token.exists_form_mark (c := ']') rfl, List.forall_mem_nil _⟩

theorem WritesPath.derives {ts : List Token} {text : String} (h : WritesPath ts text) :
    Derives .suffixed ts (.path text) := by
  induction h with
  | name n => exact .bare .identifier
  | member _ n ih => exact .member ih
  | key _ hs ih => exact .textIndex ih hs

theorem WritesPath.isPath {ts : List Token} {text : String} (h : WritesPath ts text) :
    IsPath text := by
  induction h with
  | name n => exact .name n
  | member _ n ih => exact .segment ih n.not_mem
  | key _ hs ih => exact .segment ih hs

theorem IsPath.exists_tokens {text : String} (h : IsPath text) : ∃ ts, WritesPath ts text := by
  induction h with
  | name n => exact ⟨_, .name n⟩
  | segment _ hs ih =>
    obtain ⟨ts, hts⟩ := ih
    exact ⟨_, .key hts hs⟩

namespace Expr

variable {extra : Bool} {p : Nat} {ts : List Token} {e : Expr}

/-- What is written at a place is derived from the category of the place. -/
theorem Written.derives (h : Written extra p ts e) : Derives (Category.ofPlace p) ts e := by
  induction h with
  | string s => exact .of_suffixed (.bare .string) _
  | number _ _ => exact .of_suffixed (.bare .number) _
  | boolean b => exact .of_suffixed (.bare .boolean) _
  | path h => exact .of_suffixed h.derives _
  | call h _ ih => exact .of_suffixed (.call h.derives ih) _
  | @unary _ _ _ op hp _ ih =>
    refine .of_le hp ?_
    cases op with
    | negate => exact .negated ih
    | not => exact .not ih
  | @binary _ _ _ _ _ op hp _ _ ihl ihr =>
    obtain ⟨l, hjoins, hlevel, hoperand⟩ := exists_level op
    refine .of_le hp ?_
    rw [hlevel] at ihl ⊢
    rw [hoperand] at ihr
    exact .joined hjoins ihl ihr
  | ternary _ _ _ ihc iht ihf => exact .conditional ihc iht ihf
  | parenthesised _ _ ih => exact .of_suffixed (.bare (.parenthesised ih)) _

/-- Every token of a written expression has a text. -/
theorem Written.forms (h : Written extra p ts e) : ∀ t ∈ ts, ∃ text, Token.Form text t := by
  induction h with
  | string s => simpa using Token.exists_form_string s
  | number hrun hx => simpa using ⟨_, Token.Form.number hrun (hrun.number?_iff.mp hx)⟩
  | boolean b => simpa using ⟨_, Token.Form.boolean b⟩
  | path h => exact h.forms
  | @call _ _ _ args h _ ih =>
    simp only [List.forall_mem_append, List.forall_mem_cons]
    have hargs := forall_mem_commaSeparated (Token.exists_form_mark (c := ',') rfl)
      (args.map (·.1)) (List.forall_mem_map.mpr ih)
    exact ⟨⟨h.forms, Token.exists_form_mark (c := '(') rfl, hargs⟩,
      Token.exists_form_mark (c := ')') rfl, List.forall_mem_nil _⟩
  | unary _ _ ih => exact List.forall_mem_cons.mpr ⟨⟨_, .operator _⟩, ih⟩
  | binary _ _ _ ihl ihr =>
    rw [List.forall_mem_append, List.forall_mem_cons]
    exact ⟨ihl, ⟨_, .operator _⟩, ihr⟩
  | ternary _ _ _ ihc iht ihf =>
    simp only [List.forall_mem_append, List.forall_mem_cons]
    exact ⟨⟨ihc, Token.exists_form_mark (c := '?') rfl, iht⟩,
      Token.exists_form_mark (c := ':') rfl, ihf⟩
  | parenthesised _ _ ih =>
    simp only [List.forall_mem_append, List.forall_mem_cons]
    exact ⟨⟨Token.exists_form_mark (c := '(') rfl, ih⟩,
      Token.exists_form_mark (c := ')') rfl, List.forall_mem_nil _⟩

theorem Written.isPrintable (h : Written extra p ts e) : e.IsPrintable := by
  induction h with
  | string s => exact .string s
  | number hrun hx => exact .number hrun hx
  | boolean b => exact .boolean b
  | path h => exact .path h.isPath
  | call h _ ih => exact .call h.isPath (List.forall_mem_map.mpr ih)
  | unary _ _ ih => exact .unary ih
  | binary _ _ _ ihl ihr => exact .binary ihl ihr
  | ternary _ _ _ ihc iht ihf => exact .ternary ihc iht ihf
  | parenthesised _ _ ih => exact ih

/-- What is written without parentheses at all places that allow it is written at every place. -/
theorem exists_written_of_le (h : ∃ ts, ∀ p ≤ e.place, Written extra p ts e) (p : Nat) :
    ∃ ts, Written extra p ts e := by
  obtain ⟨ts, h⟩ := h
  by_cases hp : p ≤ e.place
  · exact ⟨ts, h p hp⟩
  · exact ⟨_, .parenthesised (.inr (Nat.lt_of_not_le hp)) (h 0 (Nat.zero_le _))⟩

/-- A printable expression is written at every place. -/
theorem IsPrintable.exists_written (h : e.IsPrintable) (extra : Bool) (p : Nat) :
    ∃ ts, Written extra p ts e := by
  induction h generalizing p with
  | string s => exact ⟨_, .string s⟩
  | number hrun hx => exact ⟨_, .number hrun hx⟩
  | boolean b => exact ⟨_, .boolean b⟩
  | path h =>
    obtain ⟨ts, hts⟩ := h.exists_tokens
    exact ⟨ts, .path hts⟩
  | @call name args h _ ih =>
    obtain ⟨ts, hts⟩ := h.exists_tokens
    choose! tokens htokens using fun e he => ih e he 0
    have hargs : ∀ a ∈ args.map fun e => (tokens e, e), Written extra 0 a.1 a.2 := by
      simpa using htokens
    have hcall := Written.call (p := p) hts hargs
    rw [List.map_map, List.map_map] at hcall
    exact ⟨_, by simpa [Function.comp_def] using hcall⟩
  | @unary op e _ ih =>
    obtain ⟨ts, hts⟩ := ih (BinaryOp.levels + 1)
    exact exists_written_of_le ⟨_, fun _ hp => .unary hp hts⟩ p
  | @binary op lhs rhs _ _ ihl ihr =>
    obtain ⟨ts, hts⟩ := ihl (op.level + 1)
    obtain ⟨us, hus⟩ := ihr (op.level + 2)
    exact exists_written_of_le ⟨_, fun _ hp => .binary hp hts hus⟩ p
  | ternary _ _ _ ihc iht ihf =>
    obtain ⟨cs, hcs⟩ := ihc 1
    obtain ⟨ts, hts⟩ := iht 0
    obtain ⟨fs, hfs⟩ := ihf 0
    refine exists_written_of_le ⟨cs ++ .question :: ts ++ .colon :: fs, fun _ hp => ?_⟩ p
    obtain rfl := Nat.le_zero.mp hp
    exact .ternary hcs hts hfs

/-- Every text of an expression is read as that expression, whatever parentheses, quotes, spellings
of numbers and segments, and blanks it has. The expressions that have a text are the printable ones,
and they have one with no parentheses but those that their places need. The signs in these texts are
the symbols of the operators. -/
theorem parse_prints (e : Expr) :
    (∀ extra text, e.Prints extra text → parse text = .ok e) ∧
      (e.IsPrintable ↔ ∃ text, e.Prints false text) ∧
      (∀ op : BinaryOp, op.sign.text = op.symbol) ∧ ∀ op : UnaryOp, op.sign.text = op.symbol := by
  refine ⟨?_, ⟨?_, ?_⟩, BinaryOp.text_sign, UnaryOp.text_sign⟩
  · rintro extra text ⟨ts, hwritten, hspaced⟩
    have hderives : Derives .expression ts e := hwritten.derives
    exact parse_eq_ok_iff.mpr
      ⟨ts, Token.scan_of_spaced hspaced, ofTokens_eq_ok_iff_derives.mpr hderives⟩
  · intro h
    obtain ⟨ts, hwritten⟩ := h.exists_written false 0
    obtain ⟨t, us, hts, -⟩ := hwritten.derives.exists_cons
    obtain ⟨text, hspaced⟩ := Token.exists_spaced (by simp [hts]) hwritten.forms
    exact ⟨String.ofList text, ts, hwritten, by rwa [String.toList_ofList]⟩
  · rintro ⟨text, ts, hwritten, -⟩
    exact hwritten.isPrintable

/-- A condition needs parentheses between operators, a sign in front of a path needs none. -/
theorem parse_prints_mixed :
    let e : Expr := .binary .isIn
      (.binary .multiply (.ternary (.path "a") (.literal (.number 1)) (.path "b"))
        (.unary .negate (.path "c.d")))
      (.path "e")
    e.Prints false "( a ? 1 : b ) * - c [ 'd' ] in e" ∧
      parse "( a ? 1 : b ) * - c [ 'd' ] in e" = .ok e := by
  intro e
  let a : Name := ⟨"a", ⟨'a', [], rfl, by decide, by simp⟩, rfl⟩
  let b : Name := ⟨"b", ⟨'b', [], rfl, by decide, by simp⟩, rfl⟩
  let c : Name := ⟨"c", ⟨'c', [], rfl, by decide, by simp⟩, rfl⟩
  let last : Name := ⟨"e", ⟨'e', [], rfl, by decide, by simp⟩, rfl⟩
  have hrun : Token.IsRun ['1'] := ⟨'1', [], rfl, by decide, by simp⟩
  have hone : Token.number? ['1'] = some 1 := rfl
  have hcondition : Written false 6 _ _ := .parenthesised (.inr (by decide))
    (.ternary (.path (.name a)) (.number hrun hone) (.path (.name b)))
  have hsign : Written false 7 _ (.unary .negate (.path "c.d")) := .unary (by decide)
    (.path (.key (.name c) (s := "d") (by decide)))
  have hproduct : Written false 3 _ (.binary .multiply _ _) :=
    .binary (by decide) hcondition hsign
  have hwritten : Written false 0 _ (.binary .isIn _ _) :=
    .binary (Nat.zero_le _) hproduct (.path (.name last))
  have ha : Token.Form "a".toList (.identifier "a") := a.form
  have hb : Token.Form "b".toList (.identifier "b") := b.form
  have hc : Token.Form "c".toList (.identifier "c") := c.form
  have hlast : Token.Form "e".toList (.identifier "e") := last.form
  have hspaced := Token.spaced_intercalate (.cons (.mark (t := .leftParen) rfl) <| .cons ha <|
    .cons (.mark (t := .question) rfl) <| .cons (.number hrun (hrun.number?_iff.mp hone)) <|
    .cons (.mark (t := .colon) rfl) <| .cons hb <| .cons (.mark (t := .rightParen) rfl) <|
    .cons (.operator .times) <| .cons (.operator .minus) <| .cons hc <|
    .cons (.mark (t := .leftBracket) rfl) <| .cons (.string (.inr rfl) ['d']) <|
    .cons (.mark (t := .rightBracket) rfl) <| .cons (.operator .isIn) <| .cons hlast .nil) (by simp)
  have hprints : e.Prints false "( a ? 1 : b ) * - c [ 'd' ] in e" := ⟨_, hwritten, hspaced⟩
  exact ⟨hprints, (parse_prints e).1 false _ hprints⟩

end Expr

end DocTemplate
