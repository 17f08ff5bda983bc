import DocTemplate.Proofs.Expr.Soundness

/-!
# The readers, one step at a time

What each reader returns, be it a tree or an error, in terms of what the readers return that it
calls. A reader comes with a proof that fewer tokens are left, which is put aside here, so that
one reader can be followed by another.

## Main definitions

* `Expr.returned` — what a reader returns, without the proof.
* `Expr.reader` — the reader of a category of the grammar.

## Main statements

* `Expr.returned_expression`, `Expr.returned_operand`, … — one step of each reader.
* `Expr.length_lt_of_reader` — fewer tokens are left.
-/

namespace DocTemplate

open Grammar

namespace Expr

/-- Whether a token is the bracket that is wanted. -/
def isWanted : Token → Option Token → Bool
  | .rightParen, some .rightParen => true
  | .rightBracket, some .rightBracket => true
  | _, _ => false

theorem exists_of_isWanted {wanted : Token} {found : Option Token} (h : isWanted wanted found) :
    ∃ t, found = some t := by
  cases found with
  | none => cases wanted <;> cases h
  | some t => exact ⟨t, rfl⟩

/-- The tokens behind the bracket that is wanted. -/
def expected (wanted : Token) (ts : List Token) : Except ParseError (Unit × List Token) :=
  if isWanted wanted ts.head? then .ok ((), ts.tail) else .error (.expected wanted ts.head?)

section Returned

variable {α β : Type} {P : List Token → Prop}

/-- What a reader returns, without the proof that the rest is shorter. -/
def returned (r : Except ParseError (α × Subtype P)) : Except ParseError (α × List Token) :=
  r.map fun a => (a.1, a.2.1)

theorem property_of_returned {r : Except ParseError (α × Subtype P)} {a : α} {rest : List Token}
    (h : returned r = .ok (a, rest)) : P rest := by
  cases r with
  | error error => cases h
  | ok r =>
    cases h
    exact r.2.2

@[simp] theorem returned_ok_bind (r : α × Subtype P)
    (f : α × List Token → Except ParseError β) :
    (returned (.ok r) >>= f) = f (r.1, r.2.1) :=
  rfl

/-! ### Operators between operands -/

theorem returned_expression (ts : List Token) :
    returned (expression ts) = (do
      let (condition, rest) ← returned (operand 0 ts)
      match rest.head? with
      | some .question =>
        let (whenTrue, rest) ← returned (expression rest.tail)
        match rest.head? with
        | some .colon =>
          let (whenFalse, rest) ← returned (expression rest.tail)
          return (.ternary condition whenTrue whenFalse, rest)
        | found => throw (.missingColon found)
      | _ => return (condition, rest)) := by
  rw [expression]
  cases operand 0 ts with
  | error error => rfl
  | ok r =>
    obtain ⟨condition, _ | ⟨t, us⟩, h⟩ := r
    · rfl
    cases t with
    | question =>
      simp only [returned_ok_bind, List.head?_cons, List.tail_cons]
      cases expression us with
      | error error => rfl
      | ok r =>
        obtain ⟨t, _ | ⟨t', vs⟩, h⟩ := r
        · rfl
        cases t' with
        | colon =>
          simp only [returned_ok_bind, List.head?_cons, List.tail_cons]
          cases expression vs <;> rfl
        | _ => rfl
    | _ => rfl

theorem returned_operand {n : Nat} (hn : n < BinaryOp.levels) (ts : List Token) :
    returned (operand n ts) = (do
      let (lhs, rest) ← returned (operand (n + 1) ts)
      returned (chain n lhs rest)) := by
  rw [operand, if_pos hn]
  cases operand (n + 1) ts with
  | error error => rfl
  | ok r =>
    simp only [returned_ok_bind]
    cases chain n r.1 r.2.1 <;> rfl

theorem returned_operand_levels (ts : List Token) :
    returned (operand BinaryOp.levels ts) = returned (prefixed ts) := by
  rw [operand, if_neg (Nat.lt_irrefl _)]

theorem returned_chain (n : Nat) (lhs : Expr) (ts : List Token) :
    returned (chain n lhs ts) =
      match ts.head?.bind (BinaryOp.ofToken? n) with
      | some op => (do
        let (rhs, rest) ← returned (operand (n + 1) ts.tail)
        returned (chain n (.binary op lhs rhs) rest))
      | none => .ok (lhs, ts) := by
  cases ts with
  | nil => rw [chain]; rfl
  | cons t rest =>
    rw [chain]
    simp only [List.head?_cons, Option.bind_some, List.tail_cons]
    cases BinaryOp.ofToken? n t with
    | none => rfl
    | some op =>
      dsimp only
      cases operand (n + 1) rest with
      | error error => rfl
      | ok r =>
        simp only [returned_ok_bind]
        cases chain n (.binary op lhs r.1) r.2.1 <;> rfl

/-! ### Operands -/

/-- A primary with its segments and arguments. -/
def suffixed (ts : List Token) : Except ParseError (Expr × List Token) :=
  match ts with
  | [] => .error .unexpectedEnd
  | t :: ts => do
    let (e, rest) ← returned (primary t ts)
    returned (segments e rest)

theorem returned_prefixed (ts : List Token) :
    returned (prefixed ts) =
      match ts.head?.bind UnaryOp.ofToken? with
      | some op => (do
        let (e, rest) ← returned (prefixed ts.tail)
        return (.unary op e, rest))
      | none => suffixed ts := by
  cases ts with
  | nil => rw [prefixed]; rfl
  | cons t rest =>
    rw [prefixed]
    simp only [List.head?_cons, Option.bind_some, List.tail_cons, suffixed]
    cases UnaryOp.ofToken? t with
    | some op =>
      dsimp only
      cases prefixed rest <;> rfl
    | none =>
      dsimp only
      cases primary t rest with
      | error error => rfl
      | ok r =>
        simp only [returned_ok_bind]
        cases segments r.1 r.2.1 <;> rfl

theorem returned_segments (e : Expr) (ts : List Token) :
    returned (segments e ts) =
      match ts.head? with
      | some .dot =>
        match ts.tail.head? with
        | some (.identifier name) => (do
          let e ← e.extend name
          returned (segments e ts.tail.tail))
        | found => .error (.expectedIdentifier found)
      | some .leftBracket =>
        match ts.tail.head?.bind segmentOf? with
        | some segment =>
          if segment.toList.contains '.' then .error (.invalidIndex segment)
          else (do
            let (_, rest) ← expected .rightBracket ts.tail.tail
            let e ← e.extend segment
            returned (segments e rest))
        | none => .error (.unexpectedToken ts.tail.head?)
      | some .leftParen =>
        match e with
        | .path name => (do
          let (args, rest) ← returned (arguments ts.tail)
          returned (segments (.call name args) rest))
        | _ => .error .expectedFunctionName
      | _ => .ok (e, ts) := by
  rw [segments.eq_def]
  cases ts with
  | nil => rfl
  | cons t rest =>
    cases t with
    | dot =>
      cases rest with
      | nil => rfl
      | cons t rest =>
        cases t with
        | identifier name =>
          dsimp only [List.head?_cons, List.tail_cons]
          cases e.extend name with
          | error error => rfl
          | ok e =>
            dsimp only [bind, Except.bind]
            cases segments e rest <;> rfl
        | _ => rfl
    | leftBracket =>
      cases rest with
      | nil => rfl
      | cons t rest =>
        simp only [List.head?_cons, List.tail_cons, Option.bind_some]
        cases segmentOf? t with
        | none => rfl
        | some segment =>
          dsimp only
          split
          · rfl
          cases rest with
          | nil => rfl
          | cons t rest =>
            cases t with
            | rightBracket =>
              simp only [expected, isWanted, List.head?_cons, List.tail_cons, reduceIte]
              cases e.extend segment with
              | error error => rfl
              | ok e =>
                dsimp only [bind, Except.bind]
                cases segments e rest <;> rfl
            | _ => rfl
    | leftParen =>
      cases e with
      | path name =>
        simp only [List.head?_cons, List.tail_cons]
        cases arguments rest with
        | error error => rfl
        | ok r =>
          simp only [returned_ok_bind]
          cases segments (.call name r.1) r.2.1 <;> rfl
      | _ => rfl
    | _ => rfl

/-! ### Arguments -/

theorem returned_arguments (ts : List Token) :
    returned (arguments ts) =
      match ts.head? with
      | some .rightParen => (do
        let (_, rest) ← expected .rightParen ts
        return ([], rest))
      | _ => returned (argumentList ts) := by
  rw [arguments.eq_def]
  cases ts with
  | nil => rfl
  | cons t rest => cases t <;> rfl

/-- What stands behind an argument: further ones, each behind a comma, and the parenthesis. -/
def further (args : List Expr) (ts : List Token) :
    Except ParseError (List Expr × List Token) :=
  match ts.head? with
  | some .comma => do
    let (more, rest) ← returned (argumentList ts.tail)
    return (args ++ more, rest)
  | _ => do
    let (_, rest) ← expected .rightParen ts
    return (args, rest)

theorem returned_argumentList (ts : List Token) :
    returned (argumentList ts) = (do
      let (arg, rest) ← returned (expression ts)
      further [arg] rest) := by
  rw [argumentList]
  cases expression ts with
  | error error => rfl
  | ok r =>
    obtain ⟨arg, _ | ⟨t, us⟩, h⟩ := r
    · rfl
    cases t with
    | comma =>
      simp only [returned_ok_bind, further, List.head?_cons, List.tail_cons]
      cases argumentList us <;> rfl
    | _ => rfl

-- The readers put an argument before the further ones, a loop puts it behind the earlier ones.
theorem further_append (before args : List Expr) (ts : List Token) :
    (do
      let (more, rest) ← further args ts
      return (before ++ more, rest)) = further (before ++ args) ts := by
  unfold further
  split
  · cases argumentList ts.tail with
    | error error => rfl
    | ok r => simp only [returned_ok_bind, List.append_assoc]; rfl
  · cases expected .rightParen ts <;> rfl

theorem further_eq (args : List Expr) (ts : List Token) :
    further args ts =
      match ts.head? with
      | some .comma => (do
        let (arg, rest) ← returned (expression ts.tail)
        further (args ++ [arg]) rest)
      | _ => (do
        let (_, rest) ← expected .rightParen ts
        return (args, rest)) := by
  rw [further]
  split
  · rw [returned_argumentList, bind_assoc]
    simp only [further_append]
  · rfl

end Returned

/-! ### Categories -/

/-- The reader of a category of the grammar. -/
def reader : Category → List Token → Except ParseError (Expr × List Token)
  | .expression, ts => returned (expression ts)
  | .level l, ts => returned (operand l.rank ts)
  | .unary, ts => returned (prefixed ts)
  | .suffixed, ts => suffixed ts
  | .primary, [] => .error .unexpectedEnd
  | .primary, t :: ts => returned (primary t ts)

theorem reader_operand (l : Level) (ts : List Token) :
    reader l.operand ts = returned (operand (l.rank + 1) ts) := by
  cases l with
  | multiplicative => exact (returned_operand_levels ts).symm
  | _ => rfl

theorem reader_primary (ts : List Token) :
    reader .primary ts =
      match ts.head? with
      | some .leftParen => (do
        let (e, rest) ← returned (expression ts.tail)
        let (_, rest) ← expected .rightParen rest
        return (e, rest))
      | some t =>
        match ofToken? t with
        | some e => .ok (e, ts.tail)
        | none => .error (.unexpectedToken (some t))
      | none => .error .unexpectedEnd := by
  cases ts with
  | nil => rfl
  | cons t ts =>
    rw [reader, primary.eq_def]
    cases t with
    | leftParen =>
      dsimp only [ofToken?, List.head?_cons, List.tail_cons]
      cases expression ts with
      | error error => rfl
      | ok r =>
        obtain ⟨e, _ | ⟨t, us⟩, h⟩ := r
        · rfl
        cases t <;> rfl
    | _ => rfl

theorem suffixed_eq (ts : List Token) :
    suffixed ts = (do
      let (e, rest) ← reader .primary ts
      returned (segments e rest)) := by
  cases ts <;> rfl

/-- Whatever is read, a token has been passed. -/
theorem length_lt_of_reader {category : Category} {ts rest : List Token} {e : Expr}
    (h : reader category ts = .ok (e, rest)) : rest.length < ts.length := by
  cases category with
  | expression | level | unary => exact property_of_returned h
  | suffixed =>
    cases ts with
    | nil => cases h
    | cons t ts =>
      rw [reader, suffixed] at h
      cases hprimary : primary t ts with
      | error error =>
        rw [hprimary] at h
        cases h
      | ok r =>
        rw [hprimary] at h
        have hrest : rest.length ≤ r.2.1.length := property_of_returned h
        exact Nat.lt_succ_of_le (Nat.le_trans hrest r.2.2)
  | primary =>
    cases ts with
    | nil => cases h
    | cons t ts =>
      have hrest : rest.length ≤ ts.length := property_of_returned h
      exact Nat.lt_succ_of_le hrest

theorem ofTokens_map (ts : List Token) :
    ((ofTokens ts).map fun e => (e, [])) =
      match ts.head? with
      | none => .error .unexpectedEnd
      | some _ => (do
        let (e, rest) ← reader .expression ts
        match rest.head? with
        | none => return (e, rest)
        | some t => throw (.unexpectedToken (some t))) := by
  cases ts with
  | nil => simp [ofTokens, expression, operand, prefixed, BinaryOp.levels, Except.map]
  | cons t ts =>
    rw [ofTokens, reader]
    cases expression (t :: ts) with
    | error error => rfl
    | ok r =>
      obtain ⟨e, _ | ⟨t', us⟩, h⟩ := r <;> rfl

end Expr

end DocTemplate
