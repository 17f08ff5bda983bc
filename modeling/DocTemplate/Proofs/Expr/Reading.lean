import DocTemplate.Expr.Parsing

/-!
# What the readers of expressions return

Each reader of an expression returns a tree and the tokens behind it. Here it is said once, for
each reader, when it succeeds: as an equivalence with what the readers it calls return.

## Main definitions

* `Expr.Reads` — a reader has returned a tree and the rest.

## Main statements

* `Expr.reads_expression`, `Expr.reads_operand`, `Expr.reads_chain`, … — success of one reader.
-/

namespace DocTemplate.Expr

variable {α : Type} {P : List Token → Prop} {ts rest : List Token} {e : Expr}

/-- A reader has returned `a` and the tokens `rest` behind it. -/
def Reads (r : Except ParseError (α × Subtype P)) (a : α) (rest : List Token) : Prop :=
  ∃ h : P rest, r = .ok (a, ⟨rest, h⟩)

@[simp] theorem reads_error {error : ParseError} {a : α} :
    ¬ Reads (.error error : Except ParseError (α × Subtype P)) a rest := by
  rintro ⟨_, h⟩
  cases h

@[simp] theorem reads_ok {p : α × Subtype P} {b : α} :
    Reads (.ok p) b rest ↔ p.1 = b ∧ p.2.1 = rest := by
  obtain ⟨a, us, hus⟩ := p
  constructor
  · rintro ⟨_, h⟩
    cases h
    exact ⟨rfl, rfl⟩
  · rintro ⟨rfl, rfl⟩
    exact ⟨hus, rfl⟩

/-! ## Operators between operands -/

theorem reads_operand {n : Nat} (hn : n < BinaryOp.levels) :
    Reads (operand n ts) e rest ↔
      ∃ lhs mid, Reads (operand (n + 1) ts) lhs mid ∧ Reads (chain n lhs mid) e rest := by
  rw [operand, if_pos hn]
  cases hm : operand (n + 1) ts with
  | error => simp
  | ok lhs =>
    obtain ⟨lhs, mid, h⟩ := lhs
    cases hc : chain n lhs mid <;> simp [hc, and_assoc]

theorem reads_operand_levels {n : Nat} (hn : BinaryOp.levels ≤ n) :
    Reads (operand n ts) e rest ↔ Reads (prefixed ts) e rest := by
  rw [operand, if_neg (by omega)]

theorem reads_chain_cons {n : Nat} {lhs : Expr} {t : Token} {op : BinaryOp}
    (h : BinaryOp.ofToken? n t = some op) :
    Reads (chain n lhs (t :: ts)) e rest ↔
      ∃ rhs mid, Reads (operand (n + 1) ts) rhs mid ∧
        Reads (chain n (.binary op lhs rhs) mid) e rest := by
  rw [chain]
  split
  · simp_all
  · rename_i op' h'
    obtain rfl : op' = op := by simpa [h'] using h
    cases hm : operand (n + 1) ts with
    | error => simp
    | ok rhs =>
      obtain ⟨rhs, mid, _⟩ := rhs
      cases hc : chain n (.binary op' lhs rhs) mid <;> simp [hc, and_assoc]

theorem reads_chain_stop {n : Nat} {lhs : Expr}
    (h : ∀ t ∈ ts.head?, BinaryOp.ofToken? n t = none) :
    Reads (chain n lhs ts) e rest ↔ lhs = e ∧ ts = rest := by
  cases ts with
  | nil => simp [chain]
  | cons t ts =>
    rw [chain]
    split
    · simp
    · simp_all

/-! ## Conditions -/

theorem operand_of_reads_expression (h : Reads (expression ts) e rest) :
    ∃ c us, Reads (operand 0 ts) c us := by
  rw [expression] at h
  cases hm : operand 0 ts with
  | error => simp [hm] at h
  | ok c => simp

theorem reads_expression_question {c : Expr} {us : List Token}
    (h : Reads (operand 0 ts) c (.question :: us)) :
    Reads (expression ts) e rest ↔
      ∃ t vs f, Reads (expression us) t (.colon :: vs) ∧ Reads (expression vs) f rest ∧
        e = .ternary c t f := by
  obtain ⟨hus, h⟩ := h
  rw [expression]
  simp only [h]
  cases ht : expression us with
  | error => simp
  | ok t =>
    obtain ⟨t, vs, hvs⟩ := t
    dsimp only
    split
    · rename_i vs _
      cases hf : expression vs <;> simp [hf, and_assoc, eq_comm, and_comm]
    · rename_i hcolon
      have : ∀ ws, vs ≠ .colon :: ws := by
        rintro ws rfl
        exact hcolon ws hvs rfl HEq.rfl
      simp [this]

theorem reads_expression_plain {c : Expr} {us : List Token} (h : Reads (operand 0 ts) c us)
    (hus : ∀ vs, us ≠ .question :: vs) :
    Reads (expression ts) e rest ↔ c = e ∧ us = rest := by
  obtain ⟨hus', h⟩ := h
  rw [expression]
  simp only [h]
  split
  · simp_all
  · simp

/-! ## Signs, segments and arguments -/

theorem not_reads_prefixed_nil : ¬ Reads (prefixed []) e rest := by
  simp [prefixed]

theorem reads_prefixed_sign {t : Token} {op : UnaryOp} (h : UnaryOp.ofToken? t = some op) :
    Reads (prefixed (t :: ts)) e rest ↔ ∃ a, Reads (prefixed ts) a rest ∧ .unary op a = e := by
  rw [prefixed]
  split
  · rename_i op' h'
    obtain rfl : op' = op := by simpa [h'] using h
    cases hp : prefixed ts <;> simp [and_assoc, and_comm]
  · simp_all

theorem reads_prefixed {t : Token} (h : UnaryOp.ofToken? t = none) :
    Reads (prefixed (t :: ts)) e rest ↔
      ∃ a mid, Reads (primary t ts) a mid ∧ Reads (segments a mid) e rest := by
  rw [prefixed]
  split
  · simp_all
  · cases hp : primary t ts with
    | error => simp
    | ok a =>
      obtain ⟨a, mid, _⟩ := a
      cases hs : segments a mid <;> simp [hs, and_assoc]

theorem reads_primary {t : Token} {a : Expr} (h : ofToken? t = some a) :
    Reads (primary t ts) e rest ↔ a = e ∧ ts = rest := by
  rw [primary.eq_def]
  split <;> simp_all

theorem reads_primary_leftParen :
    Reads (primary .leftParen ts) e rest ↔ Reads (expression ts) e (.rightParen :: rest) := by
  rw [primary]
  simp only [ofToken?]
  cases hx : expression ts with
  | error => simp
  | ok a =>
    obtain ⟨a, us, hus⟩ := a
    dsimp only
    split
    · simp
    · rename_i hparen
      have : us ≠ .rightParen :: rest := by
        rintro rfl
        exact hparen rest hus rfl HEq.rfl
      simp [this]

theorem not_reads_primary {t : Token} (h : ofToken? t = none) (ht : t ≠ .leftParen) :
    ¬ Reads (primary t ts) e rest := by
  rw [primary.eq_def]
  split
  · simp_all
  · split
    · contradiction
    · simp

theorem extend_eq_error {a : Expr} (segment : String) (h : ∀ path, a ≠ .path path) :
    a.extend segment = .error (.segmentOfNonPath segment) := by
  cases a with
  | path path => exact absurd rfl (h path)
  | _ => rfl

theorem reads_segments_dot {a : Expr} :
    Reads (segments a (.dot :: ts)) e rest ↔
      ∃ path name us, a = .path path ∧ ts = .identifier name :: us ∧
        Reads (segments (.path (path ++ "." ++ name)) us) e rest := by
  by_cases h : ∃ name us, ts = .identifier name :: us
  · obtain ⟨name, us, rfl⟩ := h
    rw [segments]
    by_cases ha : ∃ path, a = .path path
    · obtain ⟨path, rfl⟩ := ha
      cases hs : segments (.path (path ++ "." ++ name)) us <;> simp [extend, hs, and_assoc]
    · rw [not_exists] at ha
      simp [extend_eq_error name ha, ha]
  · simp only [not_exists] at h
    rw [segments]
    · simp [h]
    · exact h

theorem reads_segments_leftBracket {a : Expr} :
    Reads (segments a (.leftBracket :: ts)) e rest ↔
      ∃ path t us segment, a = .path path ∧ ts = t :: .rightBracket :: us ∧
        segmentOf? t = some segment ∧ '.' ∉ segment.toList ∧
        Reads (segments (.path (path ++ "." ++ segment)) us) e rest := by
  cases ts with
  | nil => simp [segments]
  | cons t ts =>
    rw [segments]
    cases ht : segmentOf? t with
    | none => simp [ht, and_assoc]
    | some segment =>
      by_cases hsegment : '.' ∈ segment.toList
      · simp [ht, hsegment, and_assoc]
      · simp only [List.contains_eq_mem, decide_eq_true_eq, if_neg hsegment]
        split
        · rename_i us
          by_cases ha : ∃ path, a = .path path
          · obtain ⟨path, rfl⟩ := ha
            cases hs : segments (.path (path ++ "." ++ segment)) us <;>
              simp [extend, ht, hsegment, hs, and_assoc]
          · rw [not_exists] at ha
            simp [extend_eq_error segment ha, ha]
        · rename_i hbracket
          have : ∀ us, ts ≠ .rightBracket :: us := hbracket
          simp [this]

theorem reads_segments_leftParen {a : Expr} :
    Reads (segments a (.leftParen :: ts)) e rest ↔
      ∃ path args us, a = .path path ∧ Reads (arguments ts) args us ∧
        Reads (segments (.call path args) us) e rest := by
  by_cases ha : ∃ path, a = .path path
  · obtain ⟨path, rfl⟩ := ha
    rw [segments]
    cases hargs : arguments ts with
    | error => simp
    | ok args =>
      obtain ⟨args, us, _⟩ := args
      cases hs : segments (.call path args) us <;> simp [hs, and_assoc]
  · rw [not_exists] at ha
    rw [segments]
    · simp [ha]
    · exact ha

/-- Whether a token opens a segment or arguments. -/
def opensSegment : Token → Bool
  | .dot | .leftBracket | .leftParen => true
  | _ => false

theorem reads_segments_stop {a : Expr} (h : ∀ t ∈ ts.head?, opensSegment t = false) :
    Reads (segments a ts) e rest ↔ a = e ∧ ts = rest := by
  rw [segments]
  · simp
  all_goals
    intros
    simp_all [opensSegment]

theorem reads_arguments {es : List Expr} :
    Reads (arguments ts) es rest ↔
      ts = .rightParen :: rest ∧ es = [] ∨
        (∀ us, ts ≠ .rightParen :: us) ∧ Reads (argumentList ts) es rest := by
  by_cases h : ∃ us, ts = .rightParen :: us
  · obtain ⟨us, rfl⟩ := h
    simp [arguments, and_comm, eq_comm]
  · simp only [not_exists] at h
    rw [arguments]
    · simp [h]
    · exact h

theorem reads_argumentList {es : List Expr} :
    Reads (argumentList ts) es rest ↔
      (∃ a us as, Reads (expression ts) a (.comma :: us) ∧ Reads (argumentList us) as rest ∧
        es = a :: as) ∨
      ∃ a, Reads (expression ts) a (.rightParen :: rest) ∧ es = [a] := by
  rw [argumentList]
  cases hx : expression ts with
  | error => simp
  | ok a =>
    obtain ⟨a, us, hus⟩ := a
    dsimp only
    split
    · rename_i us _
      cases has : argumentList us <;> simp [has, and_assoc, and_comm, eq_comm]
    · simp [and_assoc, eq_comm, and_comm]
    · rename_i hcomma hparen
      have hus' : us ≠ .rightParen :: rest := by
        rintro rfl
        exact hparen rest hus rfl HEq.rfl
      have : ∀ vs, us ≠ .comma :: vs := by
        rintro vs rfl
        exact hcomma vs hus rfl HEq.rfl
      simp [this, hus']

/-! ## Whole lists of tokens -/

theorem ofTokens_eq_ok : ofTokens ts = .ok e ↔ Reads (expression ts) e [] := by
  rw [ofTokens]
  split
  · simp_all
  · rename_i a _ h
    simp [h]
  · rename_i h
    simp [h]

end DocTemplate.Expr
