import DocTemplate.Proofs.Expr.Soundness
import DocTemplate.Proofs.Token.Words

/-!
# What follows the grammar is read

A reader takes all that its category derives, as long as the token behind cannot go on with it. A
chain of operators is derived from its end and read from its start, so the statement for a level
speaks about the further operands behind the derived ones, whatever they are.

## Main definitions

* `Token.strength` — how tightly a token ties what follows it to what stands before it.
* `Grammar.Stops` — a list of tokens does not go on with an operand of a strength.

## Main statements

* `Expr.ofTokens_eq_ok_iff_derives` — the tokens of a whole expression are exactly the derived ones.
-/

namespace DocTemplate

open Grammar

/-- How tightly a token ties what follows it to what stands before it. -/
def Token.strength : Token → Option Nat
  | .question => some 0
  | .operator sign => (BinaryOp.ofSymbol? sign).map (·.level + 1)
  | .dot | .leftBracket | .leftParen => some 7
  | _ => none

namespace Grammar

variable {ts us rest : List Token} {e : Expr}

/-- The first token binds less than a strength, or not at all. -/
def Stops (n : Nat) (ts : List Token) : Prop :=
  ∀ t ∈ ts.head?, ∀ k ∈ t.strength, k < n

@[simp] theorem stops_nil (n : Nat) : Stops n [] := by
  simp [Stops]

@[simp] theorem stops_cons {n : Nat} {t : Token} :
    Stops n (t :: ts) ↔ ∀ k ∈ t.strength, k < n := by
  simp [Stops]

theorem Stops.mono {m n : Nat} (h : Stops m ts) (hmn : m ≤ n) : Stops n ts :=
  fun t ht k hk => Nat.lt_of_lt_of_le (h t ht k hk) hmn

theorem Level.Joins.strength {l : Level} {sign : Symbol} {op : BinaryOp} (h : l.Joins sign op) :
    (Token.operator sign).strength = some (l.rank + 1) := by
  cases h <;> rfl

theorem Stops.chain {l : Level} (h : Stops (l.rank + 1) ts) :
    Expr.Reads (Expr.chain l.rank e ts) e ts := by
  refine (Expr.reads_chain_stop fun t ht => ?_).mpr ⟨rfl, rfl⟩
  cases hop : BinaryOp.ofToken? l.rank t with
  | none => rfl
  | some op =>
    obtain ⟨sign, rfl, hjoins⟩ := ofToken?_eq_some.mp hop
    exact absurd (h _ ht _ hjoins.strength) (Nat.lt_irrefl _)

theorem Stops.segments (h : Stops 7 ts) : Expr.Reads (Expr.segments e ts) e ts := by
  refine (Expr.reads_segments_stop fun t ht => ?_).mpr ⟨rfl, rfl⟩
  have hstrength := h t ht
  cases t <;> simp [Token.strength] at hstrength <;> rfl

/-- What the reader of a category does with the tokens `ts` of a tree `e`. -/
def Category.Accepts : Category → List Token → Expr → Prop
  | .expression, ts, e => ∀ rest, Stops 0 rest → Expr.Reads (Expr.expression (ts ++ rest)) e rest
  | .level l, ts, e => ∀ rest e' rest', Stops (l.rank + 2) rest →
      Expr.Reads (Expr.chain l.rank e rest) e' rest' →
      Expr.Reads (Expr.operand l.rank (ts ++ rest)) e' rest'
  | .unary, ts, e => ∀ rest, Stops 7 rest → Expr.Reads (Expr.prefixed (ts ++ rest)) e rest
  | .suffixed, ts, e => ∀ rest e' rest', Expr.Reads (Expr.segments e rest) e' rest' →
      Expr.Reads (Expr.prefixed (ts ++ rest)) e' rest'
  | .primary, ts, e => ∃ t us, ts = t :: us ∧ UnaryOp.ofToken? t = none ∧
      ∀ rest, Expr.Reads (Expr.primary t (us ++ rest)) e rest

theorem Category.Accepts.level {l : Level} (h : (Category.level l).Accepts ts e)
    (hrest : Stops (l.rank + 1) rest) : Expr.Reads (Expr.operand l.rank (ts ++ rest)) e rest :=
  h rest e rest (hrest.mono (Nat.le_succ _)) hrest.chain

theorem Category.Accepts.operand {l : Level} (h : l.operand.Accepts ts e)
    (hrest : Stops (l.rank + 2) rest) :
    Expr.Reads (Expr.operand (l.rank + 1) (ts ++ rest)) e rest := by
  cases l with
  | or => exact level (l := .and) h hrest
  | and => exact level (l := .equality) h hrest
  | equality => exact level (l := .relational) h hrest
  | relational => exact level (l := .additive) h hrest
  | additive => exact level (l := .multiplicative) h hrest
  | multiplicative => exact (Expr.reads_operand_levels (Nat.le_refl _)).mpr (h rest hrest)

theorem reads_primary_token {t : Token} (h : Expr.ofToken? t = some e) :
    Category.primary.Accepts [t] e := by
  refine ⟨t, [], rfl, ?_, fun rest => (Expr.reads_primary h).mpr ⟨rfl, rfl⟩⟩
  cases t <;> simp [Expr.ofToken?] at h <;> rfl

/-- No phrase is empty or starts with a closing parenthesis. -/
theorem Derives.exists_cons {c : Category} (d : Derives c ts e) :
    ∃ t us, ts = t :: us ∧ t ≠ .rightParen := by
  induction d with
  | unconditional _ ih | operand _ ih | unsigned _ ih | bare _ ih => exact ih
  | conditional _ _ _ ih => obtain ⟨t, us, rfl, ht⟩ := ih; exact ⟨t, _, rfl, ht⟩
  | joined _ _ _ ih | member _ ih | textIndex _ _ ih | numberIndex _ _ ih | call _ _ ih =>
    obtain ⟨t, us, rfl, ht⟩ := ih
    exact ⟨t, _, rfl, ht⟩
  | _ => exact ⟨_, _, rfl, by simp⟩

theorem reads_argumentList {args : List (List Token × Expr)} (hne : args ≠ [])
    (h : ∀ a ∈ args, Category.expression.Accepts a.1 a.2) :
    Expr.Reads (Expr.argumentList (commaSeparated (args.map (·.1)) ++ .rightParen :: rest))
      (args.map (·.2)) rest := by
  induction args with
  | nil => exact absurd rfl hne
  | cons a args ih =>
    obtain ⟨ha, hargs⟩ := List.forall_mem_cons.mp h
    by_cases hargs' : args = []
    · subst hargs'
      refine Expr.reads_argumentList.mpr (.inr ⟨a.2, ?_, rfl⟩)
      rw [List.map_singleton, commaSeparated_singleton]
      exact ha _ (by simp [Token.strength])
    · refine Expr.reads_argumentList.mpr (.inl ⟨a.2, _, _, ?_, ih hargs' hargs, rfl⟩)
      rw [List.map_cons, commaSeparated_cons _ (by simpa using hargs'), List.append_assoc]
      exact ha _ (by simp [Token.strength])

theorem reads_arguments {args : List (List Token × Expr)}
    (d : ∀ a ∈ args, Derives .expression a.1 a.2)
    (h : ∀ a ∈ args, Category.expression.Accepts a.1 a.2) :
    Expr.Reads (Expr.arguments (commaSeparated (args.map (·.1)) ++ .rightParen :: rest))
      (args.map (·.2)) rest := by
  cases args with
  | nil => exact Expr.reads_arguments.mpr (.inl ⟨rfl, rfl⟩)
  | cons a args =>
    refine Expr.reads_arguments.mpr (.inr ⟨fun us => ?_, reads_argumentList (by simp) h⟩)
    obtain ⟨t, us', hus, ht⟩ := (List.forall_mem_cons.mp d).1.exists_cons
    by_cases hargs : args = []
    · simp [hargs, hus, ht]
    · rw [List.map_cons, commaSeparated_cons _ (by simpa using hargs)]
      simp [hus, ht]

/-- The readers accept what the grammar derives. -/
theorem Derives.accepts {c : Category} (d : Derives c ts e) : c.Accepts ts e := by
  induction d with
  | unconditional _ ih =>
    intro rest hrest
    have hor := ih.level (l := .or) (hrest.mono (by simp))
    refine (Expr.reads_expression_plain hor ?_).mpr ⟨rfl, rfl⟩
    rintro vs rfl
    simp [Token.strength] at hrest
  | @conditional cs ts fs c t f _ _ _ ihc iht ihf =>
    intro rest hrest
    have hc (us : List Token) : Expr.Reads (Expr.operand 0 (cs ++ .question :: us)) c
        (.question :: us) :=
      ihc.level (l := .or) (by simp [Token.strength, Level.rank])
    have ht := iht (.colon :: (fs ++ rest)) (by simp [Token.strength])
    rw [List.append_assoc, List.append_assoc]
    exact (Expr.reads_expression_question (hc _)).mpr ⟨t, _, f, ht, ihf rest hrest, rfl⟩
  | @operand l ts e _ ih =>
    intro rest e' rest' hrest he
    exact (Expr.reads_operand l.rank_lt).mpr ⟨e, rest, ih.operand hrest, he⟩
  | @joined l sign op ts us lhs rhs hjoins _ _ ihl ihr =>
    intro rest e' rest' hrest he
    have hop : BinaryOp.ofToken? l.rank (.operator sign) = some op :=
      ofToken?_eq_some.mpr ⟨sign, rfl, hjoins⟩
    rw [List.append_assoc]
    refine ihl _ _ _ (by simp [hjoins.strength]) ?_
    exact (Expr.reads_chain_cons hop).mpr ⟨rhs, rest, ihr.operand hrest, he⟩
  | unsigned _ ih =>
    intro rest hrest
    exact ih rest _ rest hrest.segments
  | not _ ih | negated _ ih =>
    intro rest hrest
    exact (Expr.reads_prefixed_sign rfl).mpr ⟨_, ih rest hrest, rfl⟩
  | bare _ ih =>
    intro rest e' rest' he
    obtain ⟨t, us, rfl, ht, hprimary⟩ := ih
    exact (Expr.reads_prefixed ht).mpr ⟨_, rest, hprimary rest, he⟩
  | member _ ih =>
    intro rest e' rest' he
    rw [List.append_assoc]
    exact ih _ _ _ (Expr.reads_segments_dot.mpr ⟨_, _, rest, rfl, rfl, he⟩)
  | @textIndex ts path s _ hs ih =>
    intro rest e' rest' he
    rw [List.append_assoc]
    refine ih _ _ _ (Expr.reads_segments_leftBracket.mpr ?_)
    exact ⟨path, .string s, rest, s, rfl, rfl, rfl, hs, he⟩
  | @numberIndex ts path x _ hx ih =>
    intro rest e' rest' he
    rw [List.append_assoc]
    refine ih _ _ _ (Expr.reads_segments_leftBracket.mpr ?_)
    exact ⟨path, .number x, rest, _, rfl, rfl, rfl, by simpa using hx, he⟩
  | call _ dargs ih ihargs =>
    intro rest e' rest' he
    rw [List.append_assoc, List.append_assoc]
    refine ih _ _ _ (Expr.reads_segments_leftParen.mpr ?_)
    exact ⟨_, _, rest, rfl, reads_arguments dargs ihargs, he⟩
  | @parenthesised ts e _ ih =>
    refine ⟨.leftParen, ts ++ [.rightParen], rfl, rfl, fun rest => ?_⟩
    refine Expr.reads_primary_leftParen.mpr ?_
    rw [List.append_assoc]
    exact ih (.rightParen :: rest) (by simp [Token.strength])
  | string | number | boolean | identifier => exact reads_primary_token rfl

end Grammar

namespace Expr

/-- The tree of a whole list of tokens is the derived one. -/
theorem ofTokens_eq_ok_iff_derives {ts : List Token} {e : Expr} :
    ofTokens ts = .ok e ↔ Derives .expression ts e := by
  rw [ofTokens_eq_ok]
  constructor
  · intro h
    obtain ⟨us, rfl, d⟩ := derives_of_reads_expression h
    simpa using d
  · intro d
    have h := d.accepts [] (by simp)
    rwa [List.append_nil] at h

/-- The parser decides the grammar: it returns the one tree that is derived, and fails if there is
none. The names among the tokens of a text hold no point, so a path gets one segment for each name
or index behind it. -/
theorem parser_decides_grammar (ts : List Token) :
    (∀ e, ofTokens ts = .ok e ↔ Derives .expression ts e) ∧
    (∀ e e', Derives .expression ts e → Derives .expression ts e' → e = e') ∧
    ((∃ error, ofTokens ts = .error error) ↔ ∀ e, ¬ Derives .expression ts e) ∧
    (∀ text name, Token.ofText text = .ok ts → .identifier name ∈ ts → '.' ∉ name.toList) := by
  refine ⟨fun e => ofTokens_eq_ok_iff_derives, fun e e' d d' => ?_, ?_,
    fun text name h hname => Token.not_mem_of_identifier h hname⟩
  · rw [← ofTokens_eq_ok_iff_derives] at d d'
    exact Except.ok.inj (d.symm.trans d')
  · simp only [← ofTokens_eq_ok_iff_derives]
    cases ofTokens ts <;> simp

end Expr

end DocTemplate
