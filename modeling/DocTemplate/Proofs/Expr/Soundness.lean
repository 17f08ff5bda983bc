import DocTemplate.Proofs.Expr.Grammar
import DocTemplate.Proofs.Expr.Reading

/-!
# What is read follows the grammar

Each reader takes tokens that its category derives with the tree it returns. The readers call each
other, so the statements are proved together, along the recursion of the readers.

## Main statements

* `Expr.derives_of_reads_expression` — an expression that is read is derived.
-/

namespace DocTemplate

open Grammar

namespace Grammar

/-- The place of a level, counted from the loosest. -/
def Level.rank : Level → Nat
  | .or => 0
  | .and => 1
  | .equality => 2
  | .relational => 3
  | .additive => 4
  | .multiplicative => 5

/-- The category of the operands of a rank. -/
def Category.ofRank : Nat → Category
  | 0 => .level .or
  | 1 => .level .and
  | 2 => .level .equality
  | 3 => .level .relational
  | 4 => .level .additive
  | 5 => .level .multiplicative
  | _ => .unary

theorem Level.rank_lt (l : Level) : l.rank < BinaryOp.levels := by
  cases l <;> decide

theorem Level.exists_rank_eq {n : Nat} (h : n < BinaryOp.levels) : ∃ l : Level, l.rank = n := by
  match n, h with
  | 0, _ => exact ⟨.or, rfl⟩
  | 1, _ => exact ⟨.and, rfl⟩
  | 2, _ => exact ⟨.equality, rfl⟩
  | 3, _ => exact ⟨.relational, rfl⟩
  | 4, _ => exact ⟨.additive, rfl⟩
  | 5, _ => exact ⟨.multiplicative, rfl⟩

@[simp] theorem Category.ofRank_rank (l : Level) : ofRank l.rank = .level l := by
  cases l <;> rfl

@[simp] theorem Category.ofRank_rank_succ (l : Level) : ofRank (l.rank + 1) = l.operand := by
  cases l <;> rfl

theorem Category.ofRank_levels {n : Nat} (h : BinaryOp.levels ≤ n) : ofRank n = .unary := by
  match n, h with
  | n + 6, _ => rfl

/-- The tokens that join operands are the signs of the level. -/
theorem ofToken?_eq_some {l : Level} {t : Token} {op : BinaryOp} :
    BinaryOp.ofToken? l.rank t = some op ↔ ∃ sign, t = .operator sign ∧ l.Joins sign op := by
  constructor
  · intro h
    cases t with
    | operator sign =>
      refine ⟨sign, rfl, ?_⟩
      cases l <;> cases sign <;> simp [BinaryOp.ofToken?, BinaryOp.ofSymbol?, BinaryOp.level,
        Level.rank, Option.filter] at h <;> subst h <;> constructor
    | _ => simp [BinaryOp.ofToken?] at h
  · rintro ⟨sign, rfl, h⟩
    cases h <;> rfl

end Grammar

namespace Expr

variable {ts rest us : List Token} {e : Expr}

theorem Reads.length_lt {α : Type} {r : Except ParseError (α × Rest ts)} {a : α}
    (h : Reads r a rest) : rest.length < ts.length :=
  h.1

theorem Reads.length_le {α : Type} {r : Except ParseError (α × Tail ts)} {a : α}
    (h : Reads r a rest) : rest.length ≤ ts.length :=
  h.1

/-- A token that is an expression by itself. -/
theorem derives_of_ofToken? {t : Token} (h : ofToken? t = some e) : Derives .primary [t] e := by
  cases t <;> simp [ofToken?] at h <;> subst h <;> constructor

theorem derives_of_segmentOf? {t : Token} {segment path : String}
    (h : Derives .suffixed ts (.path path)) (ht : segmentOf? t = some segment)
    (hsegment : '.' ∉ segment.toList) :
    Derives .suffixed (ts ++ [.leftBracket, t, .rightBracket])
      (.path (path ++ "." ++ segment)) := by
  cases t <;> simp [segmentOf?] at ht <;> subst ht
  · exact .textIndex h hsegment
  · exact .numberIndex h (by simpa using hsegment)

theorem derives_of_sign {t : Token} {op : UnaryOp} (h : Derives .unary ts e)
    (ht : UnaryOp.ofToken? t = some op) : Derives .unary (t :: ts) (.unary op e) := by
  unfold UnaryOp.ofToken? at ht
  split at ht <;> cases ht
  · exact .not h
  · exact .negated h

mutual

/-- An expression that is read is derived. -/
theorem derives_of_reads_expression {ts rest : List Token} {e : Expr}
    (h : Reads (expression ts) e rest) : ∃ us, ts = us ++ rest ∧ Derives .expression us e := by
  obtain ⟨c, mid, hc⟩ := operand_of_reads_expression h
  obtain ⟨cs, hcs, dc⟩ := derives_of_reads_operand hc
  have hmid := hc.length_lt
  by_cases hq : ∃ us, mid = .question :: us
  · obtain ⟨us, rfl⟩ := hq
    obtain ⟨t, vs, f, ht, hf, rfl⟩ := (reads_expression_question hc).mp h
    have hvs := ht.length_lt
    obtain ⟨us', hus', dt⟩ := derives_of_reads_expression ht
    obtain ⟨vs', hvs', df⟩ := derives_of_reads_expression hf
    refine ⟨cs ++ .question :: us' ++ .colon :: vs', ?_, .conditional dc dt df⟩
    simp [hcs, hus', hvs']
  · rw [not_exists] at hq
    obtain ⟨rfl, rfl⟩ := (reads_expression_plain hc hq).mp h
    exact ⟨cs, hcs, .unconditional dc⟩
termination_by (ts.length, 3 + BinaryOp.levels)
decreasing_by all_goals grind

theorem derives_of_reads_operand {n : Nat} {ts rest : List Token} {e : Expr}
    (h : Reads (operand n ts) e rest) :
    ∃ us, ts = us ++ rest ∧ Derives (Category.ofRank n) us e := by
  by_cases hn : n < BinaryOp.levels
  · obtain ⟨lhs, mid, hlhs, hchain⟩ := (reads_operand hn).mp h
    have hmid := hlhs.length_lt
    obtain ⟨us, hus, dlhs⟩ := derives_of_reads_operand hlhs
    obtain ⟨l, rfl⟩ := Level.exists_rank_eq hn
    rw [Category.ofRank_rank_succ] at dlhs
    obtain ⟨vs, hvs, de⟩ := derives_of_reads_chain (.operand dlhs) hchain
    exact ⟨us ++ vs, by simp [hus, hvs], by simpa using de⟩
  · rw [Nat.not_lt] at hn
    rw [Category.ofRank_levels hn]
    exact derives_of_reads_prefixed ((reads_operand_levels hn).mp h)
termination_by (ts.length, 2 + (BinaryOp.levels - n))
decreasing_by all_goals grind

/-- The operands of a level that is read behind `us` extend the tree of `us` to the right. -/
theorem derives_of_reads_chain {l : Level} {us ts rest : List Token} {lhs e : Expr}
    (d : Derives (.level l) us lhs) (h : Reads (chain l.rank lhs ts) e rest) :
    ∃ vs, ts = vs ++ rest ∧ Derives (.level l) (us ++ vs) e := by
  cases ts with
  | nil =>
    obtain ⟨rfl, rfl⟩ := (reads_chain_stop (by simp)).mp h
    exact ⟨[], by simp, by simpa using d⟩
  | cons t ts =>
    cases hop : BinaryOp.ofToken? l.rank t with
    | none =>
      obtain ⟨rfl, rfl⟩ := (reads_chain_stop (by simpa using hop)).mp h
      exact ⟨[], by simp, by simpa using d⟩
    | some op =>
      obtain ⟨rhs, mid, hrhs, hchain⟩ := (reads_chain_cons hop).mp h
      obtain ⟨sign, rfl, hjoins⟩ := ofToken?_eq_some.mp hop
      have hmid := hrhs.length_lt
      obtain ⟨vs, hvs, drhs⟩ := derives_of_reads_operand hrhs
      rw [Category.ofRank_rank_succ] at drhs
      obtain ⟨ws, hws, de⟩ := derives_of_reads_chain (.joined hjoins d drhs) hchain
      exact ⟨.operator sign :: vs ++ ws, by simp [hvs, hws], by simpa using de⟩
termination_by (ts.length, 0)
decreasing_by all_goals grind

theorem derives_of_reads_prefixed {ts rest : List Token} {e : Expr}
    (h : Reads (prefixed ts) e rest) : ∃ us, ts = us ++ rest ∧ Derives .unary us e := by
  cases ts with
  | nil => exact absurd h not_reads_prefixed_nil
  | cons t ts =>
    cases hop : UnaryOp.ofToken? t with
    | some op =>
      obtain ⟨a, ha, rfl⟩ := (reads_prefixed_sign hop).mp h
      obtain ⟨us, hus, da⟩ := derives_of_reads_prefixed ha
      exact ⟨t :: us, by simp [hus], derives_of_sign da hop⟩
    | none =>
      obtain ⟨a, mid, ha, he⟩ := (reads_prefixed hop).mp h
      have hmid := ha.length_le
      obtain ⟨us, hus, da⟩ := derives_of_reads_primary ha
      obtain ⟨vs, hvs, de⟩ := derives_of_reads_segments (.bare da) he
      exact ⟨t :: us ++ vs, by simp [hus, hvs], .unsigned de⟩
termination_by (ts.length, 1)
decreasing_by all_goals grind

theorem derives_of_reads_primary {t : Token} {ts rest : List Token} {e : Expr}
    (h : Reads (primary t ts) e rest) :
    ∃ us, ts = us ++ rest ∧ Derives .primary (t :: us) e := by
  cases ht : ofToken? t with
  | some a =>
    obtain ⟨rfl, rfl⟩ := (reads_primary ht).mp h
    exact ⟨[], rfl, derives_of_ofToken? ht⟩
  | none =>
    by_cases hparen : t = .leftParen
    · subst hparen
      obtain ⟨us, hus, de⟩ := derives_of_reads_expression (reads_primary_leftParen.mp h)
      exact ⟨us ++ [.rightParen], by simp [hus], by simpa using Derives.parenthesised de⟩
    · exact absurd h (not_reads_primary ht hparen)
termination_by (ts.length, 4 + BinaryOp.levels)
decreasing_by all_goals grind

/-- Segments and arguments that are read behind `us` extend the tree of `us`. -/
theorem derives_of_reads_segments {us ts rest : List Token} {a e : Expr}
    (d : Derives .suffixed us a) (h : Reads (segments a ts) e rest) :
    ∃ vs, ts = vs ++ rest ∧ Derives .suffixed (us ++ vs) e := by
  by_cases hts : ∀ t ∈ ts.head?, opensSegment t = false
  · obtain ⟨rfl, rfl⟩ := (reads_segments_stop hts).mp h
    exact ⟨[], rfl, by simpa using d⟩
  obtain ⟨t, ts, rfl, ht⟩ : ∃ t us, ts = t :: us ∧ opensSegment t := by
    cases ts <;> simp_all
  cases t with
  | dot =>
    obtain ⟨path, name, mid, rfl, rfl, he⟩ := reads_segments_dot.mp h
    obtain ⟨vs, rfl, de⟩ := derives_of_reads_segments (.member d) he
    exact ⟨.dot :: .identifier name :: vs, rfl, by simpa using de⟩
  | leftBracket =>
    obtain ⟨path, t, mid, segment, rfl, rfl, ht, hsegment, he⟩ := reads_segments_leftBracket.mp h
    obtain ⟨vs, rfl, de⟩ := derives_of_reads_segments (derives_of_segmentOf? d ht hsegment) he
    exact ⟨.leftBracket :: t :: .rightBracket :: vs, rfl, by simpa using de⟩
  | leftParen =>
    obtain ⟨path, es, mid, rfl, hes, he⟩ := reads_segments_leftParen.mp h
    have hmid := hes.length_lt
    obtain ⟨args, hargs, rfl, dargs⟩ := derives_of_reads_arguments hes
    obtain ⟨vs, hvs, de⟩ := derives_of_reads_segments (.call d dargs) he
    refine ⟨.leftParen :: commaSeparated (args.map (·.1)) ++ .rightParen :: vs, ?_, ?_⟩
    · simp [hargs, hvs]
    · simpa using de
  | _ => simp [opensSegment] at ht
termination_by (ts.length, 0)
decreasing_by all_goals grind

theorem derives_of_reads_arguments {ts rest : List Token} {es : List Expr}
    (h : Reads (arguments ts) es rest) :
    ∃ args : List (List Token × Expr), ts = commaSeparated (args.map (·.1)) ++ .rightParen :: rest ∧
      es = args.map (·.2) ∧ ∀ a ∈ args, Derives .expression a.1 a.2 := by
  obtain ⟨rfl, rfl⟩ | ⟨_, h⟩ := reads_arguments.mp h
  · exact ⟨[], rfl, rfl, by simp⟩
  · obtain ⟨args, _, hts, hes, dargs⟩ := derives_of_reads_argumentList h
    exact ⟨args, hts, hes, dargs⟩
termination_by (ts.length, 5 + BinaryOp.levels)
decreasing_by all_goals grind

theorem derives_of_reads_argumentList {ts rest : List Token} {es : List Expr}
    (h : Reads (argumentList ts) es rest) :
    ∃ args : List (List Token × Expr), args ≠ [] ∧
      ts = commaSeparated (args.map (·.1)) ++ .rightParen :: rest ∧
      es = args.map (·.2) ∧ ∀ a ∈ args, Derives .expression a.1 a.2 := by
  obtain ⟨a, us, as, ha, has, rfl⟩ | ⟨a, ha, rfl⟩ := reads_argumentList.mp h
  · have hus := ha.length_lt
    obtain ⟨ts', hts', da⟩ := derives_of_reads_expression ha
    obtain ⟨args, hne, hus', rfl, dargs⟩ := derives_of_reads_argumentList has
    refine ⟨(ts', a) :: args, by simp, ?_, rfl, List.forall_mem_cons.mpr ⟨da, dargs⟩⟩
    rw [List.map_cons, commaSeparated_cons _ (by simpa using hne)]
    simp [hts', hus']
  · obtain ⟨ts', hts', da⟩ := derives_of_reads_expression ha
    exact ⟨[(ts', a)], by simp, by simpa [commaSeparated] using hts', rfl, by simpa using da⟩
termination_by (ts.length, 4 + BinaryOp.levels)
decreasing_by all_goals grind

end

end Expr

end DocTemplate
