import DocTemplate.Proofs.Expr.Cursor

/-!
# The reading of expressions gets on

The programs that read with a cursor end, on every list of tokens and at every place in it. Each
one is followed on the assumption that what it calls yields what the readers return. A loop is an
induction on the tokens that are left. One more induction ties the programs together: what a
program calls has fewer tokens before it or stands further down in the grammar.

## Main definitions

* `Walk.CallsYield` — the programs that may be called yield what their readers return.

## Main statements

* `Walk.yields_chain`, `Walk.yields_segments`, `Walk.yields_moreArguments` — the loops.
* `Walk.yields_read` — the program of a category yields what its reader returns.
* `Walk.read_progresses` — the programs end, keep to the list and get on.
-/

namespace DocTemplate

open Grammar DocTemplate.Expr

namespace Walk

section Yields

variable {ts : List Token} {start p : Nat}

/-- The programs yield what their readers return, wherever a program may call them that stands at a
height of the grammar and has begun at the place `start`. -/
def CallsYield (ts : List Token) (start height : Nat) : Prop :=
  ∀ callee p, start ≤ p → p ≤ ts.length → callee.height < height ∨ start < p →
    Yields ts (read ts callee) p (reader callee (ts.drop p))

theorem CallsYield.call {caller callee : Category} (hcalls : CallsYield ts start caller.height)
    (hstart : start ≤ p) (hp : p ≤ ts.length)
    (hcall : callee.height < caller.height ∨ start < p) :
    Yields ts (call ts caller start callee) p (reader callee (ts.drop p)) := by
  refine .burn ?_
  simp only [Walk.call]
  exact .note ⟨hstart, hp, hcall⟩ (hcalls callee p hstart hp hcall)

/-! ### Loops -/

theorem yields_chain {l : Level} {p : Nat}
    (hcalls : CallsYield ts start (Category.level l).height) (hstart : start ≤ p)
    (hp : p ≤ ts.length) (lhs : Expr) :
    Yields ts (chain ts l start lhs) p (returned (Expr.chain l.rank lhs (ts.drop p))) := by
  rw [returned_chain, List.tail_drop, ← reader_operand]
  refine .burn ?_
  simp only [chain]
  refine .place (.current hp ?_)
  cases hfound : (ts.drop p).head?.bind (BinaryOp.ofToken? l.rank) with
  | none => exact yields_pure hp lhs
  | some op =>
    obtain ⟨t, ht, -⟩ := Option.bind_eq_some_iff.mp hfound
    have hlt := lt_of_head?_drop ht
    have hrhs := hcalls.call (Nat.le_succ_of_le hstart) hlt (.inl l.height_lt)
    exact .pass hlt (hrhs.bind fun rhs q hpq hq _ =>
      .note ⟨hpq, hq⟩ (yields_chain hcalls (by omega) hq _))
termination_by ts.length - p

theorem yields_moreArguments {p : Nat}
    (hcalls : CallsYield ts start Category.suffixed.height) (hstart : start < p)
    (hp : p ≤ ts.length) (args : List Expr) :
    Yields ts (moreArguments ts start args) p (further args (ts.drop p)) := by
  rw [further_eq, List.tail_drop]
  refine .burn ?_
  simp only [moreArguments]
  refine .place (.current hp ?_)
  have hclosed : Yields ts (fun _ => expect ts .rightParen >>= fun _ => pure args) p
      (expected .rightParen (ts.drop p) >>= fun r => pure (args, r.2)) :=
    (yields_expect hp .rightParen).bind fun _ q _ hq _ => yields_pure hq args
  cases hfound : (ts.drop p).head? with
  | none => exact hclosed
  | some t =>
    cases t with
    | comma =>
      have hlt := lt_of_head?_drop hfound
      have harg : Yields ts (call ts .suffixed start .expression) (p + 1)
          (returned (expression (ts.drop (p + 1)))) :=
        hcalls.call (by omega) hlt (.inr (by omega))
      exact .pass hlt (harg.bind fun arg q hpq hq _ =>
        .note ⟨hpq, hq⟩ (yields_moreArguments hcalls (by omega) hq _))
    | _ => exact hclosed
termination_by ts.length - p

theorem yields_arguments (hcalls : CallsYield ts start Category.suffixed.height)
    (hstart : start < p) (hp : p ≤ ts.length) :
    Yields ts (arguments ts start) p (returned (Expr.arguments (ts.drop p))) := by
  rw [returned_arguments, returned_argumentList]
  refine .burn ?_
  simp only [arguments]
  refine .current hp ?_
  have harg : Yields ts (call ts .suffixed start .expression) p
      (returned (expression (ts.drop p))) :=
    hcalls.call (Nat.le_of_lt hstart) hp (.inr hstart)
  have hlist : Yields ts (fun fuel => call ts .suffixed start .expression fuel >>= fun arg =>
      moreArguments ts start [arg] fuel) p
      (returned (expression (ts.drop p)) >>= fun a => further [a.1] a.2) :=
    harg.bind fun arg q hpq hq _ => yields_moreArguments hcalls (by omega) hq [arg]
  cases (ts.drop p).head? with
  | none => exact hlist
  | some t =>
    cases t with
    | rightParen =>
      exact (yields_expect hp .rightParen).bind fun _ q _ hq _ => yields_pure hq []
    | _ => exact hlist

theorem yields_segments {p : Nat} (hcalls : CallsYield ts start Category.suffixed.height)
    (hstart : start ≤ p) (hp : p ≤ ts.length) (e : Expr) :
    Yields ts (segments ts start e) p (returned (Expr.segments e (ts.drop p))) := by
  rw [returned_segments, List.tail_drop, List.tail_drop]
  refine .burn ?_
  simp only [segments]
  refine .place (.current hp ?_)
  cases hfound : (ts.drop p).head? with
  | none => exact yields_pure hp e
  | some t =>
    have hlt := lt_of_head?_drop hfound
    cases t with
    | dot =>
      refine .pass hlt (.current hlt ?_)
      dsimp only
      cases hname : (ts.drop (p + 1)).head? with
      | none => exact yields_throw hlt _
      | some t =>
        have hlt' := lt_of_head?_drop hname
        cases t with
        | identifier name =>
          exact .pass hlt' (.ofExcept hlt' fun e =>
            .note ⟨by omega, hlt'⟩ (yields_segments hcalls (by omega) hlt' e))
        | _ => exact yields_throw hlt _
    | leftBracket =>
      refine .pass hlt (.current hlt ?_)
      dsimp only
      cases hsegment : (ts.drop (p + 1)).head?.bind segmentOf? with
      | none => exact yields_throw hlt _
      | some segment =>
        obtain ⟨t, ht, -⟩ := Option.bind_eq_some_iff.mp hsegment
        have hlt' := lt_of_head?_drop ht
        dsimp only
        split
        · exact yields_throw hlt _
        · exact .pass hlt' ((yields_expect hlt' .rightBracket).bind fun _ q hpq hq _ =>
            .ofExcept hq fun e => .note ⟨by omega, hq⟩ (yields_segments hcalls (by omega) hq e))
    | leftParen =>
      cases e with
      | path name =>
        have hargs := yields_arguments hcalls (Nat.lt_succ_of_le hstart) hlt
        exact .pass hlt (hargs.bind fun args q hpq hq _ =>
          .note ⟨hpq, hq⟩ (yields_segments hcalls (by omega) hq _))
      | _ => exact yields_throw hp _
    | _ => exact yields_pure hp e
termination_by ts.length - p

/-! ### Categories -/

theorem yields_expression (hcalls : CallsYield ts p Category.expression.height)
    (hp : p ≤ ts.length) :
    Yields ts (read ts .expression) p (reader .expression (ts.drop p)) := by
  rw [reader, returned_expression]
  refine .burn ?_
  simp only [read]
  have hcondition : Yields ts (call ts .expression p (.level .or)) p
      (returned (operand 0 (ts.drop p))) :=
    hcalls.call (Nat.le_refl p) hp (.inl (by decide))
  refine .place (hcondition.bind fun condition q hpq hq _ => .current hq ?_)
  dsimp only
  rw [List.tail_drop]
  cases hfound : (ts.drop q).head? with
  | none => exact yields_pure hq condition
  | some t =>
    cases t with
    | question =>
      have hlt := lt_of_head?_drop hfound
      have htrue : Yields ts (call ts .expression p .expression) (q + 1)
          (returned (expression (ts.drop (q + 1)))) :=
        hcalls.call (Nat.le_succ_of_le hpq) hlt (.inr (Nat.lt_succ_of_le hpq))
      refine .pass hlt (htrue.bind fun whenTrue q' hqq' hq' _ => .current hq' ?_)
      dsimp only
      rw [List.tail_drop]
      cases hfound' : (ts.drop q').head? with
      | none => exact yields_throw hq' _
      | some t =>
        cases t with
        | colon =>
          have hlt' := lt_of_head?_drop hfound'
          have hfalse : Yields ts (call ts .expression p .expression) (q' + 1)
              (returned (expression (ts.drop (q' + 1)))) :=
            hcalls.call (by omega) hlt' (.inr (by omega))
          exact .pass hlt' (hfalse.bind fun whenFalse q'' _ hq'' _ => yields_pure hq'' _)
        | _ => exact yields_throw hq' _
    | _ => exact yields_pure hq condition

theorem yields_level {l : Level} (hcalls : CallsYield ts p (Category.level l).height)
    (hp : p ≤ ts.length) :
    Yields ts (read ts (.level l)) p (reader (.level l) (ts.drop p)) := by
  rw [reader, returned_operand l.rank_lt, ← reader_operand]
  refine .burn ?_
  simp only [read]
  have hlhs := hcalls.call (Nat.le_refl p) hp (.inl l.height_lt)
  exact .place (hlhs.bind fun lhs q hpq hq _ => yields_chain hcalls hpq hq lhs)

theorem yields_unary (hcalls : CallsYield ts p Category.unary.height) (hp : p ≤ ts.length) :
    Yields ts (read ts .unary) p (reader .unary (ts.drop p)) := by
  rw [reader, returned_prefixed, List.tail_drop]
  refine .burn ?_
  simp only [read]
  refine .place (.current hp ?_)
  cases hfound : (ts.drop p).head?.bind UnaryOp.ofToken? with
  | none =>
    have hsuffixed : Yields ts (call ts .unary p .suffixed) p (reader .suffixed (ts.drop p)) :=
      hcalls.call (Nat.le_refl p) hp (.inl (by decide))
    exact hsuffixed
  | some op =>
    obtain ⟨t, ht, -⟩ := Option.bind_eq_some_iff.mp hfound
    have hlt := lt_of_head?_drop ht
    have hoperand : Yields ts (call ts .unary p .unary) (p + 1)
        (returned (prefixed (ts.drop (p + 1)))) :=
      hcalls.call (Nat.le_succ p) hlt (.inr (Nat.lt_succ_self p))
    exact .pass hlt (hoperand.bind fun operand q _ hq _ => yields_pure hq _)

theorem yields_suffixed (hcalls : CallsYield ts p Category.suffixed.height)
    (hp : p ≤ ts.length) :
    Yields ts (read ts .suffixed) p (reader .suffixed (ts.drop p)) := by
  rw [reader, suffixed_eq]
  refine .burn ?_
  simp only [read]
  have hprimary : Yields ts (call ts .suffixed p .primary) p (reader .primary (ts.drop p)) :=
    hcalls.call (Nat.le_refl p) hp (.inl (by decide))
  exact .place (hprimary.bind fun e q hpq hq _ => yields_segments hcalls hpq hq e)

theorem yields_primary (hcalls : CallsYield ts p Category.primary.height) (hp : p ≤ ts.length) :
    Yields ts (read ts .primary) p (reader .primary (ts.drop p)) := by
  rw [reader_primary, List.tail_drop]
  refine .burn ?_
  simp only [read]
  refine .place (.current hp ?_)
  cases hfound : (ts.drop p).head? with
  | none => exact yields_throw hp _
  | some t =>
    have hlt := lt_of_head?_drop hfound
    cases t with
    | leftParen =>
      have he : Yields ts (call ts .primary p .expression) (p + 1)
          (returned (expression (ts.drop (p + 1)))) :=
        hcalls.call (Nat.le_succ p) hlt (.inr (Nat.lt_succ_self p))
      exact .pass hlt (he.bind fun e q _ hq _ =>
        (yields_expect hq .rightParen).bind fun _ q' _ hq' _ => yields_pure hq' e)
    | string | number | boolean | identifier => exact .pass hlt (yields_pure hlt _)
    | _ => exact yields_throw hp _

theorem yields_read {p : Nat} (hp : p ≤ ts.length) (category : Category) :
    Yields ts (read ts category) p (reader category (ts.drop p)) := by
  -- What is called has fewer tokens before it or stands further down in the grammar.
  have hcalls : CallsYield ts p category.height :=
    fun callee q hpq hq hcall => yields_read hq callee
  cases category with
  | expression => exact yields_expression hcalls hp
  | level l => exact yields_level hcalls hp
  | unary => exact yields_unary hcalls hp
  | suffixed => exact yields_suffixed hcalls hp
  | primary => exact yields_primary hcalls hp
termination_by (ts.length - p, category.height)
decreasing_by grind

theorem yields_readAll (ts : List Token) :
    Yields ts (readAll ts) 0 ((Expr.ofTokens ts).map fun e => (e, [])) := by
  rw [ofTokens_map]
  refine .current (Nat.zero_le _) ?_
  rw [List.drop_zero]
  cases ts.head? with
  | none => exact yields_throw (Nat.zero_le _) _
  | some _ =>
    have he : Yields ts (read ts .expression) 0 (reader .expression (ts.drop 0)) :=
      yields_read (Nat.zero_le _) .expression
    refine he.bind fun e q _ hq _ => .current hq ?_
    dsimp only
    cases (ts.drop q).head? with
    | none => exact yields_pure hq e
    | some t => exact yields_throw hq _

end Yields

/-- What is returned does not depend on what is left. -/
theorem outcome_of_map_eq {α : Type} {x y : Except ParseError α} {us vs : List Token}
    (h : (x.map fun a => (a, us)) = y.map fun a => (a, vs)) :
    x = y ∧ ∀ a, x = .ok a → us = vs := by
  cases x with
  | error error => cases y <;> cases h; exact ⟨rfl, nofun⟩
  | ok a =>
    cases y <;> cases h
    exact ⟨rfl, fun _ _ => rfl⟩

/-- Every program, at whatever place in the list it is started, ends. Nothing that it does leaves
the list: it looks at tokens and at the mark of the end, and passes tokens only. It has passed one
if it succeeds, and so has each round of a loop that is completed and each call of a program that
does not stand further down in the grammar. It returns what the reader of its category returns from
the tokens behind its place. Of the program that reads the whole list the same holds. -/
theorem read_progresses (ts : List Token) :
    (∀ category start, start ≤ ts.length →
      ∃ outcome stop events,
        EndsIn (read ts category) ⟨start, []⟩ outcome ⟨stop, events⟩ ∧
        start ≤ stop ∧ stop ≤ ts.length ∧
        (∀ e, outcome = .ok e → start < stop) ∧
        (∀ event ∈ events, event.IsSound ts.length) ∧
        reader category (ts.drop start) = outcome.map fun e => (e, ts.drop stop)) ∧
    ∃ stop events,
      EndsIn (readAll ts) ⟨0, []⟩ (Expr.ofTokens ts) ⟨stop, events⟩ ∧
      stop ≤ ts.length ∧
      (∀ e, Expr.ofTokens ts = .ok e → 0 < stop ∧ stop = ts.length) ∧
      ∀ event ∈ events, event.IsSound ts.length := by
  constructor
  · intro category start hstart
    obtain ⟨outcome, stop, events, hrun, hsound, hle, hstop, hreader⟩ :=
      yields_read hstart category [] (List.forall_mem_nil _)
    refine ⟨outcome, stop, events, hrun, hle, hstop, ?_, hsound, hreader⟩
    rintro e rfl
    have hlength := length_lt_of_reader hreader
    rw [List.length_drop, List.length_drop] at hlength
    omega
  · obtain ⟨outcome, stop, events, hrun, hsound, -, hstop, houtcome⟩ :=
      yields_readAll ts [] (List.forall_mem_nil _)
    obtain ⟨heq, hrest⟩ := outcome_of_map_eq houtcome
    refine ⟨stop, events, heq ▸ hrun, hstop, fun e he => ?_, hsound⟩
    obtain ⟨hlength, -⟩ := ofTokens_eq_ok.mp he
    have hend : ts.length ≤ stop := List.drop_eq_nil_iff.mp (hrest e he).symm
    exact ⟨Nat.lt_of_lt_of_le hlength hend, Nat.le_antisymm hstop hend⟩

/-- In `-(a):`, the parentheses behind the sign are read up to the colon. -/
theorem read_progresses_behind_sign :
    1 ≤ [Token.operator .minus, .leftParen, .identifier "a", .rightParen, .colon].length ∧
    ∃ events,
      EndsIn (read [.operator .minus, .leftParen, .identifier "a", .rightParen, .colon] .primary)
        ⟨1, []⟩ (.ok (.path "a")) ⟨4, events⟩ ∧
      ∀ event ∈ events, event.IsSound 5 := by
  have hstart : 1 ≤ [Token.operator .minus, .leftParen, .identifier "a", .rightParen,
      .colon].length := by decide
  obtain ⟨outcome, stop, events, hrun, -, hstop, -, hsound, hreader⟩ :=
    (read_progresses [.operator .minus, .leftParen, .identifier "a", .rightParen, .colon]).1
      .primary 1 hstart
  have hprimary : primary .leftParen [.identifier "a", .rightParen, .colon] =
      .ok (.path "a", ⟨[.colon], by decide⟩) := by cbv
  have hread : reader .primary [.leftParen, .identifier "a", .rightParen, .colon] =
      .ok (.path "a", [.colon]) := congrArg returned hprimary
  replace hreader := hread.symm.trans hreader
  cases outcome with
  | error error => cases hreader
  | ok e =>
    injection hreader with hreader
    injection hreader with he hrest
    have hlength := congrArg List.length hrest
    rw [List.length_drop] at hlength
    simp only [List.length_cons, List.length_nil] at hlength hstop
    obtain rfl : stop = 4 := by omega
    exact ⟨hstart, events, he ▸ hrun, hsound⟩

end Walk

end DocTemplate
