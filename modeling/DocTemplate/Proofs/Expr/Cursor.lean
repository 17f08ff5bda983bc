import DocTemplate.Proofs.Expr.Steps

/-!
# Reading with a cursor

The grammar read by programs that move a cursor over one list of tokens: they look at the token
under the cursor, pass it, call each other and go round in loops. As far as their definitions go
they might run forever or move the cursor off the list. A program is therefore given fuel, of which
each call and each round of a loop burns one unit, and it notes what it does, so that something can
be said of every moment of its run.

## Main definitions

* `Cursor`, `Cursor.Event` — a place in a list of tokens, with what was done to come there.
* `Walk` — programs with a cursor.
* `Walk.read` — the program that reads a category of the grammar.
* `Walk.EndsIn` — a program ends, with any fuel that is enough.
* `Walk.Yields` — a program ends, keeps to the list and returns what a reader returns.

## Main statements

* `Walk.Yields.bind` — one program after another.
* `Walk.Yields.current`, `Walk.Yields.pass`, … — the rules of the steps.
-/

namespace DocTemplate

open Grammar DocTemplate.Expr

/-- How far up in the grammar a category stands. -/
def Grammar.Category.height : Category → Nat
  | .expression => 9
  | .level l => 8 - l.rank
  | .unary => 2
  | .suffixed => 1
  | .primary => 0

theorem Grammar.Level.height_lt (l : Level) :
    l.operand.height < (Category.level l).height := by
  cases l <;> decide

/-- What a program does with its cursor. -/
inductive Cursor.Event where
  /-- The place under the cursor is looked at. -/
  | look (position : Nat)
  /-- The cursor moves on from a place to the next one. -/
  | pass (position : Nat)
  /-- A program that began at the place `start` calls another one at the place `position`. -/
  | call (caller : Category) (start : Nat) (callee : Category) (position : Nat)
  /-- A loop has gone round once, from the place `start` to the place `stop`. -/
  | turn (start stop : Nat)

/-- A place in a list of tokens, and what was done to come there, the last event first. -/
structure Cursor where
  position : Nat
  events : List Cursor.Event

namespace Cursor

/-- An event is sound in a list of `n` tokens, behind which the end is marked at the place `n`. What
is looked at is a token or the mark, and only a token is passed. A program calls one that stands
further down in the grammar, or it has passed a token since it began. A loop that goes round has
passed a token. -/
def Event.IsSound (n : Nat) : Event → Prop
  | .look position => position ≤ n
  | .pass position => position < n
  | .call caller start callee position =>
    start ≤ position ∧ position ≤ n ∧ (callee.height < caller.height ∨ start < position)
  | .turn start stop => start < stop ∧ stop ≤ n

end Cursor

/-- A program with a cursor. It may fail, and it has no outcome if it runs out of fuel. -/
abbrev Walk (α : Type) := ExceptT ParseError (StateT Cursor Option) α

namespace Walk

section Programs

variable (ts : List Token)

/-- The tokens with a mark behind them for the end. -/
def ended : List (Option Token) :=
  ts.map some ++ [none]

/-- The place under the cursor. -/
def place : Walk Nat := do
  let c ← get
  return c.position

/-- Notes what is done at the place under the cursor. -/
def note (event : Nat → Cursor.Event) : Walk Unit :=
  modify fun c => { c with events := event c.position :: c.events }

/-- The token under the cursor or the mark of the end, which is also what is found behind it. -/
def current : Walk (Option Token) := do
  note .look
  let position ← place
  return (ended ts)[position]?.getD none

/-- Moves the cursor on, also from the mark of the end, but not any further. -/
def pass : Walk Unit := do
  note .pass
  modify fun c =>
    { c with position := if c.position < (ended ts).length then c.position + 1 else c.position }

/-- Passes the bracket that is wanted. -/
def expect (wanted : Token) : Walk Unit := do
  let found ← current ts
  if isWanted wanted found then pass ts
  else throw (.expected wanted (← current ts))

/-- Gives up for want of fuel. -/
def exhausted {α : Type} : Walk α :=
  ExceptT.mk fun _ => none

mutual

/-- Calls the program of a category from one that has begun at a place. -/
def call (caller : Category) (start : Nat) (callee : Category) : Nat → Walk Expr
  | 0 => exhausted
  | fuel + 1 => do
    note (.call caller start callee)
    read callee fuel
termination_by structural fuel => fuel

/-- Reads a category of the grammar. -/
def read (category : Category) : Nat → Walk Expr
  | 0 => exhausted
  | fuel + 1 => do
    let start ← place
    match category with
    | .expression =>
      let condition ← call .expression start (.level .or) fuel
      match ← current ts with
      | some .question =>
        pass ts
        let whenTrue ← call .expression start .expression fuel
        match ← current ts with
        | some .colon =>
          pass ts
          let whenFalse ← call .expression start .expression fuel
          return .ternary condition whenTrue whenFalse
        | found => throw (.missingColon found)
      | _ => return condition
    | .level l =>
      let lhs ← call (.level l) start l.operand fuel
      chain l start lhs fuel
    | .unary =>
      match (← current ts).bind UnaryOp.ofToken? with
      | some op =>
        pass ts
        let operand ← call .unary start .unary fuel
        return .unary op operand
      | none => call .unary start .suffixed fuel
    | .suffixed =>
      let e ← call .suffixed start .primary fuel
      segments start e fuel
    | .primary =>
      match ← current ts with
      | some .leftParen =>
        pass ts
        let e ← call .primary start .expression fuel
        expect ts .rightParen
        return e
      | some t =>
        match Expr.ofToken? t with
        | some e =>
          pass ts
          return e
        | none => throw (.unexpectedToken (some t))
      | none => throw .unexpectedEnd
termination_by structural fuel => fuel

/-- The loop of a level: further operands, each behind an operator of the level. -/
def chain (l : Level) (start : Nat) (lhs : Expr) : Nat → Walk Expr
  | 0 => exhausted
  | fuel + 1 => do
    let head ← place
    match (← current ts).bind (BinaryOp.ofToken? l.rank) with
    | some op =>
      pass ts
      let rhs ← call (.level l) start l.operand fuel
      note (.turn head)
      chain l start (.binary op lhs rhs) fuel
    | none => return lhs
termination_by structural fuel => fuel

/-- The loop behind a primary: segments and arguments. -/
def segments (start : Nat) (e : Expr) : Nat → Walk Expr
  | 0 => exhausted
  | fuel + 1 => do
    let head ← place
    match ← current ts with
    | some .dot =>
      pass ts
      match ← current ts with
      | some (.identifier name) =>
        pass ts
        let e ← MonadExcept.ofExcept (e.extend name)
        note (.turn head)
        segments start e fuel
      | found => throw (.expectedIdentifier found)
    | some .leftBracket =>
      pass ts
      let found ← current ts
      match found.bind Expr.segmentOf? with
      | some segment =>
        if segment.toList.contains '.' then throw (.invalidIndex segment)
        else
          pass ts
          expect ts .rightBracket
          let e ← MonadExcept.ofExcept (e.extend segment)
          note (.turn head)
          segments start e fuel
      | none => throw (.unexpectedToken found)
    | some .leftParen =>
      match e with
      | .path name =>
        pass ts
        let args ← arguments start fuel
        note (.turn head)
        segments start (.call name args) fuel
      | _ => throw .expectedFunctionName
    | _ => return e
termination_by structural fuel => fuel

/-- The arguments of a call up to the closing parenthesis. -/
def arguments (start : Nat) : Nat → Walk (List Expr)
  | 0 => exhausted
  | fuel + 1 => do
    match ← current ts with
    | some .rightParen =>
      expect ts .rightParen
      return []
    | _ =>
      let arg ← call .suffixed start .expression fuel
      moreArguments start [arg] fuel
termination_by structural fuel => fuel

/-- The loop of the further arguments, each behind a comma. -/
def moreArguments (start : Nat) (args : List Expr) : Nat → Walk (List Expr)
  | 0 => exhausted
  | fuel + 1 => do
    let head ← place
    match ← current ts with
    | some .comma =>
      pass ts
      let arg ← call .suffixed start .expression fuel
      note (.turn head)
      moreArguments start (args ++ [arg]) fuel
    | _ =>
      expect ts .rightParen
      return args
termination_by structural fuel => fuel

end

/-- Reads a whole expression, behind which nothing stands. -/
def readAll (fuel : Nat) : Walk Expr := do
  match ← current ts with
  | none => throw .unexpectedEnd
  | some _ =>
    let e ← read ts .expression fuel
    match ← current ts with
    | none => return e
    | some t => throw (.unexpectedToken (some t))

end Programs

/-! ### What programs do -/

theorem ended_getElem?_getD (ts : List Token) (p : Nat) : (ended ts)[p]?.getD none = ts[p]? := by
  by_cases hp : p < ts.length
  · rw [ended, List.getElem?_append_left (by rwa [List.length_map]), List.getElem?_map,
      List.getElem?_eq_getElem hp]
    rfl
  · have hp := Nat.le_of_not_lt hp
    rw [ended, List.getElem?_append_right (by rwa [List.length_map]), List.getElem?_eq_none hp]
    cases p - (ts.map some).length <;> rfl

section Ends

variable {α β : Type} {m : Nat → Walk α} {f : Nat → α → Walk β} {c c' c'' : Cursor}
  {outcome : Except ParseError β}

/-- A program ends: from some amount of fuel on it has one and the same outcome. -/
def EndsIn (m : Nat → Walk α) (c : Cursor) (outcome : Except ParseError α) (c' : Cursor) :
    Prop :=
  ∃ least, ∀ fuel, least ≤ fuel → m fuel c = some (outcome, c')

theorem EndsIn.bind {a : α} (hm : EndsIn m c (.ok a) c')
    (hf : EndsIn (fun fuel => f fuel a) c' outcome c'') :
    EndsIn (fun fuel => m fuel >>= f fuel) c outcome c'' := by
  obtain ⟨least, hm⟩ := hm
  obtain ⟨least', hf⟩ := hf
  refine ⟨max least least', fun fuel hfuel => ?_⟩
  have hbind : (m fuel >>= f fuel) c = (m fuel c).bind _ := rfl
  rw [hm fuel (by omega)] at hbind
  exact hbind.trans (hf fuel (by omega))

theorem EndsIn.bind_error {error : ParseError} (hm : EndsIn m c (.error error) c') :
    EndsIn (fun fuel => m fuel >>= f fuel) c (.error error) c' := by
  obtain ⟨least, hm⟩ := hm
  refine ⟨least, fun fuel hfuel => ?_⟩
  have hbind : (m fuel >>= f fuel) c = (m fuel c).bind _ := rfl
  rw [hm fuel hfuel] at hbind
  exact hbind

/-- One unit of fuel does not matter. -/
theorem EndsIn.burn {m : Nat → Walk β} (h : EndsIn (fun fuel => m (fuel + 1)) c outcome c') :
    EndsIn m c outcome c' := by
  obtain ⟨least, h⟩ := h
  refine ⟨least + 1, fun fuel hfuel => ?_⟩
  obtain ⟨fuel, rfl⟩ : ∃ n, fuel = n + 1 := ⟨fuel - 1, by omega⟩
  exact h fuel (Nat.le_of_succ_le_succ hfuel)

/-- What takes no fuel ends. -/
theorem endsIn_of_run {m : Walk β} (h : m c = some (outcome, c')) :
    EndsIn (fun _ => m) c outcome c' :=
  ⟨0, fun _ _ => h⟩

end Ends

section Rules

variable {ts : List Token} {α β : Type} {p : Nat} {r : Except ParseError (α × List Token)}
  {s : Except ParseError (β × List Token)}
  {k : α × List Token → Except ParseError (β × List Token)} {m : Nat → Walk α}
  {f : Nat → α → Walk β}

/-- A program that is started at the place `p` ends. It moves the cursor on within the list, all
that it does is sound, and it returns what a reader returns from the tokens there: a result with
the tokens that are left, or an error. -/
def Yields (ts : List Token) (m : Nat → Walk α) (p : Nat)
    (r : Except ParseError (α × List Token)) : Prop :=
  ∀ events : List Cursor.Event, (∀ event ∈ events, event.IsSound ts.length) →
    ∃ outcome stop later, EndsIn m ⟨p, events⟩ outcome ⟨stop, later⟩ ∧
      (∀ event ∈ later, event.IsSound ts.length) ∧ p ≤ stop ∧ stop ≤ ts.length ∧
      r = outcome.map fun a => (a, ts.drop stop)

/-- One program after another does what one reader after another does. -/
theorem Yields.bind (hm : Yields ts m p r)
    (hf : ∀ a q, p ≤ q → q ≤ ts.length → r = .ok (a, ts.drop q) →
      Yields ts (fun fuel => f fuel a) q (k (a, ts.drop q))) :
    Yields ts (fun fuel => m fuel >>= f fuel) p (r >>= k) := by
  intro events hevents
  obtain ⟨outcome, q, later, hrun, hlater, hpq, hq, hr⟩ := hm events hevents
  cases outcome with
  | error error =>
    exact ⟨.error error, q, later, hrun.bind_error, hlater, hpq, hq, by rw [hr]; rfl⟩
  | ok a =>
    obtain ⟨outcome, stop, last, hrun', hlast, hstop, hstop', hk⟩ :=
      hf a q hpq hq hr later hlater
    exact ⟨outcome, stop, last, hrun.bind hrun', hlast, Nat.le_trans hpq hstop, hstop',
      by rw [hr]; exact hk⟩

theorem Yields.burn (h : Yields ts (fun fuel => m (fuel + 1)) p r) : Yields ts m p r := by
  intro events hevents
  obtain ⟨outcome, stop, later, hrun, hsound⟩ := h events hevents
  exact ⟨outcome, stop, later, hrun.burn, hsound⟩

theorem yields_pure (hp : p ≤ ts.length) (a : α) :
    Yields ts (fun _ => pure a) p (.ok (a, ts.drop p)) :=
  fun events hevents => ⟨.ok a, p, events, endsIn_of_run rfl, hevents, Nat.le_refl p, hp, rfl⟩

theorem yields_throw (hp : p ≤ ts.length) (error : ParseError) :
    Yields ts (fun _ => (throw error : Walk α)) p (.error error) :=
  fun events hevents =>
    ⟨.error error, p, events, endsIn_of_run rfl, hevents, Nat.le_refl p, hp, rfl⟩

/-- A program that begins with a step does what the rest of it does behind the step. -/
theorem Yields.step {m : Walk α} {a : α} {q : Nat} (noted : List Cursor.Event)
    (hm : ∀ events, m ⟨p, events⟩ = some (.ok a, ⟨q, noted ++ events⟩))
    (hnoted : ∀ event ∈ noted, event.IsSound ts.length) (hpq : p ≤ q)
    (h : Yields ts (fun fuel => f fuel a) q s) : Yields ts (fun fuel => m >>= f fuel) p s := by
  intro events hevents
  obtain ⟨outcome, stop, later, hrun, hlater, hstop, hstop', hs⟩ :=
    h (noted ++ events) (List.forall_mem_append.mpr ⟨hnoted, hevents⟩)
  exact ⟨outcome, stop, later, (endsIn_of_run (hm events)).bind hrun, hlater,
    Nat.le_trans hpq hstop, hstop', hs⟩

theorem Yields.place {f : Nat → Nat → Walk β} (h : Yields ts (fun fuel => f fuel p) p s) :
    Yields ts (fun fuel => place >>= f fuel) p s :=
  h.step [] (fun _ => rfl) (List.forall_mem_nil _) (Nat.le_refl p)

theorem Yields.note {f : Nat → Unit → Walk β} {event : Nat → Cursor.Event}
    (hevent : (event p).IsSound ts.length) (h : Yields ts (fun fuel => f fuel ()) p s) :
    Yields ts (fun fuel => note event >>= f fuel) p s :=
  h.step [event p] (fun _ => rfl) (List.forall_mem_singleton.mpr hevent) (Nat.le_refl p)

theorem Yields.current {f : Nat → Option Token → Walk β} (hp : p ≤ ts.length)
    (h : Yields ts (fun fuel => f fuel (ts.drop p).head?) p s) :
    Yields ts (fun fuel => current ts >>= f fuel) p s := by
  rw [List.head?_drop, ← ended_getElem?_getD] at h
  exact h.step [.look p] (fun _ => rfl) (List.forall_mem_singleton.mpr hp) (Nat.le_refl p)

theorem Yields.pass {f : Nat → Unit → Walk β} (hp : p < ts.length)
    (h : Yields ts (fun fuel => f fuel ()) (p + 1) s) :
    Yields ts (fun fuel => pass ts >>= f fuel) p s := by
  refine h.step [.pass p] (fun events => ?_) (List.forall_mem_singleton.mpr hp) (Nat.le_succ p)
  have hmove : (if p < (ended ts).length then p + 1 else p) = p + 1 :=
    if_pos (by grind [ended])
  change some (_, (⟨if p < (ended ts).length then p + 1 else p, _⟩ : Cursor)) = _
  rw [hmove]
  rfl

/-- A program that fails or goes on, like a reader that fails or goes on. -/
theorem Yields.ofExcept {x : Except ParseError α} {k : α → Except ParseError (β × List Token)}
    (hp : p ≤ ts.length) (h : ∀ a, Yields ts (fun fuel => f fuel a) p (k a)) :
    Yields ts (fun fuel => MonadExcept.ofExcept x >>= f fuel) p (x >>= k) := by
  cases x with
  | error error => exact yields_throw hp error
  | ok a => exact (h a).step [] (fun _ => rfl) (List.forall_mem_nil _) (Nat.le_refl p)

theorem lt_of_head?_drop {t : Token} (h : (ts.drop p).head? = some t) : p < ts.length := by
  rw [List.head?_drop] at h
  exact (List.getElem?_eq_some_iff.mp h).1

theorem yields_expect (hp : p ≤ ts.length) (wanted : Token) :
    Yields ts (fun _ => expect ts wanted) p (expected wanted (ts.drop p)) := by
  rw [expected, List.tail_drop]
  refine .current hp ?_
  split
  · rename_i h
    obtain ⟨t, ht⟩ := exists_of_isWanted h
    have hlt := lt_of_head?_drop ht
    exact .pass hlt (yields_pure hlt ())
  · exact .current hp (yields_throw hp _)

end Rules

end Walk

end DocTemplate
