import DocTemplate.Binding.Span
import DocTemplate.Proofs.Text.Occurrences

/-!
# Where bindings start and end

A binding starts at the first place where its opening is written, and it ends at the first brace
that brings the number of open braces to zero.

## Main definitions

* `Binding.Plain` — a text in which no binding starts.
* `Binding.depth` — the number of braces that are open behind a text.
* `Binding.Closes`, `Binding.NeverCloses` — a text that is ended by the brace behind it, and one
  that has no such brace.

## Main statements

* `Binding.cut?_opening_eq_some_iff`, `Binding.closing_eq_some_iff` — what the two scans find.
-/

namespace DocTemplate

namespace Binding

/-- No binding starts in a text. -/
def Plain (text : List Char) : Prop :=
  ¬opening <:+: text

theorem Plain.tail {c : Char} {text : List Char} (h : Plain (c :: text)) : Plain text :=
  fun hi => h (List.infix_cons hi)

theorem cut?_opening_of_plain {before : List Char} (h : Plain before) (behind : List Char) :
    Text.cut? opening (before ++ opening ++ behind) = some (before, behind) :=
  Text.cut?_append (by decide) h behind

theorem cut?_opening_eq_some_iff {text before behind : List Char} :
    Text.cut? opening text = some (before, behind) ↔
      text = before ++ opening ++ behind ∧ Plain before := by
  constructor
  · intro h
    exact ⟨(Text.append_of_cut? h).symm, Text.not_infix_of_cut? (by simp [opening]) h⟩
  · rintro ⟨rfl, h⟩
    exact cut?_opening_of_plain h behind

theorem cut?_opening_eq_none_iff {text : List Char} :
    Text.cut? opening text = none ↔ Plain text :=
  Text.cut?_eq_none_iff

/-- What a character adds to the number of open braces. -/
def weight (c : Char) : Int :=
  if c = '{' then 1 else if c = '}' then -1 else 0

/-- The number of braces that are open behind a text when `start` are open before it. -/
def depth (start : Int) : List Char → Int
  | [] => start
  | c :: text => depth (start + weight c) text

/-- Some brace is open all through a text. -/
def NeverCloses (start : Int) (text : List Char) : Prop :=
  ∀ part, part <+: text → depth start part ≠ 0

/-- The brace behind a text is the first one with which no brace is open any more. -/
def Closes (start : Int) (body : List Char) : Prop :=
  depth start (body ++ ['}']) = 0 ∧ NeverCloses start body

@[simp] theorem depth_nil (start : Int) : depth start [] = start :=
  rfl

@[simp] theorem depth_cons (start : Int) (c : Char) (text : List Char) :
    depth start (c :: text) = depth (start + weight c) text :=
  rfl

theorem neverCloses_nil {start : Int} : NeverCloses start [] ↔ start ≠ 0 := by
  simp [NeverCloses]

theorem neverCloses_cons {start : Int} {c : Char} {text : List Char} :
    NeverCloses start (c :: text) ↔ start ≠ 0 ∧ NeverCloses (start + weight c) text := by
  constructor
  · intro h
    refine ⟨by simpa using h [] List.nil_prefix, fun part hp => ?_⟩
    simpa using h (c :: part) (List.cons_prefix_cons.mpr ⟨rfl, hp⟩)
  · rintro ⟨hstart, h⟩ part hp
    cases part with
    | nil => simpa using hstart
    | cons d part =>
      obtain ⟨rfl, hpart⟩ := List.cons_prefix_cons.mp hp
      simpa using h part hpart

theorem not_neverCloses_zero (text : List Char) : ¬NeverCloses 0 text :=
  fun h => h [] List.nil_prefix rfl

theorem closes_nil {start : Int} : Closes start [] ↔ start = 1 := by
  have hw : weight '}' = -1 := rfl
  simp only [Closes, List.nil_append, depth_cons, depth_nil, neverCloses_nil, hw]
  omega

theorem closes_cons {start : Int} {c : Char} {body : List Char} :
    Closes start (c :: body) ↔ start ≠ 0 ∧ Closes (start + weight c) body := by
  simp [Closes, neverCloses_cons, and_left_comm]

/-- The scan for the closing brace ends at the first character or goes on behind it. -/
theorem closing_cons (n : Nat) (c : Char) (text : List Char) :
    (n + 1 + weight c = 0 ∧ c = '}' ∧ closing n (c :: text) = some ([], text)) ∨
    ∃ k : Nat, (k + 1 : Int) = n + 1 + weight c ∧
      closing n (c :: text) = (closing k text).map fun r => (c :: r.1, r.2) := by
  by_cases hc : c = '}'
  · have hw : weight c = -1 := hc ▸ rfl
    cases n with
    | zero => exact .inl ⟨by omega, hc, by simp [closing, hc]⟩
    | succ n => exact .inr ⟨n, by omega, by simp [closing, hc]⟩
  · by_cases ho : c = '{'
    · exact .inr ⟨n + 1, by simp [weight, ho], by simp [closing, ho]⟩
    · exact .inr ⟨n, by simp [weight, hc, ho], by simp [closing, hc, ho]⟩

theorem closing_eq_none_iff {n : Nat} {text : List Char} :
    closing n text = none ↔ NeverCloses (n + 1) text := by
  induction text generalizing n with
  | nil => exact ⟨fun _ => neverCloses_nil.mpr (by omega), fun _ => rfl⟩
  | cons c text ih =>
    rw [neverCloses_cons]
    obtain ⟨hzero, -, hc⟩ | ⟨k, hk, hc⟩ := closing_cons n c text
    · simp [hc, hzero, not_neverCloses_zero]
    · rw [hc, ← hk, ← ih, Option.map_eq_none_iff]
      exact (and_iff_right (by omega)).symm

theorem closing_eq_some_iff {n : Nat} {text body rest : List Char} :
    closing n text = some (body, rest) ↔ text = body ++ '}' :: rest ∧ Closes (n + 1) body := by
  induction text generalizing n body with
  | nil => simp [closing]
  | cons c text ih =>
    obtain ⟨hzero, rfl, hc⟩ | ⟨k, hk, hc⟩ := closing_cons n c text
    · have hw : weight '}' = -1 := rfl
      obtain rfl : n = 0 := by omega
      cases body with
      | nil => simp [hc, closes_nil]
      | cons d body =>
        simp [hc, closes_cons]
        rintro rfl -
        exact fun h => not_neverCloses_zero body h.2
    · cases body with
      | nil =>
        have hw : weight '}' = -1 := rfl
        simp [hc, closes_nil]
        rintro rfl -
        omega
      | cons d body =>
        have hstep : (closing k text).map (fun r => (c :: r.1, r.2)) = some (d :: body, rest) ↔
            c = d ∧ closing k text = some (body, rest) := by
          cases closing k text <;> simp [Prod.ext_iff, and_assoc]
        rw [hc, hstep, ih, hk, closes_cons]
        simp only [List.cons_append, List.cons.injEq]
        constructor
        · rintro ⟨rfl, htext, hcloses⟩
          exact ⟨⟨rfl, htext⟩, by omega, hcloses⟩
        · rintro ⟨⟨rfl, htext⟩, -, hcloses⟩
          exact ⟨rfl, htext, hcloses⟩

end Binding

end DocTemplate
