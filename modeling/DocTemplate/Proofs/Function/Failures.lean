import DocTemplate.Proofs.Calendar.Shifting
import DocTemplate.Proofs.Decimal.Numerals
import Mathlib

/-!
# When the standard functions fail

A function of the library answers every list of arguments. It fails if their number is not the one
of its table entry, and then whatever they are. With the right number only the divisions, the
strict conversions and the shifts of dates can fail, for one reason each.

## Main definitions

* `Builtin.arities` — how many arguments each function takes.
* `Builtin.Gives` — how a function answers if the number of arguments is right.
* `Builtin.IsTotal` — a function that then always succeeds.
* `Builtin.FailsOn` — for which arguments a function fails, and how.

## Main statements

* `Builtin.call_of_not_accepts` — a wrong number of arguments is reported with the arity.
* `Builtin.isTotal_of_standard?` — all but nine functions are total.
* `Registry.standard_fails_only_as_documented` — when the functions of the registry fail.
-/

namespace DocTemplate

/-- A name is found in a table as well if all the values are changed. -/
theorem lookup_map_snd {α β : Type} (f : α → β) (entries : List (String × α)) (name : String) :
    (entries.map fun entry => (entry.1, f entry.2)).lookup name = (entries.lookup name).map f := by
  induction entries with
  | nil => rfl
  | cons entry entries ih =>
    rw [List.map_cons, List.lookup_cons, List.lookup_cons, ih]
    split <;> rfl

/-- A table without repeated names has one value for each name. -/
theorem snd_unique {α : Type} {entries : List (String × α)} {name : String} {a b : α}
    (h : (entries.map Prod.fst).Nodup) (ha : (name, a) ∈ entries) (hb : (name, b) ∈ entries) :
    b = a :=
  (Prod.mk.inj (List.inj_on_of_nodup_map h hb ha rfl)).2

/-- A text spells a number that is not beyond the doubles, blanks around it apart. -/
def Value.SpellsNumber (s : String) : Prop :=
  ∃ n : Numeral, n.Spelled (Text.trim s.toList) ∧ n.nearest.isFinite = true

theorem Value.parseNumber?_eq_none_iff {s : String} :
    parseNumber? s = none ↔ ¬SpellsNumber s := by
  simp only [parseNumber?, SpellsNumber, ← Numeral.read?_eq_some_iff]
  cases Numeral.read? (Text.trim s.toList) with
  | none => simp
  | some n => simp

/-- A step is not taken if it is too long or if it leads out of the years of instants. -/
theorem Instant.add?_eq_none_iff {t : Instant} {seconds : Int} :
    t.add? seconds = none ↔ maxShift.natAbs < seconds.natAbs ∨
      (t.shift seconds).date.year < Date.minYear ∨ Date.maxYear < (t.shift seconds).date.year := by
  simp only [add?, inRange, Bool.and_eq_true, decide_eq_true_eq, ite_eq_right_iff, reduceCtorEq,
    imp_false, not_and_or, not_le]

namespace Builtin

variable {now : Instant} {name : String} {b : Builtin} {args : List Value}
  {P : List Value → Except CallError Value → Prop}

/-- How many arguments the functions of the library take. -/
def arities : List (String × Arity) :=
  [("toLower", .exactly 1), ("toUpper", .exactly 1), ("substring", .between 2 3),
    ("indexOf", .exactly 2), ("length", .exactly 1), ("replace", .exactly 3), ("split", .exactly 2),
    ("join", .exactly 2), ("trim", .exactly 1), ("startsWith", .exactly 2),
    ("endsWith", .exactly 2), ("contains", .exactly 2), ("format", .atLeast 1),
    ("concat", .atLeast 1), ("string", .exactly 1),
    ("add", .atLeast 2), ("sub", .exactly 2), ("mul", .atLeast 2), ("div", .exactly 2),
    ("mod", .exactly 2), ("min", .atLeast 1), ("max", .atLeast 1), ("round", .exactly 1),
    ("floor", .exactly 1), ("ceil", .exactly 1), ("abs", .exactly 1),
    ("count", .exactly 1), ("first", .exactly 1), ("last", .exactly 1), ("filter", .atLeast 1),
    ("sort", .exactly 1), ("flatten", .exactly 1), ("union", .exactly 2),
    ("intersection", .exactly 2),
    ("if", .exactly 3), ("equals", .exactly 2), ("not", .exactly 1), ("and", .atLeast 2),
    ("or", .atLeast 2), ("greaterThan", .exactly 2), ("lessThan", .exactly 2),
    ("exists", .exactly 1), ("empty", .exactly 1), ("isMatch", .exactly 2),
    ("parseInt", .exactly 1), ("int", .exactly 1), ("parseFloat", .exactly 1),
    ("float", .exactly 1), ("toNumber", .exactly 1), ("toString", .exactly 1),
    ("toBool", .exactly 1),
    ("formatDateTime", .between 1 2), ("addDays", .exactly 2), ("addHours", .exactly 2),
    ("getYear", .exactly 1), ("getMonth", .exactly 1), ("getDay", .exactly 1),
    ("dateDiff", .exactly 2), ("utcNow", .exactly 0)]

theorem standard_arities (now : Instant) :
    (standard now).map (fun entry => (entry.1, entry.2.arity)) = arities :=
  rfl

theorem arities_lookup (now : Instant) (name : String) :
    arities.lookup name = (standard? now name).map arity := by
  rw [← standard_arities now, lookup_map_snd, standard?]

/-! ### Functions by the form of their arguments -/

/-- A wrong number of arguments is reported, whatever the arguments are. -/
theorem call_of_not_accepts (h : b.arity.accepts args.length = false) :
    b.call args = .error (.arity b.arity args.length) := by
  cases b <;> rcases args with _ | ⟨x, _ | ⟨y, _ | ⟨z, _ | ⟨w, rest⟩⟩⟩⟩ <;>
    first | rfl | simp [arity, Arity.accepts] at h

/-- How a function answers all lists of arguments that have the right length. -/
def Gives (P : List Value → Except CallError Value → Prop) : Builtin → Prop
  | .nullary f => P [] f
  | .unary f => ∀ x, P [x] (f x)
  | .binary f => ∀ x y, P [x, y] (f x y)
  | .ternary f => ∀ x y z, P [x, y, z] (f x y z)
  | .unaryOrBinary f => (∀ x, P [x] (f x none)) ∧ ∀ x y, P [x, y] (f x (some y))
  | .binaryOrTernary f => (∀ x y, P [x, y] (f x y none)) ∧ ∀ x y z, P [x, y, z] (f x y (some z))
  | .fromOne f => ∀ x rest, P (x :: rest) (f x rest)
  | .fromTwo f => ∀ x y rest, P (x :: y :: rest) (f x y rest)

/-- A right number of arguments is taken apart as the form of the function says. -/
theorem Gives.call (hb : b.Gives P) (h : b.arity.accepts args.length = true) :
    P args (b.call args) := by
  cases b <;> rcases args with _ | ⟨x, _ | ⟨y, _ | ⟨z, _ | ⟨w, rest⟩⟩⟩⟩ <;>
    simp_all [Gives, Builtin.call, arity, Arity.accepts]
  omega

theorem Gives.imp {Q : List Value → Except CallError Value → Prop} (hb : b.Gives P)
    (h : ∀ args r, P args r → Q args r) : b.Gives Q := by
  cases b with
  | nullary f => exact h _ _ hb
  | unary f => exact fun x => h _ _ (hb x)
  | binary f => exact fun x y => h _ _ (hb x y)
  | ternary f => exact fun x y z => h _ _ (hb x y z)
  | unaryOrBinary f => exact ⟨fun x => h _ _ (hb.1 x), fun x y => h _ _ (hb.2 x y)⟩
  | binaryOrTernary f => exact ⟨fun x y => h _ _ (hb.1 x y), fun x y z => h _ _ (hb.2 x y z)⟩
  | fromOne f => exact fun x rest => h _ _ (hb x rest)
  | fromTwo f => exact fun x y rest => h _ _ (hb x y rest)

/-- A function that succeeds whenever the number of arguments is right. -/
def IsTotal : Builtin → Prop :=
  Gives fun _ r => ∃ v, r = .ok v

/-- The functions that divide. -/
def divisions : List String := ["div", "mod"]

/-- The strict conversions, with what their messages call the wanted number. -/
def readers : List (String × String) :=
  [("parseInt", "integer"), ("int", "integer"), ("parseFloat", "number"), ("float", "number"),
    ("toNumber", "number")]

/-- The functions that can fail although the number of arguments is right. -/
def fallible : List String :=
  divisions ++ readers.map Prod.fst ++ CalendarFunctions.shifts.map Prod.fst

/-- For which arguments of the right number a function fails, and how. -/
inductive FailsOn (now : Instant) : String → List Value → CallError → Prop
  | divisor {name : String} (a b : Value) (hname : name ∈ divisions)
      (hb : (b.toNumber == 0) = true) : FailsOn now name [a, b] .divisionByZero
  | text {name target : String} (s : String) (hname : (name, target) ∈ readers)
      (hs : ¬Value.SpellsNumber s) :
      FailsOn now name [.string s] (.coercion ("cannot parse '" ++ s ++ "' as " ++ target))
  | array {name target : String} (items : List Value) (hname : (name, target) ∈ readers) :
      FailsOn now name [.array items] (.coercion ("cannot convert array to " ++ target))
  | object {name target : String} (members : List (String × Value))
      (hname : (name, target) ∈ readers) :
      FailsOn now name [.object members] (.coercion ("cannot convert object to " ++ target))
  | duration {name : String} {unit : Nat} (date count : Value)
      (hname : (name, unit) ∈ CalendarFunctions.shifts)
      (h : Instant.maxShift.natAbs < (count.toInteger * unit).natAbs) :
      FailsOn now name [date, count] (.runtime "Date out of range")
  | year {name : String} {unit : Nat} {year : Int} (date count : Value)
      (hname : (name, unit) ∈ CalendarFunctions.shifts)
      (hyear : year =
        ((CalendarFunctions.instantOf now date).shift (count.toInteger * unit)).date.year)
      (h : year < Date.minYear ∨ Date.maxYear < year) :
      FailsOn now name [date, count] (.runtime "Date out of range")

theorem not_mem_shifts_of_mem_divisions {unit : Nat} (hname : name ∈ divisions) :
    (name, unit) ∉ CalendarFunctions.shifts := by
  have hdisjoint : ∀ name ∈ divisions, name ∉ CalendarFunctions.shifts.map Prod.fst := by decide
  exact fun hshifts => hdisjoint name hname (List.mem_map_of_mem hshifts)

theorem FailsOn.mem_fallible {error : CallError} (h : FailsOn now name args error) :
    name ∈ fallible := by
  simp only [fallible, List.mem_append]
  cases h with
  | divisor _ _ hname => exact .inl (.inl hname)
  | text _ hname | array _ hname | object _ hname =>
    exact .inl (.inr (List.mem_map_of_mem hname))
  | duration _ _ hname | year _ _ hname => exact .inr (List.mem_map_of_mem hname)

/-- All the other functions are total. -/
theorem isTotal_of_standard? (h : standard? now name = some b) (hname : name ∉ fallible) :
    b.IsTotal := by
  have htotal : ∀ entry ∈ standard now, entry.1 ∉ fallible → entry.2.IsTotal := by
    simp [standard, TextFunctions.all, ArithmeticFunctions.all, CollectionFunctions.all,
      LogicFunctions.all, ConversionFunctions.all, CalendarFunctions.all, fallible, divisions,
      readers, CalendarFunctions.shifts, IsTotal, Gives, total1, total2]
  obtain ⟨before, behind, hstandard, -⟩ := List.lookup_eq_some_iff.mp h
  exact htotal (name, b) (by simp [hstandard]) hname

/-! ### The functions that can fail -/

theorem standard?_division (now : Instant) (hname : name ∈ divisions) :
    ∃ f, standard? now name = some (.binary (ArithmeticFunctions.dividing f)) := by
  simp only [divisions, List.mem_cons, List.not_mem_nil, or_false] at hname
  obtain rfl | rfl := hname
  · exact ⟨_, rfl⟩
  · exact ⟨_, rfl⟩

theorem standard?_reader (now : Instant) {target : String} (hname : (name, target) ∈ readers) :
    ∃ f : Double → Value, standard? now name =
      some (.unary fun v => (ConversionFunctions.strictNumber target v).map f) := by
  simp only [readers, List.mem_cons, Prod.mk.injEq, List.not_mem_nil, or_false] at hname
  obtain ⟨rfl, rfl⟩ | ⟨rfl, rfl⟩ | ⟨rfl, rfl⟩ | ⟨rfl, rfl⟩ | ⟨rfl, rfl⟩ := hname <;> exact ⟨_, rfl⟩

theorem gives_dividing (hname : name ∈ divisions) (f : Double → Double → Double) :
    (binary (ArithmeticFunctions.dividing f)).Gives fun args r =>
      ∀ error, r = .error error ↔ FailsOn now name args error := by
  intro a b error
  rw [ArithmeticFunctions.dividing]
  constructor
  · intro h
    by_cases hb : (b.toNumber == 0) = true
    · rw [if_pos hb] at h
      cases h
      exact .divisor a b hname hb
    · rw [if_neg hb] at h
      cases h
  · intro h
    cases h with
    | divisor _ _ _ hb => rw [if_pos hb]
    | duration _ _ hshifts | year _ _ hshifts =>
      exact absurd hshifts (not_mem_shifts_of_mem_divisions hname)

theorem gives_strictNumber {target : String} (hname : (name, target) ∈ readers)
    (f : Double → Value) :
    (unary fun v => (ConversionFunctions.strictNumber target v).map f).Gives fun args r =>
      ∀ error, r = .error error ↔ FailsOn now name args error := by
  intro v error
  constructor
  · intro h
    cases v with
    | null | number x => cases h
    | boolean b => cases b <;> cases h
    | string s =>
      cases hs : Value.parseNumber? s with
      | some x => simp [ConversionFunctions.strictNumber, hs, Except.map] at h
      | none =>
        simp only [ConversionFunctions.strictNumber, hs, Except.map] at h
        cases h
        exact .text s hname (Value.parseNumber?_eq_none_iff.mp hs)
    | array items =>
      cases h
      exact .array items hname
    | object members =>
      cases h
      exact .object members hname
  · intro h
    cases h with
    | text s hother hs =>
      obtain rfl := snd_unique (by decide) hname hother
      simp only [ConversionFunctions.strictNumber, Value.parseNumber?_eq_none_iff.mpr hs]
      rfl
    | array items hother =>
      obtain rfl := snd_unique (by decide) hname hother
      rfl
    | object members hother =>
      obtain rfl := snd_unique (by decide) hname hother
      rfl

theorem gives_addUnits {unit : Nat} (hname : (name, unit) ∈ CalendarFunctions.shifts) :
    (binary (CalendarFunctions.addUnits now unit)).Gives fun args r =>
      ∀ error, r = .error error ↔ FailsOn now name args error := by
  intro date count error
  have hadd : CalendarFunctions.addUnits now unit date count = .error error ↔
      (CalendarFunctions.instantOf now date).add? (count.toInteger * unit) = none ∧
        .runtime "Date out of range" = error := by
    rw [CalendarFunctions.addUnits]
    cases (CalendarFunctions.instantOf now date).add? (count.toInteger * unit) with
    | some t => simp
    | none => exact ⟨fun h => ⟨rfl, Except.error.inj h⟩, fun h => congrArg Except.error h.2⟩
  rw [hadd, Instant.add?_eq_none_iff]
  constructor
  · rintro ⟨hduration | hyear, rfl⟩
    · exact .duration date count hname hduration
    · exact .year date count hname rfl hyear
  · intro h
    cases h with
    | divisor _ _ hdivisions => exact absurd hname (not_mem_shifts_of_mem_divisions hdivisions)
    | duration _ _ hother hduration =>
      obtain rfl := snd_unique (by decide) hname hother
      exact ⟨.inl hduration, rfl⟩
    | year _ _ hother hyear h =>
      obtain rfl := snd_unique (by decide) hname hother
      subst hyear
      exact ⟨.inr h, rfl⟩

/-- With the right number of arguments a function fails as described and not otherwise. -/
theorem gives_failsOn (h : standard? now name = some b) :
    b.Gives fun args r => ∀ error, r = .error error ↔ FailsOn now name args error := by
  by_cases hname : name ∈ fallible
  · simp only [fallible, List.mem_append, List.mem_map, Prod.exists, exists_and_right,
      exists_eq_right] at hname
    obtain (hname | ⟨target, hname⟩) | ⟨unit, hname⟩ := hname
    · obtain ⟨f, hf⟩ := standard?_division now hname
      obtain rfl := Option.some.inj (hf.symm.trans h)
      exact gives_dividing hname f
    · obtain ⟨f, hf⟩ := standard?_reader now hname
      obtain rfl := Option.some.inj (hf.symm.trans h)
      exact gives_strictNumber hname f
    · obtain rfl := Option.some.inj ((CalendarFunctions.standard?_shift now hname).symm.trans h)
      exact gives_addUnits hname
  · refine (isTotal_of_standard? h hname).imp fun args r hr error => ?_
    obtain ⟨v, rfl⟩ := hr
    exact ⟨nofun, fun hfails => absurd hfails.mem_fallible hname⟩

/-- Only a wrong number of arguments is reported as one. -/
theorem call_eq_arity_error_iff (h : standard? now name = some b) {expected : Arity} {count : Nat} :
    b.call args = .error (.arity expected count) ↔
      b.arity.accepts args.length = false ∧ expected = b.arity ∧ count = args.length := by
  cases haccepts : b.arity.accepts args.length with
  | true =>
    have hfails := (gives_failsOn h).call haccepts (.arity expected count)
    constructor
    · intro harity
      cases hfails.mp harity
    · simp
  | false => simp [call_of_not_accepts haccepts, eq_comm]

end Builtin

variable {m : Type → Type} [Monad m]

theorem Registry.standard_get? (now : Instant) (name : String) :
    (Registry.standard now : Registry m).get? name =
      (Builtin.standard? now name).map fun b args => pure (b.call args) :=
  lookup_map_snd (fun b : Builtin => (fun args => pure (b.call args) : Function m)) _ name

/-- A registered function answers every list of arguments. It reports a wrong number of them
whatever they are; with a right number it fails for the reasons of its own, if it has one, and
succeeds otherwise. -/
theorem Registry.standard_fails_only_as_documented (now : Instant) {name : String} {f : Function m}
    (h : (Registry.standard now).get? name = some f) :
    ∃ arity, Builtin.arities.lookup name = some arity ∧ ∀ args, ∃ r, f args = pure r ∧
      (∀ expected count, r = .error (.arity expected count) ↔
        arity.accepts args.length = false ∧ expected = arity ∧ count = args.length) ∧
      (arity.accepts args.length = true →
        (∀ error, r = .error error ↔ Builtin.FailsOn now name args error) ∧
        ((∃ v, r = .ok v) ↔ ∀ error, ¬Builtin.FailsOn now name args error) ∧
        (name ∉ Builtin.fallible → ∃ v, r = .ok v)) := by
  rw [standard_get?] at h
  obtain ⟨b, hb, rfl⟩ := Option.map_eq_some_iff.mp h
  refine ⟨b.arity, by rw [Builtin.arities_lookup now, hb, Option.map_some], fun args =>
    ⟨b.call args, rfl, fun _ _ => Builtin.call_eq_arity_error_iff hb, fun haccepts => ?_⟩⟩
  have hfails := (Builtin.gives_failsOn hb).call haccepts
  refine ⟨hfails, ?_, fun hname => (Builtin.isTotal_of_standard? hb hname).call haccepts⟩
  cases hcall : b.call args with
  | ok v => simp [← hfails, hcall]
  | error error => simp [← hfails, hcall]

/-- The remainder by null, which counts as zero, and by nothing at all. -/
theorem Registry.standard_fails_only_as_documented_mod :
    ∃ f : Function Id, (Registry.standard ⟨0, 0, 0⟩).get? "mod" = some f ∧
      f [.string "x"] = pure (.error (.arity (.exactly 2) 1)) ∧
      f [.string "x", .null] = pure (.error .divisionByZero) := by
  obtain ⟨f, hf⟩ : ∃ f : Function Id, (Registry.standard ⟨0, 0, 0⟩).get? "mod" = some f :=
    ⟨_, rfl⟩
  obtain ⟨arity, harity, hanswers⟩ := standard_fails_only_as_documented ⟨0, 0, 0⟩ hf
  obtain rfl : Arity.exactly 2 = arity := Option.some.inj harity
  obtain ⟨r, hr, hcount, -⟩ := hanswers [.string "x"]
  obtain ⟨r', hr', -, haccepted⟩ := hanswers [.string "x", .null]
  have hfails : Builtin.FailsOn ⟨0, 0, 0⟩ "mod" [.string "x", .null] .divisionByZero :=
    .divisor _ _ (by decide) (by decide +kernel)
  refine ⟨f, hf, ?_, ?_⟩
  · rw [hr, (hcount (.exactly 2) 1).mpr ⟨rfl, rfl, rfl⟩]
  · rw [hr', ((haccepted rfl).1 .divisionByZero).mpr hfails]

end DocTemplate
