import DocTemplate.Proofs.Document.Parts
import Mathlib

/-!
# Arrays by their elements and rows

An array is expanded element by element, and an element that is repeated for an array is expanded
row by row, each in its own scope. Nothing is left out on the way but objects that come out empty,
and nothing changes its place.

## Main definitions

* `Document.without` — an object without the members of some keys.
* `Document.dataOf` — the data that an element is repeated for.
* `Document.ByRows` — how an array is made up of what its elements and rows contribute.

## Main statements

* `Document.expandItems_append` — the elements of an array contribute one after another.
* `Document.expandItems_repeated` — what a repeated element contributes.
* `Document.kept_expand_conditional` — a row is kept exactly if its condition holds.
* `Document.expandItems_rows_filter` — the rows that are kept, in order and with their indexes.
* `Document.byRows` — all arrays are made up so.
-/

namespace DocTemplate.Document

section Members

variable {key : String} {keys : List String} {members : List (String × Value)}

/-- An object without the members of some keys. -/
def without (keys : List String) (members : List (String × Value)) : List (String × Value) :=
  members.filter fun entry => !keys.contains entry.1

theorem without_cons_of_mem {entry : String × Value} (h : entry.1 ∈ keys) :
    without keys (entry :: members) = without keys members :=
  List.filter_cons_of_neg (by simpa using h)

theorem without_cons_of_not_mem {entry : String × Value} (h : entry.1 ∉ keys) :
    without keys (entry :: members) = entry :: without keys members :=
  List.filter_cons_of_pos (by simpa using h)

theorem not_mem_of_mem_without {entry : String × Value} (h : entry ∈ without keys members) :
    entry.1 ∉ keys := by
  simpa using (List.mem_filter.mp h).2

/-- The other members are found as before. -/
theorem lookup_without (h : key ∉ keys) :
    (without keys members).lookup key = members.lookup key := by
  induction members with
  | nil => rfl
  | cons entry members ih =>
    by_cases hentry : entry.1 ∈ keys
    · have hne : key ≠ entry.1 := fun heq => h (heq ▸ hentry)
      rw [without_cons_of_mem hentry, ih, List.lookup_cons, beq_eq_false_iff_ne.mpr hne]
    · rw [without_cons_of_not_mem hentry, List.lookup_cons, List.lookup_cons, ih]

theorem lookup_without_of_mem (h : key ∈ keys) : (without keys members).lookup key = none := by
  refine List.lookup_eq_none_iff.mpr fun entry hentry => ?_
  rw [bne_iff_ne]
  rintro rfl
  exact not_mem_of_mem_without hentry h

/-- Without its directives an element has no condition. -/
theorem lookup_whenKey_without_directives :
    (without (directives true) members).lookup whenKey = none :=
  lookup_without_of_mem (whenKey_mem_directives true)

end Members

variable {n : Type → Type} [Monad n] {ε : Type} (evaluate : Scope → String → n (Except ε Value))
  (policy : BindingErrors) (scope : Scope) {members : List (String × Value)}
  {condition data : Value}

/-- The data that an element is repeated for: the value of an expression, null if it fails, or a
template itself. -/
def dataOf : Value → ExceptT TemplateError n Value
  | .string source => do
    match ← (evaluate scope (Binding.unwrap source) : n (Except ε Value)) with
    | .ok data => pure data
    | .error _ => pure .null
  | v => expand evaluate policy scope v

theorem expandData_eq_dataOf (h : members.lookup dataKey = some data) :
    expandData evaluate policy scope members = dataOf evaluate policy scope data := by
  induction members with
  | nil => cases h
  | cons entry members ih =>
    obtain ⟨key, v⟩ := entry
    by_cases hkey : key = dataKey
    · subst hkey
      obtain rfl := Option.some.inj (List.lookup_cons_self.symm.trans h)
      cases v with
      | string source => exact expandData_string source
      | _ => exact expandData_of_not_isString rfl
    · rw [List.lookup_cons, beq_eq_false_iff_ne.mpr (Ne.symm hkey)] at h
      rw [expandData_of_ne hkey, ih h]

/-- Members that are left out anyway need not be there. -/
theorem expandMembers_without {keys left out : List String}
    (h : ∀ key, key ∈ out ↔ key ∈ keys ∨ key ∈ left) (members : List (String × Value)) :
    expandMembers evaluate policy scope left (without keys members) =
      expandMembers evaluate policy scope out members := by
  induction members with
  | nil => rfl
  | cons entry members ih =>
    obtain ⟨key, v⟩ := entry
    by_cases hkeys : key ∈ keys
    · have hout : key ∈ out := (h key).mpr (.inl hkeys)
      rw [without_cons_of_mem hkeys, ih, expandMembers, if_pos (by simpa using hout)]
    · rw [without_cons_of_not_mem hkeys, expandMembers, expandMembers, ih]
      have hiff : left.contains key = out.contains key := by
        simp [h, hkeys]
      rw [hiff]

/-- A repeated element is expanded without its data, which is a directive. -/
theorem expand_without_data (members : List (String × Value)) :
    expand evaluate policy scope (.object (without [dataKey] members)) =
      object (evaluate scope) members
        (expandMembers evaluate policy scope (directives true) members) := by
  have hmembers : expandMembers evaluate policy scope [whenKey] (without [dataKey] members) =
      expandMembers evaluate policy scope (directives true) members :=
    expandMembers_without evaluate policy scope (by simp [directives, or_comm]) members
  have hwhen : (without [dataKey] members).lookup whenKey = members.lookup whenKey :=
    lookup_without (by decide)
  rw [expand, hmembers, object, object, isPresent, isPresent, hwhen]

variable [LawfulMonad n]

/-- An object without a condition has its expanded members. -/
theorem expand_unconditional (h : members.lookup whenKey = none) :
    expand evaluate policy scope (.object members) =
      Value.object <$> expandMembers evaluate policy scope [whenKey] members := by
  rw [expand, object, isPresent, h]
  simp

/-- If the condition of an object holds it is expanded without it. -/
theorem expand_conditional (h : members.lookup whenKey = some condition) :
    expand evaluate policy scope (.object (without [dataKey] members)) = (do
      let present ← (holds (evaluate scope) condition : n Bool)
      if present then
        expand evaluate policy scope (.object (without (directives true) members))
      else pure (.object [])) := by
  have hmembers :
      expandMembers evaluate policy scope [whenKey] (without (directives true) members) =
        expandMembers evaluate policy scope (directives true) members :=
    expandMembers_without evaluate policy scope (by simp [directives]) members
  rw [expand_unconditional evaluate policy scope lookup_whenKey_without_directives, hmembers,
    expand_without_data, object, isPresent, h]
  refine bind_congr fun present => ?_
  cases present with
  | true => simp
  | false => rfl

/-- An object with a member that is no directive does not come out empty. -/
theorem kept_expand_of_exists (h : ∃ entry ∈ members, entry.1 ∉ directives true) :
    kept <$> expand evaluate policy scope (.object (without (directives true) members)) =
      (fun v => [v]) <$>
        expand evaluate policy scope (.object (without (directives true) members)) := by
  obtain ⟨entry, hentry, hkey⟩ := h
  have hmem : entry ∈ without (directives true) members :=
    List.mem_filter.mpr ⟨hentry, by simpa using hkey⟩
  rw [expand_unconditional evaluate policy scope lookup_whenKey_without_directives]
  cases hwithout : without (directives true) members with
  | nil => simp [hwithout] at hmem
  | cons first rest =>
    have hmem : first ∈ without (directives true) members := by simp [hwithout]
    have hfirst : first.1 ∉ directives true := not_mem_of_mem_without hmem
    have hwhen : first.1 ≠ whenKey := fun heq => hfirst (heq ▸ whenKey_mem_directives true)
    rw [expandMembers, if_neg (by simpa using hwhen)]
    simp [kept, isEmptyObject]

/-- A row is kept exactly if its own condition holds, provided that there is a member besides the
directives. -/
theorem kept_expand_conditional (h : members.lookup whenKey = some condition)
    (hmember : ∃ entry ∈ members, entry.1 ∉ directives true) :
    kept <$> expand evaluate policy scope (.object (without [dataKey] members)) = (do
      let present ← (holds (evaluate scope) condition : n Bool)
      if present then
        (fun v => [v]) <$>
          expand evaluate policy scope (.object (without (directives true) members))
      else pure []) := by
  rw [expand_conditional evaluate policy scope h, map_bind]
  refine bind_congr fun present => ?_
  cases present with
  | true => exact kept_expand_of_exists evaluate policy scope hmember
  | false => exact map_pure _ _

/-- The elements of two arrays contribute one after another. -/
theorem expandItems_append (items more : List Value) :
    expandItems evaluate policy scope (items ++ more) = (do
      let vs ← expandItems evaluate policy scope items
      let ws ← expandItems evaluate policy scope more
      pure (vs ++ ws)) := by
  induction items with
  | nil => simp [expandItems]
  | cons item items ih =>
    cases item with
    | object members =>
      rw [List.cons_append, expandItems_object, expandItems_object, ih]
      simp only [bind_assoc, pure_bind, List.append_assoc]
    | _ =>
      rw [List.cons_append, expandItems_of_kindName_ne (by simp [Value.kindName]),
        expandItems_of_kindName_ne (by simp [Value.kindName]), ih]
      simp only [bind_assoc, pure_bind, List.cons_append]

/-- An element that is no object contributes itself, expanded. -/
theorem expandItems_singleton {item : Value} (h : item.kindName ≠ "object") :
    expandItems evaluate policy scope [item] =
      (fun v => [v]) <$> expand evaluate policy scope item := by
  rw [expandItems_of_kindName_ne h]
  simp [expandItems]

/-- Rows contribute one after another, each with its own index. -/
theorem forRows_eq_mapM (element : Value → Nat → ExceptT TemplateError n Value) (first : Nat)
    (rows : List Value) :
    forRows element first rows =
      List.flatten <$> (rows.zipIdx first).mapM fun row => kept <$> element row.1 row.2 := by
  induction rows generalizing first with
  | nil => simp [forRows]
  | cons row rows ih =>
    rw [forRows, ih, List.zipIdx_cons, List.mapM_cons]
    simp

/-- What a repeated element contributes: its rows in order, each in its own scope, nothing if there
is no data, and else itself once. -/
theorem expandItems_repeated (h : members.lookup dataKey = some data) :
    expandItems evaluate policy scope [.object members] = (do
      match ← dataOf evaluate policy scope data with
      | .array rows =>
        List.flatten <$> rows.zipIdx.mapM fun row =>
          kept <$> expand evaluate policy (scope.row row.1 row.2)
            (.object (without [dataKey] members))
      | .null => pure []
      | v =>
        kept <$> expand evaluate policy (scope.enter v)
          (.object (without [dataKey] members))) := by
  rw [expandItems_object, element, if_pos (by rw [h]; rfl),
    expandData_eq_dataOf evaluate policy scope h]
  simp only [expandItems, pure_bind, List.append_nil, bind_pure]
  refine bind_congr fun v => ?_
  cases v with
  | array rows => simp only [forRows_eq_mapM, expand_without_data]
  | null => rfl
  | _ => simp only [expand_without_data, map_eq_pure_bind]

/-- An element that is not repeated contributes itself, unless it comes out empty. -/
theorem expandItems_once (h : members.lookup dataKey = none) :
    expandItems evaluate policy scope [.object members] =
      kept <$> expand evaluate policy scope (.object members) := by
  have hmembers : without [dataKey] members = members := by
    refine List.filter_eq_self.mpr fun entry hentry => ?_
    have hne : dataKey ≠ entry.1 := by simpa using List.lookup_eq_none_iff.mp h entry hentry
    simpa using Ne.symm hne
  have hexpand := expand_without_data evaluate policy scope members
  rw [hmembers] at hexpand
  rw [expandItems_object, element, if_neg (by rw [h]; simp), hexpand, expandItems]
  simp

/-- What is put in a row for the elements with a property comes from these elements alone. -/
theorem flatten_mapM_filter {n : Type → Type} [Monad n] [LawfulMonad n] {α β : Type} {P : α → Bool}
    {f : α → n β} {g : α → n (List β)} {l : List α}
    (h : ∀ a ∈ l, g a = if P a then (fun b => [b]) <$> f a else pure []) :
    List.flatten <$> l.mapM g = (l.filter P).mapM f := by
  induction l with
  | nil => simp
  | cons a l ih =>
    obtain ⟨ha, hl⟩ := List.forall_mem_cons.mp h
    cases hP : P a <;> simp [ha, hP, ← ih hl]

/-- The rows of a repeated element that are kept are the ones whose condition holds, each expanded
with its own index. -/
theorem expandItems_rows_filter (hdata : members.lookup dataKey = some data)
    (hwhen : members.lookup whenKey = some condition)
    (hmember : ∃ entry ∈ members, entry.1 ∉ directives true) {rows : List Value}
    (hrows : dataOf evaluate policy scope data = pure (.array rows)) {verdict : Value × Nat → Bool}
    (hverdict : ∀ row ∈ rows.zipIdx,
      holds (evaluate (scope.row row.1 row.2)) condition = pure (verdict row)) :
    expandItems evaluate policy scope [.object members] =
      (rows.zipIdx.filter verdict).mapM fun row =>
        expand evaluate policy (scope.row row.1 row.2)
          (.object (without (directives true) members)) := by
  rw [expandItems_repeated evaluate policy scope hdata, hrows, pure_bind]
  refine flatten_mapM_filter fun row hrow => ?_
  rw [kept_expand_conditional evaluate policy _ hwhen hmember, hverdict row hrow, liftM_pure,
    pure_bind]

/-- How an array is made up of what its elements and the rows of repeated elements contribute. -/
structure ByRows : Prop where
  array : ∀ items, expand evaluate policy scope (.array items) =
    Value.array <$> expandItems evaluate policy scope items
  /-- The elements contribute one after another, up to the first one that fails. -/
  append : ∀ items more, expandItems evaluate policy scope (items ++ more) = do
    let vs ← expandItems evaluate policy scope items
    let ws ← expandItems evaluate policy scope more
    pure (vs ++ ws)
  item : ∀ item : Value, item.kindName ≠ "object" →
    expandItems evaluate policy scope [item] =
      (fun v => [v]) <$> expand evaluate policy scope item
  once : ∀ members, members.lookup dataKey = none →
    expandItems evaluate policy scope [.object members] =
      kept <$> expand evaluate policy scope (.object members)
  /-- A repeated element contributes each row in the scope of its value and its index. Null
  contributes nothing, and any other value is entered once. -/
  repeated : ∀ members data, members.lookup dataKey = some data →
    expandItems evaluate policy scope [.object members] = do
      match ← dataOf evaluate policy scope data with
      | .array rows =>
        List.flatten <$> rows.zipIdx.mapM fun row =>
          kept <$> expand evaluate policy (scope.row row.1 row.2)
            (.object (without [dataKey] members))
      | .null => pure []
      | v =>
        kept <$> expand evaluate policy (scope.enter v) (.object (without [dataKey] members))
  failing : ∀ members source error, members.lookup dataKey = some (.string source) →
    evaluate scope (Binding.unwrap source) = pure (.error error) →
    expandItems evaluate policy scope [.object members] = pure []
  /-- With a member besides the directives a row is kept exactly if its own condition holds. -/
  conditional : ∀ members condition, members.lookup whenKey = some condition →
    (∃ entry ∈ members, entry.1 ∉ directives true) → ∀ scope : Scope,
    kept <$> expand evaluate policy scope (.object (without [dataKey] members)) = do
      let present ← (holds (evaluate scope) condition : n Bool)
      if present then
        (fun v => [v]) <$>
          expand evaluate policy scope (.object (without (directives true) members))
      else pure []
  /-- So the rows that are kept are the ones with a truthy condition, with their own indexes. -/
  rows : ∀ members data condition rows verdict, members.lookup dataKey = some data →
    members.lookup whenKey = some condition → (∃ entry ∈ members, entry.1 ∉ directives true) →
    dataOf evaluate policy scope data = pure (.array rows) →
    (∀ row ∈ rows.zipIdx,
      holds (evaluate (scope.row row.1 row.2)) condition = pure (verdict row)) →
    expandItems evaluate policy scope [.object members] =
      (rows.zipIdx.filter verdict).mapM fun row =>
        expand evaluate policy (scope.row row.1 row.2)
          (.object (without (directives true) members))

/-- Arrays are expanded by their elements and rows, however expressions are evaluated. -/
theorem byRows : ByRows evaluate policy scope where
  array _ := (map_eq_pure_bind _ _).symm
  append := expandItems_append evaluate policy scope
  item _ h := expandItems_singleton evaluate policy scope h
  once _ h := expandItems_once evaluate policy scope h
  repeated _ _ h := expandItems_repeated evaluate policy scope h
  failing members source error h herror := by
    have hdata : dataOf evaluate policy scope (.string source) = pure .null := by
      rw [dataOf, herror, liftM_pure, pure_bind]
    rw [expandItems_repeated evaluate policy scope h, hdata, pure_bind]
  conditional _ _ h hmember scope := kept_expand_conditional evaluate policy scope h hmember
  rows _ _ _ _ _ hdata hwhen hmember hrows hverdict :=
    expandItems_rows_filter evaluate policy scope hdata hwhen hmember hrows hverdict

end DocTemplate.Document
