import DocTemplate.Proofs.Text.Splitting
import DocTemplate.Scope
import Mathlib.Data.List.Basic

/-!
# What a path leads to

The segments of a path stand in one text with points between them. The path leads from its base one
step a segment, whatever the segments are, as long as none of them holds a point.

## Main definitions

* `Value.part` — the part of a value that a segment names.
* `Scope.base` — what a path starts from.
* `Scope.dotted` — the text of a path.
* `Scope.IsFromRoot` — a path starts from the data of the document.

## Main statements

* `Scope.resolve_dotted` — a path leads from its base one step a segment.
* `Scope.resolve_eq_of_isFromRoot` — a path from the root sees only the root.
-/

namespace DocTemplate

/-- The part of a value that a segment names: a member of an object, an element of an array under
its index, and null if there is none. -/
def Value.part (v : Value) (segment : String) : Value :=
  match v with
  | .object members => (members.lookup segment).getD .null
  | .array items => ((Scope.index? segment.toList).bind (items[·]?)).getD .null
  | _ => .null

namespace Scope

/-- What a path starts from: a reserved name or a part of the current value. -/
def base (s : Scope) (name : String) : Value :=
  if name = "$root" then s.root
  else if name = "$data" then s.current.value
  else if name = "$index" then
    match s.current.index with
    | some n => .number (Float.ofNat n)
    | none => .null
  else s.current.value.part name

/-- The text of a path with segments behind a name. -/
def dotted (name : String) (segments : List String) : String :=
  segments.foldl (fun path segment => path ++ "." ++ segment) name

/-- A path starts from the data of the document. -/
def IsFromRoot (path : String) : Prop :=
  path = "$root" ∨ "$root.".toList <+: path.toList

theorem toList_dotted (name : String) (segments : List String) :
    (dotted name segments).toList =
      Text.join ['.'] (name.toList :: segments.map String.toList) := by
  induction segments generalizing name with
  | nil => rfl
  | cons segment rest ih =>
    have hjoin (pieces : List (List Char)) (piece : List Char) :
        Text.join ['.'] ((piece ++ ['.'] ++ segment.toList) :: pieces) =
          piece ++ ['.'] ++ Text.join ['.'] (segment.toList :: pieces) := by
      cases pieces <;> simp [Text.join]
    have hpoint : ".".toList = ['.'] := rfl
    calc (dotted name (segment :: rest)).toList
      _ = Text.join ['.'] ((name ++ "." ++ segment).toList :: rest.map String.toList) := ih _
      _ = name.toList ++ ['.'] ++ Text.join ['.'] (segment.toList :: rest.map String.toList) := by
          rw [String.toList_append, String.toList_append, hpoint, hjoin]

theorem walk_null (segments : List (List Char)) : walk .null segments = .null := by
  cases segments <;> rfl

/-- To walk is to take the part of each segment in turn. -/
theorem walk_eq_foldl (v : Value) (segments : List String) :
    walk v (segments.map String.toList) = segments.foldl Value.part v := by
  induction segments generalizing v with
  | nil => rfl
  | cons segment rest ih =>
    have hstep : v.part segment = (step v segment.toList).getD .null := by
      cases v <;> simp [Value.part, step]
    rw [List.map_cons, walk, List.foldl_cons, ← ih, hstep]
    cases step v segment.toList with
    | none => exact (walk_null _).symm
    | some next => rfl

theorem follow_join (v : Value) {segments : List String} (hne : segments ≠ [])
    (h : ∀ segment ∈ segments, '.' ∉ segment.toList) :
    follow v (Text.join ['.'] (segments.map String.toList)) = segments.foldl Value.part v := by
  have hpieces : ∀ piece ∈ segments.map String.toList, '.' ∉ piece := by
    simpa using h
  rw [follow, Text.split_join_singleton (by simpa using hne) hpieces, walk_eq_foldl]

theorem toList_dotted_cons (name segment : String) (segments : List String) :
    (dotted name (segment :: segments)).toList =
      name.toList ++ '.' :: Text.join ['.'] ((segment :: segments).map String.toList) := by
  rw [toList_dotted]
  simp [Text.join]

/-- A path with segments is no reserved name. -/
theorem dotted_cons_ne {name word : String} (hword : '.' ∉ word.toList) (segment : String)
    (segments : List String) : dotted name (segment :: segments) ≠ word := by
  rintro rfl
  rw [toList_dotted_cons] at hword
  simp at hword

section Prefixes

variable {word name : List Char}

theorem isPrefixOf?_point_of_not_mem (hname : '.' ∉ name) :
    (word ++ ['.']).isPrefixOf? name = none := by
  cases hrest : (word ++ ['.']).isPrefixOf? name with
  | none => rfl
  | some rest =>
    have happend := List.append_eq_of_isPrefixOf?_eq_some hrest
    rw [← happend] at hname
    simp at hname

/-- A text that starts with a name and a point starts with no other name and a point. -/
theorem isPrefixOf?_point (hword : '.' ∉ word) (hname : '.' ∉ name) (rest : List Char) :
    (word ++ ['.']).isPrefixOf? (name ++ '.' :: rest) =
      if name = word then some rest else none := by
  split
  · rename_i heq
    rw [heq, List.isPrefixOf?_eq_some_iff_append_eq, List.append_assoc, List.singleton_append]
  · rename_i hne
    cases hrest : (word ++ ['.']).isPrefixOf? (name ++ '.' :: rest) with
    | none => rfl
    | some rest' =>
      have happend := List.append_eq_of_isPrefixOf?_eq_some hrest
      rw [List.append_assoc, List.singleton_append] at happend
      have hcut := congrArg (Text.cut? ['.']) happend
      rw [Text.cut?_singleton hword, Text.cut?_singleton hname] at hcut
      exact absurd (congrArg Prod.fst (Option.some.inj hcut)).symm hne

end Prefixes

theorem toList_root_point : "$root.".toList = "$root".toList ++ ['.'] :=
  rfl

theorem toList_data_point : "$data.".toList = "$data".toList ++ ['.'] :=
  rfl

theorem resolve_name (s : Scope) {name : String} (hname : '.' ∉ name.toList) :
    s.resolve name = s.base name := by
  have hpart : follow s.current.value name.toList = s.current.value.part name :=
    follow_join s.current.value (List.cons_ne_nil name []) (by simpa using hname)
  unfold resolve base
  by_cases hroot : name = "$root"
  · subst hroot
    simp
  · by_cases hdata : name = "$data"
    · simp [hdata]
    · rw [toList_root_point, toList_data_point, isPrefixOf?_point_of_not_mem hname,
        isPrefixOf?_point_of_not_mem hname]
      by_cases hindex : name = "$index"
      · cases s.current.index <;> simp [hindex]
      · simp [hroot, hdata, hindex, hpart]

/-- A path leads from its base one step a segment. -/
theorem resolve_dotted (s : Scope) {name : String} {segments : List String}
    (hname : '.' ∉ name.toList) (hsegments : ∀ segment ∈ segments, '.' ∉ segment.toList)
    (hindex : name = "$index" → segments = []) :
    s.resolve (dotted name segments) = segments.foldl Value.part (s.base name) := by
  cases segments with
  | nil => exact s.resolve_name hname
  | cons segment rest =>
    have hindex : name ≠ "$index" := fun h => List.cons_ne_nil _ _ (hindex h)
    have hdata : dotted name (segment :: rest) ≠ "$data" := dotted_cons_ne (by decide) _ _
    have hroot : dotted name (segment :: rest) ≠ "$root" := dotted_cons_ne (by decide) _ _
    have hrow : dotted name (segment :: rest) ≠ "$index" := dotted_cons_ne (by decide) _ _
    have hbehind (v : Value) :
        follow v (Text.join ['.'] ((segment :: rest).map String.toList)) =
          (segment :: rest).foldl Value.part v :=
      follow_join v (List.cons_ne_nil _ _) hsegments
    have hwhole : follow s.current.value (dotted name (segment :: rest)).toList =
        (segment :: rest).foldl Value.part (s.current.value.part name) := by
      rw [toList_dotted, ← List.map_cons]
      exact follow_join s.current.value (List.cons_ne_nil _ _)
        (List.forall_mem_cons.mpr ⟨hname, hsegments⟩)
    rw [resolve, if_neg hdata, if_neg hroot, if_neg hrow, hwhole, toList_dotted_cons,
      toList_root_point, toList_data_point, isPrefixOf?_point (by decide) hname,
      isPrefixOf?_point (by decide) hname, base]
    simp only [String.toList_inj]
    by_cases hr : name = "$root"
    · simpa [hr] using hbehind s.root
    · by_cases hd : name = "$data"
      · simpa [hd] using hbehind s.current.value
      · simp [hr, hd, hindex]

/-- A path from the root sees only the root. -/
theorem resolve_eq_of_isFromRoot {s s' : Scope} (hroot : s.root = s'.root) {path : String}
    (h : IsFromRoot path) : s.resolve path = s'.resolve path := by
  obtain rfl | ⟨rest, hrest⟩ := h
  · simp [resolve, hroot]
  · have hne {word : String} (hword : ¬"$root.".toList <+: word.toList) : path ≠ word := by
      rintro rfl
      exact hword ⟨rest, hrest⟩
    have hdata : path ≠ "$data" := hne (by decide)
    have hself : path ≠ "$root" := hne (by decide)
    have hindex : path ≠ "$index" := hne (by decide)
    have hbehind : "$root.".toList.isPrefixOf? path.toList = some rest :=
      List.isPrefixOf?_eq_some_iff_append_eq.mpr hrest
    simp only [resolve, hdata, hself, hindex, hbehind, hroot, if_false]

end Scope

end DocTemplate
