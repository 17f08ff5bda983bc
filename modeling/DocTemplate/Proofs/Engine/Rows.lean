import DocTemplate.Proofs.Document.Rows
import DocTemplate.Proofs.Engine.Answers

/-!
# Arrays that engines expand

What an engine makes of an array is put together from what its elements and the rows of its repeated
elements contribute, each in its own scope, with none of them lost, repeated or in another place.

## Main statements

* `Engine.expand_array_by_rows` — what the elements of an array contribute.
-/

namespace DocTemplate.Engine

variable {m : Type → Type} [Monad m] [LawfulMonad m]

/-- Engines expand arrays by their elements and rows, and so do their functions for all engines with
a coherent cache. The scope of a row has its value and its index, and the scope of a value that is
entered has no index. -/
theorem expand_array_by_rows (policy : BindingErrors) :
    (∀ scope, Document.ByRows (n := StateT (Engine m) m) evaluate policy scope) ∧
    (∀ e : Engine m, e.Coherent →
      (∀ scope template, (expand policy scope template).run.run' e =
        (Document.expand (value e.functions) policy scope template).run) ∧
      ∀ scope, Document.ByRows (value e.functions) policy scope) ∧
    ∀ (scope : Scope) (v : Value) (i : Nat),
      (scope.row v i).resolve "$data" = v ∧
      (scope.row v i).resolve "$index" = .number (Float.ofNat i) ∧
      (scope.enter v).resolve "$data" = v ∧ (scope.enter v).resolve "$index" = .null :=
  ⟨fun scope => Document.byRows evaluate policy scope,
    fun e he => ⟨fun scope template => run'_expand policy scope template he,
      fun scope => Document.byRows (value e.functions) policy scope⟩,
    fun _ _ _ => ⟨rfl, rfl, rfl, rfl⟩⟩

/-- Of three rows the first and the third are kept, as the rows of index 0 and 2. -/
theorem expand_array_by_rows_two_of_three :
    let row (on : Bool) (a : String) : Value := .object [("on", .boolean on), ("a", .string a)]
    let rows := [row true "x", row false "y", row true "z"]
    let members : List (String × Value) :=
      [("$data", .string "rows"), ("$when", .string "on"), ("b", .string "$\x7ba\x7d")]
    let scope := Scope.ofData (.object [("rows", .array rows)])
    let engine : Engine Id := ofFunctions .empty {}
    Document.expandItems (value engine.functions) .empty scope [.object members] =
      ([(row true "x", 0), (row true "z", 2)].mapM fun kept =>
        Document.expand (value engine.functions) .empty (scope.row kept.1 kept.2)
          (.object [("b", .string "$\x7ba\x7d")])) ∧
    Id.run ((expand .empty scope (.array [.object members])).run.run' engine) =
      .ok (.array [.object [("b", .string "x")], .object [("b", .string "z")]]) := by
  intro row rows members scope engine
  obtain ⟨hexpand, hrows⟩ := (expand_array_by_rows .empty).2.1 engine (coherent_ofFunctions _ _)
  have hdata : Document.dataOf (value engine.functions) .empty scope (.string "rows") =
      pure (.array rows) :=
    ExceptT.ext (by cbv)
  have hholds (on : Bool) (a : String) (i : Nat) :
      Document.holds (value engine.functions (scope.row (row on a) i)) (.string "on") =
        pure on := by
    cbv
  have hverdict : ∀ kept ∈ rows.zipIdx,
      Document.holds (value engine.functions (scope.row kept.1 kept.2)) (.string "on") =
        pure (kept.2 != 1) := by
    intro kept hkept
    obtain rfl | rfl | rfl : kept = (row true "x", 0) ∨ kept = (row false "y", 1) ∨
        kept = (row true "z", 2) := by
      simpa [rows] using hkept
    · exact hholds true "x" 0
    · exact hholds false "y" 1
    · exact hholds true "z" 2
  have hitems := (hrows scope).rows members (.string "rows") (.string "on") rows
    (fun kept => kept.2 != 1) rfl rfl ⟨("b", .string "$\x7ba\x7d"), by simp [members], by decide⟩
    hdata hverdict
  have hx : Document.expand (value engine.functions) .empty (scope.row (row true "x") 0)
      (.object [("b", .string "$\x7ba\x7d")]) = pure (.object [("b", .string "x")]) :=
    ExceptT.ext (by cbv)
  have hz : Document.expand (value engine.functions) .empty (scope.row (row true "z") 2)
      (.object [("b", .string "$\x7ba\x7d")]) = pure (.object [("b", .string "z")]) :=
    ExceptT.ext (by cbv)
  refine ⟨hitems, ?_⟩
  have hkept : rows.zipIdx.filter (fun kept => kept.2 != 1) =
      [(row true "x", 0), (row true "z", 2)] := rfl
  rw [hexpand, (hrows scope).array, hitems, hkept, List.mapM_cons, List.mapM_cons, List.mapM_nil]
  have hbody : Document.without (Document.directives true) members =
      [("b", .string "$\x7ba\x7d")] := rfl
  rw [hbody, hx, hz]
  rfl

end DocTemplate.Engine
