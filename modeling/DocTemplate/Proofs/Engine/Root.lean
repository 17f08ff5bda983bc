import DocTemplate.Proofs.Document.Expressions
import DocTemplate.Proofs.Engine.Directives
import DocTemplate.Proofs.Expr.Dependence
import DocTemplate.Proofs.Scope.Paths
import Mathlib

/-!
# The data of the document in every scope

Iteration enters rows and values, but the data of the document stays the same. A template whose
expressions start from it cannot tell in which scope it is expanded.

## Main definitions

* `Engine.SeesRoot` — a text that names paths from the root only, if it is an expression at all.

## Main statements

* `Engine.expand_eq_of_root` — a template whose expressions see the root expands to the same in all
  scopes with the same root.
-/

namespace DocTemplate.Engine

variable {m : Type → Type} [Monad m]

/-- If a text is an expression, all the paths that it names start from the root. -/
def SeesRoot (source : String) : Prop :=
  ∀ e, Expr.parse source = .ok e → ∀ path ∈ e.paths, Scope.IsFromRoot path

/-- What sees only the root has the same value in all scopes with the same root. -/
theorem value_eq_of_root {scope scope' : Scope} (hroot : scope.root = scope'.root)
    {source : String} (h : SeesRoot source) (functions : Registry m) :
    value functions scope source = value functions scope' source := by
  unfold value
  cases hparse : Expr.parse source with
  | error error => rfl
  | ok e =>
    have hpaths : ∀ path ∈ e.paths, scope.resolve path = scope'.resolve path :=
      fun path hpath => Scope.resolve_eq_of_isFromRoot hroot (h e hparse path hpath)
    have heval : e.eval functions scope = e.eval functions scope' :=
      Expr.eval_congr e hpaths fun _ _ => rfl
    simp only [heval]

variable [LawfulMonad m]

theorem comparison_root (policy : BindingErrors) :
    Document.Comparison (agreement m) (fun scope scope' => scope.root = scope'.root)
      (Document.SameText SeesRoot) (Document.SameDirective SeesRoot) evaluate evaluate policy where
  row hroot _ _ := hroot
  enter hroot _ := hroot
  text := by
    rintro scope scope' hroot s _ ⟨rfl, hbodies⟩
    refine Binding.rel_interpolate (agreement m) policy fun body hbody => ?_
    exact agreement_evaluate_of_value (value_eq_of_root hroot (hbodies body hbody))
  directive := by
    rintro scope scope' hroot s _ ⟨rfl, hsource⟩
    exact agreement_evaluate_of_value (value_eq_of_root hroot hsource)

/-- A template whose expressions name only paths from the root expands to the same document, or
fails with the same error, in all scopes with the same root: whatever the current value, the index
and the scopes around are. -/
theorem expand_eq_of_root (policy : BindingErrors) {template : Value}
    (h : ∀ source, Document.HasExpression false template source → SeesRoot source)
    {scope scope' : Scope} (hroot : scope.root = scope'.root) {e : Engine m} (he : e.Coherent) :
    (expand policy scope template).run.run' e = (expand policy scope' template).run.run' e := by
  have hself : Document.Corresponds (Document.SameText SeesRoot) (Document.SameDirective SeesRoot)
      template template := Document.corresponds_self template h
  exact run'_eq_of_agreement ((comparison_root policy).relRun_expand hroot hself) he

/-- An element with data, a condition that is wrapped and a binding, in the scope of the document
and in the scope of a row of a row. -/
theorem expand_eq_in_row :
    let template : Value := .array
      [.object [("$data", .string "$root.rows"), ("$when", .string "$\x7b$root.on\x7d"),
        ("a", .string "is $\x7b$root.on\x7d")]]
    let scope := Scope.ofData
      (.object [("on", .boolean true), ("rows", .array [.null, .boolean false])])
    let row := (scope.row (.object [("on", .boolean false)]) 3).row .null 0
    let element : Value := .object [("a", .string "is true")]
    let engine : Engine Id := ofFunctions .empty {}
    Id.run ((expand .empty scope template).run.run' engine) = .ok (.array [element, element]) ∧
      Id.run ((expand .empty row template).run.run' engine) = .ok (.array [element, element]) := by
  intro template scope row element engine
  have hdocument : Id.run ((expand .empty scope template).run.run' engine) =
      .ok (.array [element, element]) := by
    cbv
  have hrows : Expr.parse "$root.rows" = .ok (.path "$root.rows") := by cbv
  have hon : Expr.parse "$root.on" = .ok (.path "$root.on") := by cbv
  have hbody : ∀ body, Binding.HasBody "is $\x7b$root.on\x7d" body → body = "$root.on" := by
    have hcloses : Binding.Closes 1 "$root.on".toList := (Binding.closing_eq_some_iff.mp
      (show Binding.closing 0 "$root.on\x7d".toList = some ("$root.on".toList, []) by decide)).2
    let span : Binding.Span :=
      ⟨"is ".toList, "$root.on".toList, Binding.cut?_opening_eq_none_iff.mp rfl, hcloses⟩
    let d : Binding.Decomposition := .cons span ⟨[], [], Binding.plain_nil, none⟩
    have hd : d.text = "is $\x7b$root.on\x7d".toList := by simp [d, span, Binding.opening]
    intro body hbody
    obtain ⟨s, hs, rfl⟩ := (Binding.hasBody_iff hd).mp hbody
    obtain rfl : s = span := by simpa [d, Binding.Decomposition.cons] using hs
    exact String.ofList_toList
  have hsources : ∀ source, Document.HasExpression false template source →
      source = "$root.rows" ∨ source = "$root.on" := by
    have hdata : Binding.unwrap "$root.rows" = "$root.rows" := by cbv
    have hwhen : Binding.unwrap "$\x7b$root.on\x7d" = "$root.on" := by cbv
    intro source hsource
    simp only [template] at hsource
    cases hsource with | element hv hsource =>
    obtain rfl := List.mem_singleton.mp hv
    cases hsource with
    | directive hkey hmember =>
      simp only [List.mem_cons, List.not_mem_nil, or_false, Prod.mk.injEq, Value.string.injEq]
        at hmember
      obtain ⟨-, rfl⟩ | ⟨-, rfl⟩ | ⟨rfl, -⟩ := hmember
      · exact .inl hdata
      · exact .inr hwhen
      · exact absurd hkey (by decide)
    | member hmember hdirective hsource =>
      simp only [List.mem_cons, List.not_mem_nil, or_false, Prod.mk.injEq] at hmember
      obtain ⟨rfl, rfl⟩ | ⟨rfl, rfl⟩ | ⟨-, rfl⟩ := hmember
      · exact absurd hdirective (by decide)
      · exact absurd hdirective (by decide)
      · cases hsource with | body h => exact .inr (hbody source h)
  have hroot : ∀ source, Document.HasExpression false template source → SeesRoot source := by
    intro source hsource e he path hpath
    obtain rfl | rfl := hsources source hsource
    · cases hrows.symm.trans he
      obtain rfl : path = "$root.rows" := by simpa [Expr.paths] using hpath
      exact .inr (by decide)
    · cases hon.symm.trans he
      obtain rfl : path = "$root.on" := by simpa [Expr.paths] using hpath
      exact .inr (by decide)
  have hsame : scope.root = row.root := rfl
  have heq := expand_eq_of_root .empty hroot hsame (coherent_ofFunctions (.empty : Registry Id) {})
  exact ⟨hdocument, (congrArg Id.run heq).symm.trans hdocument⟩

end DocTemplate.Engine
