import DocTemplate.Proofs.Binding.Filling
import DocTemplate.Proofs.Engine.Answers

/-!
# Texts that are processed as far as they are well formed

A text is processed without ever failing. What stands before the first opening that is not closed is
interpolated, and from this opening on the text stays as it is. Bindings that fail stay as well, so
that a text comes back as it was if all of them do.

## Main statements

* `Engine.processTemplate_of_closed`, `Engine.processTemplate_of_unclosed` — what becomes of a text.
* `Engine.processTemplate_keeps_rest` — what is kept of a text that cannot be interpolated.
-/

namespace DocTemplate

/-- A text is split again where two texts were put together. -/
theorem Text.splitAtByte_append (before behind : List Char) :
    splitAtByte (utf8Size before) (before ++ behind) = (before, behind) := by
  induction before with
  | nil =>
    cases behind with
    | nil => rfl
    | cons c rest => simp [splitAtByte, utf8Size, Char.utf8Size_pos]
  | cons c before ih =>
    have hnot : ¬c.utf8Size + utf8Size before < c.utf8Size := by omega
    rw [List.cons_append, splitAtByte, utf8Size, if_neg hnot, Nat.add_sub_cancel_left, ih]

namespace Engine

variable {m : Type → Type} [Monad m] [LawfulMonad m] {text : String} {d : Binding.Decomposition}

/-- A text in which every opening is closed is interpolated. -/
theorem processTemplate_of_closed (hd : d.text = text.toList) (h : d.unclosed = none)
    (scope : Scope) :
    (processTemplate scope text : StateT (Engine m) m String) =
      d.filled (evaluate scope) .keepOriginal := by
  rw [processTemplate, interpolate, Binding.run_interpolate_of_closed hd h, bind_map_left]
  exact bind_pure _

/-- What stands before an opening that is not closed is interpolated, a second time, and the rest
stays as it is. -/
theorem processTemplate_of_unclosed {tail : { tail : List Char // Binding.NeverCloses 1 tail }}
    (hd : d.text = text.toList) (h : d.unclosed = some tail) (scope : Scope) :
    (processTemplate scope text : StateT (Engine m) m String) = (do
      let _ ← d.filled (evaluate scope) .keepOriginal
      let result ← d.filled (evaluate scope) .keepOriginal
      pure (result ++ String.ofList (Binding.opening ++ tail.1))) := by
  have hsplit : Text.splitAtByte (Text.utf8Size d.closed) text.toList =
      (d.closed, Binding.opening ++ tail.1) := by
    rw [← Binding.Decomposition.closed_append_tail_eq_text hd h, String.toList_append,
      String.toList_ofList, String.toList_ofList, Text.splitAtByte_append]
  rw [processTemplate, interpolate, Binding.run_interpolate_of_unclosed hd h, bind_map_left]
  refine bind_congr fun _ => ?_
  simp only [hsplit]
  rw [interpolate, Binding.run_interpolate_head, bind_map_left]

theorem answering_filled (functions : Registry m) (policy : BindingErrors) (scope : Scope) :
    (answering functions).Rel (d.filled (evaluate scope) policy)
      (d.filled (value functions scope) policy) :=
  (answering functions).map_rel _ <| (answering functions).rel_mapM fun _ _ =>
    (answering functions).map_rel _ (answering_evaluate functions scope _)

/-- If all bindings of a text fail, the text comes back as it was. -/
theorem satisfies_processTemplate {engine : Engine m} {scope : Scope} (he : engine.Coherent)
    (hfails : ∀ body, Binding.HasBody text body →
      SatisfiesM (fun r => ∃ error, r = .error error) (value engine.functions scope body)) :
    SatisfiesM (· = text) ((processTemplate scope text).run' engine) := by
  obtain ⟨d, hd⟩ := Binding.Decomposition.exists_text_eq text.toList
  have hfilled : SatisfiesM (· = String.ofList d.closed)
      (d.filled (value engine.functions scope) .keepOriginal) :=
    Binding.Decomposition.satisfies_filled fun s hs =>
      hfails _ ((Binding.hasBody_iff hd).mpr ⟨s, hs, rfl⟩)
  have hrel := answering_filled (d := d) engine.functions .keepOriginal scope
  cases hunclosed : d.unclosed with
  | none =>
    rw [processTemplate_of_closed hd hunclosed, run'_eq_of_answering hrel he]
    exact hfilled.imp fun hresult =>
      hresult.trans (Binding.Decomposition.closed_eq_text hd hunclosed)
  | some tail =>
    have htext := Binding.Decomposition.closed_append_tail_eq_text hd hunclosed
    have htwice := (answering engine.functions).bind_rel hrel fun _ =>
      (answering engine.functions).bind_rel hrel fun result =>
        (answering engine.functions).pure_rel
          (result ++ String.ofList (Binding.opening ++ tail.1))
    rw [processTemplate_of_unclosed hd hunclosed, run'_eq_of_answering htwice he]
    refine SatisfiesM.bind SatisfiesM.trivial fun _ _ => ?_
    exact SatisfiesM.bind hfilled fun result hresult => SatisfiesM.pure (by rw [hresult, htext])

/-- A text that cannot be interpolated is cut at a character where a binding starts. What stands
before it is interpolated in every scope and by every policy, and processing the text gives what it
comes to with the rest behind it. A text that can be interpolated is, with the bindings that fail
left as they are; if all of them fail it comes back as it was. -/
theorem processTemplate_keeps_rest (policy : BindingErrors) (scope : Scope) (text : String)
    (engine : Engine m) :
    SatisfiesM (fun r =>
        (∀ error, r.1 = .error error → ∃ head rest, text = head ++ rest ∧
          error = .unmatchedBrace (Text.utf8Size head.toList) ∧
          Binding.opening <+: rest.toList ∧
          ∀ scope, ∃ filled : BindingErrors → StateT (Engine m) m String,
            (∀ policy, (interpolate policy scope head).run = Except.ok <$> filled policy) ∧
            processTemplate scope text = do
              let _ ← filled .keepOriginal
              let result ← filled .keepOriginal
              pure (result ++ rest)) ∧
        ∀ result, r.1 = .ok result → ∀ scope : Scope,
          (interpolate (m := m) .keepOriginal scope text).run =
            Except.ok <$> processTemplate scope text)
      ((interpolate policy scope text).run.run engine) ∧
    (engine.Coherent →
      (∀ body, Binding.HasBody text body →
        SatisfiesM (fun r => ∃ error, r = .error error) (value engine.functions scope body)) →
      SatisfiesM (· = text) ((processTemplate scope text).run' engine)) := by
  refine ⟨?_, satisfies_processTemplate⟩
  obtain ⟨d, hd⟩ := Binding.Decomposition.exists_text_eq text.toList
  cases hunclosed : d.unclosed with
  | none =>
    rw [interpolate, Binding.run_interpolate_of_closed hd hunclosed, StateT.run_map]
    refine SatisfiesM.map SatisfiesM.trivial fun _ => ⟨nofun, fun _ _ scope => ?_⟩
    rw [interpolate, Binding.run_interpolate_of_closed hd hunclosed,
      processTemplate_of_closed hd hunclosed]
  | some tail =>
    rw [interpolate, Binding.run_interpolate_of_unclosed hd hunclosed, StateT.run_map]
    refine SatisfiesM.map SatisfiesM.trivial fun _ => ⟨fun error herror => ?_, nofun⟩
    cases herror
    refine ⟨String.ofList d.closed, String.ofList (Binding.opening ++ tail.1),
      (Binding.Decomposition.closed_append_tail_eq_text hd hunclosed).symm, ?_, ?_,
      fun scope => ⟨d.filled (evaluate scope), fun policy => Binding.run_interpolate_head d,
        processTemplate_of_unclosed hd hunclosed scope⟩⟩
    · rw [String.toList_ofList]
    · rw [String.toList_ofList]
      exact List.prefix_append _ _

/-- A binding that is replaced, one that fails and an opening that is not closed, and a text in
which nothing is replaced. -/
theorem processTemplate_keeps_rest_unclosed :
    let text := "ü$\x7b'b'\x7d$\x7bf()\x7d$\x7bx"
    let kept := "$\x7bf()\x7d$\x7b"
    let scope := Scope.ofData .null
    let engine : Engine Id := ofFunctions .empty {}
    (Id.run ((interpolate .empty scope text).run.run engine)).1 = .error (.unmatchedBrace 14) ∧
      (∃ head rest, text = head ++ rest ∧ Text.utf8Size head.toList = 14 ∧
        Binding.opening <+: rest.toList) ∧
      Id.run ((processTemplate scope text).run' engine) = "üb$\x7bf()\x7d$\x7bx" ∧
      Id.run ((processTemplate scope kept).run' engine) = kept := by
  intro text kept scope engine
  have herror : (Id.run ((interpolate .empty scope text).run.run engine)).1 =
      .error (.unmatchedBrace 14) := by
    cbv
  have hresult : Id.run ((processTemplate scope text).run' engine) =
      "üb$\x7bf()\x7d$\x7bx" := by
    cbv
  obtain ⟨head, rest, htext, hposition, hopening, -⟩ := (SatisfiesM_Id_eq.mp
    (processTemplate_keeps_rest .empty scope text engine).1).1 _ herror
  have hfails : ∀ body, Binding.HasBody kept body →
      SatisfiesM (fun r => ∃ error, r = .error error) (value engine.functions scope body) := by
    have hcloses : Binding.Closes 1 "f()".toList := (Binding.closing_eq_some_iff.mp
      (show Binding.closing 0 "f()\x7d".toList = some ("f()".toList, []) by decide)).2
    have hplain : Binding.Plain [] := Binding.cut?_opening_eq_none_iff.mp rfl
    let d : Binding.Decomposition := .cons ⟨[], "f()".toList, hplain, hcloses⟩
      ⟨[], [], hplain, some ⟨[], Binding.neverCloses_nil.mpr (by decide)⟩⟩
    have hd : d.text = kept.toList := by simp [d, kept, Binding.opening]
    intro body hbody
    obtain ⟨s, hs, rfl⟩ := (Binding.hasBody_iff hd).mp hbody
    obtain rfl := List.mem_singleton.mp hs
    exact SatisfiesM_Id_eq.mpr ⟨.evaluation (.unknownFunction "f"), by cbv⟩
  have hkept := (processTemplate_keeps_rest .empty scope kept engine).2
    (coherent_ofFunctions _ _) hfails
  exact ⟨herror, ⟨head, rest, htext, (TemplateError.unmatchedBrace.inj hposition).symm, hopening⟩,
    hresult, (SatisfiesM_Id_eq (p := (· = kept))).mp hkept⟩

end Engine

end DocTemplate
