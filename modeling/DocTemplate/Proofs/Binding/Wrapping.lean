import DocTemplate.Proofs.Binding.Interpolation
import DocTemplate.Proofs.Token.Blanks

/-!
# Expressions wrapped as bindings

Any text can be put between an opening and a closing brace. The binding that this makes ends at that
brace exactly if the braces of the text close, and only then it stands for the text.

## Main definitions

* `Binding.wrap` — a text as a binding.

## Main statements

* `Binding.interpolate_wrap` — what a text is filled with that is a single binding.
* `Binding.parse_unwrap` — an expression that is not wrapped is read as it stands.
* `Binding.parse_unwrap_wrap_iff` — which expressions are found again in the binding.
-/

namespace DocTemplate

namespace Binding

/-- A text as a binding. -/
def wrap (source : String) : String :=
  String.ofList (opening ++ source.toList ++ ['}'])

@[simp] theorem toList_wrap (source : String) :
    (wrap source).toList = opening ++ source.toList ++ ['}'] :=
  String.toList_ofList

theorem plain_nil : Plain [] :=
  cut?_opening_eq_none_iff.mp rfl

section Interpolation

variable {n : Type → Type} [Monad n] [LawfulMonad n] {ε : Type}

/-- A single binding is filled with what stands in its place. -/
theorem interpolate_wrap (evaluate : String → n (Except ε Value)) (policy : BindingErrors)
    {source : String} (h : Closes 1 source.toList) :
    (interpolate evaluate policy (wrap source)).run =
      (fun result => .ok (String.ofList (shown policy source.toList result))) <$>
        evaluate source := by
  let span : Span := ⟨[], source.toList, plain_nil, h⟩
  let d : Decomposition := .cons span ⟨[], [], plain_nil, none⟩
  have hd : d.text = (wrap source).toList := by simp [d, span]
  have hspans : d.spans = [span] := rfl
  have hunclosed : d.unclosed = none := rfl
  have hlast : d.last = [] := rfl
  rw [interpolate_eq_interpolated hd, Decomposition.interpolated]
  refine (ExceptT.run_bind_lift _ _).trans ?_
  simp [hspans, hunclosed, hlast, Span.filled_eq, span]

end Interpolation

theorem trim_wrap (source : String) : Text.trim (wrap source).toList = (wrap source).toList := by
  have hdollar : Text.isBlank '$' = false := by decide
  have hbrace : Text.isBlank '}' = false := by decide
  rw [toList_wrap]
  exact Text.trim_eq_self hdollar hbrace

/-- The brace behind a text closes a binding exactly if the braces of the text close. -/
theorem closing_append_brace {source body : List Char} :
    closing 0 (source ++ ['}']) = some (body, []) ↔ Closes 1 source ∧ source = body := by
  rw [closing_eq_some_iff, List.append_left_inj]
  constructor
  · rintro ⟨rfl, h⟩
    exact ⟨h, rfl⟩
  · rintro ⟨h, rfl⟩
    exact ⟨rfl, h⟩

theorem unwrap_wrap {source : String} (h : Closes 1 source.toList) :
    unwrap (wrap source) = source := by
  have hclosing := closing_append_brace.mpr ⟨h, rfl⟩
  have hbehind : opening.isPrefixOf? (wrap source).toList = some (source.toList ++ ['}']) := by
    simp [opening, List.isPrefixOf?]
  simp only [unwrap, trim_wrap, hbehind, hclosing, String.ofList_toList]

/-- A text whose braces do not close is not found again in a binding. -/
theorem unwrap_wrap_of_not_closes {source : String} (h : ¬Closes 1 source.toList) :
    unwrap (wrap source) = wrap source := by
  have hbehind : opening.isPrefixOf? (wrap source).toList = some (source.toList ++ ['}']) := by
    simp [opening, List.isPrefixOf?]
  simp only [unwrap, trim_wrap, hbehind]
  split
  · rename_i body hclosing
    exact absurd (closing_append_brace.mp hclosing).1 h
  · exact String.ofList_toList

end Binding

namespace Token

theorem lexeme_dollar (rest : List Char) :
    lexeme '$' ('{' :: rest) = .ok (.identifier "$", '{' :: rest) := by
  have hpart : isNamePart '{' = false := by decide
  have hstart : isNameStart '$' = true := by decide
  have hword : ofWord (String.ofList ['$']) = .identifier "$" := rfl
  simp [lexeme, hstart, hpart, hword]

theorem lexeme_openBrace (rest : List Char) :
    lexeme '{' rest = .error (.unexpectedCharacter '{') := by
  have hstart : isNameStart '{' = false := by decide
  have hmark : ofMark? '{' = none := rfl
  have hsign : sign? '{' rest = none := by
    cases rest <;> rfl
  simp [lexeme, hstart, hmark, hsign]

/-- What starts like a binding has no tokens. -/
theorem scan_opening_ne_ok (rest : List Char) (ts : List Token) :
    scan (Binding.opening ++ rest) ≠ .ok ts := by
  have hdollar (more : List Char) : ('$' :: more).dropWhile Text.isBlank = '$' :: more :=
    List.dropWhile_cons_of_neg (by decide)
  have hbrace (more : List Char) : ('{' :: more).dropWhile Text.isBlank = '{' :: more :=
    List.dropWhile_cons_of_neg (by decide)
  intro h
  obtain ⟨hnil, -⟩ | ⟨_, _, t, behind, us, hcons, hl, hs, -⟩ := scan_eq_ok_iff.mp h
  · cases (hdollar _).symm.trans hnil
  · cases (hdollar _).symm.trans hcons
    cases (lexeme_dollar _).symm.trans hl
    obtain ⟨hnil, -⟩ | ⟨_, _, t, behind, us, hcons, hl, -⟩ := scan_eq_ok_iff.mp hs
    · cases (hbrace _).symm.trans hnil
    · cases (hbrace _).symm.trans hcons
      cases (lexeme_openBrace _).symm.trans hl

end Token

namespace Binding

theorem opening_append_ne_of_parse {source : String} {e : Expr} (h : Expr.parse source = .ok e)
    (rest : List Char) : opening ++ rest ≠ source.toList := by
  intro hrest
  obtain ⟨ts, hts, -⟩ := Expr.parse_eq_ok_iff.mp h
  exact Token.scan_opening_ne_ok rest ts (hrest ▸ hts)

/-- An expression that is not wrapped is read as it stands. -/
theorem parse_unwrap {source : String} {e : Expr} (h : Expr.parse source = .ok e) :
    Expr.parse (unwrap source) = .ok e := by
  have htrim := Expr.parse_trim h
  cases hbehind : opening.isPrefixOf? (Text.trim source.toList) with
  | none => simpa only [unwrap, hbehind] using htrim
  | some behind =>
    have hprefix := List.append_eq_of_isPrefixOf?_eq_some hbehind
    refine absurd ?_ (opening_append_ne_of_parse htrim behind)
    rwa [String.toList_ofList]

/-- An expression is found again in its binding exactly if its braces close. -/
theorem parse_unwrap_wrap_iff {source : String} {e : Expr} (h : Expr.parse source = .ok e) :
    Expr.parse (unwrap (wrap source)) = .ok e ↔ Closes 1 source.toList := by
  constructor
  · intro hwrapped
    by_contra hnot
    rw [unwrap_wrap_of_not_closes hnot] at hwrapped
    refine opening_append_ne_of_parse hwrapped (source.toList ++ ['}']) ?_
    rw [toList_wrap, List.append_assoc]
  · intro hcloses
    rwa [unwrap_wrap hcloses]

end Binding

end DocTemplate
