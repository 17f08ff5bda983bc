import DocTemplate.Text.Blank

/-!
# Bindings in texts

A binding is written `$` and an expression in braces. It ends at the brace that closes it.

## Main definitions

* `Binding.closing` — the text up to the closing brace and behind it.
* `Binding.unwrap` — the expression of a text that may be wrapped as a binding.
-/

namespace DocTemplate.Binding

/-- How a binding starts. -/
def opening : List Char := ['$', '{']

/-- The text up to the brace that closes a binding in which `depth` more braces are open, and the
text behind it. -/
def closing (depth : Nat) : List Char → Option (List Char × List Char)
  | [] => none
  | c :: rest =>
    if c = '}' then
      match depth with
      | 0 => some ([], rest)
      | depth + 1 => (closing depth rest).map fun (body, behind) => (c :: body, behind)
    else
      (closing (if c = '{' then depth + 1 else depth) rest).map fun (body, behind) =>
        (c :: body, behind)

theorem length_of_closing {depth : Nat} {text body behind : List Char}
    (h : closing depth text = some (body, behind)) :
    body.length + 1 + behind.length = text.length := by
  induction text generalizing depth body with
  | nil => simp [closing] at h
  | cons c rest ih =>
    unfold closing at h
    split at h
    · split at h
      · obtain ⟨rfl, rfl⟩ : [] = body ∧ rest = behind := by simpa using h
        simp
        omega
      · obtain ⟨⟨b, r⟩, hb, he⟩ := Option.map_eq_some_iff.mp h
        obtain ⟨rfl, rfl⟩ : c :: b = body ∧ r = behind := by simpa using he
        have := ih hb
        simp
        omega
    · obtain ⟨⟨b, r⟩, hb, he⟩ := Option.map_eq_some_iff.mp h
      obtain ⟨rfl, rfl⟩ : c :: b = body ∧ r = behind := by simpa using he
      have := ih hb
      simp
      omega

/-- The expression of a text: the body if the whole text is one binding, else the text, without the
blanks around it. -/
def unwrap (text : String) : String :=
  let trimmed := Text.trim text.toList
  match opening.isPrefixOf? trimmed with
  | some behind =>
    match closing 0 behind with
    | some (body, []) => String.ofList body
    | _ => String.ofList trimmed
  | none => String.ofList trimmed

end DocTemplate.Binding
