import DocTemplate.Evaluation
import DocTemplate.Proofs.Expr.Completeness
import DocTemplate.Proofs.Scope.Paths
import DocTemplate.Proofs.Token.Spelling

/-!
# Written paths

A path is written as a name with segments behind it: names behind a point, strings and numbers in
brackets. Its value is reached from the base of the name with one step a segment, whatever the texts
of the segments are: reserved names among them are no names any more, and an empty text is a
segment like the others.

## Main definitions

* `WrittenPath` — a path as it is written, whose segments hold no point.
* `WrittenPath.tokens`, `WrittenPath.chars` — its tokens, and a text that spells them.

## Main statements

* `WrittenPath.eval_of_spelled` — one step a segment, from the base of the name.
-/

namespace DocTemplate

/-- A word that is a name, and none of the words that are kept. -/
structure Name where
  text : String
  isWord : Token.IsWord text.toList
  token_eq : Token.ofWord text = .identifier text

/-- A segment as it is written: a name behind a point, or a string or a number in brackets. -/
inductive Segment where
  | name (n : Name)
  | key (quote : Char) (hquote : quote = '"' ∨ quote = '\'') (body s : List Char)
    (hbody : Token.SpellsString quote body s)
  | index (run : List Char) (hrun : Token.IsRun run) (value : Float)
    (hvalue : Token.number? run = some value)

namespace Segment

/-- The text that a segment stands for. -/
def text : Segment → String
  | .name n => n.text
  | .key _ _ _ s _ => String.ofList s
  | .index _ _ value _ => String.ofList (displayNumber value)

/-- The characters of a segment. -/
def chars : Segment → List Char
  | .name n => '.' :: n.text.toList
  | .key quote _ body _ _ => '[' :: (quote :: body ++ [quote]) ++ [']']
  | .index run _ _ _ => '[' :: run ++ [']']

/-- The tokens of a segment. -/
def tokens : Segment → List Token
  | .name n => [.dot, .identifier n.text]
  | .key _ _ _ s _ => [.leftBracket, .string (String.ofList s), .rightBracket]
  | .index _ _ value _ => [.leftBracket, .number value, .rightBracket]

end Segment

/-- A path as it is written: a name with segments behind it, none of which holds a point. The index
of a row has no parts. -/
structure WrittenPath where
  name : Name
  segments : List Segment
  not_mem : ∀ segment ∈ segments, '.' ∉ segment.text.toList
  of_index : name.text = "$index" → segments = []

theorem Name.lexeme (n : Name) {rest : List Char}
    (hrest : ∀ c ∈ rest.head?, Token.isNamePart c = false) :
    Token.Lexeme n.text.toList (.identifier n.text) rest := by
  have hword := Token.Lexeme.word n.isWord hrest
  rwa [String.ofList_toList, n.token_eq] at hword

theorem Name.not_mem (n : Name) : '.' ∉ n.text.toList := by
  obtain ⟨c, rest, htext, hc, hrest⟩ := n.isWord
  rw [htext, List.mem_cons]
  rintro (rfl | hpoint)
  · exact absurd hc (by decide)
  · exact absurd (hrest _ hpoint) (by decide)

section Spelling

open Token

/-- Behind a name, segments do not go on with it. -/
theorem isNamePart_head_segments (segments : List Segment) :
    ∀ c ∈ (segments.flatMap Segment.chars).head?, isNamePart c = false := by
  cases segments with
  | nil => simp
  | cons segment segments =>
    cases segment with
    | name n => simp [Segment.chars]; decide
    | key quote hquote body s hbody => simp [Segment.chars]; decide
    | index run hrun value hvalue => simp [Segment.chars]; decide

theorem spelled_segments (segments : List Segment) :
    Spelled (segments.flatMap Segment.chars) (segments.flatMap Segment.tokens) := by
  induction segments with
  | nil => exact .nil (List.forall_mem_nil _)
  | cons segment segments ih =>
    have hclosed : Spelled (']' :: segments.flatMap Segment.chars)
        (.rightBracket :: segments.flatMap Segment.tokens) :=
      .cons_lexeme (.mark rfl) ih
    have hopened {text : List Char} {t : Token}
        (h : Lexeme text t (']' :: segments.flatMap Segment.chars)) :
        Spelled ('[' :: text ++ [']'] ++ segments.flatMap Segment.chars)
          (.leftBracket :: t :: .rightBracket :: segments.flatMap Segment.tokens) := by
      have hspelled := Spelled.cons_lexeme (.mark rfl : Lexeme ['['] .leftBracket _)
        (.cons_lexeme h hclosed)
      simpa using hspelled
    cases segment with
    | name n =>
      have hname := n.lexeme (isNamePart_head_segments segments)
      have hspelled := Spelled.cons_lexeme (.mark rfl : Lexeme ['.'] .dot _)
        (.cons_lexeme hname ih)
      simpa [Segment.chars, Segment.tokens] using hspelled
    | key quote hquote body s hbody => exact hopened (.string hquote hbody)
    | index run hrun value hvalue =>
      exact hopened (.number hrun (hrun.number?_iff.mp hvalue) (by simp; decide))

end Spelling

namespace WrittenPath

/-- A text that spells a path, without blanks. -/
def chars (path : WrittenPath) : List Char :=
  path.name.text.toList ++ path.segments.flatMap Segment.chars

/-- The tokens of a path. -/
def tokens (path : WrittenPath) : List Token :=
  .identifier path.name.text :: path.segments.flatMap Segment.tokens

theorem spelled (path : WrittenPath) : Token.Spelled path.chars path.tokens :=
  .cons_lexeme (path.name.lexeme (isNamePart_head_segments path.segments))
    (spelled_segments path.segments)

open Grammar in
/-- The segments of a path go behind it one after the other, into one text. -/
theorem derives_segments {segments : List Segment}
    (hpoints : ∀ segment ∈ segments, '.' ∉ segment.text.toList) {ts : List Token} {text : String}
    (h : Derives .suffixed ts (.path text)) :
    Derives .suffixed (ts ++ segments.flatMap Segment.tokens)
      (.path (Scope.dotted text (segments.map Segment.text))) := by
  induction segments generalizing ts text with
  | nil => simpa [Scope.dotted] using h
  | cons segment segments ih =>
    obtain ⟨hpoint, hpoints⟩ := List.forall_mem_cons.mp hpoints
    have hstep : Derives .suffixed (ts ++ segment.tokens)
        (.path (text ++ "." ++ segment.text)) := by
      cases segment with
      | name n => exact .member h
      | key quote hquote body s hbody => exact .textIndex h hpoint
      | index run hrun value hvalue => exact .numberIndex h (by simpa [Segment.text] using hpoint)
    rw [List.flatMap_cons, ← List.append_assoc]
    exact ih hpoints hstep

theorem ofTokens_tokens (path : WrittenPath) :
    Expr.ofTokens path.tokens =
      .ok (.path (Scope.dotted path.name.text (path.segments.map Segment.text))) := by
  have hsuffixed := derives_segments path.not_mem (.bare (.identifier : Grammar.Derives _ _
    (.path path.name.text)))
  rw [Expr.ofTokens_eq_ok_iff_derives]
  exact .unconditional (.operand (.operand (.operand (.operand (.operand (.operand
    (.unsigned hsuffixed)))))))

/-- A written path is spelled by its text, and every text that spells it, with blanks wherever they
can stand, is an expression whose value is reached from the base of the name with one step a
segment. -/
theorem eval_of_spelled {m : Type → Type} [Monad m] (path : WrittenPath) :
    Token.Spelled path.chars path.tokens ∧
      ∀ source : String, Token.Spelled source.toList path.tokens →
        ∃ e, Expr.parse source = .ok e ∧ ∀ (functions : Registry m) (scope : Scope),
          e.eval functions scope =
            pure ((path.segments.map Segment.text).foldl Value.part
              (scope.base path.name.text)) := by
  refine ⟨path.spelled, fun source hsource => ?_⟩
  have hscan : Token.ofText source = .ok path.tokens := Token.scan_of_spelled hsource
  refine ⟨_, by rw [Expr.parse, hscan]; exact path.ofTokens_tokens, fun functions scope => ?_⟩
  have hpoints : ∀ segment ∈ path.segments.map Segment.text, '.' ∉ segment.toList := by
    simpa using path.not_mem
  rw [Expr.eval, scope.resolve_dotted path.name.not_mem hpoints
    fun hindex => by rw [path.of_index hindex, List.map_nil]]

/-- Segments that are empty, look like a reserved name or are written like a number lead to the
members and elements under these texts. -/
theorem eval_reserved_segments :
    let scope := Scope.ofData
      (.object [("a", .object [("", .object [("$root", .array [.null, .string "x"])])])])
    ∃ e, Expr.parse "a['']['$root'][01]" = .ok e ∧
      ∀ functions : Registry Id, e.eval functions scope = pure (.string "x") := by
  have hvalue : Token.number? ['0', '1'] = some 1 := by rfl
  have hindex : displayNumber 1 = ['1'] := by decide +kernel
  let path : WrittenPath :=
    { name := ⟨"a", ⟨'a', [], rfl, by decide, by simp⟩, rfl⟩
      segments :=
        [.key '\'' (.inr rfl) [] [] .nil,
          .key '\'' (.inr rfl) "$root".toList "$root".toList
            (Token.spellsString_quotedBody (.inr rfl) "$root".toList),
          .index ['0', '1'] ⟨'0', ['1'], rfl, by decide, by simp; decide⟩ 1 hvalue]
      not_mem := by simp [Segment.text, hindex]
      of_index := by simp }
  have htexts : path.segments.map Segment.text = ["", "$root", "1"] := by
    simp [path, Segment.text, hindex]
  obtain ⟨hspelled, heval⟩ := eval_of_spelled (m := Id) path
  have hchars : path.chars = "a['']['$root'][01]".toList := by
    simp [path, chars, Segment.chars]
  obtain ⟨e, hparse, heval⟩ := heval "a['']['$root'][01]" (hchars ▸ hspelled)
  refine ⟨e, hparse, fun functions => ?_⟩
  rw [heval, htexts]
  rfl

end WrittenPath

end DocTemplate
