import DocTemplate.Expr.Written
import DocTemplate.Proofs.Value.RoundTrip

/-!
# Reading expressions back

The JSON text of an expression is read as the expression, with each number in its literals as the
text of that number is read. So it is read as the same expression if and only if these texts read
back, which those of plain integers do and the shortest decimal texts of some other doubles do not.

## Main definitions

* `Expr.depth` — how many arrays and objects stand inside each other in the text of an expression.
* `Expr.literals` — the values of the literals of an expression.
* `Expr.reread?` — an expression with what the texts of its numbers are read as.
* `Expr.settled` — an expression with what JSON text keeps of its numbers.

## Main statements

* `Expr.read?_json` — the text of an expression is read as the expression with its numbers read
  again.
* `Expr.reread?_eq_settled_iff` — reading gives what the text keeps if its literals are read so.
* `Expr.json_reads_back_iff` — when an expression is read back from its text.
-/

namespace DocTemplate

theorem BinaryOp.ofName?_name (op : BinaryOp) : ofName? op.name = some op := by
  cases op <;> rfl

theorem UnaryOp.ofName?_name (op : UnaryOp) : ofName? op.name = some op := by
  cases op <;> rfl

namespace Expr

mutual
/-- How many arrays and objects stand inside each other in the JSON text of an expression. -/
def depth : Expr → Nat
  | .literal v => v.depth + 1
  | .path _ => 1
  | .call _ args => depthOfArgs args + 3
  | .binary _ lhs rhs => max (depth lhs) (depth rhs) + 2
  | .unary _ operand => depth operand + 2
  | .ternary c t f => max (depth c) (max (depth t) (depth f)) + 2

/-- The depth of the deepest argument. -/
def depthOfArgs : List Expr → Nat
  | [] => 0
  | e :: es => max (depth e) (depthOfArgs es)
end

mutual
/-- The values of the literals of an expression. -/
def literals : Expr → List Value
  | .literal v => [v]
  | .path _ => []
  | .call _ args => literalsOfArgs args
  | .binary _ lhs rhs => literals lhs ++ literals rhs
  | .unary _ operand => literals operand
  | .ternary c t f => literals c ++ (literals t ++ literals f)

/-- The values of the literals of several expressions. -/
def literalsOfArgs : List Expr → List Value
  | [] => []
  | e :: es => literals e ++ literalsOfArgs es
end

mutual
/-- An expression with what the texts of its numbers are read as. It is none if one of them is too
great to be read. -/
def reread? : Expr → Option Expr
  | .literal v => v.reread?.map .literal
  | .path text => some (.path text)
  | .call name args => (rereadArgs? args).map (.call name)
  | .binary op lhs rhs => do
    let lhs ← reread? lhs
    let rhs ← reread? rhs
    some (.binary op lhs rhs)
  | .unary op operand => do
    let operand ← reread? operand
    some (.unary op operand)
  | .ternary c t f => do
    let c ← reread? c
    let t ← reread? t
    let f ← reread? f
    some (.ternary c t f)

/-- Arguments with what the texts of their numbers are read as. -/
def rereadArgs? : List Expr → Option (List Expr)
  | [] => some []
  | e :: es => do
    let e ← reread? e
    let es ← rereadArgs? es
    some (e :: es)
end

mutual
/-- An expression with what is left of the numbers in its literals in JSON text. -/
def settled : Expr → Expr
  | .literal v => .literal v.settled
  | .path text => .path text
  | .call name args => .call name (settledArgs args)
  | .binary op lhs rhs => .binary op (settled lhs) (settled rhs)
  | .unary op operand => .unary op (settled operand)
  | .ternary c t f => .ternary (settled c) (settled t) (settled f)

/-- Arguments with what is left of the numbers in their literals. -/
def settledArgs : List Expr → List Expr
  | [] => []
  | e :: es => settled e :: settledArgs es
end

section Nodes

variable {depth : Nat} {j c t f lhs rhs : Json}

theorem ofJson?_literal :
    ofJson? (depth + 1) (.object [(some "Literal", j)]) = (Value.ofJson? depth j).map .literal := by
  simp [ofJson?]

theorem ofJson?_path (text : String) :
    ofJson? (depth + 1) (.object [(some "PropertyAccess", .string (some text))]) =
      some (.path text) := by
  simp [ofJson?]

theorem ofJson?_call (name : String) (args : List Json) :
    ofJson? (depth + 3) (.object [(some "FunctionCall",
        .object [(some "name", .string (some name)), (some "args", .array args)])]) =
      (args.mapM (ofJson? depth)).map (.call name) := by
  rw [ofJson?]
  simp [Json.fields?, List.lookup]

theorem ofJson?_binary (op : BinaryOp) :
    ofJson? (depth + 2) (.object [(some "Binary",
        .object [(some "op", .string (some op.name)), (some "lhs", lhs), (some "rhs", rhs)])]) =
      (do
        let lhs ← ofJson? depth lhs
        let rhs ← ofJson? depth rhs
        some (.binary op lhs rhs)) := by
  simp [ofJson?, Json.fields?, List.lookup, Json.choice?, BinaryOp.ofName?_name]

theorem ofJson?_unary (op : UnaryOp) :
    ofJson? (depth + 2) (.object [(some "Unary",
        .object [(some "op", .string (some op.name)), (some "operand", j)])]) =
      (do
        let operand ← ofJson? depth j
        some (.unary op operand)) := by
  simp [ofJson?, Json.fields?, List.lookup, Json.choice?, UnaryOp.ofName?_name]

theorem ofJson?_ternary :
    ofJson? (depth + 2) (.object [(some "Ternary",
        .object [(some "condition", c), (some "when_true", t), (some "when_false", f)])]) =
      (do
        let c ← ofJson? depth c
        let t ← ofJson? depth t
        let f ← ofJson? depth f
        some (.ternary c t f)) := by
  simp [ofJson?, Json.fields?, List.lookup]

end Nodes

section Records

variable {name name' name'' : String} {text text' text'' : List Char} {j j' j'' : Json}

theorem spelled_one (h : Json.Spelled text j) :
    Json.Spelled ('{' :: field name text ++ ['}']) (.object [(some name, j)]) :=
  .object (.last h)

theorem spelled_two (h : Json.Spelled text j) (h' : Json.Spelled text' j') :
    Json.Spelled ('{' :: field name text ++ ',' :: field name' text' ++ ['}'])
      (.object [(some name, j), (some name', j')]) := by
  have hlast : Json.SpelledMembers (field name' text' ++ ['}']) _ := .last h'
  have hmembers : Json.SpelledMembers (field name text ++ ',' :: _) _ := .cons h hlast
  simpa using Json.Spelled.object hmembers

theorem spelled_three (h : Json.Spelled text j) (h' : Json.Spelled text' j')
    (h'' : Json.Spelled text'' j'') :
    Json.Spelled
      ('{' :: field name text ++ ',' :: field name' text' ++ ',' :: field name'' text'' ++ ['}'])
      (.object [(some name, j), (some name', j'), (some name'', j'')]) := by
  have hlast : Json.SpelledMembers (field name'' text'' ++ ['}']) _ := .last h''
  have hmore : Json.SpelledMembers (field name' text' ++ ',' :: _) _ := .cons h' hlast
  have hmembers : Json.SpelledMembers (field name text ++ ',' :: _) _ := .cons h hmore
  simpa using Json.Spelled.object hmembers

end Records

mutual

/-- The text of an expression spells a document, and this is read as the expression with its numbers
read again. -/
theorem exists_spelled (e : Expr) (depth : Nat) (hdepth : e.depth ≤ depth)
    (hkeys : ∀ v ∈ e.literals, v.HasDistinctKeys) :
    ∃ j, Json.Spelled e.jsonChars j ∧ ofJson? depth j = e.reread? := by
  match e with
  | .literal v =>
    obtain ⟨inner, rfl⟩ := Nat.exists_eq_add_of_le' (Nat.le_of_add_left_le hdepth)
    have hwithin : v.IsWithin inner := ⟨Nat.le_of_succ_le_succ hdepth, hkeys v (by simp [literals])⟩
    obtain ⟨j, hj, hread⟩ := v.exists_spelled hwithin
    refine ⟨_, spelled_one hj, ?_⟩
    rw [ofJson?_literal, hread, reread?]
  | .path text =>
    obtain ⟨inner, rfl⟩ := Nat.exists_eq_add_of_le' hdepth
    exact ⟨_, spelled_one (.string text), ofJson?_path text⟩
  | .call name [] =>
    obtain ⟨inner, rfl⟩ := Nat.exists_eq_add_of_le' (Nat.le_of_add_left_le hdepth)
    exact ⟨_, spelled_one (spelled_two (.string name) .emptyArray), ofJson?_call name []⟩
  | .call name (e :: es) =>
    obtain ⟨inner, rfl⟩ := Nat.exists_eq_add_of_le' (Nat.le_of_add_left_le hdepth)
    have hargs := Nat.le_of_add_le_add_right hdepth
    obtain ⟨js, hjs, hread⟩ := exists_spelledArgs e es inner hargs hkeys
    refine ⟨_, spelled_one (spelled_two (.string name) (.array hjs)), ?_⟩
    rw [ofJson?_call, hread, reread?]
  | .binary op lhs rhs =>
    obtain ⟨inner, rfl⟩ := Nat.exists_eq_add_of_le' (Nat.le_of_add_left_le hdepth)
    obtain ⟨hl, hr⟩ := Nat.max_le.mp (Nat.le_of_add_le_add_right hdepth)
    obtain ⟨hlkeys, hrkeys⟩ := List.forall_mem_append.mp hkeys
    obtain ⟨jl, hjl, hreadl⟩ := exists_spelled lhs inner hl hlkeys
    obtain ⟨jr, hjr, hreadr⟩ := exists_spelled rhs inner hr hrkeys
    refine ⟨_, spelled_one (spelled_three (.string op.name) hjl hjr), ?_⟩
    rw [ofJson?_binary, hreadl, hreadr, reread?]
  | .unary op operand =>
    obtain ⟨inner, rfl⟩ := Nat.exists_eq_add_of_le' (Nat.le_of_add_left_le hdepth)
    obtain ⟨j, hj, hread⟩ := exists_spelled operand inner (Nat.le_of_add_le_add_right hdepth) hkeys
    refine ⟨_, spelled_one (spelled_two (.string op.name) hj), ?_⟩
    rw [ofJson?_unary, hread, reread?]
  | .ternary c t f =>
    obtain ⟨inner, rfl⟩ := Nat.exists_eq_add_of_le' (Nat.le_of_add_left_le hdepth)
    obtain ⟨hc, htf⟩ := Nat.max_le.mp (Nat.le_of_add_le_add_right hdepth)
    obtain ⟨ht, hf⟩ := Nat.max_le.mp htf
    obtain ⟨hckeys, htfkeys⟩ := List.forall_mem_append.mp hkeys
    obtain ⟨htkeys, hfkeys⟩ := List.forall_mem_append.mp htfkeys
    obtain ⟨jc, hjc, hreadc⟩ := exists_spelled c inner hc hckeys
    obtain ⟨jt, hjt, hreadt⟩ := exists_spelled t inner ht htkeys
    obtain ⟨jf, hjf, hreadf⟩ := exists_spelled f inner hf hfkeys
    refine ⟨_, spelled_one (spelled_three hjc hjt hjf), ?_⟩
    rw [ofJson?_ternary, hreadc, hreadt, hreadf, reread?]
termination_by sizeOf e

theorem exists_spelledArgs (e : Expr) (es : List Expr) (depth : Nat)
    (hdepth : depthOfArgs (e :: es) ≤ depth)
    (hkeys : ∀ v ∈ literalsOfArgs (e :: es), v.HasDistinctKeys) :
    ∃ js, Json.SpelledItems (jsonArgs (e :: es)) js ∧
      js.mapM (ofJson? depth) = rereadArgs? (e :: es) := by
  obtain ⟨he, hes⟩ := Nat.max_le.mp hdepth
  obtain ⟨hkey, hkeys⟩ := List.forall_mem_append.mp hkeys
  obtain ⟨j, hj, hread⟩ := exists_spelled e depth he hkey
  match es with
  | [] =>
    refine ⟨[j], .last hj, ?_⟩
    simp [rereadArgs?, hread]
  | e' :: es =>
    obtain ⟨js, hspelled, hreads⟩ := exists_spelledArgs e' es depth hes hkeys
    refine ⟨j :: js, .cons hj hspelled, ?_⟩
    rw [List.mapM_cons, hread, hreads]
    rfl
termination_by 1 + sizeOf e + sizeOf es

end

/-- The text of an expression is read as the expression with its numbers read again. -/
theorem read?_json {e : Expr} (hdepth : e.depth ≤ Value.maxDepth)
    (hkeys : ∀ v ∈ e.literals, v.HasDistinctKeys) : read? e.json = e.reread? := by
  obtain ⟨j, hspelled, hread⟩ := exists_spelled e Value.maxDepth hdepth hkeys
  have htext : Json.read? e.json = some j := by
    refine Json.read?_of_spelled ?_
    rwa [json, String.toList_ofList]
  rw [read?, htext, Option.bind_some, hread]

mutual

/-- Reading gives what the text keeps of an expression if and only if it does so for its
literals. -/
theorem reread?_eq_settled_iff (e : Expr) :
    e.reread? = some e.settled ↔ ∀ v ∈ e.literals, v.reread? = some v.settled := by
  match e with
  | .literal v => simp [reread?, settled, literals]
  | .path text => simp [reread?, settled, literals]
  | .call name args =>
    have hargs := rereadArgs?_eq_settled_iff args
    simpa [reread?, settled, literals] using hargs
  | .binary op lhs rhs =>
    rw [literals, List.forall_mem_append, ← reread?_eq_settled_iff lhs,
      ← reread?_eq_settled_iff rhs]
    simp [reread?, settled, Option.bind_eq_some_iff]
  | .unary op operand =>
    rw [literals, ← reread?_eq_settled_iff operand]
    simp [reread?, settled, Option.bind_eq_some_iff]
  | .ternary c t f =>
    rw [literals, List.forall_mem_append, List.forall_mem_append, ← reread?_eq_settled_iff c,
      ← reread?_eq_settled_iff t, ← reread?_eq_settled_iff f]
    simp [reread?, settled, Option.bind_eq_some_iff]

theorem rereadArgs?_eq_settled_iff (args : List Expr) :
    rereadArgs? args = some (settledArgs args) ↔
      ∀ v ∈ literalsOfArgs args, v.reread? = some v.settled := by
  match args with
  | [] => simp [rereadArgs?, settledArgs, literalsOfArgs]
  | e :: es =>
    rw [literalsOfArgs, List.forall_mem_append, ← reread?_eq_settled_iff e,
      ← rereadArgs?_eq_settled_iff es]
    simp [rereadArgs?, settledArgs, Option.bind_eq_some_iff]

end

mutual

/-- An expression is left as it is if its literals are. -/
theorem settled_eq_self (e : Expr) (h : ∀ v ∈ e.literals, v.settled = v) : e.settled = e := by
  match e with
  | .literal v => rw [settled, h v (by simp [literals])]
  | .path text => rfl
  | .call name args => rw [settled, settledArgs_eq_self args h]
  | .binary op lhs rhs =>
    obtain ⟨hl, hr⟩ := List.forall_mem_append.mp h
    rw [settled, settled_eq_self lhs hl, settled_eq_self rhs hr]
  | .unary op operand => rw [settled, settled_eq_self operand h]
  | .ternary c t f =>
    obtain ⟨hc, htf⟩ := List.forall_mem_append.mp h
    obtain ⟨ht, hf⟩ := List.forall_mem_append.mp htf
    rw [settled, settled_eq_self c hc, settled_eq_self t ht, settled_eq_self f hf]

theorem settledArgs_eq_self (args : List Expr) (h : ∀ v ∈ literalsOfArgs args, v.settled = v) :
    settledArgs args = args := by
  match args with
  | [] => rfl
  | e :: es =>
    obtain ⟨he, hes⟩ := List.forall_mem_append.mp h
    rw [settledArgs, settled_eq_self e he, settledArgs_eq_self es hes]

end

/-- An expression whose JSON text is nested to the depth that is read at most, and whose literals
have distinct keys in their objects, is read back from this text with each number as its own text
is read. So it is read back as what the text keeps of it if and only if the decimal texts of all its
finite numbers that are no plain integers read back; and this is the expression itself if its
numbers are finite and none is -0. -/
theorem json_reads_back_iff {e : Expr} (hdepth : e.depth ≤ Value.maxDepth)
    (hkeys : ∀ v ∈ e.literals, v.HasDistinctKeys) :
    read? e.json = e.reread? ∧
      (read? e.json = some e.settled ↔ ∀ v ∈ e.literals, ∀ x, (Value.number x).IsPart v →
        x.isFinite → ¬Value.IsPlainInteger x → Value.ReadsBack x) ∧
      ((∀ v ∈ e.literals, ∀ x, (Value.number x).IsPart v → x.isFinite ∧ x ≠ -0) →
        e.settled = e) := by
  have hread := read?_json hdepth hkeys
  refine ⟨hread, ?_, fun h => settled_eq_self e fun v hv => v.settled_eq_self (h v hv)⟩
  simp only [hread, reread?_eq_settled_iff, Value.reread?_eq_settled_iff,
    Value.read?_number_eq_settled_iff]

/-- A zero among the literals loses its sign, a fraction and a member under an escaped key stay. -/
theorem json_reads_back_iff_mixed :
    let e (zero : Value) : Expr := .ternary (.unary .not (.literal zero))
      (.call "f" [.literal (.object [("\"", .number 1.5)]), .path "a.b"])
      (.binary .isIn (.literal (.string "x")) (.call "g" []))
    read? (e (.number (-0))).json = some (e (.number 0)) := by
  intro e
  have hzero : Value.settledNumber (-0) = .number 0 := by
    rw [Value.settledNumber, if_pos (by decide +kernel), if_pos (by decide +kernel)]
  have hhalf : Value.settledNumber 1.5 = .number 1.5 :=
    Value.settledNumber_eq_self (by decide +kernel) (by decide +kernel)
  have hliterals : (e (.number (-0))).literals =
      [.number (-0), .object [("\"", .number 1.5)], .string "x"] := by
    simp [e, literals, literalsOfArgs]
  have hsettled : (e (.number (-0))).settled = e (.number 0) := by
    simp [e, settled, settledArgs, Value.settled, Value.settledMembers, hzero, hhalf]
  rw [← hsettled]
  refine (json_reads_back_iff (by decide) ?_).2.1.mpr ?_
  · intro v hv members hmembers
    rw [hliterals] at hv
    simp only [List.mem_cons, List.not_mem_nil, or_false] at hv
    obtain rfl | rfl | rfl := hv
    · cases hmembers
    · simp [Value.isPart_object, Value.isPart_number] at hmembers
      simp [hmembers]
    · cases hmembers
  · intro v hv x hx hfinite hplain
    rw [hliterals] at hv
    simp only [List.mem_cons, List.not_mem_nil, or_false] at hv
    obtain rfl | rfl | rfl := hv
    · obtain rfl : x = -0 := by simpa [Value.isPart_number] using hx
      exact absurd ⟨⟨true, 0, -1074⟩, by decide +kernel⟩ hplain
    · obtain rfl : x = 1.5 := by simpa [Value.isPart_object, Value.isPart_number] using hx
      have hnumber : Json.readNumber (jsonNumber 1.5) = some (⟨false, ['1'], ['5'], none⟩, []) := by
        decide +kernel
      exact Value.readsBack_of_readNumber hnumber (by decide +kernel)
    · cases hx

/-- A double whose shortest decimal text is not read back: the reader divides 1 by the double next
to 1e23. -/
theorem json_not_read_back :
    let e : Expr := .literal (.number 1e-23)
    e.depth ≤ Value.maxDepth ∧ (∀ v ∈ e.literals, v.HasDistinctKeys) ∧
      (∀ v ∈ e.literals, ∀ x, (Value.number x).IsPart v → x.isFinite ∧ x ≠ -0) ∧
      read? e.json ≠ some e := by
  intro e
  have hdepth : e.depth ≤ Value.maxDepth := by decide
  have hkeys : ∀ v ∈ e.literals, v.HasDistinctKeys := by
    simp [e, literals, Value.HasDistinctKeys, Value.isPart_number]
  have hfinite : (1e-23 : Double).isFinite ∧ (1e-23 : Double) ≠ -0 := by
    decide +kernel
  have hnumbers : ∀ v ∈ e.literals, ∀ x, (Value.number x).IsPart v → x.isFinite ∧ x ≠ -0 := by
    simpa [e, literals, Value.isPart_number] using hfinite
  have hplain : ¬Value.IsPlainInteger (1e-23 : Double) := by
    rintro ⟨f, hf, hintegral, -⟩
    have hfraction : (BinaryFraction.ofFloat? (1e-23 : Double)).all fun f => !f.isIntegral := by
      decide +kernel
    simp [hf, hintegral] at hfraction
  have hnot : ¬Value.ReadsBack (1e-23 : Double) := by
    intro h
    have hn : Json.readNumber (jsonNumber (1e-23 : Double)) =
        some (⟨false, ['1'], [], some (-23)⟩, []) := by
      decide +kernel
    exact absurd (h _ hn) (by decide +kernel)
  refine ⟨hdepth, hkeys, hnumbers, fun h => hnot ?_⟩
  have hsettled : e.settled = e := settled_eq_self e fun v hv => v.settled_eq_self (hnumbers v hv)
  have hreread : e.reread? = some e.settled := by rw [← read?_json hdepth hkeys, h, hsettled]
  have hliteral := (reread?_eq_settled_iff e).mp hreread _ (List.mem_singleton_self _)
  have hnumber := (Value.reread?_eq_settled_iff _).mp hliteral _ (.refl _)
  exact Value.read?_number_eq_settled_iff.mp hnumber hfinite.1 hplain

end Expr

end DocTemplate
