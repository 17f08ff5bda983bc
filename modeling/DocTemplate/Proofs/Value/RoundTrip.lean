import DocTemplate.Proofs.Json.Numbers
import DocTemplate.Proofs.Json.Spelling
import DocTemplate.Proofs.Value.Settled
import DocTemplate.Value.Reading

/-!
# Reading undoes writing

The JSON text of a value spells a JSON document that is read as the value, with each number as its
own text is read. The numbers that are written as plain integers are read back exactly. For the
others, whose text is read in double arithmetic, it is assumed number by number that their text
reads back.

## Main definitions

* `Value.depth` — how many arrays and objects stand inside each other.
* `Value.HasDistinctKeys` — no object has two members under one key.
* `Value.ReadsBack` — the decimal text of a number is read as that number.
* `Value.reread?` — a value with what the texts of its numbers are read as.

## Main statements

* `Value.nearby?_of_isIntegral` — a plain integer is read as it is.
* `Value.exists_spelled` — the text of a value spells a document that is read as the value with its
  numbers read again.
* `Value.reread?_eq_settled_iff` — reading gives what the text keeps if the numbers are read so.
* `Value.json_reads_back` — a value is read back from its text.
-/

namespace DocTemplate.Value

mutual
/-- How many arrays and objects stand inside each other at most. -/
def depth : Value → Nat
  | .array items => depthOfItems items + 1
  | .object members => depthOfMembers members + 1
  | _ => 0

/-- The depth of the deepest item. -/
def depthOfItems : List Value → Nat
  | [] => 0
  | v :: vs => max (depth v) (depthOfItems vs)

/-- The depth of the deepest value of a member. -/
def depthOfMembers : List (String × Value) → Nat
  | [] => 0
  | (_, v) :: rest => max (depth v) (depthOfMembers rest)
end

/-- No object of a value has two members under one key. -/
def HasDistinctKeys (v : Value) : Prop :=
  ∀ members, (Value.object members).IsPart v → (members.map Prod.fst).Nodup

/-- The decimal text of a number is read as that number. -/
def ReadsBack (x : Float) : Prop :=
  ∀ n : JsonNumber, Json.readNumber (jsonNumber x) = some (n, []) → n.nearby? = some x

/-- The text of a number spells one number only. -/
theorem readsBack_of_readNumber {x : Float} {n : JsonNumber}
    (hn : Json.readNumber (jsonNumber x) = some (n, [])) (hx : n.nearby? = some x) :
    ReadsBack x := by
  intro n' hn'
  rw [hn] at hn'
  cases hn'
  exact hx

/-- A number whose text is an integer without an exponent. -/
def IsPlainInteger (x : Float) : Prop :=
  ∃ f, BinaryFraction.ofFloat? x = some f ∧ f.isIntegral ∧ f.truncate.natAbs < 9 * 10 ^ 15

/-- A number is read as what is left of it. -/
def ReadsSettled (x : Double) : Prop :=
  ∃ j, Json.Spelled (jsonNumber x) j ∧ ∀ depth, ofJson? depth j = some (settledNumber x)

section Numbers

variable {x : Float} {f : BinaryFraction}

/-- A plain integer is read as it is, but for the sign of zero. -/
theorem nearby?_of_isIntegral (h : BinaryFraction.ofFloat? x = some f) (hintegral : f.isIntegral)
    (hlt : f.truncate.natAbs < 9 * 10 ^ 15) :
    (JsonNumber.ofInt f.truncate).nearby? = some (if f.mantissa = 0 then 0 else x) := by
  obtain hzero | hn := Nat.eq_zero_or_pos f.truncate.natAbs
  · have htruncate : f.truncate = 0 := Int.natAbs_eq_zero.mp hzero
    rw [if_pos (BinaryFraction.mantissa_eq_zero_of_truncate hintegral htruncate), htruncate,
      JsonNumber.nearby?_ofInt_zero]
  · have hmantissa : f.mantissa ≠ 0 := by
      intro hzero
      have htruncate := (BinaryFraction.of_mantissa_eq_zero hzero).2
      omega
    have hx := BinaryFraction.eq_ofNat_of_isIntegral h hintegral hn (by omega)
    rw [if_neg hmantissa, JsonNumber.nearby?_ofInt hn (by omega)]
    simp only [BinaryFraction.truncate_neg_iff hintegral hn, ← hx]

/-- Zero is a plain integer. -/
theorem mantissa_ne_zero (h : BinaryFraction.ofFloat? x = some f) (hplain : ¬IsPlainInteger x) :
    f.mantissa ≠ 0 := by
  intro hzero
  obtain ⟨hintegral, htruncate⟩ := BinaryFraction.of_mantissa_eq_zero hzero
  exact hplain ⟨f, h, hintegral, by simp [htruncate]⟩

/-- The text of a finite number is that of one number in JSON. -/
theorem exists_readNumber (h : BinaryFraction.ofFloat? x = some f) :
    ∃ n : JsonNumber, n.WellFormed ∧ n.chars = jsonNumber x ∧
      Json.readNumber (jsonNumber x) = some (n, []) := by
  obtain ⟨n, hn, htext⟩ := exists_chars_eq_jsonNumber h
  have hread := Json.readNumber_chars hn (by simp [Json.EndsNumber] : Json.EndsNumber [])
  rw [List.append_nil, htext] at hread
  exact ⟨n, hn, htext, hread⟩

end Numbers

section Doubles

variable {x : Double} {f : BinaryFraction}

theorem readsSettled (h : x.isFinite → ¬IsPlainInteger x → ReadsBack x) : ReadsSettled x := by
  cases hf : BinaryFraction.ofFloat? x with
  | none =>
    refine ⟨.null, ?_, fun depth => ?_⟩
    · rw [jsonNumber, hf]
      exact .null
    · rw [settledNumber_of_ofFloat?_eq_none hf]
      rfl
  | some f =>
    have hsettled := settledNumber_of_ofFloat? hf
    have hfinite : x.isFinite := by
      rw [Double.isFinite_eq, hf]
      rfl
    have hdouble : Double.ofFloat x.toFloat = x :=
      Double.ofFloat_toFloat (Double.isNaN_of_isFinite hfinite)
    by_cases hplain : f.isIntegral ∧ f.truncate.natAbs < 9 * 10 ^ 15
    · obtain ⟨hintegral, hlt⟩ := hplain
      have htext : jsonNumber x = (JsonNumber.ofInt f.truncate).chars := by
        rw [jsonNumber, hf, JsonNumber.chars_ofInt]
        exact if_pos (by simpa [hintegral, Nat.pow_eq] using hlt)
      refine ⟨.number (.ofInt f.truncate), ?_, fun depth => ?_⟩
      · rw [htext]
        exact .number (JsonNumber.wellFormed_ofInt _)
      · rw [hsettled, ofJson?, nearby?_of_isIntegral hf hintegral hlt, Option.map_some]
        split
        · rfl
        · rw [hdouble]
    · have hnot : ¬IsPlainInteger x := by
        rintro ⟨g, hg, hintegral⟩
        rw [hf] at hg
        exact hplain (Option.some.inj hg ▸ hintegral)
      have hmantissa := mantissa_ne_zero hf hnot
      obtain ⟨n, hn, htext, hread⟩ := exists_readNumber hf
      refine ⟨.number n, ?_, fun depth => ?_⟩
      · rw [← htext]
        exact .number hn
      · rw [hsettled, if_neg hmantissa, ofJson?, h hfinite hnot n hread, Option.map_some, hdouble]

theorem read?_number {j : Json} (h : Json.Spelled (jsonNumber x) j) :
    read? (Value.number x).json = ofJson? maxDepth j := by
  have htext : Json.read? (Value.number x).json = some j := by
    refine Json.read?_of_spelled ?_
    rwa [json, String.toList_ofList, jsonChars]
  rw [read?, htext, Option.bind_some]

/-- The text of a number spells a document, which is read the same at every depth. -/
theorem exists_spelledNumber (x : Double) :
    ∃ j, Json.Spelled (jsonNumber x) j ∧
      ∀ depth, ofJson? depth j = read? (Value.number x).json := by
  cases hf : BinaryFraction.ofFloat? x with
  | none =>
    have hspelled : Json.Spelled (jsonNumber x) .null := by
      rw [jsonNumber, hf]
      exact .null
    exact ⟨_, hspelled, fun depth => (read?_number hspelled).symm⟩
  | some f =>
    obtain ⟨n, hn, htext⟩ := exists_chars_eq_jsonNumber hf
    have hspelled : Json.Spelled (jsonNumber x) (.number n) := htext ▸ .number hn
    exact ⟨_, hspelled, fun depth => (read?_number hspelled).symm⟩

theorem ReadsSettled.read?_eq (h : ReadsSettled x) :
    read? (Value.number x).json = some (settledNumber x) := by
  obtain ⟨j, hspelled, hread⟩ := h
  rw [read?_number hspelled, hread]

/-- What is left of a number is read from its text if and only if the number is written as a plain
integer or as null or its decimal text reads back. -/
theorem read?_number_eq_settled_iff :
    read? (Value.number x).json = some (settledNumber x) ↔
      (x.isFinite → ¬IsPlainInteger x → ReadsBack x) := by
  refine ⟨fun h hfinite hplain n hn => ?_, fun h => (readsSettled h).read?_eq⟩
  rw [Double.isFinite_eq] at hfinite
  obtain ⟨f, hf⟩ := Option.isSome_iff_exists.mp hfinite
  obtain ⟨n', hwell, htext, hread⟩ := exists_readNumber hf
  obtain rfl : n = n' := congrArg Prod.fst (Option.some.inj (hn.symm.trans hread))
  have hspelled : Json.Spelled (jsonNumber x) (.number n) := htext ▸ .number hwell
  rw [read?_number hspelled, ofJson?, settledNumber_of_ofFloat? hf,
    if_neg (mantissa_ne_zero hf hplain), Option.map_eq_some_iff] at h
  obtain ⟨y, hy, hyx⟩ := h
  rw [hy, ← Value.number.inj hyx, Double.toFloat_ofFloat]

end Doubles

theorem insertMember_of_not_mem {α : Type} {key : String} {v : α} {members : List (String × α)}
    (h : key ∉ members.map Prod.fst) : insertMember key v members = members ++ [(key, v)] := by
  induction members with
  | nil => rfl
  | cons entry members ih =>
    obtain ⟨hne, hmembers⟩ : key ≠ entry.1 ∧ key ∉ members.map Prod.fst := by simpa using h
    rw [insertMember, if_neg hne.symm, ih hmembers, List.cons_append]

/-- A value that is nested to some depth at most and whose objects have distinct keys. -/
structure IsWithin (depth : Nat) (v : Value) : Prop where
  depth_le : v.depth ≤ depth
  keys : v.HasDistinctKeys

/-- A value whose text is read back: it is nested to some depth at most, its objects have distinct
keys, and its numbers are read back. -/
structure IsReadable (depth : Nat) (v : Value) : Prop where
  depth_le : v.depth ≤ depth
  keys : v.HasDistinctKeys
  numbers : ∀ x, (Value.number x).IsPart v → ReadsSettled x

theorem depth_le_depthOfItems {v : Value} {items : List Value} (hv : v ∈ items) :
    v.depth ≤ depthOfItems items := by
  induction items with
  | nil => simp at hv
  | cons w ws ih =>
    simp only [depthOfItems]
    obtain rfl | hv := List.mem_cons.mp hv
    · omega
    · have hle := ih hv
      omega

theorem depth_le_depthOfMembers {entry : String × Value} {members : List (String × Value)}
    (hv : entry ∈ members) : entry.2.depth ≤ depthOfMembers members := by
  induction members with
  | nil => simp at hv
  | cons head rest ih =>
    simp only [depthOfMembers]
    obtain rfl | hv := List.mem_cons.mp hv
    · omega
    · have hle := ih hv
      omega

variable {depth : Nat}

theorem IsWithin.element {items : List Value} (h : IsWithin depth (.array items)) :
    ∃ inner, depth = inner + 1 ∧ ∀ v ∈ items, IsWithin inner v := by
  have hdepth := h.depth_le
  simp only [Value.depth] at hdepth
  refine ⟨depth - 1, by omega, fun v hv => ⟨?_, ?_⟩⟩
  · have hle := depth_le_depthOfItems hv
    omega
  · exact fun members hmembers => h.keys members (.element hv hmembers)

theorem IsWithin.member {members : List (String × Value)} (h : IsWithin depth (.object members)) :
    ∃ inner, depth = inner + 1 ∧ ∀ entry ∈ members, IsWithin inner entry.2 := by
  have hdepth := h.depth_le
  simp only [Value.depth] at hdepth
  refine ⟨depth - 1, by omega, fun entry hentry => ⟨?_, ?_⟩⟩
  · have hle := depth_le_depthOfMembers hentry
    omega
  · exact fun members hmembers => h.keys members (.member hentry hmembers)

mutual
/-- A value with what the texts of its numbers are read as. It is none if one of them is too great
to be read. -/
def reread? : Value → Option Value
  | .number x => read? (Value.number x).json
  | .array items => (rereadItems? items).map .array
  | .object members => (rereadMembers? members).map .object
  | v => some v

/-- Items with what the texts of their numbers are read as. -/
def rereadItems? : List Value → Option (List Value)
  | [] => some []
  | v :: vs => do
    let v ← reread? v
    let vs ← rereadItems? vs
    some (v :: vs)

/-- Members with what the texts of the numbers in their values are read as. -/
def rereadMembers? : List (String × Value) → Option (List (String × Value))
  | [] => some []
  | (key, v) :: rest => do
    let v ← reread? v
    let rest ← rereadMembers? rest
    some ((key, v) :: rest)
end

section Reading

mutual

/-- The text of a value spells a document, and this is read as the value with its numbers read
again. -/
theorem exists_spelled {depth : Nat} (v : Value) (h : IsWithin depth v) :
    ∃ j, Json.Spelled v.jsonChars j ∧ ofJson? depth j = v.reread? := by
  match v with
  | .null => exact ⟨_, .null, rfl⟩
  | .boolean true => exact ⟨_, .boolean true, rfl⟩
  | .boolean false => exact ⟨_, .boolean false, rfl⟩
  | .number x =>
    obtain ⟨j, hj, hread⟩ := exists_spelledNumber x
    exact ⟨j, hj, hread depth⟩
  | .string s => exact ⟨_, .string s, rfl⟩
  | .array [] =>
    obtain ⟨inner, rfl, -⟩ := h.element
    exact ⟨_, .emptyArray, rfl⟩
  | .array (v :: vs) =>
    obtain ⟨inner, rfl, hitems⟩ := h.element
    obtain ⟨js, hspelled, hread⟩ := exists_spelledItems v vs hitems
    refine ⟨_, .array hspelled, ?_⟩
    rw [ofJson?, hread]
    rfl
  | .object [] =>
    obtain ⟨inner, rfl, -⟩ := h.member
    exact ⟨_, .emptyObject, rfl⟩
  | .object ((key, v) :: rest) =>
    have hkeys := h.keys _ (.refl _)
    obtain ⟨inner, rfl, hmembers⟩ := h.member
    obtain ⟨js, hspelled, hread⟩ := exists_spelledMembers key v rest hmembers hkeys
    refine ⟨_, .object hspelled, ?_⟩
    rw [ofJson?, hread [] (by simp)]
    simp [reread?]
termination_by sizeOf v

theorem exists_spelledItems {depth : Nat} (v : Value) (vs : List Value)
    (h : ∀ w ∈ v :: vs, IsWithin depth w) :
    ∃ js, Json.SpelledItems (v.jsonChars ++ jsonItems vs) js ∧
      ofJsonItems? depth js = rereadItems? (v :: vs) := by
  obtain ⟨hv, hvs⟩ := List.forall_mem_cons.mp h
  obtain ⟨j, hj, hread⟩ := exists_spelled v hv
  match vs with
  | [] =>
    refine ⟨_, .last hj, ?_⟩
    rw [ofJsonItems?, hread]
    rfl
  | w :: ws =>
    obtain ⟨js, hspelled, hreads⟩ := exists_spelledItems w ws hvs
    refine ⟨_, .cons hj hspelled, ?_⟩
    rw [ofJsonItems?, hread, hreads]
    rfl
termination_by 1 + sizeOf v + sizeOf vs

theorem exists_spelledMembers {depth : Nat} (key : String) (v : Value)
    (rest : List (String × Value)) (h : ∀ entry ∈ (key, v) :: rest, IsWithin depth entry.2)
    (hkeys : (((key, v) :: rest).map Prod.fst).Nodup) :
    ∃ js, Json.SpelledMembers (jsonString key ++ ':' :: v.jsonChars ++ jsonMembers rest) js ∧
      ∀ before : List (String × Value),
        (∀ entry ∈ (key, v) :: rest, entry.1 ∉ before.map Prod.fst) →
        ofJsonMembers? depth js before =
          (rereadMembers? ((key, v) :: rest)).map (before ++ ·) := by
  obtain ⟨hv, hrest⟩ := List.forall_mem_cons.mp h
  obtain ⟨j, hj, hread⟩ := exists_spelled v hv
  have hinsert {before : List (String × Value)} {w : Value}
      (hbefore : ∀ entry ∈ (key, v) :: rest, entry.1 ∉ before.map Prod.fst) :
      insertMember key w before = before ++ [(key, w)] :=
    insertMember_of_not_mem (List.forall_mem_cons.mp hbefore).1
  match rest with
  | [] =>
    refine ⟨_, .last hj, fun before hbefore => ?_⟩
    cases hv : v.reread? <;> simp [ofJsonMembers?, hread, rereadMembers?, hv, hinsert hbefore]
  | (key', w) :: rest =>
    obtain ⟨hnot, hkeys⟩ := List.nodup_cons.mp hkeys
    obtain ⟨js, hspelled, hreads⟩ := exists_spelledMembers key' w rest hrest hkeys
    refine ⟨_, .cons hj hspelled, fun before hbefore => ?_⟩
    cases hv : v.reread? with
    | none => simp [ofJsonMembers?, hread, rereadMembers?, hv]
    | some v' =>
      have hafter : ∀ entry ∈ (key', w) :: rest,
          entry.1 ∉ (before ++ [(key, v')]).map Prod.fst := by
        intro entry hentry hmem
        obtain hmem | hmem : entry.1 ∈ before.map Prod.fst ∨ entry.1 = key := by simpa using hmem
        · exact (List.forall_mem_cons.mp hbefore).2 entry hentry hmem
        · exact hnot (List.mem_map.mpr ⟨entry, hentry, hmem⟩)
      have hmembers : rereadMembers? ((key, v) :: (key', w) :: rest) =
          (rereadMembers? ((key', w) :: rest)).map ((key, v') :: ·) := by
        rw [rereadMembers?, hv]
        cases rereadMembers? ((key', w) :: rest) <;> rfl
      simp [ofJsonMembers?, hread, hv, hinsert hbefore, hreads _ hafter, hmembers,
        Function.comp_def]
termination_by 1 + sizeOf v + sizeOf rest

end

/-- The text of a value is read as the value with its numbers read again. -/
theorem read?_json_eq_reread? {v : Value} (h : IsWithin maxDepth v) : read? v.json = v.reread? := by
  obtain ⟨j, hspelled, hread⟩ := exists_spelled v h
  have htext : Json.read? v.json = some j := by
    refine Json.read?_of_spelled ?_
    rwa [json, String.toList_ofList]
  rw [read?, htext, Option.bind_some, hread]

mutual

/-- Reading gives what the text keeps of a value if and only if it does so for its numbers. -/
theorem reread?_eq_settled_iff (v : Value) :
    v.reread? = some v.settled ↔ ∀ x, (Value.number x).IsPart v →
      read? (Value.number x).json = some (settledNumber x) := by
  match v with
  | .null | .boolean _ | .string _ => exact iff_of_true rfl fun x hx => nomatch hx
  | .number x => simp [reread?, settled, isPart_number]
  | .array items =>
    have hmap : (Value.array items).reread? = some (Value.array items).settled ↔
        rereadItems? items = some (settledItems items) := by
      simp [reread?, settled]
    rw [hmap, rereadItems?_eq_settled_iff items]
    constructor
    · rintro h x (_ | ⟨hv, hx⟩)
      exact h _ hv x hx
    · exact fun h v hv x hx => h x (.element hv hx)
  | .object members =>
    have hmap : (Value.object members).reread? = some (Value.object members).settled ↔
        rereadMembers? members = some (settledMembers members) := by
      simp [reread?, settled]
    rw [hmap, rereadMembers?_eq_settled_iff members]
    constructor
    · rintro h x (_ | _ | ⟨hv, hx⟩)
      exact h _ hv x hx
    · exact fun h entry hentry x hx => h x (.member hentry hx)

theorem rereadItems?_eq_settled_iff (items : List Value) :
    rereadItems? items = some (settledItems items) ↔ ∀ v ∈ items, ∀ x, (Value.number x).IsPart v →
      read? (Value.number x).json = some (settledNumber x) := by
  match items with
  | [] => simp [rereadItems?, settledItems]
  | v :: vs =>
    rw [List.forall_mem_cons, ← reread?_eq_settled_iff v, ← rereadItems?_eq_settled_iff vs]
    simp [rereadItems?, settledItems, Option.bind_eq_some_iff]

theorem rereadMembers?_eq_settled_iff (members : List (String × Value)) :
    rereadMembers? members = some (settledMembers members) ↔
      ∀ entry ∈ members, ∀ x, (Value.number x).IsPart entry.2 →
        read? (Value.number x).json = some (settledNumber x) := by
  match members with
  | [] => simp [rereadMembers?, settledMembers]
  | (key, v) :: rest =>
    rw [List.forall_mem_cons, ← reread?_eq_settled_iff v, ← rereadMembers?_eq_settled_iff rest]
    simp [rereadMembers?, settledMembers, Option.bind_eq_some_iff]

end

/-- The text of a value is read as what is left of the value. -/
theorem read?_json {v : Value} (h : IsReadable maxDepth v) : read? v.json = some v.settled := by
  rw [read?_json_eq_reread? ⟨h.depth_le, h.keys⟩]
  exact (reread?_eq_settled_iff v).mpr fun x hx => (h.numbers x hx).read?_eq

end Reading

/-- A value that is nested to the depth that is read at most, whose objects have distinct keys, is
read back from its JSON text, with the members of every object in their order: a zero has lost its
sign, and what is no finite number is null. What is read back has the same text, and is the value
itself if all its numbers are finite and none is -0. The decimal texts of the numbers that are no
plain integers have to read back. -/
theorem json_reads_back {v : Value} (hdepth : v.depth ≤ maxDepth) (hkeys : v.HasDistinctKeys)
    (hnumbers : ∀ x, (Value.number x).IsPart v → x.isFinite → ¬IsPlainInteger x → ReadsBack x) :
    read? v.json = some v.settled ∧ v.settled.json = v.json ∧
      ((∀ x, (Value.number x).IsPart v → x.isFinite ∧ x ≠ -0) → v.settled = v) := by
  refine ⟨read?_json ⟨hdepth, hkeys, fun x hx => readsSettled (hnumbers x hx)⟩, ?_,
    settled_eq_self v⟩
  rw [json, json, jsonChars_settled]

/-- Numbers of all kinds, a key that has to be escaped and empty texts and objects. -/
theorem json_reads_back_mixed :
    let v (zero nan : Value) : Value := .object
      [("\"\n", .array [.number 1.5, zero, nan, .number 7, .string "\\é"]), ("", .object [])]
    read? (v (.number (-0)) (.number (0 / 0))).json = some (v (.number 0) .null) := by
  intro v
  have hzero : settledNumber (-0) = .number 0 := by
    rw [settledNumber, if_pos (by decide +kernel), if_pos (by decide +kernel)]
  have hnan : settledNumber (0 / 0) = .null := by
    rw [settledNumber, if_neg (by decide +kernel)]
  have hhalf : settledNumber 1.5 = .number 1.5 :=
    settledNumber_eq_self (by decide +kernel) (by decide +kernel)
  have hseven : settledNumber 7 = .number 7 :=
    settledNumber_eq_self (by decide +kernel) (by decide +kernel)
  have hreads : ReadsBack 1.5 := by
    have htext : jsonNumber 1.5 = "1.5".toList := by decide +kernel
    have hnumber : Json.readNumber "1.5".toList = some (⟨false, ['1'], ['5'], none⟩, []) := by
      decide +kernel
    intro n hn
    rw [htext, hnumber] at hn
    obtain ⟨rfl, -⟩ := Prod.mk.inj (Option.some.inj hn)
    decide +kernel
  have hresult := (json_reads_back (v := v (.number (-0)) (.number (0 / 0))) ?_ ?_ ?_).1
  · rw [hresult]
    simp [v, settled, settledMembers, settledItems, hzero, hnan, hhalf, hseven]
  · decide
  · intro members hmembers
    simp [v, isPart_object, isPart_array, isPart_number, isPart_string] at hmembers
    obtain rfl | rfl := hmembers <;> simp
  · intro x hx hfinite hplain
    simp [v, isPart_object, isPart_array, isPart_number, isPart_string] at hx
    obtain rfl | rfl | rfl | rfl := hx
    · exact hreads
    · refine absurd ⟨⟨true, 0, -1074⟩, ?_⟩ hplain
      decide +kernel
    · exact absurd hfinite (by decide +kernel)
    · refine absurd ⟨⟨false, 7 * 2 ^ 50, -50⟩, ?_⟩ hplain
      decide +kernel

end DocTemplate.Value
