/-!
# Doubles

A double is its 64 bits. The doubles of the language have one NaN only, so they do arithmetic on
numbers, and what depends on the sign of a NaN or on what it carries goes by the bits.

Arithmetic treats NaN like processors do: the first operand that is NaN is the result, made quiet,
and an operation on numbers without a result gives one NaN, which has its sign set. To change or
drop the sign changes one bit, of NaN as well.

## Main definitions

* `Double` — the bits of a double.
* `Double.toFloat`, `Double.ofFloat` — the number of a double and the double of a result.
* `Double.map`, `Double.map₂` — operations on numbers as operations on doubles.
-/

namespace DocTemplate

/-- A double: one bit for the sign, 11 for the exponent and 52 for the mantissa. -/
structure Double where
  bits : UInt64
deriving DecidableEq, Repr

namespace Double

/-- The number of a double. All doubles that are no number become one NaN. -/
def toFloat (x : Double) : Float :=
  Float.ofBits x.bits

/-- The double of a result. No number becomes the NaN that arithmetic makes. -/
def ofFloat (x : Float) : Double :=
  if x.isNaN then ⟨0xFFF8000000000000⟩ else ⟨x.toBits⟩

instance : Coe Float Double := ⟨ofFloat⟩

instance : CoeTail Double Float := ⟨toFloat⟩

instance {n : Nat} : OfNat Double n := ⟨ofFloat (OfNat.ofNat n)⟩

instance : OfScientific Double := ⟨fun m s e => ofFloat (OfScientific.ofScientific m s e)⟩

/-- Whether a double is no number. -/
def isNaN (x : Double) : Bool :=
  x.toFloat.isNaN

/-- Whether a double is a number and not an infinity. -/
def isFinite (x : Double) : Bool :=
  x.toFloat.isFinite

/-- NaN in the form in which operations pass it on. -/
def quiet (x : Double) : Double :=
  ⟨x.bits ||| 0x0008000000000000⟩

/-- An operation with one operand. -/
def map (f : Float → Float) (x : Double) : Double :=
  if x.isNaN then x.quiet else f x.toFloat

/-- An operation with two operands. -/
def map₂ (f : Float → Float → Float) (x y : Double) : Double :=
  if x.isNaN then x.quiet else if y.isNaN then y.quiet else f x.toFloat y.toFloat

instance : Add Double := ⟨map₂ (· + ·)⟩

instance : Sub Double := ⟨map₂ (· - ·)⟩

instance : Mul Double := ⟨map₂ (· * ·)⟩

instance : Div Double := ⟨map₂ (· / ·)⟩

instance : Neg Double := ⟨fun x => ⟨x.bits ^^^ 0x8000000000000000⟩⟩

/-- A double without its sign. -/
def abs (x : Double) : Double :=
  ⟨x.bits &&& 0x7FFFFFFFFFFFFFFF⟩

instance : BEq Double := ⟨fun x y => x.toFloat == y.toFloat⟩

instance : LT Double := ⟨fun x y => x.toFloat < y.toFloat⟩

instance : LE Double := ⟨fun x y => x.toFloat ≤ y.toFloat⟩

instance (x y : Double) : Decidable (x < y) := inferInstanceAs (Decidable (x.toFloat < y.toFloat))

instance (x y : Double) : Decidable (x ≤ y) := inferInstanceAs (Decidable (x.toFloat ≤ y.toFloat))

end Double

end DocTemplate
