import SealedGrant.Number.Decimal

/-! # Numbers: integers and doubles

Clock readings, lifetimes and JSON numbers are integers without bound or doubles. Comparison is
exact between the two kinds; a sum with a double is a double, and there is none with an integer
beyond all doubles.
-/

namespace SealedGrant

/-- A number. -/
inductive Number where
  | int (n : Int)
  | double (d : Double)
  deriving DecidableEq

/-- Why an operation on numbers has no result. -/
inductive ArithmeticFault where
  | beyondDoubles
  | infinite
  /-- What is no number has no integer part. -/
  | notNumber
  deriving DecidableEq, Repr

/-- The wording of the faults that have one. -/
def ArithmeticFault.message? : ArithmeticFault → Option String
  | .notNumber => some "cannot convert float NaN to integer"
  | .beyondDoubles | .infinite => none

namespace Number

/-- Whether an integer fits a word of 64 bits with a sign. -/
def fitsWord (n : Int) : Bool :=
  -0x8000000000000000 ≤ n && n < 0x8000000000000000

/-- The place of a number on the line of reals with its two ends: `mantissa · 2 ^ exponent`, or an
end. -/
inductive Place where
  | lowest
  | point (mantissa : Int) (exponent : Int)
  | highest

/-- The place of a number, unless it is no number at all. -/
def place? : Number → Option Place
  | .int n => some (.point n 0)
  | .double (.finite negative mantissa exponent _) =>
      some (.point (Double.signed negative mantissa) exponent)
  | .double (.infinite true) => some .lowest
  | .double (.infinite false) => some .highest
  | .double .nan => none

def Place.compare : Place → Place → Ordering
  | .lowest, .lowest => .eq
  | .lowest, _ => .lt
  | _, .lowest => .gt
  | .highest, .highest => .eq
  | .highest, _ => .gt
  | _, .highest => .lt
  | .point m₁ e₁, .point m₂ e₂ =>
      let least := min e₁ e₂
      Ord.compare (m₁ <<< (e₁ - least).toNat) (m₂ <<< (e₂ - least).toNat)

/-- The order of two numbers, unless one of them is no number. -/
def compare? (left right : Number) : Option Ordering := do
  let l ← left.place?
  let r ← right.place?
  return l.compare r

def lt : Number → Number → Bool
  | .int m, .int n => m < n
  | left, right => left.compare? right == some .lt

/-- Whether the left number is smaller or equal. -/
def le : Number → Number → Bool
  | .int m, .int n => m ≤ n
  | left, right => left.compare? right == some .lt || left.compare? right == some .eq

def same : Number → Number → Bool
  | .int m, .int n => m = n
  | left, right => left.compare? right == some .eq

def toDouble : Number → Double
  | .int n => Double.ofInt n
  | .double d => d

def add : Number → Number → Number
  | .int m, .int n => .int (m + n)
  | left, right => .double (left.toDouble.add right.toDouble)

def sub : Number → Number → Number
  | .int m, .int n => .int (m - n)
  | left, right => .double (left.toDouble.add right.toDouble.negate)

/-- Whether a number is a double or can be rounded to a finite one. -/
def fitsDouble : Number → Bool
  | .int n => (Double.ofInt n).isFinite
  | .double _ => true

/-- Whether two numbers can be added: two integers always, otherwise both must fit a double. -/
def addable : Number → Number → Bool
  | .int _, .int _ => true
  | left, right => left.fitsDouble && right.fitsDouble

/-- The sum of two numbers, if they can be added. -/
def sum (left right : Number) : Except ArithmeticFault Number :=
  if left.addable right then .ok (left.add right) else .error .beyondDoubles

/-- The difference of two numbers, if they can be added. -/
def difference (left right : Number) : Except ArithmeticFault Number :=
  if left.addable right then .ok (left.sub right) else .error .beyondDoubles

def truncate : Number → Int
  | .int n => n
  | .double d => d.truncate

/-- The integer part of a number that has one. -/
def whole : Number → Except ArithmeticFault Int
  | .double (.infinite _) => .error .infinite
  | .double .nan => .error .notNumber
  | n => .ok n.truncate

/-- The greater of two numbers, the left one when neither is. -/
def max (left right : Number) : Number :=
  if left.lt right then right else left

/-- The smaller of two numbers, the left one when neither is. -/
def min (left right : Number) : Number :=
  if right.lt left then right else left

def isFinite : Number → Bool
  | .int _ => true
  | .double d => d.isFinite

/-- Whether a number is no number at all. -/
def isNaN (n : Number) : Bool :=
  n == .double .nan

def intText (n : Int) : List Char :=
  if n < 0 then '-' :: Nat.toDigits 10 n.natAbs else Nat.toDigits 10 n.natAbs

/-- The texts of the doubles that are not finite. -/
structure SpecialNames where
  infinity : List Char
  minusInfinity : List Char
  notANumber : List Char

def SpecialNames.plain : SpecialNames :=
  ⟨['i', 'n', 'f'], ['-', 'i', 'n', 'f'], ['n', 'a', 'n']⟩

def write (names : SpecialNames) : Number → List Char
  | .int n => intText n
  | .double (.finite negative mantissa exponent _) =>
      Double.finiteText negative mantissa exponent
  | .double (.infinite true) => names.minusInfinity
  | .double (.infinite false) => names.infinity
  | .double .nan => names.notANumber

/-- The text of a number in plain display. -/
def text (n : Number) : String :=
  String.ofList (n.write .plain)

@[simp] theorem lt_int (m n : Int) : lt (.int m) (.int n) = decide (m < n) := rfl

@[simp] theorem le_int (m n : Int) : le (.int m) (.int n) = decide (m ≤ n) := rfl

@[simp] theorem add_int (m n : Int) : add (.int m) (.int n) = .int (m + n) := rfl

@[simp] theorem sub_int (m n : Int) : sub (.int m) (.int n) = .int (m - n) := rfl

@[simp] theorem sum_int (m n : Int) : sum (.int m) (.int n) = .ok (.int (m + n)) := rfl

@[simp] theorem difference_int (m n : Int) :
    difference (.int m) (.int n) = .ok (.int (m - n)) := rfl

@[simp] theorem truncate_int (n : Int) : truncate (.int n) = n := rfl

@[simp] theorem whole_int (n : Int) : whole (.int n) = .ok n := rfl

instance (n : Nat) : OfNat Number n := ⟨.int n⟩

end Number
end SealedGrant
