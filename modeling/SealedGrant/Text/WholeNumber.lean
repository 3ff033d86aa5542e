import SealedGrant.Text.Blank
import SealedGrant.Text.DecimalDigit
import SealedGrant.Text.Quoted

/-! # Whole numbers in configuration text

A whole number is written with an optional sign and decimal digits of any script, with single
underscores between digits and blanks around. Texts of more than 4300 digits are refused.
-/

namespace SealedGrant.Text

/-- The most digits a written integer may have. -/
def digitLimit : Nat := 4300

/-- Why a text is no whole number. -/
inductive WholeNumberError where
  /-- The text does not have the form of a number. -/
  | malformed (text : String)
  | tooLong (digits : Nat)
  deriving DecidableEq, Repr

/-- The wording of a refusal; a long text is cut after two hundred characters of its quoted form. -/
def WholeNumberError.message : WholeNumberError → String
  | .malformed text =>
      "invalid literal for int() with base 10: " ++ String.ofList ((quote text).toList.take 200)
  | .tooLong digits =>
      "Exceeds the limit (" ++ toString digitLimit ++
        " digits) for integer string conversion: value has " ++ toString digits ++
        " digits; use sys.set_int_max_str_digits() to increase the limit"

/-- The number that decimal digits write, most significant first. -/
def decimalValue (digits : List Nat) : Nat :=
  digits.foldl (fun total digit => 10 * total + digit) 0

/-- The digit values of characters with single underscores between digits. -/
def groupedDigits? : List Char → Option (List Nat)
  | [] => none
  | [c] => (decimalValue? c).map ([·])
  | c :: '_' :: rest => do return (← decimalValue? c) :: (← groupedDigits? rest)
  | c :: rest => do return (← decimalValue? c) :: (← groupedDigits? rest)

/-- Split an optional sign off; `true` stands for a minus sign. -/
def splitSign : List Char → Bool × List Char
  | '-' :: rest => (true, rest)
  | '+' :: rest => (false, rest)
  | chars => (false, chars)

/-- The blanks that may stand around a number: all but the four ASCII separators. -/
def isNumberBlank (c : Char) : Bool :=
  isBlank c && !(0x1c ≤ c.toNat && c.toNat ≤ 0x1f)

/-- Whether a character may stand among the digits of a number. -/
def isNumberPart (c : Char) : Bool :=
  c = '_' || (decimalValue? c).isSome

/-- Read a whole number. Too many digits are refused before what follows them is looked at. -/
def readWholeNumber (text : String) : Except WholeNumberError Int :=
  let (negative, unsigned) := splitSign (trimBy isNumberBlank text.toList)
  match groupedDigits? (unsigned.takeWhile isNumberPart) with
  | none => .error (.malformed text)
  | some values =>
    if values.length > digitLimit then .error (.tooLong values.length)
    else if unsigned.all isNumberPart then
      let magnitude : Int := decimalValue values
      .ok (if negative then -magnitude else magnitude)
    else .error (.malformed text)

end SealedGrant.Text
