import SealedGrant.Json.Value
import SealedGrant.Text.Encoding
import SealedGrant.Text.WholeNumber

/-! # Reading JSON text

Reading goes through lexemes. A scanner turns characters into lexemes, one character at a time; a
machine with a stack of open arrays and objects turns lexemes into a value. Both are plain
recursions over their input, so a text of any depth is read without a bound. The scanner ends at the
first characters that are no lexeme and passes the reason on, so the machine reports the first error
of the text whichever of the two finds it.

A number with a point or an exponent is a double, any other an integer. Of two members of one name
the last value counts, in the place of the first. The escape of a surrogate without its other half
is refused, since no value holds such a string: readers that keep it accept more texts.
-/

namespace SealedGrant.Json

/-- Why a text is no JSON value. -/
inductive ReadError where
  /-- The text does not follow the grammar. -/
  | malformed
  | tooLong (digits : Nat)
  deriving DecidableEq, Repr

/-- A lexeme of JSON text. -/
inductive Lexeme where
  | openBracket
  | closeBracket
  | openBrace
  | closeBrace
  | colon
  | comma
  /-- A string, a number or a word. -/
  | scalar (value : Json)
  | invalid (cause : ReadError)

/-- The wording of the errors that have one. -/
def ReadError.message? : ReadError → Option String
  | .malformed => none
  | .tooLong digits => some (Text.WholeNumberError.tooLong digits).message

/-- Which words are read beside `true`, `false` and `null`. -/
inductive Words where
  | strict
  /-- Also the names of the doubles that are not finite. -/
  | withSpecials
  deriving DecidableEq, Repr

def isSpace (c : Char) : Bool :=
  c = ' ' || c = '\t' || c = '\n' || c = '\r'

def punctuation? : Char → Option Lexeme
  | '[' => some .openBracket
  | ']' => some .closeBracket
  | '{' => some .openBrace
  | '}' => some .closeBrace
  | ':' => some .colon
  | ',' => some .comma
  | _ => none

/-- Whether a character is an ASCII digit. -/
def isDigit (c : Char) : Bool :=
  '0' ≤ c && c ≤ '9'

def digitsValue (digits : List Char) : Nat :=
  digits.foldl (fun total c => 10 * total + (c.toNat - 48)) 0

/-- Whether digits can be the integer part of a number: at least one, and a leading zero only
alone. -/
def isIntegerPart : List Char → Bool
  | [] => false
  | ['0'] => true
  | c :: _ => c ≠ '0'

/-- The exponent that characters after the digits of a number begin with, and what follows it. -/
def exponentPart? : List Char → Option (Int × List Char)
  | [] => none
  | mark :: rest =>
      let (negative, unsigned) := Text.splitSign rest
      let digits := unsigned.takeWhile isDigit
      if (mark = 'e' || mark = 'E') && !digits.isEmpty then
        some (Double.signed negative (digitsValue digits), unsigned.dropWhile isDigit)
      else none

/-- The digits after the point that characters begin with, and what follows them. -/
def fractionPart? : List Char → Option (List Char × List Char)
  | '.' :: rest =>
      let digits := rest.takeWhile isDigit
      if digits.isEmpty then none else some (digits, rest.dropWhile isDigit)
  | _ => none

def numberEnd (number : Number) (rest : List Char) : Except ReadError Number :=
  if rest.isEmpty then .ok number else .error .malformed

/-- Read the text of a number. It reaches as far as its grammar allows, and an integer with too many
digits is refused before what follows it is looked at. -/
def readNumber (chars : List Char) : Except ReadError Number :=
  let negative := chars.head? = some '-'
  let unsigned := if negative then chars.drop 1 else chars
  let whole := unsigned.takeWhile isDigit
  let tail := unsigned.dropWhile isDigit
  if !isIntegerPart whole then .error .malformed
  else
    let fraction := (fractionPart? tail).getD ([], tail)
    let exponent := (exponentPart? fraction.2).getD (0, fraction.2)
    if exponent.2.length < tail.length then
      numberEnd (.double (Double.ofDecimal negative (digitsValue (whole ++ fraction.1))
        (exponent.1 - fraction.1.length))) exponent.2
    else if whole.length > Text.digitLimit then .error (.tooLong whole.length)
    else numberEnd (.int (Double.signed negative (digitsValue whole))) tail

def word? (words : Words) (text : String) : Option Json :=
  match text, words with
  | "true", _ => some (.bool true)
  | "false", _ => some (.bool false)
  | "null", _ => some .null
  | "NaN", .withSpecials => some (.number (.double .nan))
  | "Infinity", .withSpecials => some (.number (.double (.infinite false)))
  | "-Infinity", .withSpecials => some (.number (.double (.infinite true)))
  | _, _ => none

/-- The scalar that characters without quotation marks write. -/
def bareScalar (words : Words) (chars : List Char) : Except ReadError Json :=
  match word? words (String.ofList chars) with
  | some value => .ok value
  | none => (readNumber chars).map .number

/-- Where the scanner stands. Characters of an unfinished lexeme are kept in reverse. -/
inductive Scan where
  | between
  | bare (seen : List Char)
  | string (seen : List Char)
  | escape (seen : List Char)
  /-- In the four digits of an escaped unit; `high` is a first half that waits for its partner. -/
  | unit (seen : List Char) (high : Option Nat) (digits : List Nat)
  /-- After an escaped first half, before the backslash of its partner. -/
  | partner (seen : List Char) (high : Nat)
  | partnerEscape (seen : List Char) (high : Nat)

def simpleEscape? : Char → Option Char
  | '"' => some '"'
  | '\\' => some '\\'
  | '/' => some '/'
  | 'b' => some '\x08'
  | 'f' => some '\x0c'
  | 'n' => some '\n'
  | 'r' => some '\r'
  | 't' => some '\t'
  | _ => none

/-- Where the scanner stands after an escaped unit. A half of a pair needs the other half, as a
string holds no surrogate. -/
def afterUnit (seen : List Char) (high : Option Nat) (unit : Nat) : Except ReadError Scan :=
  match high with
  | some first =>
      if Text.isLowSurrogate unit then
        .ok (.string (Char.ofNat (Text.joinSurrogates first unit) :: seen))
      else .error .malformed
  | none =>
      if Text.isHighSurrogate unit then .ok (.partner seen unit)
      else if Text.isLowSurrogate unit then .error .malformed
      else .ok (.string (Char.ofNat unit :: seen))

def scanBetween (c : Char) : List Lexeme × Scan :=
  if isSpace c then ([], .between)
  else if c = '"' then ([], .string [])
  else match punctuation? c with
    | some lexeme => ([lexeme], .between)
    | none => ([], .bare [c])

/-- Whether a character ends a number or a word. -/
def endsBare (c : Char) : Bool :=
  isSpace c || c = '"' || (punctuation? c).isSome

/-- Read one character: the lexemes that it completes, and where the scanner stands then. -/
def scanStep (words : Words) (scan : Scan) (c : Char) : Except ReadError (List Lexeme × Scan) :=
  match scan with
  | .between => .ok (scanBetween c)
  | .bare seen =>
      if endsBare c then do
        let value ← bareScalar words seen.reverse
        let (lexemes, next) := scanBetween c
        return (.scalar value :: lexemes, next)
      else .ok ([], .bare (c :: seen))
  | .string seen =>
      if c = '"' then .ok ([.scalar (.string (String.ofList seen.reverse))], .between)
      else if c = '\\' then .ok ([], .escape seen)
      else if c.toNat < 0x20 then .error .malformed
      else .ok ([], .string (c :: seen))
  | .escape seen =>
      if c = 'u' then .ok ([], .unit seen none [])
      else match simpleEscape? c with
        | some meant => .ok ([], .string (meant :: seen))
        | none => .error .malformed
  | .unit seen high digits =>
      match Bytes.hexValue? c with
      | none => .error .malformed
      | some digit =>
        match digits with
        | [d₁, d₂, d₃] => do
            let next ← afterUnit seen high (((d₁ * 16 + d₂) * 16 + d₃) * 16 + digit)
            return ([], next)
        | _ => .ok ([], .unit seen high (digits ++ [digit]))
  | .partner seen high =>
      if c = '\\' then .ok ([], .partnerEscape seen high) else .error .malformed
  | .partnerEscape seen high =>
      if c = 'u' then .ok ([], .unit seen (some high) []) else .error .malformed

/-- The lexemes at the end of the text. -/
def scanEnd (words : Words) : Scan → Except ReadError (List Lexeme)
  | .between => .ok []
  | .bare seen => do return [.scalar (← bareScalar words seen.reverse)]
  | _ => .error .malformed

/-- The lexemes of characters, up to the first characters that are none. -/
def scanFrom (words : Words) (scan : Scan) : List Char → List Lexeme
  | [] =>
      match scanEnd words scan with
      | .ok lexemes => lexemes
      | .error cause => [.invalid cause]
  | c :: rest =>
      match scanStep words scan c with
      | .ok (lexemes, next) => lexemes ++ scanFrom words next rest
      | .error cause => [.invalid cause]

/-- An array or an object that is still open. -/
inductive Frame where
  /-- An array with the items so far, in reverse. -/
  | items (before : List Json)
  /-- An object with the members so far and the name of the next one. -/
  | members (before : Members) (name : String)

/-- What the machine waits for. -/
inductive Expect where
  | value
  /-- The first item of an array, or its end. -/
  | firstItem
  /-- The first member name of an object, or its end. -/
  | firstName
  | name (before : Members)
  | colon (before : Members) (name : String)
  | rest (value : Json)

/-- Where the machine stands: what it waits for inside the open arrays and objects, innermost
first. -/
structure Build where
  expect : Expect
  frames : List Frame

/-- Begin a value. An invalid lexeme says why it is none. -/
def Build.value (frames : List Frame) : Lexeme → Except ReadError Build
  | .scalar value => .ok ⟨.rest value, frames⟩
  | .openBracket => .ok ⟨.firstItem, frames⟩
  | .openBrace => .ok ⟨.firstName, frames⟩
  | .invalid cause => .error cause
  | _ => .error .malformed

def Build.step (build : Build) (lexeme : Lexeme) : Except ReadError Build :=
  match build.expect, lexeme, build.frames with
  | .value, lexeme, frames => Build.value frames lexeme
  | .firstItem, .closeBracket, frames => .ok ⟨.rest (.array []), frames⟩
  | .firstItem, lexeme, frames => Build.value (.items [] :: frames) lexeme
  | .firstName, .closeBrace, frames => .ok ⟨.rest (.object []), frames⟩
  | .firstName, .scalar (.string name), frames => .ok ⟨.colon [] name, frames⟩
  | .name before, .scalar (.string name), frames => .ok ⟨.colon before name, frames⟩
  | .colon before name, .colon, frames => .ok ⟨.value, .members before name :: frames⟩
  | .rest value, .comma, .items before :: frames =>
      .ok ⟨.value, .items (value :: before) :: frames⟩
  | .rest value, .closeBracket, .items before :: frames =>
      .ok ⟨.rest (.array (value :: before).reverse), frames⟩
  | .rest value, .comma, .members before name :: frames =>
      .ok ⟨.name (before.set name value), frames⟩
  | .rest value, .closeBrace, .members before name :: frames =>
      .ok ⟨.rest (.object (before.set name value)), frames⟩
  | _, _, _ => .error .malformed

def Build.run (build : Build) : List Lexeme → Except ReadError Build
  | [] => .ok build
  | lexeme :: rest => do (← build.step lexeme).run rest

def ofLexemes (lexemes : List Lexeme) : Except ReadError Json := do
  match ← Build.run ⟨.value, []⟩ lexemes with
  | ⟨.rest value, []⟩ => return value
  | _ => throw .malformed

def read (words : Words) (text : String) : Except ReadError Json :=
  ofLexemes (scanFrom words .between text.toList)

/-- Read the JSON value that bytes hold in the encoding that they show. -/
def readBytes (words : Words) (bytes : Bytes) : Except ReadError Json :=
  match Text.decodeJsonBytes? bytes with
  | some text => read words text
  | none => .error .malformed

end SealedGrant.Json
