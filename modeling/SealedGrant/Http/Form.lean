import SealedGrant.Http.Message
import SealedGrant.Text.Percent

/-! # Forms

The fields of a form are read from a body that says it holds a form. A form is refused as a whole
at its first field that is one too many or too large; a form without such a field is taken as it is
(`fault?_eq_none_iff`).
-/

namespace SealedGrant
namespace HttpRequest

def formType : String := "application/x-www-form-urlencoded"

/-- The media type that a header value names: what precedes its parameters, in any case, with
spaces and tabs around it. -/
def mediaType (value : String) : String :=
  let chars := (Text.lower value).toList.takeWhile (· ≠ ';')
  String.ofList (Text.trimBy (fun c => c = ' ' || c = '\t') chars)

/-- The form fields that are read: those of a body with their media type, which a request without
any media type is taken to have. -/
def fields (request : HttpRequest) : List (String × String) :=
  match request.header? "content-type" with
  | none => request.form
  | some value => if mediaType value = formType then request.form else []

/-- The value of a form field: the last one of its name. An empty field counts as missing. -/
def field? (request : HttpRequest) (name : String) : Option String :=
  (request.fields.reverse.lookup name).filter (· ≠ "")

end HttpRequest

namespace Form

/-- The most fields that a form may have. -/
def fieldLimit : Nat := 1000

/-- The most bytes that a field may have: 1024 kilobytes. -/
def sizeLimit : Nat := 1048576

/-- The bytes of a field in a body: those of its name and those of its value, both encoded. -/
def fieldSize (field : String × String) : Nat :=
  Text.formLength field.1 + Text.formLength field.2

/-- Why a form is refused. -/
inductive Fault where
  | tooManyFields
  | fieldTooLarge
  deriving DecidableEq, Repr

def Fault.message : Fault → String
  | .tooManyFields => "Too many fields. Maximum number of fields is " ++ toString fieldLimit ++ "."
  | .fieldTooLarge =>
      "Field exceeded maximum size of " ++ toString (sizeLimit / 1024) ++ "KB."

/-- The first fault of fields of which so many are still allowed. -/
def faultFrom? : (room : Nat) → List (String × String) → Option Fault
  | _, [] => none
  | 0, _ :: _ => some .tooManyFields
  | room + 1, field :: rest =>
      if sizeLimit < fieldSize field then some .fieldTooLarge else faultFrom? room rest

def fault? (fields : List (String × String)) : Option Fault :=
  faultFrom? fieldLimit fields

theorem faultFrom?_eq_none_iff (room : Nat) (fields : List (String × String)) :
    faultFrom? room fields = none ↔
      fields.length ≤ room ∧ ∀ field ∈ fields, fieldSize field ≤ sizeLimit := by
  induction fields generalizing room with
  | nil => simp [faultFrom?]
  | cons field rest ih =>
    cases room with
    | zero => simp [faultFrom?]
    | succ room =>
      by_cases large : sizeLimit < fieldSize field
      · simp [faultFrom?, large, Nat.not_le.mpr large]
      · simp [faultFrom?, large, ih, Nat.not_lt.mp large]

/-- A form is taken if it has neither too many fields nor too large a field. -/
theorem fault?_eq_none_iff (fields : List (String × String)) :
    fault? fields = none ↔
      fields.length ≤ fieldLimit ∧ ∀ field ∈ fields, fieldSize field ≤ sizeLimit :=
  faultFrom?_eq_none_iff fieldLimit fields

end Form
end SealedGrant
