import SealedGrant.Json.Value
import SealedGrant.Text.Quoted

/-! # Displaying JSON values in messages

Messages show a value as a literal: the words `None`, `True` and `False`, quoted strings, lists in
brackets and objects in braces. A string on its own is shown without quotation marks.
-/

namespace SealedGrant.Json

mutual

def literal : Json → List Char
  | .null => "None".toList
  | .bool true => "True".toList
  | .bool false => "False".toList
  | .number n => n.write .plain
  | .string text => (Text.quote text).toList
  | .array items => '[' :: [',', ' '].intercalate (literalItems items) ++ [']']
  | .object members => '{' :: [',', ' '].intercalate (literalMembers members) ++ ['}']

def literalItems : List Json → List (List Char)
  | [] => []
  | item :: rest => literal item :: literalItems rest

def literalMembers : List (String × Json) → List (List Char)
  | [] => []
  | (name, value) :: rest =>
      ((Text.quote name).toList ++ ':' :: ' ' :: literal value) :: literalMembers rest

end

def quoted (value : Json) : String :=
  String.ofList value.literal

/-- A value as plain text: a string as it is, any other value as a literal. -/
def display : Json → String
  | .string text => text
  | value => value.quoted

end SealedGrant.Json
