import Forwarder.Json.Number
import Forwarder.Json.StringLiteral

/-!
# Writing JSON texts

Two layouts of a value: the compact one without any blanks, and the indented one with every item
and field on a line of its own, two spaces further in than the array or object around it. Empty
arrays and objects stay on one line in both.
-/

namespace Forwarder.Json

/-- The spelling of a truth value. -/
def boolText : Bool → List Char
  | true => ['t', 'r', 'u', 'e']
  | false => ['f', 'a', 'l', 's', 'e']

mutual

/-- The compact layout of a value. An illegible part is written as `null`; no value that the
library builds has one. -/
def compactChars : Json → List Char
  | .null => ['n', 'u', 'l', 'l']
  | .bool value => boolText value
  | .number value => value.text
  | .string text => stringLiteral text
  | .array items => '[' :: compactItems items
  | .object fields => '{' :: compactFields fields
  | .illegible => ['n', 'u', 'l', 'l']

/-- The items of an array and its closing bracket. -/
def compactItems : List Json → List Char
  | [] => [']']
  | item :: rest =>
    item.compactChars ++ (if rest.isEmpty then [']'] else ',' :: compactItems rest)

/-- The fields of an object and its closing brace. -/
def compactFields : List (String × Json) → List Char
  | [] => ['}']
  | (name, value) :: rest =>
    stringLiteral name ++ ':' :: (value.compactChars ++
      (if rest.isEmpty then ['}'] else ',' :: compactFields rest))

end

/-- The compact text of a value. -/
def compact (value : Json) : String := String.ofList value.compactChars

/-- A new line, indented by a number of steps of two spaces. -/
def newLine (level : Nat) : List Char := '\n' :: List.replicate (2 * level) ' '

mutual

/-- The indented layout of a value that stands at a level of nesting. -/
def indentedChars (level : Nat) : Json → List Char
  | .null => ['n', 'u', 'l', 'l']
  | .bool value => boolText value
  | .number value => value.text
  | .string text => stringLiteral text
  | .array items =>
    if items.isEmpty then ['[', ']'] else '[' :: indentedItems (level + 1) items
  | .object fields =>
    if fields.isEmpty then ['{', '}'] else '{' :: indentedFields (level + 1) fields
  | .illegible => ['n', 'u', 'l', 'l']

/-- The items of an array, each on its line, and the closing bracket one step further out. -/
def indentedItems (level : Nat) : List Json → List Char
  | [] => newLine (level - 1) ++ [']']
  | item :: rest =>
    newLine level ++ item.indentedChars level ++
      (if rest.isEmpty then indentedItems level rest else ',' :: indentedItems level rest)

/-- The fields of an object, each on its line, and the closing brace one step further out. -/
def indentedFields (level : Nat) : List (String × Json) → List Char
  | [] => newLine (level - 1) ++ ['}']
  | (name, value) :: rest =>
    newLine level ++ stringLiteral name ++ ':' :: ' ' :: (value.indentedChars level ++
      (if rest.isEmpty then indentedFields level rest else ',' :: indentedFields level rest))

end

/-- The indented text of a value. -/
def indented (value : Json) : String := String.ofList (value.indentedChars 0)

end Forwarder.Json
