import Forwarder.Json.Number
import Forwarder.Report.Style
import Forwarder.Text.Lines

/-!
# Values as trees of text

The layout for people: a field on each line, its name before its value, items behind dashes,
everything inside indented by two more spaces. Texts of several lines become indented blocks.
-/

namespace Forwarder.Json

/-- A new line, indented by steps of two spaces. -/
def treeLine (level : Nat) : String := "\n" ++ String.ofList (List.replicate (2 * level) ' ')

/-- A text of several lines as an indented block. -/
def treeBlock (level : Nat) (text : String) : String :=
  String.join ((Text.lines text).map (treeLine (level + 1) ++ ·))

mutual

/-- The tree of a value at a level of indentation. -/
def tree (color : Bool) (level : Nat) : Json → String
  | .null | .illegible => Style.dimmed.apply color "-"
  | .bool true => Style.yellow.apply color "true"
  | .bool false => Style.yellow.apply color "false"
  | .number value => Style.cyan.apply color (String.ofList value.text)
  | .string text =>
    if text.toList.contains '\n' then treeBlock level text else Style.green.apply color text
  | .array items =>
    if items.isEmpty then Style.dimmed.apply color "(none)" else treeItems color level items
  | .object fields => treeFields color level (level = 0) fields

/-- The trees of items, each behind a dash. -/
def treeItems (color : Bool) (level : Nat) : List Json → String
  | [] => ""
  | item :: rest =>
    treeLine level ++ "- " ++ item.tree color (level + 1) ++ treeItems color level rest

/-- The trees of fields, each behind its name. `inPlace` says that the first one needs no new
line. -/
def treeFields (color : Bool) (level : Nat) (inPlace : Bool) : List (String × Json) → String
  | [] => ""
  | (name, value) :: rest =>
    (if inPlace then "" else treeLine level) ++ Style.boldBlue.apply color name ++ ": " ++
      value.tree color (level + 1) ++ treeFields color level false rest

end

end Forwarder.Json
