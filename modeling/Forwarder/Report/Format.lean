import Forwarder.Failure
import Forwarder.Json.Writer
import Forwarder.Report.Tree

/-!
# Output formats

The three forms in which a command prints its report: indented JSON, compact JSON, and a tree of
text in which fields are sorted by name.
-/

namespace Forwarder

/-- A form of output. -/
inductive ReportFormat where
  /-- Indented JSON. -/
  | json
  /-- Compact JSON. -/
  | text
  /-- A tree of text. -/
  | pretty
  deriving DecidableEq, Repr

namespace ReportFormat

/-- The form that is used where nothing else is said. -/
def default : ReportFormat := .pretty

/-- The name of a form. -/
def name : ReportFormat → String
  | .json => "json"
  | .text => "text"
  | .pretty => "pretty"

/-- All forms. -/
def all : List ReportFormat := [.json, .text, .pretty]

/-- The form of a name, in upper or lower case. No letter outside ASCII has a letter of these names
as its lower case. -/
def parse (text : String) : Except Failure ReportFormat :=
  match all.find? (·.name = text.map Char.toLower) with
  | some format => .ok format
  | none => .error (.validation "format"
      ("invalid output format '" ++ text ++ "' (expected: json, text, or pretty)"))

/-- A report in a form. -/
def render (format : ReportFormat) (color : Bool) (report : Json) : String :=
  match format with
  | .json => report.indented
  | .text => report.compact
  | .pretty => report.sorted.tree color 0

end ReportFormat

end Forwarder
