import Forwarder.Analysis
import Forwarder.Report.Style

/-!
# Analysis reports for people

One line for each diagnostic, as compilers write them, and a last line with the counts.
-/

namespace Forwarder

/-- The style of a severity. -/
def Severity.style : Severity → Style
  | .warning => .boldYellow
  | .error => .boldRed

/-- A diagnostic as one line, in colour or not. -/
def Diagnostic.line (color : Bool) (diagnostic : Diagnostic) : String :=
  Style.dimmed.apply color diagnostic.location.display ++ ": " ++
    diagnostic.severity.style.apply color diagnostic.severity.name ++ " " ++
    Style.bold.apply color diagnostic.id ++ ": " ++ diagnostic.message

/-- The counts of a report. -/
def Analysis.counts (report : Analysis) : String :=
  toString report.typeCount.toNat ++ " type(s) analyzed: " ++
    toString (report.severityCount .error) ++ " error(s), " ++
    toString (report.severityCount .warning) ++ " warning(s)"

/-- A report as lines. -/
def Analysis.lines (color : Bool) (report : Analysis) : String :=
  let style : Style := if report.isClean then .green else .boldRed
  "\n".intercalate (report.diagnostics.map (·.line color) ++ [style.apply color report.counts])

end Forwarder
