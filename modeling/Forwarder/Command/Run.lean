import Forwarder.Analysis.Lines
import Forwarder.Analysis.Json
import Forwarder.Command.Emission
import Forwarder.CommandLine
import Forwarder.Inspection
import Forwarder.Report.Format

/-!
# Running commands

What each command prints and whether it is content with what it found. The settings are loaded
first, then the snapshots. Nothing is printed by a command that fails.
-/

namespace Forwarder

/-- What a command that did not fail leaves behind. -/
structure CommandReport where
  /-- What is to be printed, line break included. -/
  output : String
  /-- Whether nothing was found to be wrong. -/
  isClean : Bool
  deriving DecidableEq, Repr

/-- The exit code of a command that did not fail. -/
def CommandReport.exitCode (report : CommandReport) : Nat := if report.isClean then 0 else 1

/-- The exit code of a command that failed. -/
def CommandFault.exitCode (_ : CommandFault) : Nat := 1

variable {m : Type → Type} [Monad m] [FileStore m]

/-- Runs a command with the output in some form. -/
def Command.run (format : ReportFormat) (color : Bool) (settingsPath : Option String) :
    Command → CommandT m CommandReport
  | .generate inputs directory => do
    let settings ← loadSettingsOrDefault settingsPath
    let (summaries, isClean) ← emitInto settings directory inputs
    return ⟨format.render color (.array (summaries.map (·.toJson))) ++ "\n", isClean⟩
  | .analyze input => do
    let settings ← loadSettingsOrDefault settingsPath
    let snapshot ← loadSnapshot input
    let report := Analysis.ofSnapshot settings snapshot
    let output := match format with
      | .pretty => report.lines color
      | _ => format.render color report.toJson
    return ⟨output ++ "\n", report.isClean⟩
  | .inspect input => do
    let settings ← loadSettingsOrDefault settingsPath
    let snapshot ← loadSnapshot input
    let entries := inspection settings snapshot
    return ⟨format.render color (.array (entries.map (·.toJson))) ++ "\n", true⟩

/-- Runs what a command line asks for. -/
def Invocation.run (color : Bool) (invocation : Invocation) : CommandT m CommandReport := do
  let format ← CommandT.ofFailure (ReportFormat.parse invocation.format)
  invocation.command.run format color invocation.settings

end Forwarder
