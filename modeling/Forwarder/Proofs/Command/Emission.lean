import Mathlib.Algebra.GroupWithZero.Nat
import Mathlib.Algebra.Order.BigOperators.Group.List
import Mathlib.Algebra.Order.Group.Nat
import Forwarder.Command.Run
import Forwarder.Proofs.Command.UnitFiles
import Forwarder.Proofs.Snapshot.Agreement

/-!
# Directories that mirror sessions

A command that generates into a directory makes one pass after the other, and after each of them the
directory mirrors the session: the units of the cache are there with their texts, units that are
cached no longer are gone, and no other file has changed. When a snapshot cannot be loaded the
command fails and the disk stays as the passes before have left it; otherwise its exit code tells
whether a candidate has failed.
-/

namespace Forwarder

open Disk CommandT Session

variable {settings : Settings} {occurs : Target → Prop} {directory : String}
  {before disk middle after : Disk} {session next last : Session} {snapshot : Snapshot}
  {token : Cancellation} {report : RunReport} {reports : List RunReport} {inputs : List String}
  {passes : List (Snapshot × RunReport)}

/-! ## Passes -/

/-- Passes over the snapshots of files in which no step fails. They start with a session on a disk,
load a snapshot each and bring a directory up to date with the report of the run over it, and leave
another session on another disk. -/
inductive Passes (directory : String) : Session → Disk → List String →
    List (Snapshot × RunReport) → Session → Disk → Prop where
  /-- There may be no pass at all. -/
  | nil {session : Session} {disk : Disk} : Passes directory session disk [] [] session disk
  /-- A pass comes before others. -/
  | cons {session next last : Session} {disk middle after : Disk} {input : String}
      {inputs : List String} {snapshot : Snapshot} {report : RunReport}
      {passes : List (Snapshot × RunReport)}
      (hload : ((loadSnapshot input).on disk).1 = .ok snapshot)
      (hrun : session.run snapshot .fresh = .ok (report, next))
      (happly : (applyReport directory report).on disk = (.ok (), middle))
      (hrest : Passes directory next middle inputs passes last after) :
      Passes directory session disk (input :: inputs) ((snapshot, report) :: passes) last after

/-- The targets that occur in passes. -/
def occurring (settings : Settings) (passes : List (Snapshot × RunReport)) : List Target :=
  passes.flatMap fun pass => (pass.1.marked settings.markerAttribute).map (·.target)

/-- The names of the units that a run reports, the marker attribute's included. -/
def RunReport.names (report : RunReport) : List UnitName :=
  report.marker.toList.map (·.name) ++ report.outputs.map (·.name)

/-- The paths of all files that may be changed for the sake of reports. -/
def emittedPaths (directory : String) (reports : List RunReport) : List String :=
  reports.flatMap fun report => report.names.flatMap (unitPaths directory)

/-- A directory mirrors a session that has given reports, on a disk that has been another one
before. -/
structure Emitted (settings : Settings) (directory : String) (before : Disk)
    (reports : List RunReport) (session : Session) (disk : Disk) : Prop where
  /-- The file of every cached unit holds its text. -/
  cached : ∀ entry ∈ session.cache.entries,
    disk.readText (Path.join directory entry.2.unit.name) = .ok entry.2.unit.text
  /-- The file of the marker attribute's unit holds its text once there was a pass. -/
  marker : reports ≠ [] →
    disk.readText (Path.join directory settings.markerUnitName) = .ok settings.markerText
  /-- A unit that was reported and is cached no longer has no file. -/
  removed : ∀ report ∈ reports, ∀ output ∈ report.outputs,
    (∀ entry ∈ session.cache.entries, entry.2.unit.name ≠ output.name) →
      disk.isPresent (Path.join directory output.name) = false
  /-- All other files, temporary ones apart, are what they have been. -/
  elsewhere : ∀ place, (∀ path ∈ emittedPaths directory reports, disk.find path ≠ .ok place) →
    disk.fileAt? place = before.fileAt? place

/-! ## Failures -/

/-- At most one candidate of a run fails, and it is counted. -/
theorem failed_of_ran (hfiles : UnitFiles session.settings occurs)
    (hmarked : ∀ type ∈ snapshot.marked session.settings.markerAttribute, occurs type.target)
    (hran : session.Ran (session.examined snapshot token) report next)
    (hbalanced : Balanced session snapshot token report next) :
    report.failures.length ≤ 1 ∧ report.tally.failed.toNat = report.failures.length := by
  have hlength : report.failures.length ≤ 1 := by
    have hnodup := (List.nodup_append.1 hbalanced.once).2.1
    have hsame : ∀ a ∈ report.failures.map (·.target), ∀ b ∈ report.failures.map (·.target),
        a = b := by
      intro a ha b hb
      obtain ⟨hmarkedA, hnameA⟩ := hran.unitName_of_mem_failures ha
      obtain ⟨hmarkedB, hnameB⟩ := hran.unitName_of_mem_failures hb
      obtain ⟨typeA, htypeA, rfl⟩ := List.mem_map.1 hmarkedA
      obtain ⟨typeB, htypeB, rfl⟩ := List.mem_map.1 hmarkedB
      exact hfiles.injective _ _ (hmarked typeA htypeA) (hmarked typeB htypeB)
        (hnameA.trans hnameB.symm)
    rcases hfailures : report.failures with _ | ⟨first, _ | ⟨second, rest⟩⟩
    · simp
    · simp
    · rw [hfailures] at hnodup hsame
      have heq := hsame first.target (by simp) second.target (by simp)
      simp [heq] at hnodup
  refine ⟨hlength, ?_⟩
  rw [hbalanced.failed]
  exact UInt32.toNat_ofNat_of_lt' (Nat.lt_of_le_of_lt hlength (by decide))

/-! ## One pass -/

/-- What passes keep up: the directory follows the mirror of the session, and the disk has changed
for the sake of the reports only. -/
structure Following (settings : Settings) (occurs : Target → Prop) (directory : String)
    (before : Disk) (reports : List RunReport) (session : Session) (disk : Disk) : Prop where
  /-- The reports lead to the session. -/
  history : History settings reports session
  /-- The files follow the mirror. -/
  mirrored : Mirrored settings occurs directory
    (reports.flatMap fun report => report.outputs.map (·.target)) session.mirror disk
  /-- The file of the marker attribute's unit holds its text once there was a pass. -/
  marker : reports ≠ [] →
    disk.readText (Path.join directory settings.markerUnitName) = .ok settings.markerText
  /-- All that was reported has the name of its target. -/
  named : ∀ report ∈ reports, ∀ output ∈ report.outputs,
    output.name = output.target.unitName settings.unitSuffix
  /-- At most one candidate has failed in each pass. -/
  failed : ∀ report ∈ reports,
    report.failures.length ≤ 1 ∧ report.tally.failed.toNat = report.failures.length
  /-- Nothing else has changed. -/
  changed : ChangedAt before (emittedPaths directory reports) disk

/-- The marker attribute's unit is written before the outputs, if it is reported. -/
theorem exists_of_applyReport (h : (applyReport directory report).on disk = (.ok (), after)) :
    ∃ middle, (applyOutputs directory report.outputs).on middle = (.ok (), after) ∧
      (report.marker = none → middle = disk) ∧
      ∀ unit, report.marker = some unit →
        ChangedAt disk (unitPaths directory unit.name) middle ∧
          middle.readText (Path.join directory unit.name) = .ok unit.text := by
  rw [applyReport] at h
  cases hmarker : report.marker with
  | none =>
    rw [hmarker] at h
    exact ⟨disk, h, fun _ => rfl, fun unit hunit => (by cases hunit)⟩
  | some unit =>
    rw [hmarker] at h
    obtain ⟨⟨⟩, middle, hreplace, hrest⟩ := on_bind_eq_ok_iff.1 h
    refine ⟨middle, hrest, fun hnone => (by cases hnone), fun other hother => ?_⟩
    obtain rfl := Option.some.inj hother
    exact changedAt_replaceFile hreplace

namespace Following

/-- A directory that nothing has been emitted into follows a new session. -/
theorem start (hvalid : settings.Valid) (disk : Disk) :
    Following settings occurs directory disk [] (Session.start settings) disk where
  history := .new (create_eq_ok_iff.2 ⟨hvalid, rfl⟩)
  mirrored := .empty disk
  marker hne := absurd rfl hne
  named report hmem := by cases hmem
  failed report hmem := by cases hmem
  changed := .refl disk _

/-- The targets of all outputs of a run occur, if those of the marked types do. -/
theorem occurs_of_mem_outputs
    (h : Following settings occurs directory before reports session disk)
    (hmarked : ∀ type ∈ snapshot.marked settings.markerAttribute, occurs type.target)
    (hrun : session.run snapshot token = .ok (report, next)) {output : ReportedUnit}
    (hmem : output ∈ report.outputs) : occurs output.target := by
  have hran := ran_of_run hrun
  have hcoherent := h.history.reachable.coherentCache
  have hsettings := h.history.reachable.settings_eq.2
  rw [← hsettings] at hcoherent hmarked
  rcases (balanced_of_ran hcoherent hran).mem_of_mem_outputs hran hcoherent hmem with hheld | hnew
  · obtain ⟨entry, hentry⟩ := TargetMap.mem_targets_iff.1 hheld
    have hmirror : session.mirror.get? output.target = some entry.unit.text := by
      rw [Session.mirror, mirrorOf, TargetMap.get?_mapValues, hentry]
      rfl
    exact h.mirrored.held _ _ hmirror
  · obtain ⟨type, htype, heq⟩ := List.mem_map.1 hnew
    exact heq ▸ hmarked type htype

/-- In a pass the marker attribute's unit comes first. After it its file holds its text, be it from
this pass or from the first one, and the other files follow the mirror as before. -/
theorem marked (h : Following settings occurs directory before reports session disk)
    (hrun : session.run snapshot token = .ok (report, next))
    (hnone : report.marker = none → middle = disk)
    (hsome : ∀ unit, report.marker = some unit →
      ChangedAt disk (unitPaths directory unit.name) middle ∧
        middle.readText (Path.join directory unit.name) = .ok unit.text) :
    Mirrored settings occurs directory
        (reports.flatMap fun report => report.outputs.map (·.target)) session.mirror middle ∧
      middle.readText (Path.join directory settings.markerUnitName) = .ok settings.markerText ∧
      ChangedAt disk (report.names.flatMap (unitPaths directory)) middle := by
  have hemitted := h.history.markerEmitted_iff
  have hmarker := (ran_of_run hrun).marker
  rw [h.history.reachable.settings_eq.2] at hmarker
  cases hflag : session.markerEmitted with
  | true =>
    rw [hflag] at hemitted hmarker
    obtain rfl := hnone hmarker
    exact ⟨h.mirrored, h.marker (hemitted.1 rfl), .refl middle _⟩
  | false =>
    rw [hflag] at hemitted hmarker
    obtain ⟨hchanged, hread⟩ := hsome _ hmarker
    -- there was no pass yet, so there is nothing that the files have to follow
    obtain rfl : reports = [] := by
      by_contra hne
      exact absurd (hemitted.2 hne) (by decide)
    have hmirror : session.mirror = .empty := by
      rw [Session.mirror, h.history.cache_eq_empty]
      rfl
    have hmem : settings.markerUnitName ∈ report.names := by
      rw [RunReport.names, hmarker]
      exact List.mem_append_left _ (List.mem_singleton_self _)
    refine ⟨hmirror ▸ .empty middle, hread, hchanged.mono fun path hpath => ?_⟩
    exact List.mem_flatMap.2 ⟨_, hmem, hpath⟩

/-- A directory follows a session through a pass. -/
theorem pass (h : Following settings occurs directory before reports session disk)
    (hfiles : UnitFiles settings occurs)
    (hmarked : ∀ type ∈ snapshot.marked settings.markerAttribute, occurs type.target)
    (hrun : session.run snapshot token = .ok (report, next))
    (happly : (applyReport directory report).on disk = (.ok (), after)) :
    Following settings occurs directory before (reports ++ [report]) next after := by
  obtain ⟨middle, houtputs, hnone, hsome⟩ := exists_of_applyReport happly
  obtain ⟨hmirrored, hread, hchanged⟩ := h.marked hrun hnone hsome
  have hoccurs : ∀ output ∈ report.outputs, occurs output.target := fun output hmem =>
    h.occurs_of_mem_outputs hmarked hrun hmem
  have hran := ran_of_run hrun
  have hcoherent := h.history.reachable.coherentCache
  obtain ⟨-, rfl⟩ := h.history.reachable.settings_eq
  have hreported := (coherent_of_ran hcoherent hran).2
  have hnames : ∀ output ∈ report.outputs,
      output.name = output.target.unitName session.settings.unitSuffix := fun output hmem =>
    (hreported output hmem).name_eq
  obtain ⟨hfollowed, hwritten⟩ := hmirrored.applyOutputs hfiles hoccurs hnames
    (followAll?_ran hcoherent hran) houtputs
  have hapart : middle.Apart (Path.join directory session.settings.markerUnitName)
      (report.outputs.flatMap fun output => unitPaths directory output.name) := by
    intro path hpath
    obtain ⟨output, hmem, hpath⟩ := List.mem_flatMap.1 hpath
    have hunit : IsUnitOf session.settings occurs output.name :=
      Or.inr ⟨output.target, hoccurs output hmem, hnames output hmem⟩
    have hne := (hreported output hmem).name_ne
    exact hfiles.apart (Or.inl rfl) hunit hne middle directory path hpath
  have hwritten' : ChangedAt middle (report.names.flatMap (unitPaths directory)) after := by
    refine hwritten.mono fun path hpath => ?_
    obtain ⟨output, hmem, hpath⟩ := List.mem_flatMap.1 hpath
    have hname : output.name ∈ report.names :=
      List.mem_append_right _ (List.mem_map_of_mem (f := (·.name)) hmem)
    exact List.mem_flatMap.2 ⟨_, hname, hpath⟩
  constructor
  case history => exact h.history.run snapshot token hrun
  case mirrored => simpa using hfollowed
  case marker => exact fun _ => (hwritten.readText_iff hapart).2 hread
  case named =>
    intro other hmem
    rcases List.mem_append.1 hmem with hmem | hmem
    · exact h.named other hmem
    · obtain rfl := List.mem_singleton.1 hmem
      exact hnames
  case failed =>
    intro other hmem
    rcases List.mem_append.1 hmem with hmem | hmem
    · exact h.failed other hmem
    · obtain rfl := List.mem_singleton.1 hmem
      exact failed_of_ran hfiles hmarked hran (balanced_of_ran hcoherent hran)
  case changed =>
    have hpaths : emittedPaths directory (reports ++ [report]) =
        emittedPaths directory reports ++ report.names.flatMap (unitPaths directory) := by
      simp [emittedPaths]
    rw [hpaths]
    exact (h.changed.mono (List.subset_append_left _ _)).trans
      ((hchanged.trans hwritten').mono (List.subset_append_right _ _))

theorem through (h : Following settings occurs directory before reports session disk)
    (hfiles : UnitFiles settings occurs)
    (hpasses : Passes directory session disk inputs passes last after)
    (hoccurs : ∀ target ∈ occurring settings passes, occurs target) :
    Following settings occurs directory before (reports ++ passes.map (·.2)) last after := by
  induction hpasses generalizing reports with
  | nil => simpa using h
  | @cons _ _ _ _ _ _ _ _ snapshot _ passes _ hrun happly _ ih =>
    have hmarked : ∀ type ∈ snapshot.marked settings.markerAttribute, occurs type.target := by
      intro type htype
      apply hoccurs
      rw [occurring, List.flatMap_cons]
      exact List.mem_append_left _ (List.mem_map_of_mem (f := (·.target)) htype)
    have hlater : ∀ target ∈ occurring settings passes, occurs target := by
      intro target htarget
      apply hoccurs
      rw [occurring, List.flatMap_cons]
      exact List.mem_append_right _ htarget
    simpa using ih (h.pass hfiles hmarked hrun happly) hlater

/-- What follows a session mirrors it. -/
theorem emitted (h : Following settings occurs directory before reports session disk) :
    Emitted settings directory before reports session disk := by
  have hcoherent := h.history.reachable.coherentCache
  have hmirror : ∀ target, session.mirror.get? target =
      (session.cache.get? target).map (·.unit.text) := fun target =>
    TargetMap.get?_mapValues session.cache _ target
  have hentry : ∀ entry ∈ session.cache.entries,
      session.cache.get? entry.1 = some entry.2 := fun entry hmem =>
    TargetMap.get?_eq_some_iff.2 hmem
  constructor
  case cached =>
    intro entry hmem
    rw [(hcoherent _ _ (hentry entry hmem)).name_eq]
    apply h.mirrored.present
    rw [hmirror, hentry entry hmem]
    rfl
  case marker => exact h.marker
  case removed =>
    intro report hreport output houtput hgone
    have hname := h.named report hreport output houtput
    rw [hname]
    apply h.mirrored.absent
    · exact List.mem_flatMap.2 ⟨report, hreport, List.mem_map_of_mem (f := (·.target)) houtput⟩
    · rw [hmirror]
      cases hheld : session.cache.get? output.target with
      | none => rfl
      | some entry =>
        have hmem := TargetMap.get?_eq_some_iff.1 hheld
        have hsame : entry.unit.name = output.name := by
          rw [(hcoherent _ _ hheld).name_eq, hname]
        exact absurd hsame (hgone _ hmem)
  case elsewhere =>
    intro place hplace
    have hsame : disk.occupant? place = before.occupant? place :=
      h.changed.elsewhere place fun path hpath hfind =>
        hplace path hpath (h.changed.toSameDirectories.find hfind)
    rw [fileAt?, fileAt?, hsame]

theorem failed_eq (h : Following settings occurs directory before reports session disk) :
    session.totals.failed =
      UInt32.ofNat (reports.map fun report => report.failures.length).sum := by
  have htotals := h.history.get_totals .failed
  have hcounts : (reports.map fun report => (report.tally.get .failed).toNat) =
      reports.map fun report => report.failures.length :=
    List.map_congr_left fun report hmem => (h.failed report hmem).2
  rw [hcounts] at htotals
  exact htotals

theorem failed_eq_zero (h : Following settings occurs directory before reports session disk)
    (hnone : ∀ report ∈ reports, report.failures = []) : session.totals.failed = 0 := by
  have hsum : (reports.map fun report => report.failures.length).sum = 0 := by
    rw [List.sum_eq_zero_iff_forall_eq_nat]
    intro count hcount
    obtain ⟨report, hmem, rfl⟩ := List.mem_map.1 hcount
    rw [hnone report hmem, List.length_nil]
  rw [h.failed_eq, hsum]
  rfl

/-- A failure is not lost in the count, as there is at most one in a pass. -/
theorem failed_ne_zero (h : Following settings occurs directory before reports session disk)
    (hlength : reports.length < UInt32.size) (hsome : ∃ report ∈ reports, report.failures ≠ []) :
    session.totals.failed ≠ 0 := by
  have hle : (reports.map fun report => report.failures.length).sum ≤ reports.length := by
    have hone : ∀ count ∈ reports.map fun report => report.failures.length, count ≤ 1 := by
      intro count hcount
      obtain ⟨report, hmem, rfl⟩ := List.mem_map.1 hcount
      exact (h.failed report hmem).1
    simpa using List.sum_le_card_nsmul _ 1 hone
  have hne : (reports.map fun report => report.failures.length).sum ≠ 0 := by
    intro hzero
    rw [List.sum_eq_zero_iff_forall_eq_nat] at hzero
    obtain ⟨report, hmem, hfailures⟩ := hsome
    have hcount := hzero _ (List.mem_map.2 ⟨report, hmem, rfl⟩)
    exact hfailures (List.length_eq_zero_iff.1 hcount)
  intro hzero
  rw [h.failed_eq] at hzero
  have htoNat := congrArg UInt32.toNat hzero
  rw [UInt32.toNat_ofNat_of_lt' (by omega)] at htoNat
  exact hne htoNat

end Following

/-- The targets that occur in passes are those of types that have names. -/
theorem Passes.isDeclared (h : Passes directory session disk inputs passes last after)
    {target : Target} (hmem : target ∈ occurring settings passes) :
    target.IsDeclared ∧ target.name ≠ "" := by
  induction h with
  | nil => cases hmem
  | @cons _ _ _ _ _ _ _ _ snapshot _ passes hload _ _ _ ih =>
    rw [occurring, List.flatMap_cons] at hmem
    rcases List.mem_append.1 hmem with hmem | hmem
    · obtain ⟨type, htype, rfl⟩ := List.mem_map.1 hmem
      obtain ⟨-, -, -, hvalidate⟩ := loadSnapshot_eq_ok_iff.1 hload
      have hname := (Snapshot.validate_eq_ok_iff.1 hvalidate).types_named type
        (List.mem_filter.1 htype).1
      exact ⟨⟨type, rfl⟩, hname⟩
    · exact ih hmem

theorem Passes.length_eq (h : Passes directory session disk inputs passes last after) :
    passes.length = inputs.length := by
  induction h with
  | nil => rfl
  | cons _ _ _ _ ih => simp [ih]

/-- Passes can be told apart into those up to some point and those from there on. -/
theorem Passes.split (h : Passes directory session disk inputs passes last after) (count : Nat) :
    ∃ next middle,
      Passes directory session disk (inputs.take count) (passes.take count) next middle ∧
      Passes directory next middle (inputs.drop count) (passes.drop count) last after := by
  induction h generalizing count with
  | nil =>
    rw [List.take_nil, List.take_nil, List.drop_nil, List.drop_nil]
    exact ⟨_, _, .nil, .nil⟩
  | cons hload hrun happly hrest ih =>
    cases count with
    | zero => exact ⟨_, _, .nil, .cons hload hrun happly hrest⟩
    | succ count =>
      obtain ⟨next, middle, hfirst, hlater⟩ := ih count
      exact ⟨next, middle, .cons hload hrun happly hfirst, hlater⟩

theorem occurring_take (settings : Settings) (passes : List (Snapshot × RunReport)) (count : Nat) :
    occurring settings (passes.take count) ⊆ occurring settings passes := by
  intro target hmem
  obtain ⟨pass, hpass, htarget⟩ := List.mem_flatMap.1 hmem
  exact List.mem_flatMap.2 ⟨pass, List.mem_of_mem_take hpass, htarget⟩

/-! ## Commands -/

/-- Emission over inputs and more makes the passes over them and goes on from there. -/
theorem Passes.on_emitPasses (h : Passes directory session disk inputs passes last after)
    (more : List String) : ∃ summaries, (emitPasses directory session (inputs ++ more)).on disk =
      match (emitPasses directory last more).on after with
      | (.ok (later, final), done) => (.ok (summaries ++ later, final), done)
      | (.error fault, done) => (.error fault, done) := by
  induction h with
  | @nil session disk =>
    refine ⟨[], ?_⟩
    rw [List.nil_append]
    rcases (emitPasses directory session more).on disk with ⟨fault | ⟨later, final⟩, done⟩ <;> rfl
  | @cons session next last disk middle after input inputs snapshot report passes hload hrun happly
      _ ih =>
    obtain ⟨summaries, hlater⟩ := ih
    have hpass : (emitPass directory session input).on disk =
        (.ok (report.summary input, next), middle) := by
      have hgenerated : (within ("generation failed for " ++ input)
          (ofFailure (session.run snapshot .fresh))).on disk = (.ok (report, next), disk) := by
        rw [on_within_eq_ok_iff, hrun]
        rfl
      rw [emitPass, on_bind_of_ok ((loadSnapshot_reads input).on_eq hload),
        on_bind_of_ok hgenerated, on_bind_of_ok happly, on_pure]
    refine ⟨report.summary input :: summaries, ?_⟩
    rw [List.cons_append, emitPasses, on_bind_of_ok hpass, on_bind, hlater]
    rcases (emitPasses directory last more).on after with ⟨fault | ⟨later, final⟩, done⟩ <;> rfl

/-- A pass that succeeds has loaded a snapshot, run over it and brought the directory up to date. -/
theorem exists_of_emitPass {input : String} {summary : PassReport}
    (h : (emitPass directory session input).on disk = (.ok (summary, next), after)) :
    ∃ snapshot report, ((loadSnapshot input).on disk).1 = .ok snapshot ∧
      session.run snapshot .fresh = .ok (report, next) ∧
      (applyReport directory report).on disk = (.ok (), after) := by
  rw [emitPass] at h
  obtain ⟨snapshot, loaded, hload, hgenerate⟩ := on_bind_eq_ok_iff.1 h
  have hread := loadSnapshot_reads input disk
  rw [hload] at hread
  obtain rfl : loaded = disk := hread
  obtain ⟨⟨report, ran⟩, generated, hgenerated, hupdate⟩ := on_bind_eq_ok_iff.1 hgenerate
  obtain ⟨hrun, rfl⟩ := on_ofFailure_eq_ok_iff.1 (on_within_eq_ok_iff.1 hgenerated)
  obtain ⟨⟨⟩, applied, happly, hsummary⟩ := on_bind_eq_ok_iff.1 hupdate
  obtain ⟨heq, rfl⟩ := Prod.mk.inj hsummary
  obtain ⟨-, rfl⟩ := Prod.mk.inj (Except.ok.inj heq)
  exact ⟨snapshot, report, congrArg Prod.fst hload, hrun, happly⟩

/-- Emission that succeeds has made passes. -/
theorem exists_passes {summaries : List PassReport}
    (h : (emitPasses directory session inputs).on disk = (.ok (summaries, last), after)) :
    ∃ passes, Passes directory session disk inputs passes last after := by
  induction inputs generalizing session disk summaries with
  | nil =>
    obtain ⟨heq, rfl⟩ := Prod.mk.inj h
    obtain ⟨-, rfl⟩ := Prod.mk.inj (Except.ok.inj heq)
    exact ⟨[], .nil⟩
  | cons input rest ih =>
    rw [emitPasses] at h
    obtain ⟨⟨summary, next⟩, middle, hpass, h⟩ := on_bind_eq_ok_iff.1 h
    obtain ⟨⟨later, final⟩, done, hrest, h⟩ := on_bind_eq_ok_iff.1 h
    obtain ⟨heq, rfl⟩ := Prod.mk.inj h
    obtain ⟨-, rfl⟩ := Prod.mk.inj (Except.ok.inj heq)
    obtain ⟨passes, hpasses⟩ := ih hrest
    obtain ⟨snapshot, report, hload, hrun, happly⟩ := exists_of_emitPass hpass
    exact ⟨_, .cons hload hrun happly hpasses⟩

/-- A command that generates makes passes once the settings are loaded and the directory is made. -/
theorem on_generate (format : ReportFormat) (color : Bool) {settingsPath : Option String}
    (hsettings : ((loadSettingsOrDefault settingsPath).on disk).1 = .ok settings)
    (hstart : disk.createDirectories directory = .ok before) (inputs : List String) :
    ((Command.generate inputs directory).run format color settingsPath).on disk =
      match (emitPasses directory (Session.start settings) inputs).on before with
      | (.ok (summaries, last), after) => (.ok ⟨format.render color
          (.array (summaries.map (·.toJson))) ++ "\n", last.totals.failed = 0⟩, after)
      | (.error fault, after) => (.error fault, after) := by
  have hloaded := (loadSettingsOrDefault_reads settingsPath).on_eq hsettings
  have hvalid := valid_of_loadSettingsOrDefault hloaded
  have hcreate : Session.create settings = .ok (Session.start settings) :=
    create_eq_ok_iff.2 ⟨hvalid, rfl⟩
  have hsession : (within "failed to create generator pipeline"
      (ofFailure (Session.create settings))).on disk = (.ok (Session.start settings), disk) := by
    rw [on_within_eq_ok_iff, hcreate]
    rfl
  have hdirectory : (within ("failed to create output directory " ++ directory)
      (ofFault (FileStore.createDirectories directory))).on disk = (.ok (), before) :=
    on_within_eq_ok_iff.2 (on_update_eq_ok_iff.2 hstart)
  rw [Command.run, on_bind_of_ok hloaded, on_bind, emitInto, on_bind_of_ok hsession,
    on_bind_of_ok hdirectory, on_bind]
  rcases (emitPasses directory (Session.start settings) inputs).on before with
    ⟨fault | ⟨summaries, last⟩, after⟩ <;> rfl

/-- When passes have been made over all inputs the command is done. -/
theorem Passes.on_generate
    (h : Passes directory (Session.start settings) before inputs passes last after)
    (format : ReportFormat) (color : Bool) {settingsPath : Option String}
    (hsettings : ((loadSettingsOrDefault settingsPath).on disk).1 = .ok settings)
    (hstart : disk.createDirectories directory = .ok before) : ∃ output,
      ((Command.generate inputs directory).run format color settingsPath).on disk =
        (.ok ⟨output, last.totals.failed = 0⟩, after) := by
  obtain ⟨summaries, hemit⟩ := h.on_emitPasses []
  rw [List.append_nil, emitPasses, on_pure] at hemit
  have hcommand := Forwarder.on_generate format color hsettings hstart inputs
  rw [hemit] at hcommand
  exact ⟨_, hcommand⟩

/-- When the next snapshot cannot be loaded the command fails, and nothing changes any more. -/
theorem Passes.on_generate_of_error
    (h : Passes directory (Session.start settings) before inputs passes last after)
    (format : ReportFormat) (color : Bool) {settingsPath : Option String}
    (hsettings : ((loadSettingsOrDefault settingsPath).on disk).1 = .ok settings)
    (hstart : disk.createDirectories directory = .ok before) {input : String} {fault : CommandFault}
    (hload : ((loadSnapshot input).on after).1 = .error fault) (more : List String) :
    ((Command.generate (inputs ++ input :: more) directory).run format color settingsPath).on disk =
      (.error fault, after) := by
  obtain ⟨summaries, hemit⟩ := h.on_emitPasses (input :: more)
  have hpass : (emitPass directory last input).on after = (.error fault, after) :=
    on_bind_of_error ((loadSnapshot_reads input).on_eq hload)
  have hstop : (emitPasses directory last (input :: more)).on after = (.error fault, after) :=
    on_bind_of_error hpass
  rw [hstop] at hemit
  rw [Forwarder.on_generate format color hsettings hstart, hemit]

/-- A directory that a command generates into mirrors the session after each pass, as long as the
units of the marked types have plain names, a different one for each target, and no operation on
files fails. If all snapshots can be loaded, and there are not more of them than a counter can hold,
the command exits with 1 or 0, according to whether a candidate has failed. If one of them cannot be
loaded the command fails, and the disk is as the passes before have left it. -/
theorem emitted_of_passes (format : ReportFormat) (color : Bool) {settingsPath : Option String}
    (hsettings : ((loadSettingsOrDefault settingsPath).on disk).1 = .ok settings)
    (hstart : disk.createDirectories directory = .ok before)
    (hpasses : Passes directory (Session.start settings) before inputs passes last after)
    (hplain : ∀ target ∈ occurring settings passes,
      Path.IsPlain (target.unitName settings.unitSuffix))
    (hdistinct : ∀ a ∈ occurring settings passes, ∀ b ∈ occurring settings passes,
      a.unitName settings.unitSuffix = b.unitName settings.unitSuffix → a = b) :
    (∀ count, ∃ session middle,
      Passes directory (Session.start settings) before (inputs.take count) (passes.take count)
        session middle ∧
      Passes directory session middle (inputs.drop count) (passes.drop count) last after ∧
      Emitted settings directory disk ((passes.take count).map (·.2)) session middle) ∧
    (∃ report, ((Command.generate inputs directory).run format color settingsPath).on disk =
        (.ok report, after) ∧
      ((∀ pass ∈ passes, pass.2.failures = []) → report.exitCode = 0) ∧
      (inputs.length < UInt32.size → (∃ pass ∈ passes, pass.2.failures ≠ []) →
        report.exitCode = 1)) ∧
    ∀ input more fault, ((loadSnapshot input).on after).1 = .error fault →
      ((Command.generate (inputs ++ input :: more) directory).run format color settingsPath).on
        disk = (.error fault, after) := by
  have hvalid := valid_of_loadSettingsOrDefault
    ((loadSettingsOrDefault_reads settingsPath).on_eq hsettings)
  have hfiles : UnitFiles settings (· ∈ occurring settings passes) :=
    ⟨hvalid, fun target htarget => hpasses.isDeclared htarget, hplain,
      fun a b ha hb => hdistinct a ha b hb⟩
  have hfollowing : Following settings (· ∈ occurring settings passes) directory before []
      (Session.start settings) before := .start hvalid before
  refine ⟨fun count => ?_, ?_, fun input more fault hload => ?_⟩
  · obtain ⟨session, middle, hfirst, hrest⟩ := hpasses.split count
    have hemitted := (hfollowing.through hfiles hfirst fun target hmem =>
      occurring_take settings passes count hmem).emitted
    refine ⟨session, middle, hfirst, hrest, { hemitted with elsewhere := fun place hplace => ?_ }⟩
    rw [hemitted.elsewhere place hplace, fileAt?_createDirectories hstart]
  · have hlast := hfollowing.through hfiles hpasses fun target hmem => hmem
    rw [List.nil_append] at hlast
    obtain ⟨output, hcommand⟩ := hpasses.on_generate format color hsettings hstart
    refine ⟨_, hcommand, fun hnone => ?_, fun hlength hsome => ?_⟩
    · have hzero : last.totals.failed = 0 := hlast.failed_eq_zero fun report hmem => by
        obtain ⟨pass, hpass, rfl⟩ := List.mem_map.1 hmem
        exact hnone pass hpass
      simp [CommandReport.exitCode, hzero]
    · have hpassed : (passes.map (·.2)).length < UInt32.size := by
        rw [List.length_map, hpasses.length_eq]
        exact hlength
      obtain ⟨pass, hpass, hfailures⟩ := hsome
      have hne : last.totals.failed ≠ 0 :=
        hlast.failed_ne_zero hpassed ⟨pass.2, List.mem_map_of_mem hpass, hfailures⟩
      simp [CommandReport.exitCode, hne]
  · exact hpasses.on_generate_of_error format color hsettings hstart hload more

/-- A working directory with two snapshots, and a directory in which a file is out of date. -/
def storeDisk : Disk where
  entries := [(["work"], .directory), (["work", "out"], .directory),
    (["work", "out", "Shop.StoreDecorator.g.cs"], .file "stale"),
    (["work", "shop.json"], .file storeSnapshot.toJson.compact),
    (["work", "closed.json"], .file (Snapshot.toJson ⟨[], []⟩).compact)]
  home := ["work"]

theorem load_storeSnapshot : ((loadSnapshot "shop.json").on storeDisk).1 = .ok storeSnapshot := by
  have hread : storeDisk.readText "shop.json" = .ok storeSnapshot.toJson.compact :=
    readText_eq_ok_iff.2 ⟨["work", "shop.json"], by decide +kernel, rfl⟩
  have hparse :
      Json.ofDocument Snapshot.reader storeSnapshot.toJson.compact = .ok storeSnapshot := by
    rw [Json.ofDocument, Json.parse?, Json.compact, String.toList_ofList]
    decide +kernel
  exact loadSnapshot_eq_ok_iff.2 ⟨_, hread, hparse, by decide +kernel⟩

theorem passes_storeDisk : ∃ first second last after,
    Passes "out" (Session.start .default) storeDisk ["shop.json", "closed.json"]
      [(storeSnapshot, first), (⟨[], []⟩, second)] last after ∧
    first.failures = [] ∧ second.failures = [] := by
  obtain ⟨first, next, hfirst, -⟩ := (Session.start .default).run_eq storeSnapshot .fresh
  obtain ⟨second, last, hsecond, -⟩ := next.run_eq ⟨[], []⟩ .fresh
  have hsteps : (((Session.start .default).run storeSnapshot .fresh).toOption.bind fun first =>
      (first.2.run ⟨[], []⟩ .fresh).toOption.map fun second =>
        let middle := (applyReport "out" first.1).on storeDisk
        let after := (applyReport "out" second.1).on middle.2
        (middle.1.toOption.isSome && after.1.toOption.isSome,
          ((loadSnapshot "closed.json").on middle.2).1.toOption,
          first.1.failures ++ second.1.failures)) = some (true, some ⟨[], []⟩, []) := by
    decide +kernel
  simp only [Except.toOption, hfirst, hsecond, Option.bind_some, Option.map_some, Option.some.injEq,
    Prod.mk.injEq, Bool.and_eq_true, List.append_eq_nil_iff] at hsteps
  obtain ⟨⟨happlied, happlied'⟩, hclosed, hnone, hnone'⟩ := hsteps
  rcases happly : (applyReport "out" first).on storeDisk with ⟨fault | ⟨⟩, middle⟩
  · simp [happly] at happlied
  rw [happly] at happlied' hclosed
  rcases happly' : (applyReport "out" second).on middle with ⟨fault | ⟨⟩, after⟩
  · simp [happly'] at happlied'
  have hload : ((loadSnapshot "closed.json").on middle).1 = .ok ⟨[], []⟩ := by
    split at hclosed
    · rename_i snapshot heq
      rw [heq, Option.some.inj hclosed]
    · cases hclosed
  exact ⟨first, second, last, after, .cons load_storeSnapshot hfirst happly
    (.cons hload hsecond happly' .nil), hnone, hnone'⟩

/-- The type of the first snapshot is gone in the second one. Its file, which was out of date, is
there with its text after the first pass and gone after the second. -/
theorem emitted_of_passes_store : ∃ passes last after,
    Passes "out" (Session.start .default) storeDisk ["shop.json", "closed.json"] passes last after ∧
    occurring .default passes = [storeTarget] ∧
    (∀ count, ∃ session disk,
      Passes "out" (Session.start .default) storeDisk (["shop.json", "closed.json"].take count)
        (passes.take count) session disk ∧
      Emitted .default "out" storeDisk ((passes.take count).map (·.2)) session disk) ∧
    ∃ report, ((Command.generate ["shop.json", "closed.json"] "out").run .pretty false none).on
      storeDisk = (.ok report, after) ∧ report.exitCode = 0 := by
  obtain ⟨first, second, last, after, hpasses, hfirst, hsecond⟩ := passes_storeDisk
  have hmarked : (storeSnapshot.marked Settings.default.markerAttribute).map (·.target) =
      [storeTarget] := by
    decide +kernel
  have hoccurring : occurring .default [(storeSnapshot, first), (⟨[], []⟩, second)] =
      [storeTarget] := by
    show (storeSnapshot.marked Settings.default.markerAttribute).map (·.target) ++ [] = _
    rw [hmarked, List.append_nil]
  have hplain : Path.IsPlain (storeTarget.unitName Settings.default.unitSuffix) := by
    decide +kernel
  have hsettings : ((loadSettingsOrDefault none).on storeDisk).1 = .ok .default := rfl
  have hstart : storeDisk.createDirectories "out" = .ok storeDisk := rfl
  obtain ⟨hemitted, ⟨report, hcommand, hclean, -⟩, -⟩ := emitted_of_passes .pretty false hsettings
    hstart hpasses
    (fun target hmem => by
      rw [hoccurring] at hmem
      exact List.mem_singleton.1 hmem ▸ hplain)
    (fun a ha b hb _ => by
      rw [hoccurring] at ha hb
      rw [List.mem_singleton.1 ha, List.mem_singleton.1 hb])
  refine ⟨_, last, after, hpasses, hoccurring, fun count => ?_, report, hcommand, hclean ?_⟩
  · obtain ⟨session, disk, hpassed, -, hmirrors⟩ := hemitted count
    exact ⟨session, disk, hpassed, hmirrors⟩
  · simp [hfirst, hsecond]

end Forwarder
