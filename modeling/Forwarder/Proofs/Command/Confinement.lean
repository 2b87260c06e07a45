import Forwarder.Proofs.Command.Emission

/-!
# Emission into one directory only

The name of a unit is what a snapshot and the settings make it: dotted names joined by a dot, and a
suffix. It is never empty and never leads up by itself, so only a slash in it can make it anything
but the name of a file. While there is none, a command that generates changes nothing but files that
stand in its directory, whether it succeeds or not. Validation does not look for slashes, though,
and then emission leaves the directory.
-/

namespace Forwarder

open Disk CommandT Session

variable {settings : Settings} {directory input : String} {before disk middle after : Disk}
  {place root : Place} {session next last : Session} {snapshot : Snapshot} {token : Cancellation}
  {report : RunReport} {read inputs : List String} {passes : List (Snapshot × RunReport)}

/-! ## Files in a directory -/

namespace Disk

/-- What is above a directory is a directory, and the working directory is one. -/
structure IsRooted (disk : Disk) : Prop where
  /-- The working directory is a directory. -/
  home : disk.occupant? disk.home = some .directory
  /-- A directory stands in a directory. -/
  above : ∀ place, disk.occupant? place = some .directory →
    disk.occupant? place.dropLast = some .directory

/-- A place is that of a name in the directory that a path leads to. -/
def IsWithin (disk : Disk) (directory : String) (place : Place) : Prop :=
  ∃ root name, disk.descend (disk.startOf directory) (Path.components directory) = .ok root ∧
    Path.IsPlain name ∧ place = root ++ [name]

/-- A disk has come to be from another one by changes to files in a directory. -/
structure ChangedWithin (before : Disk) (path : String) (after : Disk) : Prop
    extends SameDirectories before after where
  /-- Everywhere else there is what has been there. -/
  elsewhere : ∀ place, ¬ before.IsWithin path place →
    after.occupant? place = before.occupant? place

theorem SameDirectories.isRooted (h : SameDirectories before after) (hrooted : before.IsRooted) :
    after.IsRooted where
  home := by
    rw [h.home]
    exact (h.directory _).2 hrooted.home
  above place hplace := (h.directory _).2 (hrooted.above place ((h.directory place).1 hplace))

theorem SameDirectories.isWithin (h : SameDirectories before after)
    (hplace : after.IsWithin directory place) : before.IsWithin directory place := by
  obtain ⟨root, name, hroot, hname, rfl⟩ := hplace
  have hstart : after.startOf directory = before.startOf directory := by
    rw [startOf, startOf, h.home]
  rw [hstart] at hroot
  exact ⟨root, name, h.symm.descend hroot, hname, rfl⟩

namespace ChangedWithin

theorem refl (disk : Disk) (directory : String) : ChangedWithin disk directory disk :=
  ⟨.refl disk, fun _ _ => rfl⟩

theorem trans (hfirst : ChangedWithin before directory middle)
    (hnext : ChangedWithin middle directory after) : ChangedWithin before directory after := by
  refine ⟨hfirst.toSameDirectories.trans hnext.toSameDirectories, fun place hplace => ?_⟩
  have hmiddle : ¬ middle.IsWithin directory place := fun h =>
    hplace (hfirst.toSameDirectories.isWithin h)
  rw [hnext.elsewhere place hmiddle, hfirst.elsewhere place hplace]

end ChangedWithin

namespace IsRooted

/-- It suffices to look at the directories that a disk lists. -/
theorem of_entries (hhome : disk.occupant? disk.home = some .directory)
    (habove : ∀ entry ∈ disk.entries, entry.2 = .directory →
      disk.occupant? entry.1.dropLast = some .directory) : disk.IsRooted := by
  refine ⟨hhome, fun place hplace => ?_⟩
  rw [occupant?] at hplace
  split at hplace
  · rename_i hnil
    rw [hnil]
    exact occupant?_nil disk
  · obtain ⟨before, after, hentries, -⟩ := List.lookup_eq_some_iff.1 hplace
    refine habove (place, .directory) ?_ rfl
    rw [hentries]
    exact List.mem_append_right _ List.mem_cons_self

/-- Descending from a directory leads to a directory. -/
theorem descend_eq_ok {components : List String} (hplace : disk.occupant? place = some .directory)
    (h : disk.descend place components = .ok root) : disk.occupant? root = some .directory := by
  induction components generalizing place with
  | nil =>
    obtain rfl := Except.ok.inj h
    exact hplace
  | cons component rest ih =>
    obtain ⟨next, -, hnext, hrest⟩ := descend_cons_eq_ok_iff.1 h
    exact ih hnext hrest

theorem startOf (h : disk.IsRooted) (path : String) :
    disk.occupant? (disk.startOf path) = some .directory := by
  rw [Disk.startOf]
  split
  · exact occupant?_nil disk
  · exact h.home

/-- Where a component leads to from a directory there is a directory, or else the component is a
name there. -/
theorem eq_of_step (h : disk.IsRooted) {name : String}
    (hroot : disk.occupant? root = some .directory) (hstep : step root name = .ok place)
    (hplace : disk.occupant? place ≠ some .directory) :
    name ≠ ".." ∧ place = root ++ [name] := by
  have hname : name ≠ ".." := by
    rintro rfl
    rw [step, if_pos rfl] at hstep
    obtain rfl := Except.ok.inj hstep
    exact hplace (h.above root hroot)
  exact ⟨hname, Disk.eq_of_step hname hstep⟩

/-- A new directory stands in a directory, and the others stay. -/
theorem createDirectory (h : disk.IsRooted) {components : List String}
    (hplace : disk.occupant? place = some .directory)
    (hcreate : disk.createDirectory place components = .ok after) :
    after.IsRooted ∧ after.occupant? place = some .directory := by
  obtain ⟨made, hlocate, hmade, rfl⟩ := exists_of_createDirectory hcreate
  have hfree : disk.occupant? made ≠ some .directory := by
    simp [hmade]
  have hkept : ∀ other, disk.occupant? other = some .directory →
      (disk.put made .directory).occupant? other = some .directory := by
    intro other hother
    rw [occupant?_put disk (ne_nil_of_occupant? hfree)]
    split
    · rfl
    · exact hother
  refine ⟨⟨hkept _ h.home, fun other hother => ?_⟩, hkept place hplace⟩
  rw [occupant?_put disk (ne_nil_of_occupant? hfree)] at hother
  split at hother
  · rename_i heq
    subst heq
    rcases List.eq_nil_or_concat components with rfl | ⟨above, last, rfl⟩
    · obtain rfl : place = other := Except.ok.inj hlocate
      exact absurd hplace hfree
    · rw [List.concat_eq_append, locate_append_singleton, bind_eq_ok_iff] at hlocate
      obtain ⟨root, hroot, hstep⟩ := hlocate
      have hdirectory := descend_eq_ok hplace hroot
      obtain ⟨-, rfl⟩ := h.eq_of_step hdirectory hstep hfree
      rw [List.dropLast_concat]
      exact hkept root hdirectory
  · exact hkept _ (h.above other hother)

theorem createAll (h : disk.IsRooted) {components : List String}
    (hplace : disk.occupant? place = some .directory)
    (hcreate : disk.createAll place components = .ok after) :
    after.IsRooted ∧ after.occupant? place = some .directory := by
  induction components generalizing after with
  | nil =>
    obtain rfl := Except.ok.inj hcreate
    exact ⟨h, hplace⟩
  | cons last rest ih =>
    rw [Disk.createAll] at hcreate
    split at hcreate
    · rename_i made hmade
      obtain rfl := Except.ok.inj hcreate
      exact h.createDirectory hplace hmade
    · -- what is above it is made first
      obtain ⟨above, habove, hcreate⟩ := bind_eq_ok_iff.1 hcreate
      obtain ⟨hrooted, hplace'⟩ := ih habove
      split at hcreate
      · rename_i made hmade
        obtain rfl := Except.ok.inj hcreate
        exact hrooted.createDirectory hplace' hmade
      · split at hcreate
        · obtain rfl := Except.ok.inj hcreate
          exact ⟨hrooted, hplace'⟩
        · cases hcreate
    · split at hcreate
      · obtain rfl := Except.ok.inj hcreate
        exact ⟨h, hplace⟩
      · cases hcreate

theorem createDirectories (h : disk.IsRooted) {path : String}
    (hcreate : disk.createDirectories path = .ok after) : after.IsRooted := by
  rw [Disk.createDirectories] at hcreate
  split at hcreate
  · obtain rfl := Except.ok.inj hcreate
    exact h
  · obtain ⟨⟨⟩, -, hcreate⟩ := bind_eq_ok_iff.1 hcreate
    exact (h.createAll (h.startOf path) hcreate).1

end IsRooted

/-! ## Changes at the paths of plain names -/

/-- Changes at the paths of names of files in a directory, temporary ones included, are changes in
that directory. A temporary name may lead up, but there is a directory there, and that stays. -/
theorem ChangedAt.changedWithin {names : List UnitName} (hrooted : before.IsRooted)
    (hplain : ∀ name ∈ names, Path.IsPlain name)
    (h : ChangedAt before (names.flatMap (unitPaths directory)) after) :
    ChangedWithin before directory after := by
  refine ⟨h.toSameDirectories, fun place hplace => ?_⟩
  by_cases hheld : before.occupant? place = some .directory
  · rw [hheld, (h.directory place).2 hheld]
  · refine h.elsewhere place fun path hpath hfind => hplace ?_
    obtain ⟨name, hname, hpath⟩ := List.mem_flatMap.1 hpath
    have hcomponent : ∃ other, Path.IsComponent other ∧ path = Path.join directory other := by
      rcases List.mem_cons.1 hpath with rfl | hpath
      · exact ⟨name, (hplain name hname).toIsComponent, rfl⟩
      · obtain rfl := List.mem_singleton.1 hpath
        exact ⟨_, (hplain name hname).isComponent_temporary,
          Path.temporary_join directory (hplain name hname)⟩
    obtain ⟨other, hother, rfl⟩ := hcomponent
    obtain ⟨root, hroot, hstep⟩ := exists_of_find_join hother hfind
    have hdirectory := IsRooted.descend_eq_ok (hrooted.startOf directory) hroot
    obtain ⟨hne, rfl⟩ := hrooted.eq_of_step hdirectory hstep hheld
    exact ⟨root, other, hroot, ⟨hother, hne⟩, rfl⟩

end Disk

/-! ## What emission touches -/

theorem applyOutput_touches (directory : String) (output : ReportedUnit) :
    Touches (unitPaths directory output.name)
      (applyOutput (m := StateM Disk) directory output) := by
  have hreplace := replaceFile_touches (Path.join directory output.name) output.text
  rw [applyOutput]
  cases output.status with
  | new | modified => exact hreplace
  | cached =>
    refine .bind (Reads.touches (fun disk => rfl) _) fun present => ?_
    cases present with
    | true => exact (Reads.pure ()).touches _
    | false => exact hreplace
  | removed =>
    refine .bind ((removeIfPresent_touches _).mono ?_) fun _ => (Reads.pure ()).touches _
    simp [unitPaths]

/-- Bringing a directory up to date touches the paths of the units that are reported. -/
theorem applyReport_touches (directory : String) (report : RunReport) :
    Touches (report.names.flatMap (unitPaths directory))
      (applyReport (m := StateM Disk) directory report) := by
  have houtputs : ∀ outputs : List ReportedUnit,
      Touches ((outputs.map (·.name)).flatMap (unitPaths directory))
        (applyOutputs (m := StateM Disk) directory outputs) := by
    intro outputs
    induction outputs with
    | nil => exact (Reads.pure ()).touches _
    | cons output rest ih =>
      rw [List.map_cons, List.flatMap_cons]
      exact ((applyOutput_touches directory output).mono (List.subset_append_left _ _)).bind
        fun _ => ih.mono (List.subset_append_right _ _)
  rw [RunReport.names, List.flatMap_append, applyReport]
  cases report.marker with
  | none => exact houtputs report.outputs
  | some marker =>
    have hmarker := replaceFile_touches (Path.join directory marker.name) marker.text
    exact (hmarker.mono (List.subset_append_left _ _)).bind
      fun _ => (houtputs report.outputs).mono (List.subset_append_right _ _)

/-! ## Names of units -/

/-- No marked type of a snapshot has a slash in its dotted name. -/
def HasFlatNames (settings : Settings) (snapshot : Snapshot) : Prop :=
  ∀ type ∈ snapshot.marked settings.markerAttribute, '/' ∉ type.target.display.toList

/-- The name of a unit has no slash if neither its suffix nor the dotted name of its target has. -/
theorem IsUnitOf.slash_not_mem {occurs : Target → Prop} {name : UnitName}
    (h : IsUnitOf settings occurs name) (hvalid : settings.Valid)
    (hsuffix : '/' ∉ settings.unitSuffix.toList)
    (hoccurs : ∀ target, occurs target → target.IsDeclared ∧ '/' ∉ target.display.toList) :
    '/' ∉ name.toList := by
  rcases h with rfl | ⟨target, htarget, rfl⟩
  · exact (hvalid.isPlain_markerUnitName hsuffix).slash_not_mem
  · obtain ⟨hdeclared, hslash⟩ := hoccurs target htarget
    rw [hdeclared.unitName_eq, String.toList_append, List.mem_append]
    rintro (hmem | hmem)
    · exact hslash hmem
    · exact hsuffix hmem

/-- The name of a unit of a type that has a name has three characters at least. -/
theorem IsUnitOf.isPlain_iff {occurs : Target → Prop} {name : UnitName}
    (h : IsUnitOf settings occurs name) (hvalid : settings.Valid)
    (hoccurs : ∀ target, occurs target → target.IsDeclared ∧ target.name ≠ "") :
    Path.IsPlain name ↔ '/' ∉ name.toList := by
  obtain ⟨stem, hstem, rfl⟩ := h.exists_stem hvalid hoccurs
  have hsuffix : 2 ≤ settings.unitSuffix.length := by
    obtain ⟨-, -, -, hsuffix⟩ := hvalid
    rw [Settings.isUnitSuffix] at hsuffix
    split at hsuffix
    · rename_i hlist
      rw [← String.length_toList, hlist]
      simp
    · cases hsuffix
  have hlength : stem.length ≠ 0 := fun hzero => hstem (String.length_eq_zero_iff.1 hzero)
  apply Path.isPlain_iff_of_three_le
  rw [String.length_append]
  omega

namespace Session

variable {accepts : Snapshot → Prop}

/-- The targets that are cached or belong to marked types. -/
def Concerns (session : Session) (snapshot : Snapshot) (target : Target) : Prop :=
  target ∈ session.cache.targets ∨
    target ∈ (snapshot.marked session.settings.markerAttribute).map (·.target)

/-- What holds of the marked types of all snapshots holds of all targets that a run concerns. -/
theorem ReachableOver.forall_concerned {property : Target → Prop}
    (h : ReachableOver settings accepts session) (haccepts : accepts snapshot)
    (hmarked : ∀ snapshot, accepts snapshot →
      ∀ type ∈ snapshot.marked settings.markerAttribute, property type.target) :
    ∀ target, session.Concerns snapshot target → property target := by
  rintro target (hcached | hnew)
  · exact h.forall_targets hmarked target hcached
  · rw [h.reachable.settings_eq.2] at hnew
    obtain ⟨type, htype, rfl⟩ := List.mem_map.1 hnew
    exact hmarked snapshot haccepts type htype

theorem forall_named_of_validate (hvalidate : snapshot.validate = .ok ()) (marker : String) :
    ∀ type ∈ snapshot.marked marker, type.target.IsDeclared ∧ type.target.name ≠ "" := by
  intro type hmem
  have htype : type ∈ snapshot.types := (List.mem_filter.1 hmem).1
  exact ⟨⟨type, rfl⟩, (Snapshot.validate_eq_ok_iff.1 hvalidate).types_named type htype⟩

/-- A name that a run reports is that of the marker attribute's unit or of the unit of a target that
the run concerns. -/
theorem Ran.isUnitOf (hran : session.Ran (session.examined snapshot token) report next)
    (hcoherent : CoherentCache session.settings session.cache) {name : UnitName}
    (hmem : name ∈ report.names) :
    IsUnitOf session.settings (session.Concerns snapshot) name := by
  rw [RunReport.names] at hmem
  rcases List.mem_append.1 hmem with hmarker | houtput
  · rw [hran.marker] at hmarker
    left
    split at hmarker
    · cases hmarker
    · exact List.mem_singleton.1 hmarker
  · right
    obtain ⟨output, hreported, rfl⟩ := List.mem_map.1 houtput
    refine ⟨output.target, ?_, ((coherent_of_ran hcoherent hran).2 output hreported).name_eq⟩
    exact (balanced_of_ran hcoherent hran).mem_of_mem_outputs hran hcoherent hreported

/-- Only a slash can make a name that is reported anything but the name of a file, and there is none
as long as the suffix and the dotted names of all marked types are free of it. -/
theorem isPlain_iff_of_run (h : ReachableOver settings accepts session)
    (haccepts : accepts snapshot)
    (hvalidate : ∀ snapshot, accepts snapshot → snapshot.validate = .ok ())
    (hrun : session.run snapshot token = .ok (report, next)) :
    (∀ name ∈ report.names, (Path.IsPlain name ↔ '/' ∉ name.toList)) ∧
    ('/' ∉ settings.unitSuffix.toList →
      (∀ snapshot, accepts snapshot → HasFlatNames settings snapshot) →
        ∀ name ∈ report.names, Path.IsPlain name) := by
  have hcoherent := h.reachable.coherentCache
  obtain ⟨hvalid, rfl⟩ := h.reachable.settings_eq
  have hnamed : ∀ target, session.Concerns snapshot target →
      target.IsDeclared ∧ target.name ≠ "" :=
    h.forall_concerned haccepts fun snapshot haccepts =>
      forall_named_of_validate (hvalidate snapshot haccepts) _
  have hunit : ∀ name ∈ report.names,
      IsUnitOf session.settings (session.Concerns snapshot) name := fun name hmem =>
    (ran_of_run hrun).isUnitOf hcoherent hmem
  have hplain : ∀ name ∈ report.names, (Path.IsPlain name ↔ '/' ∉ name.toList) :=
    fun name hmem => (hunit name hmem).isPlain_iff hvalid hnamed
  refine ⟨hplain, fun hsuffix hflat name hmem => (hplain name hmem).2 ?_⟩
  have hslash : ∀ target, session.Concerns snapshot target → '/' ∉ target.display.toList :=
    h.forall_concerned haccepts hflat
  exact (hunit name hmem).slash_not_mem hvalid hsuffix fun target htarget =>
    ⟨(hnamed target htarget).1, hslash target htarget⟩

end Session

/-! ## Whole commands -/

/-- Snapshots that can be loaded and that have no slashes in the names of their marked types. -/
def IsTame (settings : Settings) (snapshot : Snapshot) : Prop :=
  snapshot.validate = .ok () ∧ HasFlatNames settings snapshot

/-- As far as emission gets, every snapshot that it loads has no slashes in the names of marked
types. -/
def LoadsFlat (settings : Settings) (directory : String) (session : Session) (disk : Disk)
    (inputs : List String) : Prop :=
  ∀ read input rest passes last middle snapshot, inputs = read ++ input :: rest →
    Passes directory session disk read passes last middle →
    ((loadSnapshot input).on middle).1 = .ok snapshot → HasFlatNames settings snapshot

theorem LoadsFlat.tail {rest : List String}
    (h : LoadsFlat settings directory session disk (input :: rest))
    (hload : ((loadSnapshot input).on disk).1 = .ok snapshot)
    (hrun : session.run snapshot .fresh = .ok (report, next))
    (happly : (applyReport directory report).on disk = (.ok (), middle)) :
    LoadsFlat settings directory next middle rest := by
  rintro read other later passes last after loaded rfl hpasses hloaded
  exact h (input :: read) other later _ last after loaded rfl
    (.cons hload hrun happly hpasses) hloaded

/-- A pass changes nothing but files in the directory, wherever it ends. -/
theorem changedWithin_emitPass (hreach : ReachableOver settings (IsTame settings) session)
    (hsuffix : '/' ∉ settings.unitSuffix.toList) (hrooted : disk.IsRooted)
    (hflat : ∀ snapshot, ((loadSnapshot input).on disk).1 = .ok snapshot →
      HasFlatNames settings snapshot) :
    ChangedWithin disk directory ((emitPass directory session input).on disk).2 := by
  rw [emitPass]
  cases hloaded : ((loadSnapshot input).on disk).1 with
  | error fault =>
    rw [on_bind_of_error ((loadSnapshot_reads input).on_eq hloaded)]
    exact .refl disk directory
  | ok snapshot =>
    obtain ⟨-, -, -, hvalidate⟩ := loadSnapshot_eq_ok_iff.1 hloaded
    have htame : IsTame settings snapshot := ⟨hvalidate, hflat snapshot hloaded⟩
    obtain ⟨report, next, hrun, -⟩ := session.run_eq snapshot .fresh
    obtain ⟨-, hplain⟩ := isPlain_iff_of_run hreach htame (fun _ h => h.1) hrun
    have hchanged : ChangedWithin disk directory ((applyReport directory report).on disk).2 :=
      (applyReport_touches directory report disk).changedWithin hrooted
        (hplain hsuffix fun _ h => h.2)
    have hgenerated : (within ("generation failed for " ++ input)
        (ofFailure (session.run snapshot .fresh))).on disk = (.ok (report, next), disk) := by
      rw [on_within_eq_ok_iff, hrun]
      rfl
    rw [on_bind_of_ok ((loadSnapshot_reads input).on_eq hloaded), on_bind_of_ok hgenerated]
    rcases happly : (applyReport directory report).on disk with ⟨fault | ⟨⟩, middle⟩ <;>
      rw [happly] at hchanged
    · rw [on_bind_of_error happly]
      exact hchanged
    · rw [on_bind_of_ok happly]
      exact hchanged

/-- Passes one after the other change nothing but files in the directory, wherever they end. -/
theorem changedWithin_emitPasses (hreach : ReachableOver settings (IsTame settings) session)
    (hsuffix : '/' ∉ settings.unitSuffix.toList) (hrooted : disk.IsRooted)
    (hloads : LoadsFlat settings directory session disk inputs) :
    ChangedWithin disk directory ((emitPasses directory session inputs).on disk).2 := by
  induction inputs generalizing session disk with
  | nil => exact .refl disk directory
  | cons input rest ih =>
    have hflat : ∀ snapshot, ((loadSnapshot input).on disk).1 = .ok snapshot →
        HasFlatNames settings snapshot := fun snapshot hload =>
      hloads [] input rest [] session disk snapshot rfl .nil hload
    have hfirst : ChangedWithin disk directory ((emitPass directory session input).on disk).2 :=
      changedWithin_emitPass hreach hsuffix hrooted hflat
    rw [emitPasses]
    rcases hpass : (emitPass directory session input).on disk with
      ⟨fault | ⟨summary, next⟩, middle⟩ <;> rw [hpass] at hfirst
    · rw [on_bind_of_error hpass]
      exact hfirst
    · obtain ⟨snapshot, report, hload, hrun, happly⟩ := exists_of_emitPass hpass
      obtain ⟨-, -, -, hvalidate⟩ := loadSnapshot_eq_ok_iff.1 hload
      have hnext : ReachableOver settings (IsTame settings) next :=
        hreach.run snapshot ⟨hvalidate, hflat snapshot hload⟩ _ hrun
      have hrest := hfirst.trans (ih hnext (hfirst.toSameDirectories.isRooted hrooted)
        (hloads.tail hload hrun happly))
      rw [on_bind_of_ok hpass]
      rcases hlater : (emitPasses directory next rest).on middle with
        ⟨fault | ⟨summaries, last⟩, after⟩ <;> rw [hlater] at hrest
      · rw [on_bind_of_error hlater]
        exact hrest
      · rw [on_bind_of_ok hlater]
        exact hrest

/-- The units that passes report have names of files. -/
theorem LoadsFlat.isPlain {rest : List String}
    (hpasses : Passes directory session disk read passes last after)
    (hloads : LoadsFlat settings directory session disk (read ++ rest))
    (hreach : ReachableOver settings (IsTame settings) session)
    (hsuffix : '/' ∉ settings.unitSuffix.toList) :
    ∀ pass ∈ passes, ∀ name ∈ pass.2.names, Path.IsPlain name := by
  induction hpasses with
  | nil =>
    intro pass hmem
    cases hmem
  | @cons session next last disk middle after input read snapshot report passes hload hrun happly
      _ ih =>
    have hflat := hloads [] input (read ++ rest) [] session disk snapshot rfl .nil hload
    obtain ⟨-, -, -, hvalidate⟩ := loadSnapshot_eq_ok_iff.1 hload
    have htame : IsTame settings snapshot := ⟨hvalidate, hflat⟩
    intro pass hmem
    rcases List.mem_cons.1 hmem with rfl | hlater
    · obtain ⟨-, hplain⟩ := isPlain_iff_of_run hreach htame (fun _ h => h.1) hrun
      exact hplain hsuffix fun _ h => h.2
    · exact ih (hloads.tail hload hrun happly) (hreach.run snapshot htame _ hrun) pass hlater

/-- Emission stays in its directory as far as no slash leads out of it. Whatever valid snapshots a
session has run over, the names that it reports are those of files unless there is a slash in them.
While the suffix and the dotted names of the marked types that are loaded have none, all names are
those of files, and a command that generates changes nothing but files that stand in its directory,
be it successful or not. -/
theorem changedWithin_generate :
    (∀ session snapshot token, ReachableOver settings (·.validate = .ok ()) session →
      snapshot.validate = .ok () → ∃ report next, session.run snapshot token = .ok (report, next) ∧
        ∀ name ∈ report.names, (Path.IsPlain name ↔ '/' ∉ name.toList)) ∧
    ∀ (disk before : Disk) (directory : String) (inputs : List String)
      (settingsPath : Option String) (format : ReportFormat) (color : Bool), disk.IsRooted →
      ((loadSettingsOrDefault settingsPath).on disk).1 = .ok settings →
      disk.createDirectories directory = .ok before → '/' ∉ settings.unitSuffix.toList →
      LoadsFlat settings directory (Session.start settings) before inputs →
        ChangedWithin before directory
          (((Command.generate inputs directory).run format color settingsPath).on disk).2 ∧
        ∀ read rest passes last middle, inputs = read ++ rest →
          Passes directory (Session.start settings) before read passes last middle →
            ∀ pass ∈ passes, ∀ name ∈ pass.2.names, Path.IsPlain name := by
  constructor
  · intro session snapshot token hreach hvalidate
    obtain ⟨report, next, hrun, -⟩ := session.run_eq snapshot token
    exact ⟨report, next, hrun, (isPlain_iff_of_run hreach hvalidate (fun _ h => h) hrun).1⟩
  · intro disk before directory inputs settingsPath format color hrooted hsettings hstart hsuffix
      hloads
    have hvalid := valid_of_loadSettingsOrDefault
      ((loadSettingsOrDefault_reads settingsPath).on_eq hsettings)
    have hreach : ReachableOver settings (IsTame settings) (Session.start settings) :=
      .new (create_eq_ok_iff.2 ⟨hvalid, rfl⟩)
    have hchanged := changedWithin_emitPasses hreach hsuffix (hrooted.createDirectories hstart)
      hloads
    constructor
    · rw [on_generate format color hsettings hstart]
      rcases hemit : (emitPasses directory (Session.start settings) inputs).on before with
        ⟨fault | ⟨summaries, last⟩, after⟩ <;> rw [hemit] at hchanged <;> exact hchanged
    · rintro read rest passes last middle rfl hpasses
      exact hloads.isPlain hpasses hreach hsuffix

/-- The one snapshot on `storeDisk` with a marked type has no slash in its name, so the file out of
date in the directory is all that a command can change. -/
theorem changedWithin_generate_store :
    (∃ report next, (Session.start .default).run storeSnapshot .fresh = .ok (report, next) ∧
      ∀ name ∈ report.names, (Path.IsPlain name ↔ '/' ∉ name.toList)) ∧
    storeDisk.IsRooted ∧ ChangedWithin storeDisk "out"
      (((Command.generate ["shop.json"] "out").run .pretty false none).on storeDisk).2 := by
  have hrooted : storeDisk.IsRooted := .of_entries rfl (by decide)
  obtain ⟨hnames, hgenerate⟩ := @changedWithin_generate .default
  refine ⟨hnames _ _ _ (.new create_default) (by decide +kernel), hrooted, ?_⟩
  have hloads : LoadsFlat .default "out" (Session.start .default) storeDisk ["shop.json"] := by
    rintro (_ | ⟨first, read⟩) input rest passes last middle snapshot hinputs hpasses hload
    · obtain ⟨rfl, -⟩ := List.cons.inj hinputs
      cases hpasses
      rw [load_storeSnapshot] at hload
      obtain rfl := Except.ok.inj hload
      intro type htype
      have hall : (storeSnapshot.marked Settings.default.markerAttribute).all
          (fun type => decide ('/' ∉ type.target.display.toList)) = true := by decide +kernel
      simpa using List.all_eq_true.1 hall type htype
    · have hlength := congrArg List.length hinputs
      simp at hlength
  exact (hgenerate storeDisk storeDisk "out" ["shop.json"] none .pretty false hrooted rfl rfl
    (by decide) hloads).1

/-- A valid snapshot with a marked type whose name leads up. -/
def escapingSnapshot : Snapshot where
  types := [{ TypeDecl.ofClass none "../Escape" with
    attributes := ["Decorgen.GenericDecoratorAttribute"]
    interfaces := [.plain none "IStore"] }]
  interfaces := [.inScope none "IStore" [] []]

/-- A file can be written outside of the directory, though settings and snapshot are valid. -/
theorem exists_unit_outside : Settings.default.Valid ∧ escapingSnapshot.validate = .ok () ∧
    ∃ report next after, (Session.start .default).run escapingSnapshot .fresh = .ok (report, next) ∧
      "../Escape.g.cs" ∈ report.names ∧ ¬ Path.IsPlain "../Escape.g.cs" ∧
      (applyReport "out" report).on storeDisk = (.ok (), after) ∧
      storeDisk.occupant? ["work", "Escape.g.cs"] = none ∧
      ¬ storeDisk.IsWithin "out" ["work", "Escape.g.cs"] ∧
      (after.fileAt? ["work", "Escape.g.cs"]).isSome := by
  obtain ⟨report, next, hrun, -⟩ := (Session.start .default).run_eq escapingSnapshot .fresh
  have hsteps : ((Session.start .default).run escapingSnapshot .fresh).toOption.map (fun ran =>
      let applied := (applyReport "out" ran.1).on storeDisk
      (decide ("../Escape.g.cs" ∈ ran.1.names), applied.1.toOption.isSome,
        (applied.2.fileAt? ["work", "Escape.g.cs"]).isSome)) = some (true, true, true) := by
    decide +kernel
  rw [hrun] at hsteps
  simp only [Except.toOption, Option.map_some, Option.some.injEq, Prod.mk.injEq,
    decide_eq_true_eq] at hsteps
  obtain ⟨hname, happlied, hwritten⟩ := hsteps
  rcases happly : (applyReport "out" report).on storeDisk with ⟨fault | ⟨⟩, after⟩
  · simp [happly] at happlied
  rw [happly] at hwritten
  refine ⟨by decide +kernel, by decide +kernel, report, next, after, hrun, hname, by decide, happly,
    by decide, ?_, hwritten⟩
  rintro ⟨root, name, hroot, -, hplace⟩
  have hout : storeDisk.descend (storeDisk.startOf "out") (Path.components "out") =
      .ok ["work", "out"] := by
    decide +kernel
  obtain rfl := Except.ok.inj (hout.symm.trans hroot)
  simp at hplace

end Forwarder
