import Forwarder.Command.Emission
import Forwarder.Proofs.Command.Storage
import Forwarder.Proofs.Session.EventLog
import Forwarder.Proofs.Session.UnitNames

/-!
# Units as files of a directory

As long as the units of all targets that occur have plain names, a different one for each target,
their files keep out of each other's way, with their temporary files and with the file of the marker
attribute. Then a directory that is brought up to date with the outputs of a run follows them just
as a mirror does: what the mirror holds is in the files, and what it holds no longer is gone.
-/

namespace Forwarder

open Disk CommandT Session Text

variable {settings : Settings} {occurs : Target → Prop} {disk after : Disk} {directory : String}

/-! ## Names of units as names of files -/

theorem Settings.Valid.dot_mem_unitSuffix (h : settings.Valid) :
    '.' ∈ settings.unitSuffix.toList := by
  obtain ⟨-, -, -, hsuffix⟩ := h
  rw [isUnitSuffix] at hsuffix
  split at hsuffix
  · rename_i heq
    rw [heq]
    exact List.mem_cons_self
  · cases hsuffix

theorem Settings.Valid.exists_markerName (h : settings.Valid) : ∃ c rest,
    settings.markerName.toList = c :: rest ∧ isWordStart c = true ∧ rest.all isWordChar = true := by
  obtain ⟨-, hname, -⟩ := h
  rw [isIdentifier] at hname
  cases hlist : settings.markerName.toList with
  | nil =>
    rw [hlist] at hname
    cases hname
  | cons c rest =>
    rw [hlist, isIdentifierChars, Bool.and_eq_true] at hname
    exact ⟨c, rest, rfl, hname⟩

theorem Settings.Valid.isPlain_markerUnitName (h : settings.Valid)
    (hsuffix : '/' ∉ settings.unitSuffix.toList) : Path.IsPlain settings.markerUnitName := by
  obtain ⟨c, rest, hlist, hstart, hrest⟩ := h.exists_markerName
  have hdot : c ≠ '.' := by
    rintro rfl
    exact absurd hstart (by decide +kernel)
  have hslash : '/' ∉ c :: rest := by
    intro hmem
    have hword : isWordChar '/' = true := by
      rcases List.mem_cons.1 hmem with heq | hlater
      · rw [heq]
        exact isWordChar_of_isWordStart hstart
      · exact List.all_eq_true.1 hrest _ hlater
    exact absurd hword (by decide +kernel)
  have hunit : settings.markerUnitName.toList = c :: (rest ++ settings.unitSuffix.toList) := by
    rw [markerUnitName, String.toList_append, hlist, List.cons_append]
  have hfirst : ∀ text : String, text.toList.head? = some '.' ∨ text.toList = [] →
      settings.markerUnitName ≠ text := by
    rintro text htext rfl
    rw [hunit] at htext
    rcases htext with hhead | hnil
    · exact hdot (Option.some.inj hhead)
    · cases hnil
  refine ⟨⟨hfirst "" (Or.inr rfl), hfirst "." (Or.inl rfl), ?_⟩, hfirst ".." (Or.inl rfl)⟩
  rw [hunit, ← List.cons_append, List.mem_append]
  rintro (hmem | hmem)
  · exact hslash hmem
  · exact hsuffix hmem

/-- The units of the targets that occur can be kept in one directory. -/
structure UnitFiles (settings : Settings) (occurs : Target → Prop) : Prop where
  /-- The settings are acceptable. -/
  valid : settings.Valid
  /-- The targets are those of types that have names. -/
  declared : ∀ target, occurs target → target.IsDeclared ∧ target.name ≠ ""
  /-- The names of the units are names of files. -/
  plain : ∀ target, occurs target → Path.IsPlain (target.unitName settings.unitSuffix)
  /-- No two targets have the same unit. -/
  injective : ∀ a b, occurs a → occurs b →
    a.unitName settings.unitSuffix = b.unitName settings.unitSuffix → a = b

/-- A name is that of the marker attribute's unit or of the unit of a target that occurs. -/
def IsUnitOf (settings : Settings) (occurs : Target → Prop) (name : UnitName) : Prop :=
  name = settings.markerUnitName ∨
    ∃ target, occurs target ∧ name = target.unitName settings.unitSuffix

/-- The paths of the file of a unit and of its temporary file. -/
def unitPaths (directory : String) (name : UnitName) : List String :=
  [Path.join directory name, Path.temporary (Path.join directory name)]

/-- The name of a unit is a suffix behind something. -/
theorem IsUnitOf.exists_stem {name : UnitName} (hname : IsUnitOf settings occurs name)
    (hvalid : settings.Valid)
    (hdeclared : ∀ target, occurs target → target.IsDeclared ∧ target.name ≠ "") :
    ∃ stem, stem ≠ "" ∧ name = stem ++ settings.unitSuffix := by
  rcases hname with rfl | ⟨target, htarget, rfl⟩
  · obtain ⟨c, rest, hlist, -⟩ := hvalid.exists_markerName
    refine ⟨settings.markerName, fun hempty => ?_, rfl⟩
    rw [hempty] at hlist
    cases hlist
  · obtain ⟨hdeclared, hne⟩ := hdeclared target htarget
    refine ⟨target.display, fun hempty => hne ?_, hdeclared.unitName_eq settings.unitSuffix⟩
    rw [Target.display] at hempty
    split at hempty
    · exact hempty
    · rw [String.append_eq_empty_iff] at hempty
      exact hempty.2

namespace UnitFiles

theorem isPlain (h : UnitFiles settings occurs) {target : Target} (htarget : occurs target)
    {name : UnitName} (hname : IsUnitOf settings occurs name) : Path.IsPlain name := by
  rcases hname with rfl | ⟨other, hother, rfl⟩
  · obtain ⟨stem, -, hstem⟩ :=
      IsUnitOf.exists_stem (Or.inr ⟨target, htarget, rfl⟩) h.valid h.declared
    have hslash := (h.plain target htarget).slash_not_mem
    rw [hstem, String.toList_append, List.mem_append] at hslash
    exact h.valid.isPlain_markerUnitName fun hmem => hslash (Or.inr hmem)
  · exact h.plain other hother

/-- The files of different units keep out of each other's way. -/
theorem apart (h : UnitFiles settings occurs) {name other : UnitName}
    (hname : IsUnitOf settings occurs name) (hother : IsUnitOf settings occurs other)
    (hne : other ≠ name) (disk : Disk) (directory : String) :
    disk.Apart (Path.join directory name) (unitPaths directory other) := by
  obtain ⟨target, htarget⟩ : ∃ target, occurs target := by
    rcases hname with hname | ⟨target, htarget, -⟩
    · rcases hother with hother | ⟨target, htarget, -⟩
      · exact absurd (hother.trans hname.symm) hne
      · exact ⟨target, htarget⟩
    · exact ⟨target, htarget⟩
  have hplain := h.isPlain htarget hname
  have hplain' := h.isPlain htarget hother
  obtain ⟨stem, hstem, hnameStem⟩ := hname.exists_stem h.valid h.declared
  obtain ⟨stem', hstem', hotherStem⟩ := hother.exists_stem h.valid h.declared
  have htemporary : Path.temporary other ≠ name :=
    Path.temporary_ne hplain' hplain hotherStem hnameStem hstem' hstem
      h.valid.dot_mem_unitSuffix hne
  intro path hpath place hplace
  rcases List.mem_cons.1 hpath with rfl | hpath
  · exact find_join_ne hplain hplain'.toIsComponent hne hplace
  · obtain rfl := List.mem_singleton.1 hpath
    rw [Path.temporary_join directory hplain']
    exact find_join_ne hplain hplain'.isComponent_temporary htemporary hplace

end UnitFiles

/-! ## Directories and mirrors -/

/-- The files of a directory hold what a mirror holds, and those of other targets that have been
tracked are gone. -/
structure Mirrored (settings : Settings) (occurs : Target → Prop) (directory : String)
    (tracked : List Target) (mirror : Mirror) (disk : Disk) : Prop where
  /-- Only targets that occur have been tracked. -/
  known : ∀ target ∈ tracked, occurs target
  /-- The mirror holds only targets that occur. -/
  held : ∀ target text, mirror.get? target = some text → occurs target
  /-- What the mirror holds can be read. -/
  present : ∀ target text, mirror.get? target = some text →
    disk.readText (Path.join directory (target.unitName settings.unitSuffix)) = .ok text
  /-- What the mirror does not hold any more is not there. -/
  absent : ∀ target ∈ tracked, mirror.get? target = none →
    disk.isPresent (Path.join directory (target.unitName settings.unitSuffix)) = false

namespace Mirrored

variable {tracked : List Target} {mirror : Mirror} {output : ReportedUnit}

theorem empty (disk : Disk) : Mirrored settings occurs directory [] .empty disk where
  known target hmem := by cases hmem
  held target text hheld := by cases hheld
  present target text hheld := by cases hheld
  absent target hmem := by cases hmem

/-- A directory keeps following a mirror when the file of one target changes as the mirror does. -/
theorem change (h : Mirrored settings occurs directory tracked mirror disk)
    (hfiles : UnitFiles settings occurs) {target : Target} (htarget : occurs target)
    {next : Mirror} (hother : ∀ other, other ≠ target → next.get? other = mirror.get? other)
    (hchanged : ChangedAt disk (unitPaths directory (target.unitName settings.unitSuffix)) after)
    (hpresent : ∀ text, next.get? target = some text →
      after.readText (Path.join directory (target.unitName settings.unitSuffix)) = .ok text)
    (habsent : next.get? target = none →
      after.isPresent (Path.join directory (target.unitName settings.unitSuffix)) = false) :
    Mirrored settings occurs directory (tracked ++ [target]) next after := by
  have hapart : ∀ other, occurs other → other ≠ target →
      disk.Apart (Path.join directory (other.unitName settings.unitSuffix))
        (unitPaths directory (target.unitName settings.unitSuffix)) := by
    intro other hoccurs hne
    have hname : target.unitName settings.unitSuffix ≠ other.unitName settings.unitSuffix :=
      fun heq => hne (hfiles.injective _ _ htarget hoccurs heq).symm
    exact hfiles.apart (Or.inr ⟨other, hoccurs, rfl⟩) (Or.inr ⟨target, htarget, rfl⟩) hname disk
      directory
  constructor
  case known =>
    intro other hmem
    rcases List.mem_append.1 hmem with hmem | hmem
    · exact h.known other hmem
    · obtain rfl := List.mem_singleton.1 hmem
      exact htarget
  case held =>
    intro other text hheld
    by_cases hne : other = target
    · exact hne ▸ htarget
    · rw [hother other hne] at hheld
      exact h.held other text hheld
  case present =>
    intro other text hheld
    by_cases hne : other = target
    · subst hne
      exact hpresent text hheld
    · rw [hother other hne] at hheld
      have hoccurs := h.held other text hheld
      exact (hchanged.readText_iff (hapart other hoccurs hne)).2 (h.present other text hheld)
  case absent =>
    intro other hmem hnone
    by_cases hne : other = target
    · subst hne
      exact habsent hnone
    · rw [hother other hne] at hnone
      have hmem' : other ∈ tracked := by simpa [hne] using hmem
      exact (hchanged.isPresent_iff (hapart other (h.known other hmem') hne)).2
        (h.absent other hmem' hnone)

/-- A directory follows an output as the mirror does, and nothing else on the disk changes. -/
theorem applyOutput (h : Mirrored settings occurs directory tracked mirror disk)
    (hfiles : UnitFiles settings occurs) (hoccurs : occurs output.target)
    (hname : output.name = output.target.unitName settings.unitSuffix)
    (haccepts : mirror.Accepts output)
    (happly : (Forwarder.applyOutput directory output).on disk = (.ok (), after)) :
    Mirrored settings occurs directory (tracked ++ [output.target]) (mirror.follow output) after ∧
      ChangedAt disk (unitPaths directory output.name) after := by
  rw [Forwarder.applyOutput] at happly
  rw [Mirror.Accepts] at haccepts
  -- writing the text is right for every output that the mirror takes in
  have hwrite :
      (replaceFile (Path.join directory output.name) output.text).on disk = (.ok (), after) →
      Mirrored settings occurs directory (tracked ++ [output.target])
        (mirror.insert output.target output.text) after ∧
      ChangedAt disk (unitPaths directory output.name) after := by
    intro hreplace
    obtain ⟨hchanged, hread⟩ := changedAt_replaceFile hreplace
    rw [hname] at hread
    refine ⟨h.change hfiles hoccurs ?_ (hname ▸ hchanged) ?_ ?_, hchanged⟩
    · intro other hne
      rw [TargetMap.get?_insert, if_neg hne.symm]
    · intro text hheld
      rw [TargetMap.get?_insert, if_pos rfl] at hheld
      exact Option.some.inj hheld ▸ hread
    · intro hnone
      rw [TargetMap.get?_insert, if_pos rfl] at hnone
      cases hnone
  cases hstatus : output.status with
  | new | modified =>
    rw [hstatus] at happly
    rw [Mirror.follow, hstatus]
    exact hwrite happly
  | cached =>
    rw [hstatus] at happly haccepts
    rw [Mirror.follow, hstatus]
    have hread := h.present output.target output.text haccepts
    have hpresent := isPresent_of_readText hread
    obtain ⟨present, middle, hlooked, happly⟩ := on_bind_eq_ok_iff.1 happly
    rw [on_lift] at hlooked
    obtain ⟨hlooked, hmiddle⟩ := Prod.mk.inj hlooked
    have hsame : (FileStore.isPresent (Path.join directory output.name) : StateM Disk Bool) disk =
        (true, disk) := by
      rw [← hname] at hpresent
      rw [← hpresent]
      rfl
    rw [hsame] at hlooked hmiddle
    obtain rfl : true = present := Except.ok.inj hlooked
    obtain rfl : disk = middle := hmiddle
    obtain ⟨-, rfl⟩ := Prod.mk.inj happly
    refine ⟨h.change hfiles hoccurs (fun _ _ => rfl) (.refl disk _) ?_ ?_, .refl disk _⟩
    · exact fun text hheld => h.present _ text hheld
    · intro hnone
      rw [haccepts] at hnone
      cases hnone
  | removed =>
    rw [hstatus] at happly
    rw [Mirror.follow, hstatus]
    obtain ⟨present, middle, hremove, happly⟩ := on_bind_eq_ok_iff.1 happly
    obtain ⟨-, rfl⟩ := Prod.mk.inj happly
    obtain ⟨hchanged, habsent⟩ := changedAt_removeIfPresent hremove
    have hpaths : ChangedAt disk (unitPaths directory output.name) middle :=
      hchanged.mono (by simp [unitPaths])
    rw [hname] at habsent
    refine ⟨h.change hfiles hoccurs ?_ (hname ▸ hpaths) ?_ fun _ => habsent, hpaths⟩
    · intro other hne
      rw [TargetMap.get?_erase, if_neg hne.symm]
    · intro text hheld
      rw [TargetMap.get?_erase, if_pos rfl] at hheld
      cases hheld

theorem applyOutputs (h : Mirrored settings occurs directory tracked mirror disk)
    (hfiles : UnitFiles settings occurs) {outputs : List ReportedUnit}
    (hoccurs : ∀ output ∈ outputs, occurs output.target)
    (hnames : ∀ output ∈ outputs, output.name = output.target.unitName settings.unitSuffix)
    {last : Mirror} (hfollow : mirror.followAll? outputs = some last)
    (happly : (Forwarder.applyOutputs directory outputs).on disk = (.ok (), after)) :
    Mirrored settings occurs directory (tracked ++ outputs.map (·.target)) last after ∧
      ChangedAt disk (outputs.flatMap fun output => unitPaths directory output.name) after := by
  induction outputs generalizing tracked mirror disk with
  | nil =>
    obtain rfl : mirror = last := Option.some.inj hfollow
    obtain ⟨-, rfl⟩ := Prod.mk.inj happly
    exact ⟨by simpa using h, .refl disk _⟩
  | cons output rest ih =>
    rw [Mirror.followAll?, List.foldlM_cons] at hfollow
    obtain ⟨next, hnext, hrest⟩ := Option.bind_eq_some_iff.1 hfollow
    rw [Mirror.follow?] at hnext
    split at hnext
    · rename_i haccepts
      obtain rfl := Option.some.inj hnext
      obtain ⟨⟨⟩, middle, hfirst, hlater⟩ := on_bind_eq_ok_iff.1 happly
      obtain ⟨hmirrored, hchanged⟩ := h.applyOutput hfiles (hoccurs output List.mem_cons_self)
        (hnames output List.mem_cons_self) haccepts hfirst
      obtain ⟨hlast, hchanged'⟩ := ih hmirrored
        (fun output hmem => hoccurs output (List.mem_cons_of_mem _ hmem))
        (fun output hmem => hnames output (List.mem_cons_of_mem _ hmem)) hrest hlater
      refine ⟨by simpa using hlast, ?_⟩
      rw [List.flatMap_cons]
      exact (hchanged.mono (List.subset_append_left _ _)).trans
        (hchanged'.mono (List.subset_append_right _ _))
    · cases hnext

end Mirrored

end Forwarder
