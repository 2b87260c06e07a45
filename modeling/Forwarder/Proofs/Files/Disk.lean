import Forwarder.Files.Disk
import Forwarder.Proofs.Files.Path

/-!
# What file operations change

Paths lead through directories only, so disks with the same directories have the same places for
them. Writing, moving and removing files leaves the directories as they are; each of these changes
the disk at the places of the paths it is given and nowhere else. `ChangedAt` says that for any
number of operations, and what is elsewhere can be read after them as before. Plain names in one
directory have different places.
-/

namespace Forwarder.Disk

variable {disk before middle after : Disk} {place root : Place} {path name : String}

/-- Steps that may fail succeed together if each does in its turn. -/
theorem bind_eq_ok_iff {α β : Type} {step : Except FileFault α} {next : α → Except FileFault β}
    {result : β} :
    (step >>= next) = .ok result ↔ ∃ value, step = .ok value ∧ next value = .ok result := by
  cases step with
  | error fault => simp [bind, Except.bind]
  | ok value => simp [bind, Except.bind]

/-! ## What is at a place -/

theorem occupant?_nil (disk : Disk) : disk.occupant? [] = some .directory := if_pos rfl

theorem ne_nil_of_occupant? (h : disk.occupant? place ≠ some .directory) : place ≠ [] := by
  rintro rfl
  exact h (occupant?_nil disk)

theorem lookup_filter (entries : List (Place × Occupant)) (place other : Place) :
    (entries.filter (·.1 ≠ place)).lookup other =
      if other = place then none else entries.lookup other := by
  induction entries with
  | nil => simp
  | cons head rest ih =>
    obtain ⟨first, occupant⟩ := head
    by_cases hfirst : first = place
    · subst hfirst
      rw [List.filter_cons_of_neg (by simp), ih]
      by_cases hother : other = first
      · simp [hother]
      · simp [hother, List.lookup_cons, beq_eq_false_iff_ne.2 hother]
    · rw [List.filter_cons_of_pos (by simpa using hfirst), List.lookup_cons, List.lookup_cons, ih]
      by_cases hother : other = first
      · simp [hother, hfirst]
      · simp [beq_eq_false_iff_ne.2 hother]

theorem occupant?_put (disk : Disk) (h : place ≠ []) (occupant : Occupant) (other : Place) :
    (disk.put place occupant).occupant? other =
      if other = place then some occupant else disk.occupant? other := by
  by_cases hnil : other = []
  · subst hnil
    rw [occupant?_nil, occupant?_nil, if_neg h.symm]
  · rw [occupant?, if_neg hnil, occupant?, if_neg hnil, put, List.lookup_cons, lookup_filter]
    by_cases hother : other = place
    · simp [hother]
    · simp [hother, beq_eq_false_iff_ne.2 hother]

theorem occupant?_clear (disk : Disk) (h : place ≠ []) (other : Place) :
    (disk.clear place).occupant? other = if other = place then none else disk.occupant? other := by
  by_cases hnil : other = []
  · subst hnil
    rw [occupant?_nil, occupant?_nil, if_neg h.symm]
  · rw [occupant?, if_neg hnil, occupant?, if_neg hnil, clear, lookup_filter]

/-- The text of the file at a place. -/
def fileAt? (disk : Disk) (place : Place) : Option String :=
  match disk.occupant? place with
  | some (.file text) => some text
  | _ => none

/-! ## Following paths -/

theorem descend_cons_eq_ok_iff {component : String} {rest : List String} {last : Place} :
    disk.descend place (component :: rest) = .ok last ↔ ∃ next, step place component = .ok next ∧
      disk.occupant? next = some .directory ∧ disk.descend next rest = .ok last := by
  rw [descend, bind_eq_ok_iff]
  refine exists_congr fun next => and_congr_right fun _ => ?_
  rcases hnext : disk.occupant? next with _ | (_ | text) <;> simp

theorem locate_append_singleton (disk : Disk) (start : Place) (components : List String)
    (last : String) : disk.locate start (components ++ [last]) =
      (do step (← disk.descend start components) last) := by
  rw [locate, List.getLast?_concat, List.dropLast_concat]

theorem find_eq_ok_iff : disk.find path = .ok place ↔ checkPath path = .ok () ∧
    disk.locate (disk.startOf path) (Path.components path) = .ok place ∧
    (Path.endsAsDirectory path = true → disk.occupant? place = some .directory) := by
  simp only [find, bind_eq_ok_iff]
  constructor
  · rintro ⟨⟨⟩, hcheck, found, hlocate, hfound⟩
    refine ⟨hcheck, ?_⟩
    split at hfound
    · rcases hheld : disk.occupant? found with _ | (_ | text) <;> rw [hheld] at hfound
      · cases hfound
      · obtain rfl := Except.ok.inj hfound
        exact ⟨hlocate, fun _ => hheld⟩
      · cases hfound
    · obtain rfl := Except.ok.inj hfound
      rename_i hends
      exact ⟨hlocate, fun h => absurd h hends⟩
  · rintro ⟨hcheck, hlocate, hdirectory⟩
    refine ⟨(), hcheck, place, hlocate, ?_⟩
    split
    · rename_i hends
      rw [hdirectory hends]
      rfl
    · rfl

/-! ## Disks with the same directories -/

/-- Two disks have the same directories and the same working directory. -/
structure SameDirectories (a b : Disk) : Prop where
  /-- The working directory is the same. -/
  home : b.home = a.home
  /-- There is a directory in one of them where there is one in the other. -/
  directory : ∀ place, b.occupant? place = some .directory ↔ a.occupant? place = some .directory

namespace SameDirectories

variable {a b c : Disk}

theorem refl (a : Disk) : SameDirectories a a := ⟨rfl, fun _ => Iff.rfl⟩

theorem symm (h : SameDirectories a b) : SameDirectories b a :=
  ⟨h.home.symm, fun place => (h.directory place).symm⟩

theorem trans (hab : SameDirectories a b) (hbc : SameDirectories b c) : SameDirectories a c :=
  ⟨hbc.home.trans hab.home, fun place => (hbc.directory place).trans (hab.directory place)⟩

theorem descend (h : SameDirectories a b) {components : List String} {last : Place}
    (hlast : a.descend place components = .ok last) : b.descend place components = .ok last := by
  induction components generalizing place with
  | nil => exact hlast
  | cons component rest ih =>
    obtain ⟨next, hstep, hnext, hrest⟩ := descend_cons_eq_ok_iff.1 hlast
    have hdirectory := (h.directory next).2 hnext
    exact descend_cons_eq_ok_iff.2 ⟨next, hstep, hdirectory, ih hrest⟩

theorem locate (h : SameDirectories a b) {start : Place} {components : List String}
    (hplace : a.locate start components = .ok place) : b.locate start components = .ok place := by
  rcases List.eq_nil_or_concat components with rfl | ⟨before, last, rfl⟩
  · exact hplace
  · rw [List.concat_eq_append, locate_append_singleton, bind_eq_ok_iff] at hplace ⊢
    obtain ⟨root, hroot, hstep⟩ := hplace
    exact ⟨root, h.descend hroot, hstep⟩

theorem find (h : SameDirectories a b) (hplace : a.find path = .ok place) :
    b.find path = .ok place := by
  obtain ⟨hcheck, hlocate, hdirectory⟩ := find_eq_ok_iff.1 hplace
  have hstart : b.startOf path = a.startOf path := by
    rw [startOf, startOf, h.home]
  have hlocate' := h.locate hlocate
  rw [← hstart] at hlocate'
  exact find_eq_ok_iff.2 ⟨hcheck, hlocate', fun hends => (h.directory place).2 (hdirectory hends)⟩

theorem find_iff (h : SameDirectories a b) : b.find path = .ok place ↔ a.find path = .ok place :=
  ⟨h.symm.find, h.find⟩

end SameDirectories

theorem sameDirectories_put (h : disk.occupant? place ≠ some .directory) (text : String) :
    SameDirectories disk (disk.put place (.file text)) := by
  refine ⟨rfl, fun other => ?_⟩
  rw [occupant?_put disk (ne_nil_of_occupant? h)]
  by_cases hother : other = place
  · subst hother
    simp [h]
  · rw [if_neg hother]

theorem sameDirectories_clear (h : disk.occupant? place ≠ some .directory) :
    SameDirectories disk (disk.clear place) := by
  refine ⟨rfl, fun other => ?_⟩
  rw [occupant?_clear disk (ne_nil_of_occupant? h)]
  by_cases hother : other = place
  · subst hother
    simp [h]
  · rw [if_neg hother]

/-! ## Names in a directory -/

/-- A path that goes on from a directory leads one step on from the place of the directory. -/
theorem exists_of_find_join {directory : String} (hname : Path.IsComponent name)
    (h : disk.find (Path.join directory name) = .ok place) :
    ∃ root, disk.descend (disk.startOf directory) (Path.components directory) = .ok root ∧
      step root name = .ok place := by
  obtain ⟨-, hlocate, -⟩ := find_eq_ok_iff.1 h
  have hstart : disk.startOf (Path.join directory name) = disk.startOf directory := by
    rw [startOf, startOf, Path.isAbsolute_join directory hname]
  rw [hstart, Path.components_join directory hname, locate_append_singleton] at hlocate
  exact bind_eq_ok_iff.1 hlocate

theorem eq_of_step (hname : name ≠ "..") (h : step root name = .ok place) :
    place = root ++ [name] := by
  rw [step, if_neg hname] at h
  split at h
  · cases h
  · exact (Except.ok.inj h).symm

/-- No other name has the place of a plain name. -/
theorem find_join_ne {directory other : String} (hname : Path.IsPlain name)
    (hother : Path.IsComponent other) (hne : other ≠ name)
    (h : disk.find (Path.join directory name) = .ok place) :
    disk.find (Path.join directory other) ≠ .ok place := by
  intro hfound
  obtain ⟨root, hroot, hstep⟩ := exists_of_find_join hname.toIsComponent h
  obtain ⟨root', hroot', hstep'⟩ := exists_of_find_join hother hfound
  obtain rfl : root' = root := Except.ok.inj (hroot'.symm.trans hroot)
  have hplace := eq_of_step hname.ne_dots hstep
  by_cases hdots : other = ".."
  · -- the way up is shorter
    rw [step, if_pos hdots, hplace] at hstep'
    have hlength := congrArg List.length (Except.ok.inj hstep')
    rw [List.length_dropLast, List.length_append, List.length_singleton] at hlength
    omega
  · rw [eq_of_step hdots hstep'] at hplace
    exact hne (List.singleton_inj.1 (List.append_cancel_left hplace))

/-! ## What can be read -/

theorem readText_eq_ok_iff {text : String} : disk.readText path = .ok text ↔
    ∃ place, disk.find path = .ok place ∧ disk.occupant? place = some (.file text) := by
  rw [readText, bind_eq_ok_iff]
  refine exists_congr fun place => and_congr_right fun _ => ?_
  rcases disk.occupant? place with _ | (_ | held) <;> simp [pure, Except.pure]

theorem isPresent_eq_false_iff : disk.isPresent path = false ↔
    ∀ place, disk.find path = .ok place → disk.occupant? place = none := by
  rw [isPresent]
  cases disk.find path with
  | error fault => simp
  | ok place => simp

theorem isPresent_of_readText {text : String} (h : disk.readText path = .ok text) :
    disk.isPresent path = true := by
  obtain ⟨place, hfind, hplace⟩ := readText_eq_ok_iff.1 h
  rw [isPresent, hfind]
  simp [hplace]

/-! ## Single operations -/

theorem writeText_eq_ok_iff {text : String} : disk.writeText path text = .ok after ↔
    ∃ place, disk.find path = .ok place ∧ disk.occupant? place ≠ some .directory ∧
      after = disk.put place (.file text) := by
  rw [writeText, bind_eq_ok_iff]
  refine exists_congr fun place => and_congr_right fun _ => ?_
  rcases disk.occupant? place with _ | (_ | held) <;> simp [pure, Except.pure, eq_comm]

/-- A file that is moved was there, and there is no directory where it is moved to. -/
theorem exists_of_rename {target : String} (h : disk.rename path target = .ok after) :
    ∃ place text destination, disk.find path = .ok place ∧
      disk.occupant? place = some (.file text) ∧ disk.find target = .ok destination ∧
      disk.occupant? destination ≠ some .directory ∧
      after = (disk.clear place).put destination (.file text) := by
  simp only [rename, bind_eq_ok_iff] at h
  obtain ⟨place, hfind, text, hread, ⟨⟩, hcheck, destination, hlocate, h⟩ := h
  obtain ⟨place', hfind', hheld⟩ := readText_eq_ok_iff.1 hread
  obtain rfl : place' = place := Except.ok.inj (hfind'.symm.trans hfind)
  split at h
  · cases h
  · split at h
    · cases h
    · rename_i hends
      have htarget : disk.find target = .ok destination :=
        find_eq_ok_iff.2 ⟨hcheck, hlocate, fun hdirectory => absurd hdirectory hends⟩
      refine ⟨place', text, destination, hfind, hheld, htarget, ?_⟩
      rcases hplace : disk.occupant? destination with _ | (_ | held) <;> rw [hplace] at h
      · exact ⟨by simp, (Except.ok.inj h).symm⟩
      · cases h
      · exact ⟨by simp, (Except.ok.inj h).symm⟩

theorem exists_of_removeFile (h : disk.removeFile path = .ok after) :
    ∃ place text, disk.find path = .ok place ∧ disk.occupant? place = some (.file text) ∧
      after = disk.clear place := by
  rw [removeFile, bind_eq_ok_iff] at h
  obtain ⟨place, hfind, h⟩ := h
  rcases hplace : disk.occupant? place with _ | (_ | text) <;> rw [hplace] at h
  · cases h
  · cases h
  · exact ⟨place, text, hfind, hplace, (Except.ok.inj h).symm⟩

/-- Where there is no file to be removed there is nothing at all. -/
theorem isPresent_of_removeFile (h : disk.removeFile path = .error .notFound) :
    disk.isPresent path = false := by
  rw [isPresent_eq_false_iff]
  intro place hfind
  rw [removeFile, hfind] at h
  rcases hplace : disk.occupant? place with _ | (_ | text)
  · rfl
  · simp [bind, Except.bind, hplace] at h
  · simp [bind, Except.bind, pure, Except.pure, hplace] at h

/-! ## Changes at given paths -/

/-- A disk has come to be from another one by changes to files at the places of some paths. -/
structure ChangedAt (before : Disk) (paths : List String) (after : Disk) : Prop
    extends SameDirectories before after where
  /-- Everywhere else there is what has been there. -/
  elsewhere : ∀ place, (∀ path ∈ paths, before.find path ≠ .ok place) →
    after.occupant? place = before.occupant? place

/-- A path leads to none of the places that other paths lead to. -/
def Apart (disk : Disk) (path : String) (paths : List String) : Prop :=
  ∀ other ∈ paths, ∀ place, disk.find path = .ok place → disk.find other ≠ .ok place

namespace ChangedAt

variable {paths : List String}

theorem refl (disk : Disk) (paths : List String) : ChangedAt disk paths disk :=
  ⟨.refl disk, fun _ _ => rfl⟩

theorem mono {more : List String} (h : ChangedAt before paths after) (hsubset : paths ⊆ more) :
    ChangedAt before more after :=
  ⟨h.toSameDirectories, fun place hplace =>
    h.elsewhere place fun path hpath => hplace path (hsubset hpath)⟩

theorem trans (hfirst : ChangedAt before paths middle) (hnext : ChangedAt middle paths after) :
    ChangedAt before paths after := by
  refine ⟨hfirst.toSameDirectories.trans hnext.toSameDirectories, fun place hplace => ?_⟩
  have hmiddle : ∀ path ∈ paths, middle.find path ≠ .ok place := by
    intro path hpath hfound
    exact hplace path hpath (hfirst.toSameDirectories.find_iff.1 hfound)
  rw [hnext.elsewhere place hmiddle, hfirst.elsewhere place hplace]

/-- What is found at a path that keeps apart from the changes is as it was. -/
theorem occupant?_eq (h : ChangedAt before paths after) (hapart : before.Apart path paths)
    (hfind : before.find path = .ok place) : after.occupant? place = before.occupant? place :=
  h.elsewhere place fun other hother => hapart other hother place hfind

theorem readText_iff (h : ChangedAt before paths after) (hapart : before.Apart path paths)
    {text : String} : after.readText path = .ok text ↔ before.readText path = .ok text := by
  rw [readText_eq_ok_iff, readText_eq_ok_iff]
  refine exists_congr fun place => ?_
  rw [h.toSameDirectories.find_iff]
  refine and_congr_right fun hfind => ?_
  rw [h.occupant?_eq hapart hfind]

theorem isPresent_iff (h : ChangedAt before paths after) (hapart : before.Apart path paths) :
    after.isPresent path = false ↔ before.isPresent path = false := by
  rw [isPresent_eq_false_iff, isPresent_eq_false_iff]
  refine forall_congr' fun place => ?_
  rw [h.toSameDirectories.find_iff]
  refine imp_congr_right fun hfind => ?_
  rw [h.occupant?_eq hapart hfind]

end ChangedAt

theorem changedAt_put (hfind : disk.find path = .ok place)
    (h : disk.occupant? place ≠ some .directory) (text : String) :
    ChangedAt disk [path] (disk.put place (.file text)) := by
  refine ⟨sameDirectories_put h text, fun other hother => ?_⟩
  have hne : other ≠ place := by
    rintro rfl
    exact hother path (List.mem_singleton_self _) hfind
  rw [occupant?_put disk (ne_nil_of_occupant? h), if_neg hne]

theorem changedAt_clear (hfind : disk.find path = .ok place)
    (h : disk.occupant? place ≠ some .directory) : ChangedAt disk [path] (disk.clear place) := by
  refine ⟨sameDirectories_clear h, fun other hother => ?_⟩
  have hne : other ≠ place := by
    rintro rfl
    exact hother path (List.mem_singleton_self _) hfind
  rw [occupant?_clear disk (ne_nil_of_occupant? h), if_neg hne]

theorem changedAt_writeText {text : String} (h : disk.writeText path text = .ok after) :
    ChangedAt disk [path] after ∧ after.readText path = .ok text := by
  obtain ⟨place, hfind, hplace, rfl⟩ := writeText_eq_ok_iff.1 h
  have hchanged := changedAt_put hfind hplace text
  refine ⟨hchanged, readText_eq_ok_iff.2 ⟨place, hchanged.toSameDirectories.find hfind, ?_⟩⟩
  rw [occupant?_put disk (ne_nil_of_occupant? hplace), if_pos rfl]

theorem changedAt_rename {target text : String} (hread : disk.readText path = .ok text)
    (h : disk.rename path target = .ok after) :
    ChangedAt disk [target, path] after ∧ after.readText target = .ok text := by
  obtain ⟨place, held, destination, hfind, hplace, htarget, hdestination, rfl⟩ := exists_of_rename h
  obtain ⟨place', hfind', hplace'⟩ := readText_eq_ok_iff.1 hread
  obtain rfl : place' = place := Except.ok.inj (hfind'.symm.trans hfind)
  obtain rfl : text = held := by
    rw [hplace] at hplace'
    cases hplace'
    rfl
  have hfile : disk.occupant? place' ≠ some .directory := by
    simp [hplace]
  -- the file is gone from one place before it is put into the other
  have hcleared := changedAt_clear hfind hfile
  have htarget' := hcleared.toSameDirectories.find htarget
  have hdestination' : (disk.clear place').occupant? destination ≠ some .directory := fun heq =>
    hdestination ((hcleared.toSameDirectories.directory destination).1 heq)
  have hput := changedAt_put htarget' hdestination' text
  have hfirst : ChangedAt disk [target, path] (disk.clear place') := hcleared.mono (by simp)
  have hchanged := hfirst.trans (hput.mono (by simp))
  refine ⟨hchanged, readText_eq_ok_iff.2
    ⟨destination, hchanged.toSameDirectories.find htarget, ?_⟩⟩
  rw [occupant?_put _ (ne_nil_of_occupant? hdestination'), if_pos rfl]

theorem changedAt_removeFile (h : disk.removeFile path = .ok after) :
    ChangedAt disk [path] after ∧ after.isPresent path = false := by
  obtain ⟨place, text, hfind, hplace, rfl⟩ := exists_of_removeFile h
  have hfile : disk.occupant? place ≠ some .directory := by
    simp [hplace]
  have hchanged := changedAt_clear hfind hfile
  refine ⟨hchanged, isPresent_eq_false_iff.2 fun found hfound => ?_⟩
  have hsame := hchanged.toSameDirectories.find_iff.1 hfound
  obtain rfl : place = found := Except.ok.inj (hfind.symm.trans hsame)
  rw [occupant?_clear disk (ne_nil_of_occupant? hfile), if_pos rfl]

/-- An operation that fails leaves the disk as it is. -/
theorem changedAt_update {change : Disk → Except FileFault Disk} {paths : List String}
    (h : ∀ {disk after}, change disk = .ok after → ChangedAt disk paths after) (disk : Disk) :
    ChangedAt disk paths (Disk.update change disk).2 := by
  rw [Disk.update]
  cases hchange : change disk with
  | ok after => exact h hchange
  | error fault => exact .refl disk paths

/-! ## New directories -/

/-- There is nothing where a directory is made. -/
theorem exists_of_createDirectory {start : Place} {components : List String}
    (h : disk.createDirectory start components = .ok after) :
    ∃ place, disk.locate start components = .ok place ∧ disk.occupant? place = none ∧
      after = disk.put place .directory := by
  rw [createDirectory, bind_eq_ok_iff] at h
  obtain ⟨place, hlocate, h⟩ := h
  cases hplace : disk.occupant? place with
  | some occupant =>
    rw [hplace] at h
    cases h
  | none =>
    rw [hplace] at h
    exact ⟨place, hlocate, hplace, (Except.ok.inj h).symm⟩

theorem fileAt?_createDirectory {start : Place} {components : List String}
    (h : disk.createDirectory start components = .ok after) (other : Place) :
    after.fileAt? other = disk.fileAt? other := by
  obtain ⟨place, -, hplace, rfl⟩ := exists_of_createDirectory h
  have hfile : disk.occupant? place ≠ some .directory := by
    simp [hplace]
  have hne : place ≠ [] := ne_nil_of_occupant? hfile
  rw [fileAt?, fileAt?, occupant?_put disk hne]
  by_cases hother : other = place
  · subst hother
    simp [hplace]
  · rw [if_neg hother]

theorem fileAt?_createAll {start : Place} {components : List String}
    (h : disk.createAll start components = .ok after) (other : Place) :
    after.fileAt? other = disk.fileAt? other := by
  induction components generalizing after with
  | nil =>
    obtain rfl := Except.ok.inj h
    rfl
  | cons last before ih =>
    rw [createAll] at h
    split at h
    · rename_i made hmade
      obtain rfl := Except.ok.inj h
      exact fileAt?_createDirectory hmade other
    · -- what is above it is made first
      obtain ⟨above, habove, h⟩ := bind_eq_ok_iff.1 h
      split at h
      · rename_i made hmade
        obtain rfl := Except.ok.inj h
        rw [fileAt?_createDirectory hmade, ih habove]
      · split at h
        · obtain rfl := Except.ok.inj h
          exact ih habove
        · cases h
    · split at h
      · obtain rfl := Except.ok.inj h
        rfl
      · cases h

theorem fileAt?_createDirectories (h : disk.createDirectories path = .ok after) (other : Place) :
    after.fileAt? other = disk.fileAt? other := by
  rw [createDirectories] at h
  split at h
  · obtain rfl := Except.ok.inj h
    rfl
  · obtain ⟨⟨⟩, -, h⟩ := bind_eq_ok_iff.1 h
    exact fileAt?_createAll h other

end Forwarder.Disk
