import Forwarder.Command.Storage
import Forwarder.Proofs.Files.Disk

/-!
# Steps of commands on a disk

What the steps that commands are made of come to on a disk. Loading leaves the disk as it is.
Writing a file by way of a temporary one changes the disk at the paths of the two and nowhere else,
and so does removing a file at its path.
-/

namespace Forwarder

open Disk FileStore

namespace CommandT

variable {α β : Type} {disk after : Disk}

/-- What a step comes to on a disk, and the disk after it. -/
def on (step : CommandT (StateM Disk) α) (disk : Disk) : Except CommandFault α × Disk :=
  StateT.run (ExceptT.run step) disk

theorem on_pure (value : α) (disk : Disk) :
    (pure value : CommandT (StateM Disk) α).on disk = (.ok value, disk) := rfl

theorem on_bind (step : CommandT (StateM Disk) α) (next : α → CommandT (StateM Disk) β)
    (disk : Disk) : (step >>= next).on disk =
      match step.on disk with
      | (.ok value, middle) => (next value).on middle
      | (.error fault, middle) => (.error fault, middle) := by
  unfold on ExceptT.run StateT.run
  simp only [bind, ExceptT.bind, ExceptT.mk, StateT.bind, ExceptT.bindCont]
  rcases step disk with ⟨_ | _, middle⟩ <;> rfl

theorem on_within (context : String) (step : CommandT (StateM Disk) α) (disk : Disk) :
    (within context step).on disk =
      match step.on disk with
      | (.ok value, middle) => (.ok value, middle)
      | (.error fault, middle) =>
        (.error { fault with contexts := context :: fault.contexts }, middle) := by
  unfold within on ExceptT.run StateT.run
  simp only [ExceptT.tryCatch, bind, ExceptT.mk, StateT.bind]
  rcases step disk with ⟨_ | _, middle⟩ <;> rfl

theorem on_lift (operation : StateM Disk α) (disk : Disk) :
    (liftM operation : CommandT (StateM Disk) α).on disk =
      (.ok (operation disk).1, (operation disk).2) := rfl

theorem on_ofFault (operation : StateM Disk (Except FileFault α)) (disk : Disk) :
    (ofFault operation).on disk =
      match operation disk with
      | (.ok value, middle) => (.ok value, middle)
      | (.error fault, middle) => (.error ⟨[], .fault fault⟩, middle) := by
  unfold ofFault on ExceptT.run StateT.run
  simp only [bind, ExceptT.mk, StateT.bind]
  rcases operation disk with ⟨_ | _, middle⟩ <;> rfl

/-! ## Steps that succeed -/

theorem on_bind_eq_ok_iff {step : CommandT (StateM Disk) α} {next : α → CommandT (StateM Disk) β}
    {result : β} : (step >>= next).on disk = (.ok result, after) ↔
      ∃ value middle, step.on disk = (.ok value, middle) ∧
        (next value).on middle = (.ok result, after) := by
  rw [on_bind]
  rcases step.on disk with ⟨fault | value, middle⟩ <;> simp

theorem on_bind_of_ok {step : CommandT (StateM Disk) α} {next : α → CommandT (StateM Disk) β}
    {value : α} {middle : Disk} (h : step.on disk = (.ok value, middle)) :
    (step >>= next).on disk = (next value).on middle := by
  rw [on_bind, h]

theorem on_bind_of_error {step : CommandT (StateM Disk) α} {next : α → CommandT (StateM Disk) β}
    {fault : CommandFault} (h : step.on disk = (.error fault, after)) :
    (step >>= next).on disk = (.error fault, after) := by
  rw [on_bind, h]

theorem on_within_eq_ok_iff {context : String} {step : CommandT (StateM Disk) α} {value : α} :
    (within context step).on disk = (.ok value, after) ↔ step.on disk = (.ok value, after) := by
  rw [on_within]
  rcases step.on disk with ⟨fault | value, middle⟩ <;> simp

theorem on_ofFailure_eq_ok_iff {result : Except Failure α} {value : α} :
    (ofFailure result).on disk = (.ok value, after) ↔ result = .ok value ∧ disk = after := by
  cases result with
  | error failure =>
    have herror : (ofFailure (.error failure) : CommandT (StateM Disk) α).on disk =
        (.error ⟨[], .failure failure⟩, disk) := rfl
    simp [herror]
  | ok held =>
    have hok : (ofFailure (.ok held) : CommandT (StateM Disk) α).on disk = (.ok held, disk) := rfl
    simp [hok]

theorem on_update_eq_ok_iff {change : Disk → Except FileFault Disk} {value : Unit} :
    (ofFault (Disk.update change)).on disk = (.ok value, after) ↔ change disk = .ok after := by
  rw [on_ofFault, Disk.update]
  cases change disk <;> simp

theorem on_readText_eq_ok_iff {path text : String} :
    (ofFault (readText path : StateM Disk _)).on disk = (.ok text, after) ↔
      disk.readText path = .ok text ∧ disk = after := by
  have hread : (readText path : StateM Disk _) disk = (disk.readText path, disk) := rfl
  rw [on_ofFault, hread]
  cases disk.readText path <;> simp

/-! ## Steps that leave the disk alone -/

/-- A step leaves every disk as it is, whether it succeeds or not. -/
def Reads (step : CommandT (StateM Disk) α) : Prop := ∀ disk, (step.on disk).2 = disk

namespace Reads

theorem on_eq {step : CommandT (StateM Disk) α} {result : Except CommandFault α} (h : Reads step)
    (hresult : (step.on disk).1 = result) : step.on disk = (result, disk) :=
  Prod.ext hresult (h disk)

theorem pure (value : α) : Reads (Pure.pure value) := fun _ => rfl

theorem bind {step : CommandT (StateM Disk) α} {next : α → CommandT (StateM Disk) β}
    (hstep : Reads step) (hnext : ∀ value, Reads (next value)) : Reads (step >>= next) := by
  intro disk
  have hmiddle := hstep disk
  rw [on_bind]
  rcases hresult : step.on disk with ⟨fault | value, middle⟩ <;> rw [hresult] at hmiddle <;>
    obtain rfl : middle = disk := hmiddle
  · rfl
  · exact hnext value _

theorem within {step : CommandT (StateM Disk) α} (context : String) (h : Reads step) :
    Reads (CommandT.within context step) := by
  intro disk
  have hmiddle := h disk
  rw [on_within]
  rcases hresult : step.on disk with ⟨fault | value, middle⟩ <;> rw [hresult] at hmiddle <;>
    exact hmiddle

theorem ofFailure (result : Except Failure α) : Reads (CommandT.ofFailure result) := by
  intro disk
  cases result <;> rfl

theorem readText (path : String) :
    Reads (CommandT.ofFault (FileStore.readText path : StateM Disk _)) := by
  intro disk
  have hread : (FileStore.readText path : StateM Disk _) disk = (disk.readText path, disk) := rfl
  rw [on_ofFault, hread]
  cases disk.readText path <;> rfl

end Reads

/-! ## Steps that change files at given paths -/

variable {paths more : List String}

/-- A step changes files at the places of some paths only, whether it succeeds or not. -/
def Touches (paths : List String) (step : CommandT (StateM Disk) α) : Prop :=
  ∀ disk, ChangedAt disk paths (step.on disk).2

theorem Reads.touches {step : CommandT (StateM Disk) α} (h : Reads step) (paths : List String) :
    Touches paths step := by
  intro disk
  rw [h disk]
  exact .refl disk paths

namespace Touches

theorem mono {step : CommandT (StateM Disk) α} (h : Touches paths step) (hsubset : paths ⊆ more) :
    Touches more step := fun disk => (h disk).mono hsubset

theorem bind {step : CommandT (StateM Disk) α} {next : α → CommandT (StateM Disk) β}
    (hstep : Touches paths step) (hnext : ∀ value, Touches paths (next value)) :
    Touches paths (step >>= next) := by
  intro disk
  have hfirst := hstep disk
  rw [on_bind]
  rcases hresult : step.on disk with ⟨fault | value, middle⟩ <;> rw [hresult] at hfirst
  · exact hfirst
  · exact hfirst.trans (hnext value middle)

theorem within {step : CommandT (StateM Disk) α} (context : String) (h : Touches paths step) :
    Touches paths (CommandT.within context step) := by
  intro disk
  have hstep := h disk
  rw [on_within]
  rcases hresult : step.on disk with ⟨fault | value, middle⟩ <;> rw [hresult] at hstep <;>
    exact hstep

theorem ofFault {operation : StateM Disk (Except FileFault α)}
    (h : ∀ disk, ChangedAt disk paths (operation disk).2) :
    Touches paths (CommandT.ofFault operation) := by
  intro disk
  have hoperation := h disk
  rw [on_ofFault]
  rcases hresult : operation disk with ⟨fault | value, middle⟩ <;> rw [hresult] at hoperation <;>
    exact hoperation

end Touches

end CommandT

open CommandT

variable {disk after : Disk} {path : String}

theorem loadSettings_reads (path : String) : Reads (loadSettings (m := StateM Disk) path) := by
  refine Reads.within _ (Reads.bind (fun disk => rfl) fun document => ?_)
  cases document <;> exact Reads.ofFailure _

theorem loadSettingsOrDefault_reads (path : Option String) :
    Reads (loadSettingsOrDefault (m := StateM Disk) path) := by
  cases path with
  | none => exact Reads.pure _
  | some path => exact loadSettings_reads path

/-- Settings that are loaded are acceptable. -/
theorem valid_of_loadSettingsOrDefault {path : Option String} {settings : Settings}
    (h : (loadSettingsOrDefault path).on disk = (.ok settings, after)) : settings.Valid := by
  cases path with
  | none =>
    obtain ⟨heq, -⟩ := Prod.mk.inj h
    obtain rfl := Except.ok.inj heq
    decide +kernel
  | some path =>
    simp only [loadSettingsOrDefault, loadSettings, on_bind_eq_ok_iff, on_within_eq_ok_iff] at h
    obtain ⟨fault | document, _, -, h⟩ := h
    · cases (on_ofFailure_eq_ok_iff.1 h).1
    · have hread := (on_ofFailure_eq_ok_iff.1 h).1
      rw [Settings.ofToml] at hread
      split at hread
      · cases hread
      · rename_i read _
        cases hvalidate : read.validate with
        | error failure =>
          rw [hvalidate] at hread
          cases hread
        | ok _ =>
          rw [hvalidate] at hread
          obtain rfl : read = settings := Except.ok.inj hread
          exact read.validate_eq_ok_iff.1 hvalidate

theorem loadSnapshot_reads (path : String) : Reads (loadSnapshot (m := StateM Disk) path) := by
  refine Reads.bind (Reads.within _ (Reads.readText path)) fun text => ?_
  refine Reads.bind (Reads.within _ (Reads.ofFailure _)) fun snapshot => ?_
  exact Reads.bind (Reads.within _ (Reads.ofFailure _)) fun _ => Reads.pure _

/-- A snapshot is loaded exactly if it can be read and parsed and is valid. -/
theorem loadSnapshot_eq_ok_iff {snapshot : Snapshot} :
    ((loadSnapshot path).on disk).1 = .ok snapshot ↔ ∃ text, disk.readText path = .ok text ∧
      Json.ofDocument Snapshot.reader text = .ok snapshot ∧ snapshot.validate = .ok () := by
  constructor
  · intro h
    have hload := (loadSnapshot_reads path).on_eq h
    simp only [loadSnapshot, on_bind_eq_ok_iff, on_within_eq_ok_iff,
      on_ofFailure_eq_ok_iff] at hload
    obtain ⟨text, _, hread, read, _, ⟨hparse, -⟩, ⟨⟩, _, ⟨hvalid, -⟩, heq⟩ := hload
    obtain rfl : read = snapshot := Except.ok.inj (Prod.mk.inj heq).1
    exact ⟨text, (on_readText_eq_ok_iff.1 hread).1, hparse, hvalid⟩
  · rintro ⟨text, hread, hparse, hvalid⟩
    have hload : (loadSnapshot path).on disk = (.ok snapshot, disk) := by
      simp only [loadSnapshot, on_bind_eq_ok_iff, on_within_eq_ok_iff, on_ofFailure_eq_ok_iff,
        on_readText_eq_ok_iff]
      exact ⟨text, disk, ⟨hread, rfl⟩, snapshot, disk, ⟨hparse, rfl⟩, (), disk, ⟨hvalid, rfl⟩, rfl⟩
    rw [hload]

/-! ## Writing and removing -/

theorem replaceFile_touches (path text : String) :
    Touches [path, Path.temporary path] (replaceFile (m := StateM Disk) path text) := by
  have hsubset : [Path.temporary path] ⊆ [path, Path.temporary path] := by simp
  have hwrite : ∀ content, Touches [path, Path.temporary path]
      (ofFault (Disk.update (·.writeText (Path.temporary path) content))) := fun content =>
    .ofFault (changedAt_update fun h => (changedAt_writeText h).1.mono hsubset)
  have hrename : Touches [path, Path.temporary path]
      (ofFault (Disk.update (·.rename (Path.temporary path) path))) := by
    refine .ofFault (changedAt_update fun h => ?_)
    obtain ⟨place, held, -, hfind, hplace, -⟩ := exists_of_rename h
    exact (changedAt_rename (readText_eq_ok_iff.2 ⟨place, hfind, hplace⟩) h).1
  exact ((hwrite "").within _).bind fun _ => ((hwrite text).within _).bind fun _ =>
    hrename.within _

/-- A file that is replaced holds the text, and apart from its own place only that of the temporary
file has changed. -/
theorem changedAt_replaceFile {text : String}
    (h : (replaceFile path text).on disk = (.ok (), after)) :
    ChangedAt disk [path, Path.temporary path] after ∧ after.readText path = .ok text := by
  have hchanged := replaceFile_touches path text disk
  rw [h] at hchanged
  refine ⟨hchanged, ?_⟩
  simp only [replaceFile, on_bind_eq_ok_iff, on_within_eq_ok_iff] at h
  obtain ⟨⟨⟩, created, -, ⟨⟩, written, hwrite, hrename⟩ := h
  obtain ⟨-, hread⟩ := changedAt_writeText (on_update_eq_ok_iff.1 hwrite)
  exact (changedAt_rename hread (on_update_eq_ok_iff.1 hrename)).2

theorem removeIfPresent_touches (path : String) :
    Touches [path] (removeIfPresent (m := StateM Disk) path) := by
  refine .within _ (.bind (fun disk => ?_) fun result => ?_)
  · exact changedAt_update (fun h => (changedAt_removeFile h).1) disk
  · cases result with
    | ok _ => exact (Reads.pure true).touches _
    | error fault => cases fault <;> exact Reads.touches (fun disk => rfl) _

/-- After a removal there is nothing at the path, and nothing has changed elsewhere. -/
theorem changedAt_removeIfPresent {present : Bool}
    (h : (removeIfPresent path).on disk = (.ok present, after)) :
    ChangedAt disk [path] after ∧ after.isPresent path = false := by
  simp only [removeIfPresent, on_bind_eq_ok_iff, on_within_eq_ok_iff] at h
  obtain ⟨result, middle, hremove, h⟩ := h
  have hupdate : (FileStore.removeFile path : StateM Disk _) disk =
      Disk.update (·.removeFile path) disk := rfl
  rw [on_lift, hupdate, Disk.update] at hremove
  cases hfile : disk.removeFile path with
  | ok removed =>
    rw [hfile] at hremove
    obtain ⟨hresult, rfl⟩ := Prod.mk.inj hremove
    obtain rfl := Except.ok.inj hresult
    obtain ⟨-, rfl⟩ := Prod.mk.inj h
    exact changedAt_removeFile hfile
  | error fault =>
    rw [hfile] at hremove
    obtain ⟨hresult, rfl⟩ := Prod.mk.inj hremove
    obtain rfl := Except.ok.inj hresult
    cases fault with
    | notFound =>
      obtain ⟨-, rfl⟩ := Prod.mk.inj h
      exact ⟨.refl disk _, isPresent_of_removeFile hfile⟩
    | _ => cases h

end Forwarder
