import Mathlib.Algebra.BigOperators.Group.List.Basic
import Forwarder.Proofs.Session.Accounting

/-!
# What counts tell about changes

Whether anything changed, and whether anything was produced, is read off a sum of three counts that
is taken in 32 bits like the counts themselves. It is right unless the counts add up to 2³² or to
twice that, where the sum comes out as zero although not all of them are. A run cannot come to this
with fewer outputs than a counter can hold, but the totals of many runs can.
-/

namespace Forwarder

/-! ## Sums of counters -/

theorem ofNat_eq_zero_iff {count : Nat} : UInt32.ofNat count = 0 ↔ UInt32.size ∣ count := by
  rw [← UInt32.toNat_inj, UInt32.toNat_ofNat', Nat.dvd_iff_mod_eq_zero]
  rfl

/-- What is less than a counter can hold comes out as zero only if it is. -/
theorem ofNat_eq_zero_iff_of_lt {count : Nat} (h : count < UInt32.size) :
    UInt32.ofNat count = 0 ↔ count = 0 := by
  rw [ofNat_eq_zero_iff]
  constructor
  · exact fun hdvd => Nat.eq_zero_of_dvd_of_lt hdvd h
  · rintro rfl
    exact Nat.dvd_zero _

/-- Three counts add up to zero in 32 bits if they are all zero, and in two other ways. -/
theorem size_dvd_iff (a b c : UInt32) : UInt32.size ∣ a.toNat + b.toNat + c.toNat ↔
    (a = 0 ∧ b = 0 ∧ c = 0) ∨ a.toNat + b.toNat + c.toNat = UInt32.size ∨
      a.toNat + b.toNat + c.toNat = 2 * UInt32.size := by
  have ha : a.toNat < UInt32.size := a.toNat_lt
  have hb : b.toNat < UInt32.size := b.toNat_lt
  have hc : c.toNat < UInt32.size := c.toNat_lt
  simp only [← UInt32.toNat_inj, UInt32.toNat_zero]
  constructor
  · rintro ⟨times, htimes⟩
    have hlt : times < 3 := Nat.lt_of_mul_lt_mul_left (a := UInt32.size) (by omega)
    obtain rfl | rfl | rfl : times = 0 ∨ times = 1 ∨ times = 2 := by omega
    · exact .inl (by omega)
    · exact .inr (.inl (by omega))
    · exact .inr (.inr (by omega))
  · rintro (⟨ha, hb, hc⟩ | hone | htwo)
    · rw [ha, hb, hc]
      exact Nat.dvd_zero _
    · exact dvd_of_eq hone.symm
    · rw [htwo]
      exact Nat.dvd_mul_left _ _

/-- A sum in 32 bits tells whether three counts are all zero, except in these two cases. -/
theorem size_dvd_iff_zero_iff (a b c : UInt32) :
    (UInt32.size ∣ a.toNat + b.toNat + c.toNat ↔ a = 0 ∧ b = 0 ∧ c = 0) ↔
      a.toNat + b.toNat + c.toNat ≠ UInt32.size ∧
        a.toNat + b.toNat + c.toNat ≠ 2 * UInt32.size := by
  have hzero : a = 0 ∧ b = 0 ∧ c = 0 → a.toNat + b.toNat + c.toNat = 0 := by
    rintro ⟨rfl, rfl, rfl⟩
    rfl
  have hsize : 0 < UInt32.size := by decide
  rw [size_dvd_iff, ← not_or]
  constructor
  · intro h hwrapped
    have hsum := hzero (h.1 (.inr hwrapped))
    omega
  · exact or_iff_left

namespace Tally

variable {tally : Tally}

/-- The number of changed outputs, without a limit. -/
def changeCount (tally : Tally) : Nat :=
  tally.new.toNat + tally.modified.toNat + tally.removed.toNat

/-- The number of outputs that exist, without a limit. -/
def standingCount (tally : Tally) : Nat :=
  tally.new.toNat + tally.modified.toNat + tally.cached.toNat

theorem hasChanges_iff_ne_zero :
    tally.hasChanges = true ↔ tally.new + tally.modified + tally.removed ≠ 0 := by
  rw [hasChanges, decide_eq_true_iff, UInt32.pos_iff_ne_zero]

theorem hasChanges_iff : tally.hasChanges = true ↔ ¬ UInt32.size ∣ tally.changeCount := by
  rw [hasChanges_iff_ne_zero, ← ofNat_eq_zero_iff, changeCount, UInt32.ofNat_add, UInt32.ofNat_add,
    UInt32.ofNat_toNat, UInt32.ofNat_toNat, UInt32.ofNat_toNat]

theorem produced_eq_zero_iff : tally.produced = 0 ↔ UInt32.size ∣ tally.standingCount := by
  rw [← ofNat_eq_zero_iff, standingCount, UInt32.ofNat_add, UInt32.ofNat_add, UInt32.ofNat_toNat,
    UInt32.ofNat_toNat, UInt32.ofNat_toNat, produced]

theorem reuseRate?_eq_none_iff : tally.reuseRate? = none ↔ tally.produced = 0 := by
  rw [reuseRate?]
  split <;> simp_all

/-- Whether there are changes is right, and so is whether anything was produced, exactly if the
counts concerned add up to neither 2³² nor twice that. There is a share of reused outputs exactly if
something was produced. -/
theorem exact_iff_sums (tally : Tally) :
    ((tally.hasChanges = true ↔ tally.new ≠ 0 ∨ tally.modified ≠ 0 ∨ tally.removed ≠ 0) ↔
      tally.changeCount ≠ UInt32.size ∧ tally.changeCount ≠ 2 * UInt32.size) ∧
    ((tally.produced = 0 ↔ tally.new = 0 ∧ tally.modified = 0 ∧ tally.cached = 0) ↔
      tally.standingCount ≠ UInt32.size ∧ tally.standingCount ≠ 2 * UInt32.size) ∧
    (tally.reuseRate? = none ↔ tally.produced = 0) := by
  have hchanged : tally.new ≠ 0 ∨ tally.modified ≠ 0 ∨ tally.removed ≠ 0 ↔
      ¬ (tally.new = 0 ∧ tally.modified = 0 ∧ tally.removed = 0) := by
    simp only [not_and_or]
  refine ⟨?_, ?_, reuseRate?_eq_none_iff⟩
  · rw [hasChanges_iff, hchanged, not_iff_not]
    exact size_dvd_iff_zero_iff _ _ _
  · rw [produced_eq_zero_iff]
    exact size_dvd_iff_zero_iff _ _ _

/-- Counts of 2³¹ modified outputs and as many removed ones. -/
def wrappedTally : Tally := { oneRun with modified := 2147483648, removed := 2147483648 }

/-- The changes of `wrappedTally` go unnoticed, and with as many cached outputs so do all
outputs. -/
theorem exists_unnoticed_changes :
    (wrappedTally.modified ≠ 0 ∧ wrappedTally.removed ≠ 0 ∧ wrappedTally.hasChanges = false) ∧
    ({ wrappedTally with cached := 2147483648 } : Tally).produced = 0 ∧
    ({ wrappedTally with cached := 2147483648 } : Tally).reuseRate? = none :=
  ⟨by decide, by decide, reuseRate?_eq_none_iff.2 (by decide)⟩

end Tally

/-! ## Counts of runs -/

namespace Session

variable {settings : Settings} {session next : Session} {snapshot : Snapshot}
  {token : Cancellation} {report : RunReport} {reports : List RunReport}

/-- All outputs have a status exactly if there are as many with it as there are outputs. -/
theorem length_withStatus_eq_iff {status : UnitStatus} :
    (report.withStatus status).length = report.outputs.length ↔
      ∀ output ∈ report.outputs, output.status = status := by
  rw [RunReport.withStatus, List.length_filter_eq_length_iff]
  simp only [decide_eq_true_eq]

/-- Outputs divide up by status. -/
theorem length_outputs_eq (report : RunReport) : report.outputs.length =
    (report.withStatus .new).length + (report.withStatus .modified).length +
      (report.withStatus .cached).length + (report.withStatus .removed).length :=
  RunReport.length_outputs report.outputs

/-- What a run counts of three statuses adds up to its outputs with them. -/
theorem Balanced.sum_eq (h : session.Balanced snapshot token report next) (a b c : UnitStatus) :
    report.tally.get a.counter + report.tally.get b.counter + report.tally.get c.counter =
      UInt32.ofNat ((report.withStatus a).length + (report.withStatus b).length +
        (report.withStatus c).length) := by
  rw [h.counted, h.counted, h.counted, UInt32.ofNat_add, UInt32.ofNat_add]

/-- Unless there are more outputs than a counter can hold, a run has changes exactly if it reports
an output that was not in the cache already. -/
theorem Balanced.hasChanges_iff (h : session.Balanced snapshot token report next)
    (hlt : report.outputs.length < UInt32.size) :
    report.tally.hasChanges = true ↔ ∃ output ∈ report.outputs, output.status ≠ .cached := by
  have hlength := length_outputs_eq report
  have hsum : report.tally.new + report.tally.modified + report.tally.removed = UInt32.ofNat _ :=
    h.sum_eq .new .modified .removed
  have hall : (report.withStatus .new).length + (report.withStatus .modified).length +
      (report.withStatus .removed).length = 0 ↔
        ∀ output ∈ report.outputs, output.status = .cached := by
    rw [← length_withStatus_eq_iff]
    omega
  rw [Tally.hasChanges_iff_ne_zero, hsum, ne_eq, ofNat_eq_zero_iff_of_lt (by omega), hall]
  simp only [not_forall, exists_prop, ne_eq]

/-- Unless there are more outputs than a counter can hold, a run has produced nothing exactly if no
output exists after it. -/
theorem Balanced.produced_eq_zero_iff (h : session.Balanced snapshot token report next)
    (hlt : report.outputs.length < UInt32.size) :
    report.tally.produced = 0 ↔ report.standing = [] := by
  have hlength := length_outputs_eq report
  have hsum : report.tally.new + report.tally.modified + report.tally.cached = UInt32.ofNat _ :=
    h.sum_eq .new .modified .cached
  have hall : (report.withStatus .new).length + (report.withStatus .modified).length +
      (report.withStatus .cached).length = 0 ↔
        ∀ output ∈ report.outputs, output.status = .removed := by
    rw [← length_withStatus_eq_iff]
    omega
  rw [Tally.produced, hsum, ofNat_eq_zero_iff_of_lt (by omega), hall, RunReport.standing,
    List.filter_eq_nil_iff]
  simp only [decide_eq_true_eq, not_not]

/-- The totals of a session have changes unless those of all its runs add up to a multiple of
2³². -/
theorem History.hasChanges_totals_iff (h : History settings reports session) :
    session.totals.hasChanges = true ↔
      ¬ UInt32.size ∣ (reports.map (·.tally.changeCount)).sum := by
  have hsum : (reports.map (·.tally.changeCount)).sum =
      (reports.map (·.tally.new.toNat)).sum + (reports.map (·.tally.modified.toNat)).sum +
        (reports.map (·.tally.removed.toNat)).sum := by
    simp only [Tally.changeCount, List.sum_map_add]
  have hnew : session.totals.new = UInt32.ofNat (reports.map (·.tally.new.toNat)).sum :=
    h.get_totals .new
  have hmodified : session.totals.modified =
      UInt32.ofNat (reports.map (·.tally.modified.toNat)).sum := h.get_totals .modified
  have hremoved : session.totals.removed =
      UInt32.ofNat (reports.map (·.tally.removed.toNat)).sum := h.get_totals .removed
  rw [Tally.hasChanges_iff_ne_zero, hnew, hmodified, hremoved, ← UInt32.ofNat_add,
    ← UInt32.ofNat_add, ← hsum, ne_eq, ofNat_eq_zero_iff]

end Session

end Forwarder
