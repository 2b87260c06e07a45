import Forwarder.Target

/-!
# Maps from targets

A finite map from targets, kept as a list of pairs in the order of targets. Every map has one
such list, so maps with the same lookups are equal.
-/

namespace Forwarder

/-- A finite map from targets to values. -/
structure TargetMap (α : Type) where
  /-- The targets with their values, in the order of targets. -/
  entries : List (Target × α)
  /-- Each target comes before all that follow it. -/
  ordered : entries.Pairwise (fun a b => a.1.Before b.1)

namespace TargetMap

variable {α : Type}

/-- The map without targets. -/
def empty : TargetMap α := ⟨[], List.Pairwise.nil⟩

instance : Inhabited (TargetMap α) := ⟨empty⟩

/-- The value of a target. -/
def get? (map : TargetMap α) (target : Target) : Option α :=
  (map.entries.find? (·.1 = target)).map (·.2)

/-- Whether a target has a value. -/
def contains (map : TargetMap α) (target : Target) : Bool := (map.get? target).isSome

/-- The targets, in their order. -/
def targets (map : TargetMap α) : List Target := map.entries.map (·.1)

/-- The number of targets. -/
def size (map : TargetMap α) : Nat := map.entries.length

/-! ## Insertion -/

/-- Puts a pair into an ordered list, in place of one with the same target. -/
def insertEntry (target : Target) (value : α) : List (Target × α) → List (Target × α)
  | [] => [(target, value)]
  | (other, held) :: rest =>
    if target.Before other then (target, value) :: (other, held) :: rest
    else if target = other then (target, value) :: rest
    else (other, held) :: insertEntry target value rest

/-- An inserted list has the inserted target and those it had before. -/
theorem fst_of_mem_insertEntry {target : Target} {value : α} {entries : List (Target × α)}
    {entry : Target × α} (h : entry ∈ insertEntry target value entries) :
    entry = (target, value) ∨ entry ∈ entries := by
  induction entries with
  | nil => simpa [insertEntry] using h
  | cons head rest ih =>
    rw [insertEntry] at h
    split at h
    · simpa using h
    · split at h
      · rcases List.mem_cons.1 h with h | h
        · exact Or.inl h
        · exact Or.inr (List.mem_cons_of_mem _ h)
      · rcases List.mem_cons.1 h with h | h
        · exact Or.inr (by simp [h])
        · rcases ih h with h | h
          · exact Or.inl h
          · exact Or.inr (List.mem_cons_of_mem _ h)

/-- Insertion keeps the order. -/
theorem pairwise_insertEntry (target : Target) (value : α) {entries : List (Target × α)}
    (h : entries.Pairwise (fun a b => a.1.Before b.1)) :
    (insertEntry target value entries).Pairwise (fun a b => a.1.Before b.1) := by
  induction entries with
  | nil => simp [insertEntry]
  | cons head rest ih =>
    obtain ⟨other, held⟩ := head
    obtain ⟨hhead, hrest⟩ := List.pairwise_cons.1 h
    rw [insertEntry]
    split
    · rename_i hbefore
      refine List.pairwise_cons.2 ⟨fun entry hentry => ?_, h⟩
      rcases List.mem_cons.1 hentry with rfl | hentry
      · exact hbefore
      · exact Target.before_trans hbefore (hhead entry hentry)
    · split
      · rename_i heq
        subst heq
        exact List.pairwise_cons.2 ⟨hhead, hrest⟩
      · rename_i hbefore hne
        refine List.pairwise_cons.2 ⟨fun entry hentry => ?_, ih hrest⟩
        rcases fst_of_mem_insertEntry hentry with rfl | hentry
        · exact Target.before_total (fun h => hne h.symm) hbefore
        · exact hhead entry hentry

/-- Gives a target a value. -/
def insert (map : TargetMap α) (target : Target) (value : α) : TargetMap α :=
  ⟨insertEntry target value map.entries, pairwise_insertEntry target value map.ordered⟩

/-- Takes targets away, those that a condition does not hold of. -/
def filter (map : TargetMap α) (keep : Target → Bool) : TargetMap α :=
  ⟨map.entries.filter (keep ·.1), map.ordered.filter _⟩

/-! ## Lookup -/

/-- The empty map has no values. -/
@[simp] theorem get?_empty (target : Target) : (empty : TargetMap α).get? target = none := rfl

/-- After insertion the target has the new value, and every other one what it had. -/
theorem get?_insert (map : TargetMap α) (target other : Target) (value : α) :
    (map.insert target value).get? other =
      if target = other then some value else map.get? other := by
  obtain ⟨entries, ordered⟩ := map
  simp only [get?, insert]
  induction entries with
  | nil => by_cases h : target = other <;> simp [insertEntry, h]
  | cons head rest ih =>
    obtain ⟨first, held⟩ := head
    have ih := ih (List.pairwise_cons.1 ordered).2
    rw [insertEntry]
    split
    · by_cases h : target = other <;> simp [h]
    · split
      · rename_i heq
        subst heq
        by_cases h : target = other <;> simp [h]
      · rename_i hne
        by_cases h : first = other
        · subst h
          simp [hne]
        · simp only [List.find?_cons, h, decide_false]
          exact ih

/-- A filtered map has the values of the targets that it keeps. -/
theorem get?_filter (map : TargetMap α) (keep : Target → Bool) (target : Target) :
    (map.filter keep).get? target = if keep target then map.get? target else none := by
  obtain ⟨entries, ordered⟩ := map
  simp only [get?, filter]
  induction entries with
  | nil => simp
  | cons head rest ih =>
    obtain ⟨first, held⟩ := head
    have ih := ih (List.pairwise_cons.1 ordered).2
    by_cases hkeep : keep first <;> by_cases h : first = target
    · subst h
      simp [hkeep]
    · simpa [hkeep, h] using ih
    · subst h
      simp only [hkeep, Bool.false_eq_true, not_false_eq_true, List.filter_cons_of_neg, if_false]
      rw [ih]
      simp [hkeep]
    · simpa [hkeep, h] using ih

end TargetMap

end Forwarder
