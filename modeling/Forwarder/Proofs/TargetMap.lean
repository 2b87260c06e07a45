import Forwarder.TargetMap

/-!
# Maps from targets as functions

A map is determined by its lookups, and a lookup tells exactly which pairs the list holds. Two
operations that sessions do not need themselves, but that what is said about them does: changing
every value, and taking one target away.
-/

namespace Forwarder.TargetMap

variable {α β : Type}

theorem nodup_targets (map : TargetMap α) : map.targets.Nodup := by
  refine List.pairwise_map.2 (map.ordered.imp fun {a b} hbefore heq => ?_)
  rw [heq] at hbefore
  exact Target.not_before_self _ hbefore

theorem nodup_entries (map : TargetMap α) : map.entries.Nodup :=
  List.Pairwise.of_map (·.1) (fun _ _ hne heq => hne (congrArg Prod.fst heq)) map.nodup_targets

/-- When no target stands twice in a list of pairs, the first one does not stand again. -/
theorem ne_of_nodup_cons {target : Target} {value : α} {rest : List (Target × α)}
    (h : (((target, value) :: rest).map (·.1)).Nodup) : ∀ entry ∈ rest, target ≠ entry.1 := by
  intro entry hentry heq
  have hnot : target ∉ rest.map (·.1) := (List.nodup_cons.1 h).1
  exact hnot (List.mem_map.2 ⟨entry, hentry, heq.symm⟩)

/-- The pairs of an ordered list with one target are all the same. -/
theorem eq_of_mem_ordered {entries : List (Target × α)} {target : Target} {a b : α}
    (h : entries.Pairwise (fun a b => a.1.Before b.1)) (ha : (target, a) ∈ entries)
    (hb : (target, b) ∈ entries) : a = b := by
  induction entries with
  | nil => cases ha
  | cons head rest ih =>
    obtain ⟨hhead, hrest⟩ := List.pairwise_cons.1 h
    rcases List.mem_cons.1 ha with rfl | harest <;> rcases List.mem_cons.1 hb with heq | hbrest
    · exact (Prod.mk.inj heq).2.symm
    · exact absurd (hhead _ hbrest) (Target.not_before_self _)
    · subst heq
      exact absurd (hhead _ harest) (Target.not_before_self _)
    · exact ih hrest harest hbrest

/-- A map has a value for a target exactly if its list pairs the two. -/
theorem get?_eq_some_iff {map : TargetMap α} {target : Target} {value : α} :
    map.get? target = some value ↔ (target, value) ∈ map.entries := by
  constructor
  · intro h
    obtain ⟨⟨other, held⟩, hfind, hheld⟩ := Option.map_eq_some_iff.1 h
    have hother : other = target := by simpa using List.find?_some hfind
    have hmem := List.mem_of_find?_eq_some hfind
    subst hother
    subst hheld
    exact hmem
  · intro h
    have hsome : (map.entries.find? (·.1 = target)).isSome := by
      rw [List.find?_isSome]
      exact ⟨_, h, by simp⟩
    obtain ⟨⟨other, held⟩, hfind⟩ := Option.isSome_iff_exists.1 hsome
    have hother : other = target := by simpa using List.find?_some hfind
    subst hother
    have hheld := eq_of_mem_ordered map.ordered (List.mem_of_find?_eq_some hfind) h
    subst hheld
    rw [get?, hfind]
    rfl

/-- Maps with the same lookups are equal. -/
theorem ext_get? {a b : TargetMap α} (h : ∀ target, a.get? target = b.get? target) : a = b := by
  have hmem : ∀ entry, entry ∈ a.entries ↔ entry ∈ b.entries := by
    rintro ⟨target, value⟩
    rw [← get?_eq_some_iff, ← get?_eq_some_iff, h]
  have hperm : a.entries.Perm b.entries :=
    (List.perm_ext_iff_of_nodup a.nodup_entries b.nodup_entries).2 hmem
  have hentries : a.entries = b.entries :=
    hperm.eq_of_pairwise
      (fun x y _ _ hxy hyx => absurd (Target.before_trans hxy hyx) (Target.not_before_self _))
      a.ordered b.ordered
  obtain ⟨entries, ordered⟩ := a
  obtain ⟨others, ordered'⟩ := b
  simp only at hentries
  subst hentries
  rfl

/-- A map holds the targets that have a value. -/
theorem mem_targets_iff {map : TargetMap α} {target : Target} :
    target ∈ map.targets ↔ ∃ value, map.get? target = some value := by
  simp only [targets, List.mem_map, get?_eq_some_iff, Prod.exists]
  constructor
  · rintro ⟨other, value, hmem, rfl⟩
    exact ⟨value, hmem⟩
  · rintro ⟨value, hmem⟩
    exact ⟨target, value, hmem, rfl⟩

/-- Without the targets that satisfy a condition a map has those that do not. -/
theorem filter_not_mem_targets (map : TargetMap α) (drop : Target → Bool) :
    map.filter (· ∉ (map.filter drop).targets) = map.filter fun target => !drop target := by
  refine ext_get? fun target => ?_
  rw [get?_filter, get?_filter]
  cases hvalue : map.get? target with
  | none => simp
  | some value =>
    have hmem : target ∈ (map.filter drop).targets ↔ drop target = true := by
      rw [mem_targets_iff]
      simp [get?_filter, hvalue]
    cases hdrop : drop target <;> simp [hmem, hdrop]

/-! ## Changing every value -/

/-- The map with every value changed by a function. -/
def mapValues (map : TargetMap α) (f : α → β) : TargetMap β :=
  ⟨map.entries.map fun entry => (entry.1, f entry.2),
    List.pairwise_map.2 (map.ordered.imp fun h => h)⟩

theorem get?_mapValues (map : TargetMap α) (f : α → β) (target : Target) :
    (map.mapValues f).get? target = (map.get? target).map f := by
  rw [get?, get?, mapValues, List.find?_map, Option.map_map, Option.map_map]
  rfl

theorem mapValues_insert (map : TargetMap α) (f : α → β) (target : Target) (value : α) :
    (map.insert target value).mapValues f = (map.mapValues f).insert target (f value) := by
  refine ext_get? fun other => ?_
  rw [get?_mapValues, get?_insert, get?_insert, get?_mapValues]
  split <;> rfl

/-! ## Taking a target away -/

/-- The map without one target. -/
def erase (map : TargetMap α) (target : Target) : TargetMap α := map.filter (· ≠ target)

theorem get?_erase (map : TargetMap α) (target other : Target) :
    (map.erase target).get? other = if target = other then none else map.get? other := by
  rw [erase, get?_filter]
  by_cases h : target = other
  · simp [h]
  · simp [h, Ne.symm h]

theorem mapValues_erase (map : TargetMap α) (f : α → β) (target : Target) :
    (map.erase target).mapValues f = (map.mapValues f).erase target := by
  refine ext_get? fun other => ?_
  rw [get?_mapValues, get?_erase, get?_erase, get?_mapValues]
  split <;> rfl

end Forwarder.TargetMap
