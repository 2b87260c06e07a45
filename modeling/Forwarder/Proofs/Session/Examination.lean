import Forwarder.Proofs.Derivation
import Forwarder.Session

/-!
# The first phase of a run

What becomes of a candidate is settled by the snapshot, the settings and what the cache has for its
target. The token only decides whether it comes to that: a candidate that takes some check is
abandoned if its checks and those of all candidates before it are more than the token lets pass. No
two candidates have the same target.
-/

namespace Forwarder.Session

variable {settings : Settings} {cache : Cache} {snapshot : Snapshot}

/-- What becomes of a candidate that is not abandoned, given what the cache has for its target. -/
def settle (settings : Settings) (snapshot : Snapshot) (type : TypeDecl)
    (cached : Option CachedOutput) : Outcome :=
  match type.decorator? snapshot settings with
  | none => .nothing
  | some decorator =>
    if cached.map (·.decorator) = some decorator then .unchanged
    else generateEntry settings decorator

/-! ## One candidate -/

/-- A candidate whose checks pass is settled. -/
theorem examine_of_permits (cache : Cache) {type : TypeDecl} {token : Cancellation}
    (h : token.Permits (type.checks snapshot)) :
    examine settings cache snapshot type token =
      (settle settings snapshot type (cache.get? type.target),
        token.spend (type.checks snapshot)) := by
  rw [examine, (Decorator.derive_takes snapshot settings type).finishes token h, settle]
  cases hdecorator : type.decorator? snapshot settings with
  | none => rfl
  | some decorator =>
    -- a decorator takes some check, so the token is not cancelled when its source is made
    have hpos := TypeDecl.checks_pos_of_decorator? hdecorator
    have hactive : (token.spend (type.checks snapshot)).cancelled = false := by
      show token.cancelled = false
      exact Cancellation.not_cancelled_of_permits hpos h
    simp only [hactive, Bool.false_eq_true, if_false]
    split <;> rfl

/-- A candidate whose checks do not all pass is abandoned. -/
theorem examine_of_not_permits (cache : Cache) {type : TypeDecl} {token : Cancellation}
    (h : ¬ token.Permits (type.checks snapshot)) :
    ∃ after, examine settings cache snapshot type token = (.cancelled, after) ∧
      after.cancelled = true := by
  obtain ⟨operation, after, hstop, hafter⟩ :=
    (Decorator.derive_takes snapshot settings type).stops token h
  refine ⟨after, ?_, hafter⟩
  rw [examine, hstop]
  rfl

/-! ## All candidates -/

/-- The checks that the types of a list take up to and including a position. -/
def checksThrough (snapshot : Snapshot) : List TypeDecl → Nat → Nat
  | [], _ => 0
  | type :: _, 0 => type.checks snapshot
  | type :: rest, position + 1 => type.checks snapshot + checksThrough snapshot rest position

/-- The outcome of the type at a position: it is abandoned if it takes some check, and not all
checks up to it pass. -/
def outcomeAt (settings : Settings) (cache : Cache) (snapshot : Snapshot) (types : List TypeDecl)
    (token : Cancellation) (position : Nat) (type : TypeDecl) : Outcome :=
  if 0 < type.checks snapshot ∧ ¬ token.Permits (checksThrough snapshot types position) then
    .cancelled
  else settle settings snapshot type (cache.get? type.target)

/-- A type takes no more checks than there are through its position. -/
theorem checks_le_checksThrough (snapshot : Snapshot) {types : List TypeDecl} {position : Nat}
    {type : TypeDecl} (h : types[position]? = some type) :
    type.checks snapshot ≤ checksThrough snapshot types position := by
  induction types generalizing position with
  | nil => simp at h
  | cons head rest ih =>
    cases position with
    | zero =>
      obtain rfl : head = type := by simpa using h
      exact Nat.le_refl _
    | succ position =>
      have hrest : type.checks snapshot ≤ checksThrough snapshot rest position :=
        ih (by simpa using h)
      rw [checksThrough]
      omega

/-- Every type of a list has the outcome of its position. -/
theorem examineAll_eq (types : List TypeDecl) (token : Cancellation) :
    examineAll settings cache snapshot types token =
      types.mapIdx fun position type =>
        (type.target, outcomeAt settings cache snapshot types token position type) := by
  induction types generalizing token with
  | nil => rfl
  | cons type rest ih =>
    rw [examineAll, List.mapIdx_cons, outcomeAt, checksThrough]
    by_cases hpass : token.Permits (type.checks snapshot)
    · rw [examine_of_permits cache hpass]
      simp only [hpass, not_true_eq_false, and_false, if_false]
      rw [ih]
      congr 2
      funext position other
      simp only [outcomeAt, checksThrough, Cancellation.permits_add, hpass, true_and]
    · obtain ⟨after, hexamine, hafter⟩ := examine_of_not_permits cache hpass
      have hpos : 0 < type.checks snapshot :=
        Nat.pos_of_ne_zero fun hzero => hpass (hzero ▸ token.permits_zero)
      rw [hexamine]
      simp only [hpass, not_false_eq_true, and_true, hpos, if_true]
      rw [ih]
      congr 1
      -- once the token is cancelled, whatever takes a check is abandoned
      refine List.ext_getElem? fun position => ?_
      rw [List.getElem?_mapIdx, List.getElem?_mapIdx]
      cases hother : rest[position]? with
      | none => rfl
      | some other =>
        have hle := checks_le_checksThrough snapshot hother
        simp only [Option.map_some, outcomeAt, checksThrough, Cancellation.permits_add, hpass,
          false_and, not_false_eq_true, and_true,
          Cancellation.permits_iff_of_cancelled hafter]
        by_cases hcheck : 0 < other.checks snapshot
        · have hne : checksThrough snapshot rest position ≠ 0 := by omega
          simp [hcheck, hne]
        · simp [hcheck]

/-- On a fresh token every candidate is settled. -/
theorem examineAll_fresh (types : List TypeDecl) :
    examineAll settings cache snapshot types .fresh =
      types.map fun type =>
        (type.target, settle settings snapshot type (cache.get? type.target)) := by
  rw [examineAll_eq]
  simp only [outcomeAt, Cancellation.permits_fresh, not_true_eq_false, and_false, if_false]
  refine List.ext_getElem? fun position => ?_
  rw [List.getElem?_mapIdx, List.getElem?_map]

/-- Every outcome is that of a type with its target, and it is settled unless it is abandoned. -/
theorem exists_of_mem_examineAll {types : List TypeDecl} {token : Cancellation} {target : Target}
    {outcome : Outcome}
    (h : (target, outcome) ∈ examineAll settings cache snapshot types token) :
    ∃ type ∈ types, type.target = target ∧
      (outcome = .cancelled ∨ outcome = settle settings snapshot type (cache.get? target)) := by
  rw [examineAll_eq] at h
  obtain ⟨position, hposition, heq⟩ := List.mem_mapIdx.1 h
  obtain ⟨rfl, rfl⟩ := Prod.mk.inj heq
  refine ⟨types[position], List.getElem_mem hposition, rfl, ?_⟩
  rw [outcomeAt]
  split
  · exact Or.inl rfl
  · exact Or.inr rfl

theorem map_fst_examineAll (types : List TypeDecl) (token : Cancellation) :
    (examineAll settings cache snapshot types token).map (·.1) = types.map (·.target) := by
  induction types generalizing token with
  | nil => rfl
  | cons type rest ih =>
    rw [examineAll]
    simp [ih]

/-! ## Candidates -/

/-- Of the types that are kept none has a target that was seen before, and no two have the same. -/
theorem nodup_distinctTargets (seen : List Target) (types : List TypeDecl) :
    ((distinctTargets seen types).map (·.target)).Nodup ∧
      ∀ type ∈ distinctTargets seen types, type.target ∉ seen := by
  induction types generalizing seen with
  | nil => simp [distinctTargets]
  | cons type rest ih =>
    rw [distinctTargets]
    split
    · exact ih seen
    · rename_i hseen
      obtain ⟨hnodup, hfresh⟩ := ih (type.target :: seen)
      refine ⟨?_, ?_⟩
      · rw [List.map_cons, List.nodup_cons]
        refine ⟨fun hmem => ?_, hnodup⟩
        obtain ⟨other, hother, htarget⟩ := List.mem_map.1 hmem
        exact hfresh other hother (htarget ▸ List.mem_cons_self)
      · intro other hother
        rcases List.mem_cons.1 hother with rfl | hother
        · exact hseen
        · exact fun hmem => hfresh other hother (List.mem_cons_of_mem _ hmem)

theorem nodup_candidates (settings : Settings) (snapshot : Snapshot) :
    ((candidates settings snapshot).map (·.target)).Nodup :=
  (nodup_distinctTargets [] _).1

end Forwarder.Session
