import Forwarder.Cancellation

/-!
# What polling costs

A walk that polls a token makes a number of checks that the token has no influence on. If the token
lets that many checks pass, the walk comes to its value and the token has spent them; if not, the
walk ends with a cancellation and leaves the token cancelled. `Watched.Takes` says this of a walk
once for every token, and the lemmas below build it up along the way walks are put together.
-/

namespace Forwarder

namespace Cancellation

/-- A number of checks pass, one after the other. -/
def Permits (token : Cancellation) (checks : Nat) : Prop :=
  checks = 0 ∨ token.cancelled = false ∧ ∀ left ∈ token.allowance, checks ≤ left

instance (token : Cancellation) (checks : Nat) : Decidable (token.Permits checks) := by
  unfold Permits
  infer_instance

/-- The state after a number of checks have passed. -/
def spend (token : Cancellation) (checks : Nat) : Cancellation :=
  { token with allowance := token.allowance.map (· - checks) }

theorem permits_zero (token : Cancellation) : token.Permits 0 := Or.inl rfl

theorem spend_zero (token : Cancellation) : token.spend 0 = token := by
  obtain ⟨cancelled, allowance⟩ := token
  cases allowance <;> rfl

/-- Checks pass exactly if a first part of them does and then the rest. -/
theorem permits_add (token : Cancellation) (first rest : Nat) :
    token.Permits (first + rest) ↔ token.Permits first ∧ (token.spend first).Permits rest := by
  obtain ⟨cancelled, allowance⟩ := token
  cases allowance with
  | none =>
    simp only [Permits, spend, Option.map_none, Option.not_mem_none, false_implies, implies_true,
      and_true]
    cases cancelled <;> simp
  | some left =>
    simp only [Permits, spend, Option.map_some, Option.mem_some_iff, forall_eq']
    cases cancelled
    · simp only [true_and]
      omega
    · simp only [reduceCtorEq, false_and, or_false]
      omega

theorem spend_spend (token : Cancellation) (first rest : Nat) :
    (token.spend first).spend rest = token.spend (first + rest) := by
  obtain ⟨cancelled, allowance⟩ := token
  cases allowance with
  | none => rfl
  | some left => simp [spend, Nat.sub_sub]

theorem permits_fresh (checks : Nat) : fresh.Permits checks := Or.inr ⟨rfl, by simp [fresh]⟩

/-- A token with an allowance lets just as many checks pass. -/
theorem permits_allowing_iff (allowance checks : Nat) :
    (allowing allowance).Permits checks ↔ checks ≤ allowance := by
  simp only [Permits, allowing, Option.mem_some_iff, forall_eq', true_and]
  omega

theorem permits_iff_of_cancelled {token : Cancellation} (h : token.cancelled = true)
    (checks : Nat) : token.Permits checks ↔ checks = 0 := by
  simp [Permits, h]

theorem not_cancelled_of_permits {token : Cancellation} {checks : Nat} (hchecks : 0 < checks)
    (h : token.Permits checks) : token.cancelled = false := by
  rcases h with h | ⟨h, -⟩
  · omega
  · exact h

/-- A check that passes spends one. -/
theorem check_of_permits {token : Cancellation} (operation : String) (h : token.Permits 1) :
    token.check operation = (.ok (), token.spend 1) := by
  obtain ⟨cancelled, allowance⟩ := token
  obtain rfl : cancelled = false := not_cancelled_of_permits Nat.one_pos h
  cases allowance with
  | none => rfl
  | some left =>
    cases left with
    | zero => simp [Permits] at h
    | succ left => rfl

/-- A check that does not pass is a cancellation, and leaves the token cancelled. -/
theorem check_of_not_permits {token : Cancellation} (operation : String) (h : ¬ token.Permits 1) :
    ∃ after, token.check operation = (.error (.cancelled operation), after) ∧
      after.cancelled = true := by
  obtain ⟨cancelled, allowance⟩ := token
  cases cancelled with
  | true =>
    rcases allowance with _ | _ | left
    · exact ⟨_, rfl, rfl⟩
    · exact ⟨_, rfl, rfl⟩
    · exact ⟨_, rfl, rfl⟩
  | false =>
    rcases allowance with _ | _ | left
    · simp [Permits] at h
    · exact ⟨_, rfl, rfl⟩
    · simp [Permits] at h

end Cancellation

namespace Watched

variable {α β : Type}

/-- A walk makes a number of checks, and comes to a value if they pass. -/
structure Takes (task : Watched α) (checks : Nat) (value : α) : Prop where
  /-- When the checks pass, the walk comes to the value and has spent them. -/
  finishes : ∀ token : Cancellation, token.Permits checks →
    task.start token = (.ok value, token.spend checks)
  /-- When they do not, the walk is cancelled, and so is the token. -/
  stops : ∀ token : Cancellation, ¬ token.Permits checks →
    ∃ operation after, task.start token = (.error (.cancelled operation), after) ∧
      after.cancelled = true

/-- A sequence starts with its first part and goes on from where that leaves the token. -/
theorem start_bind (task : Watched α) (next : α → Watched β) (token : Cancellation) :
    (task >>= next).start token =
      match task.start token with
      | (.ok value, token) => (next value).start token
      | (.error failure, token) => (.error failure, token) := by
  show (ExceptT.run (task >>= next)).run token = _
  rw [ExceptT.run_bind]
  simp only [StateT.run_bind, Watched.start]
  rcases StateT.run (ExceptT.run task) token with ⟨outcome, after⟩
  cases outcome <;> rfl

namespace Takes

/-- A value that is given straight away takes no check. -/
theorem pure (value : α) : (Pure.pure value : Watched α).Takes 0 value where
  finishes := fun token _ => by rw [token.spend_zero]; rfl
  stops := fun token h => absurd token.permits_zero h

/-- A check takes one check. -/
theorem check (operation : String) : (Watched.check operation).Takes 1 () where
  finishes := fun _ h => Cancellation.check_of_permits operation h
  stops := fun _ h => ⟨operation, Cancellation.check_of_not_permits operation h⟩

/-- A sequence takes the checks of both parts. -/
theorem bind {task : Watched α} {next : α → Watched β} {first rest : Nat} {value : α}
    {result : β} (htask : task.Takes first value) (hnext : (next value).Takes rest result) :
    (task >>= next).Takes (first + rest) result where
  finishes := by
    intro token h
    obtain ⟨hfirst, hrest⟩ := (token.permits_add first rest).1 h
    rw [start_bind, htask.finishes token hfirst]
    simp only
    rw [hnext.finishes _ hrest, token.spend_spend]
  stops := by
    intro token h
    by_cases hfirst : token.Permits first
    · have hrest : ¬ (token.spend first).Permits rest := fun hrest =>
        h ((token.permits_add first rest).2 ⟨hfirst, hrest⟩)
      obtain ⟨operation, after, hstop, hafter⟩ := hnext.stops _ hrest
      refine ⟨operation, after, ?_, hafter⟩
      rw [start_bind, htask.finishes token hfirst]
      exact hstop
    · obtain ⟨operation, after, hstop, hafter⟩ := htask.stops token hfirst
      refine ⟨operation, after, ?_, hafter⟩
      rw [start_bind, hstop]

/-- A change of the value takes no check of its own. -/
theorem map {task : Watched α} {checks : Nat} {value : α} (h : task.Takes checks value)
    (f : α → β) : (task >>= fun value => Pure.pure (f value)).Takes checks (f value) := by
  have hboth : (task >>= fun value => Pure.pure (f value)).Takes (checks + 0) (f value) :=
    h.bind (pure (f value))
  exact hboth

theorem start_fresh {task : Watched α} {checks : Nat} {value : α} (h : task.Takes checks value) :
    task.start .fresh = (.ok value, .fresh) :=
  h.finishes .fresh (Cancellation.permits_fresh checks)

end Takes

end Watched

end Forwarder
