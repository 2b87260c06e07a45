import Mathlib.Data.List.Basic
import Forwarder.Cancellation.Clones

/-!
# What tokens have in common

All clones of a token have its references, since nothing ever changes the references of a token. So
it makes no difference which of them is called, and the replies are those of a family with one
state. What that state is can be told from the calls alone: the allowance goes down with every
check, and the flag is set by requests and by the first check that finds nothing left.
-/

namespace Forwarder

namespace Cancellation

variable {memory : Memory} {clones : Clones} {calls : List (Nat × Call)} {events : List Event}

/-! ## One token -/

namespace Token

/-- The state that a memory holds for a token. -/
def state (token : Token) (memory : Memory) : Cancellation :=
  ⟨memory.flags token.flag, token.counter.map memory.counters⟩

theorem state_cancel (token : Token) (memory : Memory) :
    token.state (token.cancel memory) = (token.state memory).cancel := by
  simp [state, cancel, Cancellation.cancel, Memory.setFlag]

theorem state_draw (token : Token) (memory : Memory) :
    token.state (token.draw memory) = (token.state memory).draw := by
  obtain ⟨flag, counter⟩ := token
  cases counter with
  | none => rfl
  | some place =>
    cases hleft : memory.counters place with
    | zero =>
      have hdraw : draw ⟨flag, some place⟩ memory = cancel ⟨flag, some place⟩ memory := by
        simp [draw, hleft]
      rw [hdraw, state_cancel]
      simp [state, Cancellation.draw, hleft]
    | succ left => simp [state, draw, Cancellation.draw, Memory.setCounter, hleft]

end Token

/-! ## A family -/

/-- The reply to a check, and what it leaves. -/
theorem Family.call_check (family : Family) (operation : String) :
    family.call (.check operation) =
      (if family.shared.draw.cancelled then .refused (.cancelled operation) else .passed,
        { family with shared := family.shared.draw }) := by
  rw [Family.call, check]
  cases family.shared.draw.cancelled <;> rfl

namespace Clones

/-- The family that the tokens are, if they have everything in common. -/
def family (clones : Clones) : Family :=
  ⟨clones.original.state clones.memory, clones.copies.length + 1⟩

/-- All tokens have the same references. -/
def Shared (clones : Clones) : Prop := ∀ copy ∈ clones.copies, copy = clones.original

theorem Shared.eq_original (h : clones.Shared) {token : Token} (hmem : token ∈ clones.tokens) :
    token = clones.original :=
  (List.mem_cons.1 hmem).elim id (h token)

theorem Shared.token_eq (h : clones.Shared) (number : Nat) :
    clones.token number = clones.original := by
  rw [token]
  cases hfound : clones.tokens[number]? with
  | none => rfl
  | some found => exact h.eq_original (List.mem_of_getElem? hfound)

theorem shared_create (state : Cancellation) (flag counter : Nat) (memory : Memory) :
    (create state flag counter memory).Shared := fun _ hmem => absurd hmem List.not_mem_nil

/-- A new token is in the state that it is meant to be in. -/
theorem family_create (state : Cancellation) (flag counter : Nat) (memory : Memory) :
    (create state flag counter memory).family = ⟨state, 1⟩ := by
  obtain ⟨cancelled, allowance⟩ := state
  cases allowance with
  | none => simp [create, family, Token.state, Memory.setFlag]
  | some checks => simp [create, family, Token.state, Memory.setFlag, Memory.setCounter]

theorem call_check (clones : Clones) (number : Nat) (operation : String) :
    clones.call number (.check operation) =
      (if (clones.token number).isCancelled ((clones.token number).draw clones.memory) then
          .refused (.cancelled operation) else .passed,
        { clones with memory := (clones.token number).draw clones.memory }) := by
  rw [call, Token.check]
  cases (clones.token number).isCancelled ((clones.token number).draw clones.memory) <;> rfl

/-- A call on any of the tokens is a call on the family, and leaves the references as they are. -/
theorem Shared.call_eq (h : clones.Shared) (number : Nat) (call : Call) :
    ((clones.call number call).1, (clones.call number call).2.family) = clones.family.call call ∧
      (clones.call number call).2.Shared := by
  have htoken := h.token_eq number
  cases call with
  | clone =>
    refine ⟨by simp [Clones.call, family, Family.call], fun copy hcopy => ?_⟩
    rcases List.mem_append.1 hcopy with hcopy | hcopy
    · exact h copy hcopy
    · rw [List.mem_singleton.1 hcopy]
      exact htoken
  | check operation =>
    have hstate := clones.original.state_draw clones.memory
    refine ⟨?_, by rw [call_check]; exact h⟩
    rw [call_check, Family.call_check, htoken]
    simp only [family, ← hstate]
    rfl
  | cancel =>
    have hstate := clones.original.state_cancel clones.memory
    refine ⟨?_, h⟩
    simp only [Clones.call, htoken, Family.call, family, hstate]
    simp [Token.isCancelled, Token.cancel, Memory.setFlag]
  | query =>
    refine ⟨?_, h⟩
    simp only [Clones.call, htoken, Family.call]
    rfl

/-- The replies to calls on tokens are those to the calls on the family. -/
theorem Shared.run_eq (h : clones.Shared) (calls : List (Nat × Call)) :
    (clones.run calls).1.map (·.reply) = clones.family.replies (calls.map (·.2)) ∧
      (clones.run calls).2.Shared := by
  induction calls generalizing clones with
  | nil => exact ⟨rfl, h⟩
  | cons first rest ih =>
    obtain ⟨number, call⟩ := first
    obtain ⟨hcall, hshared⟩ := h.call_eq number call
    obtain ⟨hreplies, hlast⟩ := ih hshared
    refine ⟨?_, hlast⟩
    rw [List.map_cons, Family.replies, ← hcall]
    exact congrArg _ hreplies

end Clones

/-! ## What has happened -/

/-- Whether a call is a check. -/
def Call.isCheck : Call → Bool
  | .check _ => true
  | _ => false

/-- The number of checks among events, passed or not. -/
def checkCount (events : List Event) : Nat := events.countP (·.call.isCheck)

/-- After an event the family is cancelled because of it: cancellation was requested, or a check did
not pass. -/
def Event.Cancels (event : Event) : Prop :=
  event.call = .cancel ∨ ∃ failure, event.reply = .refused failure

/-- A state is what the events so far have made of a new token with a limit. -/
structure Accounts (limit : Option Nat) (events : List Event) (state : Cancellation) : Prop where
  /-- Every check has used up one of the allowance. -/
  allowance : state.allowance = limit.map (· - checkCount events)
  /-- Cancellation was requested, or there were more checks than allowed. -/
  cancelled_iff : state.cancelled = true ↔
    (∃ event ∈ events, event.call = .cancel) ∨ ∃ checks ∈ limit, checks < checkCount events
  /-- Some event has cancelled the family. -/
  cancelled_iff_cancels : state.cancelled = true ↔ ∃ event ∈ events, event.Cancels

variable {limit : Option Nat} {state : Cancellation} {family : Family}

theorem accounts_nil (limit : Option Nat) : Accounts limit [] ⟨false, limit⟩ where
  allowance := by cases limit <;> rfl
  cancelled_iff := by simp [checkCount]
  cancelled_iff_cancels := by simp

/-- A check uses up one of the allowance. It comes out cancelled if the family was cancelled, or if
the check is one more than allowed. -/
theorem Accounts.draw (h : Accounts limit events state) :
    state.draw.allowance = limit.map (· - (checkCount events + 1)) ∧
      (state.draw.cancelled = true ↔ (∃ event ∈ events, event.call = .cancel) ∨
        ∃ checks ∈ limit, checks < checkCount events + 1) := by
  obtain ⟨hallowance, hcancelled, -⟩ := h
  obtain ⟨cancelled, allowance⟩ := state
  cases limit with
  | none =>
    obtain rfl : allowance = none := hallowance
    exact ⟨rfl, by simpa [Cancellation.draw] using hcancelled⟩
  | some checks =>
    obtain rfl : allowance = some (checks - checkCount events) := hallowance
    simp only [Option.mem_some_iff, exists_eq_left'] at hcancelled ⊢
    cases hleft : checks - checkCount events with
    | zero =>
      refine ⟨?_, iff_of_true rfl (.inr (by omega))⟩
      rw [Option.map_some, Nat.sub_add_eq, hleft]
      rfl
    | succ left =>
      have hle : ¬ checks < checkCount events + 1 := by omega
      have hlt : ¬ checks < checkCount events := by omega
      refine ⟨?_, ?_⟩
      · rw [Option.map_some, Nat.sub_add_eq, hleft]
        rfl
      · rw [or_iff_left hle]
        exact hcancelled.trans (or_iff_left hlt)

theorem checkCount_append (events : List Event) (event : Event) :
    checkCount (events ++ [event]) = checkCount events + if event.call.isCheck then 1 else 0 := by
  rw [checkCount, List.countP_append, List.countP_singleton]
  rfl

theorem exists_mem_append_singleton {p : Event → Prop} {event : Event} :
    (∃ other ∈ events ++ [event], p other) ↔ (∃ other ∈ events, p other) ∨ p event := by
  simp only [List.mem_append, List.mem_singleton, or_and_right, exists_or, exists_eq_left]

/-- A call that is neither a check nor a request changes nothing. -/
theorem Accounts.idle (h : Accounts limit events state) {event : Event}
    (hcheck : event.call.isCheck = false) (hcancel : event.call ≠ .cancel)
    (hpassed : ∀ failure, event.reply ≠ .refused failure) :
    Accounts limit (events ++ [event]) state := by
  have hcount : checkCount (events ++ [event]) = checkCount events := by
    rw [checkCount_append, hcheck]
    rfl
  have hcancels : ¬ event.Cancels := not_or_intro hcancel (not_exists.2 hpassed)
  constructor
  · rw [hcount, h.allowance]
  · rw [hcount, exists_mem_append_singleton, or_iff_left hcancel, h.cancelled_iff]
  · rw [exists_mem_append_singleton, or_iff_left hcancels, h.cancelled_iff_cancels]

/-- One call keeps accounts. -/
theorem Accounts.call (h : Accounts limit events family.shared) (number : Nat) (call : Call) :
    Accounts limit (events ++ [⟨number, call, (family.call call).1⟩])
      (family.call call).2.shared := by
  cases call with
  | clone => exact h.idle rfl (by simp) (by simp [Family.call])
  | query => exact h.idle rfl (by simp) (by simp [Family.call])
  | cancel =>
    constructor
    · rw [checkCount_append]
      exact h.allowance
    · rw [exists_mem_append_singleton]
      exact iff_of_true rfl (.inl (.inr rfl))
    · rw [exists_mem_append_singleton]
      exact iff_of_true rfl (.inr (.inl rfl))
  | check operation =>
    obtain ⟨hallowance, hcancelled⟩ := h.draw
    have hrequest : ¬ Call.check operation = .cancel := Call.noConfusion
    rw [Family.call_check]
    constructor
    · rw [checkCount_append]
      exact hallowance
    · rw [checkCount_append, exists_mem_append_singleton]
      simp only [hrequest, or_false]
      exact hcancelled
    · -- what was cancelled before still is, and otherwise the reply tells
      have hkept : family.shared.cancelled = true → family.shared.draw.cancelled = true := by
        rw [h.cancelled_iff, hcancelled]
        exact Or.imp_right fun ⟨checks, hchecks, hlt⟩ => ⟨checks, hchecks, Nat.lt_succ_of_lt hlt⟩
      rw [exists_mem_append_singleton, ← h.cancelled_iff_cancels]
      cases hdraw : family.shared.draw.cancelled with
      | false =>
        rw [hdraw] at hkept
        have hpassed : ¬ Event.Cancels ⟨number, .check operation, .passed⟩ := by
          simp [Event.Cancels]
        exact iff_of_false Bool.false_ne_true
          (not_or_intro (fun hbefore => Bool.false_ne_true (hkept hbefore)) hpassed)
      | true => exact iff_of_true rfl (.inr (.inr ⟨_, rfl⟩))

/-- A whole run keeps accounts. -/
theorem accounts_run (calls : List (Nat × Call)) (hshared : clones.Shared)
    (h : Accounts limit events clones.family.shared) :
    Accounts limit (events ++ (clones.run calls).1) (clones.run calls).2.family.shared := by
  induction calls generalizing clones events with
  | nil => rwa [Clones.run, List.append_nil]
  | cons first rest ih =>
    obtain ⟨number, call⟩ := first
    obtain ⟨hcall, hnext⟩ := hshared.call_eq number call
    have hstep := h.call number call
    rw [← hcall] at hstep
    have hrest := ih hnext hstep
    rwa [List.append_assoc, List.singleton_append] at hrest

/-! ## Replies -/

namespace Clones

/-- Every call is answered, in order. -/
theorem run_calls (clones : Clones) (calls : List (Nat × Call)) :
    (clones.run calls).1.map (fun event => (event.token, event.call)) = calls := by
  induction calls generalizing clones with
  | nil => rfl
  | cons first rest ih => exact congrArg (first :: ·) (ih _)

/-- Only a call for a clone adds a token. -/
theorem length_tokens_call (clones : Clones) (number : Nat) (call : Call) :
    (clones.call number call).2.tokens.length =
      clones.tokens.length + if call = .clone then 1 else 0 := by
  cases call with
  | clone => simp [Clones.call, tokens]
  | check operation =>
    rw [call_check]
    rfl
  | cancel => rfl
  | query => rfl

/-- A run adds as many tokens as it has calls for a clone. -/
theorem length_tokens_run (clones : Clones) (calls : List (Nat × Call)) :
    (clones.run calls).2.tokens.length =
      clones.tokens.length + (calls.map (·.2)).count .clone := by
  induction calls generalizing clones with
  | nil => rfl
  | cons first rest ih =>
    obtain ⟨number, call⟩ := first
    have hrest := ih (clones.call number call).2
    rw [length_tokens_call] at hrest
    rw [Clones.run, hrest, List.map_cons, List.count_cons, Nat.add_assoc, Nat.add_comm (ite _ _ _)]
    simp only [beq_iff_eq]

/-- An event of a run is the call that comes after those of the events before it. -/
theorem run_split {event : Event} {earlier later : List Event}
    (h : (clones.run calls).1 = earlier ++ event :: later) :
    ∃ front, (clones.run front).1 = earlier ∧
      event.reply = ((clones.run front).2.call event.token event.call).1 := by
  induction earlier generalizing clones calls with
  | nil =>
    cases calls with
    | nil => cases h
    | cons first rest =>
      obtain ⟨rfl, -⟩ := List.cons.inj h
      exact ⟨[], rfl, rfl⟩
  | cons head earlier ih =>
    cases calls with
    | nil => cases h
    | cons first rest =>
      obtain ⟨rfl, htail⟩ := List.cons.inj h
      obtain ⟨front, hfront, hreply⟩ := ih htail
      exact ⟨first :: front, congrArg (_ :: ·) hfront, hreply⟩

/-- What a run on a token with a limit and on its clones has to be like, whichever of them the calls
are on. -/
structure Lawful (limit : Option Nat) (calls : List (Nat × Call)) (events : List Event)
    (last : Clones) : Prop where
  /-- Every call is answered, in order. -/
  answered : events.map (fun event => (event.token, event.call)) = calls
  /-- There is one token more than there were calls for a clone. -/
  length_tokens : last.tokens.length = 1 + (calls.map (·.2)).count .clone
  /-- A check passes exactly if it is within the limit and cancellation has not been requested. -/
  check {earlier later : List Event} {number : Nat} {operation : String} {reply : Reply} :
    events = earlier ++ ⟨number, .check operation, reply⟩ :: later →
      (reply = .passed ↔ (∀ checks ∈ limit, checkCount earlier + 1 ≤ checks) ∧
        ∀ event ∈ earlier, event.call ≠ .cancel) ∧
      (reply ≠ .passed → reply = .refused (.cancelled operation))
  /-- A query tells whether there has been a request or a refused check. -/
  query {earlier later : List Event} {number : Nat} {reply : Reply} :
    events = earlier ++ ⟨number, .query, reply⟩ :: later →
      ∃ answer, reply = .state answer ∧ (answer = true ↔ ∃ event ∈ earlier, event.Cancels)
  /-- Once one query has been answered with true, all are. -/
  latched {earlier between later : List Event} {first second : Nat} {reply : Reply} :
    events = earlier ++ ⟨first, .query, .state true⟩ :: between ++
        ⟨second, .query, reply⟩ :: later →
      reply = .state true
  /-- In the end every token is cancelled if there has been a request or a refused check, which may
  have been the last call, and none is otherwise. -/
  cancelled {token : Token} : token ∈ last.tokens →
    (token.isCancelled last.memory = true ↔ ∃ event ∈ events, event.Cancels)

/-- An event of a run from a new token is a call on a family that its history accounts for. -/
theorem Shared.event (hshared : clones.Shared) (h : Accounts limit [] clones.family.shared)
    {event : Event} {earlier later : List Event}
    (hsplit : (clones.run calls).1 = earlier ++ event :: later) :
    ∃ family : Family, Accounts limit earlier family.shared ∧
      event.reply = (family.call event.call).1 := by
  obtain ⟨front, rfl, hreply⟩ := run_split hsplit
  refine ⟨(clones.run front).2.family, ?_, ?_⟩
  · exact accounts_run front hshared h
  · rw [hreply, ← ((hshared.run_eq front).2.call_eq event.token event.call).1]

/-- A check passes as the events before it demand. -/
theorem Shared.check_reply (hshared : clones.Shared)
    (h : Accounts limit [] clones.family.shared) {earlier later : List Event} {number : Nat}
    {operation : String} {reply : Reply}
    (hsplit : (clones.run calls).1 = earlier ++ ⟨number, .check operation, reply⟩ :: later) :
    (reply = .passed ↔ (∀ checks ∈ limit, checkCount earlier + 1 ≤ checks) ∧
        ∀ event ∈ earlier, event.call ≠ .cancel) ∧
      (reply ≠ .passed → reply = .refused (.cancelled operation)) := by
  obtain ⟨family, haccounts, hreply⟩ := hshared.event h hsplit
  have hpasses : family.shared.draw.cancelled = false ↔
      (∀ checks ∈ limit, checkCount earlier + 1 ≤ checks) ∧
        ∀ event ∈ earlier, event.call ≠ .cancel := by
    rw [← Bool.not_eq_true, haccounts.draw.2, not_or, and_comm]
    simp only [not_exists, not_and, Nat.not_lt, ne_eq]
  rw [Family.call_check] at hreply
  obtain rfl : reply = _ := hreply
  rw [← hpasses]
  cases family.shared.draw.cancelled with
  | false => exact ⟨iff_of_true rfl rfl, fun hne => absurd rfl hne⟩
  | true => exact ⟨iff_of_false Reply.noConfusion Bool.noConfusion, fun _ => rfl⟩

/-- A query is answered as the events before it demand. -/
theorem Shared.query_reply (hshared : clones.Shared)
    (h : Accounts limit [] clones.family.shared) {earlier later : List Event} {number : Nat}
    {reply : Reply}
    (hsplit : (clones.run calls).1 = earlier ++ ⟨number, .query, reply⟩ :: later) :
    ∃ answer, reply = .state answer ∧ (answer = true ↔ ∃ event ∈ earlier, event.Cancels) := by
  obtain ⟨family, haccounts, hreply⟩ := hshared.event h hsplit
  exact ⟨family.shared.cancelled, hreply, haccounts.cancelled_iff_cancels⟩

theorem Shared.lawful (hshared : clones.Shared) (h : Accounts limit [] clones.family.shared)
    (hnew : clones.tokens.length = 1) (calls : List (Nat × Call)) :
    Lawful limit calls (clones.run calls).1 (clones.run calls).2 where
  answered := run_calls clones calls
  length_tokens := by rw [length_tokens_run, hnew]
  check := hshared.check_reply h
  query := hshared.query_reply h
  latched {earlier between later first second reply} hsplit := by
    -- what made the first answer true is also before the second query
    have hfirst := hsplit
    rw [List.append_assoc, List.cons_append] at hfirst
    obtain ⟨answer, hstate, hbefore⟩ := hshared.query_reply h hfirst
    obtain ⟨event, hmem, hcancels⟩ := hbefore.1 (Reply.state.inj hstate).symm
    obtain ⟨answer, rfl, hanswer⟩ := hshared.query_reply h hsplit
    rw [hanswer.2 ⟨event, List.mem_append_left _ hmem, hcancels⟩]
  cancelled {token} htoken := by
    have hlast := (accounts_run calls hshared h).cancelled_iff_cancels
    rw [(hshared.run_eq calls).2.eq_original htoken]
    exact hlast

/-- A new token and its clones are lawful, with a limit and without, whatever else the memory
holds. -/
theorem lawful_run (flag counter : Nat) (memory : Memory) :
    (∀ checks calls,
      let outcome := (create (.allowing checks) flag counter memory).run calls
      Lawful (some checks) calls outcome.1 outcome.2) ∧
    ∀ calls,
      let outcome := (create .fresh flag counter memory).run calls
      Lawful none calls outcome.1 outcome.2 := by
  have hlawful (limit : Option Nat) (calls : List (Nat × Call)) :
      Lawful limit calls ((create ⟨false, limit⟩ flag counter memory).run calls).1
        ((create ⟨false, limit⟩ flag counter memory).run calls).2 := by
    have hshared := shared_create ⟨false, limit⟩ flag counter memory
    refine hshared.lawful ?_ rfl calls
    rw [family_create]
    exact accounts_nil limit
  exact ⟨fun checks => hlawful (some checks), hlawful none⟩

/-- A token and its clone use up one allowance. -/
example : ((create (.allowing 2) 0 0 ⟨fun _ => false, fun _ => 0⟩).run
      [(0, .clone), (0, .check "t"), (1, .check "t"), (0, .check "t"), (1, .query)]).1.map
        (·.reply) =
    [.members 2, .passed, .passed, .refused (.cancelled "t"), .state true] := by
  decide

end Clones

end Cancellation

end Forwarder
