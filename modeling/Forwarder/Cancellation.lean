import Forwarder.Failure

/-!
# Cooperative cancellation

Long walks poll a token between items and give up once it is cancelled. A token may also carry an
allowance of checks: each check uses one up, and the first check that finds none left cancels the
token. A token and its clones share both the flag and the allowance, so a whole family of tokens is
one `Cancellation` value that is passed along.
-/

namespace Forwarder

/-- The state that a token and all its clones share. -/
structure Cancellation where
  /-- Whether cancellation has been requested. -/
  cancelled : Bool
  /-- How many more checks may pass, if that is limited. -/
  allowance : Option Nat
  deriving DecidableEq, Repr

namespace Cancellation

/-- A token that is not cancelled and has no limit. -/
def fresh : Cancellation := ⟨false, none⟩

/-- A token that cancels itself once a number of checks have passed. -/
def allowing (checks : Nat) : Cancellation := ⟨false, some checks⟩

/-- The state after cancellation has been requested. -/
def cancel (token : Cancellation) : Cancellation := { token with cancelled := true }

/-- The state after a check has drawn on the allowance. -/
def draw (token : Cancellation) : Cancellation :=
  match token.allowance with
  | none => token
  | some 0 => token.cancel
  | some (left + 1) => { token with allowance := some left }

/-- Draws on the allowance and tells whether the named operation may go on. -/
def check (operation : String) (token : Cancellation) : Except Failure Unit × Cancellation :=
  let token := token.draw
  (if token.cancelled then .error (.cancelled operation) else .ok (), token)

/-! ## Families of tokens -/

/-- A call on one token of a family. -/
inductive Call where
  /-- Adds a clone to the family. -/
  | clone
  /-- Checks on behalf of an operation. -/
  | check (operation : String)
  /-- Requests cancellation. -/
  | cancel
  /-- Asks whether cancellation has been requested. -/
  | query
  deriving DecidableEq, Repr

/-- The answer to a call. -/
inductive Reply where
  /-- The number of tokens in the family. -/
  | members (count : Nat)
  /-- A check has passed. -/
  | passed
  /-- A check has not passed. -/
  | refused (failure : Failure)
  /-- Whether cancellation has been requested. -/
  | state (cancelled : Bool)
  deriving DecidableEq, Repr

/-- A token with its clones. -/
structure Family where
  /-- What they share. -/
  shared : Cancellation
  /-- How many tokens there are. -/
  members : Nat
  deriving DecidableEq, Repr

/-- Answers a call on any one of the tokens: which one it is makes no difference. -/
def Family.call (family : Family) : Call → Reply × Family
  | .clone => (.members (family.members + 1), { family with members := family.members + 1 })
  | .check operation =>
    match family.shared.check operation with
    | (.ok (), shared) => (.passed, { family with shared })
    | (.error failure, shared) => (.refused failure, { family with shared })
  | .cancel => (.state true, { family with shared := family.shared.cancel })
  | .query => (.state family.shared.cancelled, family)

/-- Answers a sequence of calls. -/
def Family.replies (family : Family) : List Call → List Reply
  | [] => []
  | call :: rest =>
    let (reply, family) := family.call call
    reply :: family.replies rest

end Cancellation

/-- A computation that polls a token and may be abandoned or fail. -/
abbrev Watched := ExceptT Failure (StateM Cancellation)

/-- Polls the token on behalf of a named operation. -/
def Watched.check (operation : String) : Watched Unit :=
  ExceptT.mk fun token => token.check operation

/-- The outcome of a computation from a state of the token, and the state it leaves. -/
def Watched.start {α : Type} (task : Watched α) (token : Cancellation) :
    Except Failure α × Cancellation :=
  StateT.run (ExceptT.run task) token

end Forwarder
