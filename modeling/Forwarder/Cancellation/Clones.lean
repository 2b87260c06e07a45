import Forwarder.Cancellation

/-!
# Tokens and their clones

A token consists of references, one to a flag and, if it carries an allowance, one to a counter. A
clone is another token with the same references. What one of them writes the others read, and
nothing else connects them.
-/

namespace Forwarder

namespace Cancellation

/-- The cells that tokens refer to, by their places. -/
structure Memory where
  /-- The flags. -/
  flags : Nat → Bool
  /-- The counters. -/
  counters : Nat → Nat

/-- Writes a flag. -/
def Memory.setFlag (memory : Memory) (place : Nat) (value : Bool) : Memory :=
  { memory with flags := fun other => if other = place then value else memory.flags other }

/-- Writes a counter. -/
def Memory.setCounter (memory : Memory) (place value : Nat) : Memory :=
  { memory with counters := fun other => if other = place then value else memory.counters other }

/-- A token. -/
structure Token where
  /-- Where its flag is. -/
  flag : Nat
  /-- Where its counter is, if it has one. -/
  counter : Option Nat
  deriving DecidableEq, Repr

namespace Token

/-- Requests cancellation. -/
def cancel (token : Token) (memory : Memory) : Memory := memory.setFlag token.flag true

/-- Whether cancellation has been requested. -/
def isCancelled (token : Token) (memory : Memory) : Bool := memory.flags token.flag

/-- Takes one from the counter. If it has run out, that requests cancellation. -/
def draw (token : Token) (memory : Memory) : Memory :=
  match token.counter with
  | none => memory
  | some place =>
    match memory.counters place with
    | 0 => token.cancel memory
    | left + 1 => memory.setCounter place left

/-- Draws on the counter and tells whether the named operation may go on. -/
def check (operation : String) (token : Token) (memory : Memory) : Except Failure Unit × Memory :=
  let memory := token.draw memory
  (if token.isCancelled memory then .error (.cancelled operation) else .ok (), memory)

end Token

/-- A token and its clones, with the memory that they refer to. -/
structure Clones where
  /-- The token that all the others come from. -/
  original : Token
  /-- The others, in the order in which they were made. -/
  copies : List Token
  /-- The memory. -/
  memory : Memory

/-- A call on a token, and the reply to it. -/
structure Event where
  /-- The number of the token, counted from zero. -/
  token : Nat
  /-- The call. -/
  call : Call
  /-- The reply. -/
  reply : Reply
  deriving DecidableEq, Repr

namespace Clones

/-- A new token, for which the state that it is to be in is written to new places in a memory. -/
def create (state : Cancellation) (flag counter : Nat) (memory : Memory) : Clones where
  original := ⟨flag, state.allowance.map fun _ => counter⟩
  copies := []
  memory :=
    match state.allowance with
    | none => memory.setFlag flag state.cancelled
    | some checks => (memory.setFlag flag state.cancelled).setCounter counter checks

/-- All the tokens. -/
def tokens (clones : Clones) : List Token := clones.original :: clones.copies

/-- The token with a number; the original if there are not so many. -/
def token (clones : Clones) (number : Nat) : Token :=
  clones.tokens[number]?.getD clones.original

/-- Answers a call on the token with a number. -/
def call (clones : Clones) (number : Nat) : Call → Reply × Clones
  | .clone =>
    let copies := clones.copies ++ [clones.token number]
    (.members (copies.length + 1), { clones with copies })
  | .check operation =>
    match (clones.token number).check operation clones.memory with
    | (.ok (), memory) => (.passed, { clones with memory })
    | (.error failure, memory) => (.refused failure, { clones with memory })
  | .cancel =>
    let memory := (clones.token number).cancel clones.memory
    (.state ((clones.token number).isCancelled memory), { clones with memory })
  | .query => (.state ((clones.token number).isCancelled clones.memory), clones)

/-- Answers a sequence of calls, each on the token with the number beside it. -/
def run (clones : Clones) : List (Nat × Call) → List Event × Clones
  | [] => ([], clones)
  | (number, call) :: rest =>
    let (reply, next) := clones.call number call
    let (events, last) := next.run rest
    (⟨number, call, reply⟩ :: events, last)

end Clones

end Cancellation

end Forwarder
