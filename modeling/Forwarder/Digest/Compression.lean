/-!
# The BLAKE3 compression function

Seven rounds over sixteen 32-bit words. A round mixes the columns and then the diagonals of the
state, seen as a four by four matrix, with the words of the message, which are permuted between
rounds.
-/

namespace Forwarder.Digest

/-- Eight words that one compression hands on to the next. -/
abbrev Chaining := Vector UInt32 8

/-- Sixteen words: a block of the message, or the state. -/
abbrev Block := Vector UInt32 16

/-- The chaining value that hashing begins with. -/
def initialChaining : Chaining := #v[0x6A09E667, 0xBB67AE85, 0x3C6EF372, 0xA54FF53A,
  0x510E527F, 0x9B05688C, 0x1F83D9AB, 0x5BE0CD19]

/-- Where each word of the message comes from in the next round. -/
def schedule : Vector (Fin 16) 16 := #v[2, 6, 3, 10, 7, 0, 4, 13, 1, 11, 12, 5, 9, 14, 15, 8]

/-- The message for the next round. -/
def permute (message : Block) : Block := schedule.map (message[·])

/-- Turns a word to the right by a number of bits between 1 and 31. -/
def turnRight (word bits : UInt32) : UInt32 := (word >>> bits) ||| (word <<< (32 - bits))

/-- Mixes two words of the message into four words of the state. -/
def mix (state : Block) (a b c d : Fin 16) (x y : UInt32) : Block :=
  let va := state[a] + state[b] + x
  let vd := turnRight (state[d] ^^^ va) 16
  let vc := state[c] + vd
  let vb := turnRight (state[b] ^^^ vc) 12
  let va := va + vb + y
  let vd := turnRight (vd ^^^ va) 8
  let vc := vc + vd
  let vb := turnRight (vb ^^^ vc) 7
  (((state.set a va).set b vb).set c vc).set d vd

/-- One round: the columns, then the diagonals. -/
def round (state message : Block) : Block :=
  let state := mix state 0 4 8 12 message[0] message[1]
  let state := mix state 1 5 9 13 message[2] message[3]
  let state := mix state 2 6 10 14 message[4] message[5]
  let state := mix state 3 7 11 15 message[6] message[7]
  let state := mix state 0 5 10 15 message[8] message[9]
  let state := mix state 1 6 11 12 message[10] message[11]
  let state := mix state 2 7 8 13 message[12] message[13]
  mix state 3 4 9 14 message[14] message[15]

/-- A number of rounds, the message permuted after each. -/
def rounds : Nat → Block → Block → Block
  | 0, state, _ => state
  | count + 1, state, message => rounds count (round state message) (permute message)

/-- What one compression takes: the chaining value, the message, the number of the chunk, the
number of bytes in the message, and the flags of its place in the tree. -/
structure Input where
  /-- The chaining value. -/
  chaining : Chaining
  /-- The words of the message. -/
  message : Block
  /-- The number of the chunk. -/
  counter : UInt64
  /-- The number of bytes in the message. -/
  length : UInt32
  /-- The flags. -/
  flags : UInt32

/-- The chaining value that a compression yields. -/
def compress (input : Input) : Chaining :=
  let cv := input.chaining
  let iv := initialChaining
  let start : Block := #v[cv[0], cv[1], cv[2], cv[3], cv[4], cv[5], cv[6], cv[7],
    iv[0], iv[1], iv[2], iv[3], input.counter.toUInt32, (input.counter >>> 32).toUInt32,
    input.length, input.flags]
  let final := rounds 7 start input.message
  Vector.ofFn fun i : Fin 8 => final[i.val] ^^^ final[i.val + 8]

end Forwarder.Digest
