import Forwarder.Digest.Compression

/-!
# BLAKE3 digests

The digest of a text is taken over its UTF-8 bytes. These are cut into chunks of 1024 bytes and each
chunk into blocks of 64; the blocks of a chunk are compressed in a chain. Neighbouring nodes are
then joined in pairs, level by level, a node without a neighbour rising unchanged, until one is
left, which is compressed once more as the root.
-/

namespace Forwarder.Digest

/-- The flag of the first block of a chunk. -/
def chunkStart : UInt32 := 1

/-- The flag of the last block of a chunk. -/
def chunkEnd : UInt32 := 2

/-- The flag of a node that joins two others. -/
def parentNode : UInt32 := 4

/-- The flag of the root. -/
def rootNode : UInt32 := 8

/-- Cuts a list into pieces of a positive size; the last piece may be shorter. -/
def pieces {α : Type} (size : Nat) (items : List α) : List (List α) :=
  match items with
  | [] => []
  | item :: rest => (item :: rest.take (size - 1)) :: pieces size (rest.drop (size - 1))
termination_by items.length
decreasing_by
  simp only [List.length_drop, List.length_cons]
  omega

/-- The number that bytes spell, the least significant one first. -/
def littleEndian : List UInt8 → UInt32
  | [] => 0
  | byte :: rest => byte.toUInt32 ||| (littleEndian rest <<< 8)

/-- The words of a block of at most 64 bytes, padded with zeros. -/
def blockWords (bytes : List UInt8) : Block :=
  let words := (pieces 4 bytes).map littleEndian
  Vector.ofFn fun i : Fin 16 => words.getD i.val 0

/-- The input of one block of a chunk. -/
def blockInput (chaining : Chaining) (counter : UInt64) (flags : UInt32) (bytes : List UInt8) :
    Input :=
  { chaining, message := blockWords bytes, counter, length := bytes.length.toUInt32, flags }

/-- Compresses the blocks of a chunk up to the last one, whose input is given back. -/
def chainBlocks (counter : UInt64) (chaining : Chaining) (flags : UInt32) :
    List (List UInt8) → Input
  | [] => blockInput chaining counter (flags ||| chunkEnd) []
  | [last] => blockInput chaining counter (flags ||| chunkEnd) last
  | block :: rest =>
    chainBlocks counter (compress (blockInput chaining counter flags block)) 0 rest

/-- The node of a chunk. -/
def chunkNode (counter : Nat) (bytes : List UInt8) : Input :=
  chainBlocks counter.toUInt64 initialChaining chunkStart (pieces 64 bytes)

/-- The node that joins two others. -/
def joinNodes (left right : Input) : Input :=
  { chaining := initialChaining
    message := compress left ++ compress right
    counter := 0, length := 64, flags := parentNode }

/-- Joins neighbours in pairs. -/
def joinPairs : List Input → List Input
  | left :: right :: rest => joinNodes left right :: joinPairs rest
  | nodes => nodes

/-- Joining leaves no more nodes than there were. -/
theorem length_joinPairs_le (nodes : List Input) : (joinPairs nodes).length ≤ nodes.length := by
  fun_induction joinPairs nodes with
  | case1 left right rest ih => simp; omega
  | case2 nodes h => exact Nat.le_refl _

/-- Joins nodes until one is left. -/
def joinAll : List Input → Input
  | [] => chunkNode 0 []
  | [root] => root
  | left :: right :: rest => joinAll (joinNodes left right :: joinPairs rest)
termination_by nodes => nodes.length
decreasing_by
  have := length_joinPairs_le rest
  simp
  omega

/-- The four bytes of a word, the least significant one first. -/
def wordBytes (word : UInt32) : List UInt8 :=
  [word.toUInt8, (word >>> 8).toUInt8, (word >>> 16).toUInt8, (word >>> 24).toUInt8]

/-- The digest of a list of bytes: 32 bytes. -/
def ofBytes (bytes : List UInt8) : List UInt8 :=
  let root := joinAll ((pieces 1024 bytes).mapIdx chunkNode)
  (compress { root with flags := root.flags ||| rootNode }).toList.flatMap wordBytes

/-- A byte as two hexadecimal digits. -/
def hexByte (byte : UInt8) : List Char :=
  let digit (value : Nat) : Char := (Nat.toDigits 16 value).headD '0'
  [digit (byte.toNat / 16), digit (byte.toNat % 16)]

end Forwarder.Digest

namespace Forwarder

/-- The fingerprint of a text: its digest in hexadecimal. -/
def fingerprint (text : String) : String :=
  String.ofList ((Digest.ofBytes text.toUTF8.toList).flatMap Digest.hexByte)

end Forwarder
