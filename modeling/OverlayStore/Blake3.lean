import OverlayStore.Bytes

/-!
# The BLAKE3 hash

The unkeyed hash with 32 bytes of output. A message is cut into chunks of 1024 bytes, a chunk
into blocks of 64 bytes. Each chunk is compressed block after block into a chaining value, and
neighbouring chaining values are joined level by level, an odd last one moving up unchanged,
until a single node is left. That node is compressed with the root flag.
-/

namespace OverlayStore.Blake3

/-- The sixteen words of the compression state or of a message block. -/
abbrev Words := Vector UInt32 16

/-- The eight words of a chaining value. -/
abbrev Chaining := Vector UInt32 8

/-- The initial chaining value. -/
def iv : Chaining :=
  #v[0x6A09E667, 0xBB67AE85, 0x3C6EF372, 0xA54FF53A, 0x510E527F, 0x9B05688C, 0x1F83D9AB, 0x5BE0CD19]

/-- The flag of a chunk's first block. -/
def chunkStart : UInt32 := 1
/-- The flag of a chunk's last block. -/
def chunkEnd : UInt32 := 2
/-- The flag of a node that joins two others. -/
def parent : UInt32 := 4
/-- The flag of the last compression of all. -/
def root : UInt32 := 8

/-- Rotate a word to the right. -/
def rotateRight (word : UInt32) (bits : UInt32) : UInt32 :=
  word >>> bits ||| word <<< (32 - bits)

/-- Mix two message words into one column or diagonal of the state. -/
def quarter (s : Words) (a b c d : Fin 16) (x y : UInt32) : Words :=
  let va := s[a] + s[b] + x
  let vd := rotateRight (s[d] ^^^ va) 16
  let vc := s[c] + vd
  let vb := rotateRight (s[b] ^^^ vc) 12
  let va := va + vb + y
  let vd := rotateRight (vd ^^^ va) 8
  let vc := vc + vd
  let vb := rotateRight (vb ^^^ vc) 7
  (((s.set a va).set b vb).set c vc).set d vd

/-- One round: the four columns, then the four diagonals. -/
def mix (s m : Words) : Words :=
  let s := quarter s 0 4 8 12 m[0] m[1]
  let s := quarter s 1 5 9 13 m[2] m[3]
  let s := quarter s 2 6 10 14 m[4] m[5]
  let s := quarter s 3 7 11 15 m[6] m[7]
  let s := quarter s 0 5 10 15 m[8] m[9]
  let s := quarter s 1 6 11 12 m[10] m[11]
  let s := quarter s 2 7 8 13 m[12] m[13]
  quarter s 3 4 9 14 m[14] m[15]

/-- Reorder the message words for the next round. -/
def permute (m : Words) : Words :=
  #v[m[2], m[6], m[3], m[10], m[7], m[0], m[4], m[13],
     m[1], m[11], m[12], m[5], m[9], m[14], m[15], m[8]]

/-- Run the given number of rounds. -/
def rounds : Nat → Words → Words → Words
  | 0, s, _ => s
  | n + 1, s, m => rounds n (mix s m) (permute m)

/-- Compress a block of `size` bytes into the chaining value; `counter` numbers the chunk. -/
def compress (cv : Chaining) (block : Words) (counter : UInt64) (size flags : UInt32) : Chaining :=
  let start : Words :=
    #v[cv[0], cv[1], cv[2], cv[3], cv[4], cv[5], cv[6], cv[7], iv[0], iv[1], iv[2], iv[3],
       counter.toUInt32, (counter >>> 32).toUInt32, size, flags]
  let s := rounds 7 start block
  #v[s[0] ^^^ s[8], s[1] ^^^ s[9], s[2] ^^^ s[10], s[3] ^^^ s[11],
     s[4] ^^^ s[12], s[5] ^^^ s[13], s[6] ^^^ s[14], s[7] ^^^ s[15]]

/-- The byte at a position, zero past the end. -/
def byteAt (bytes : ByteArray) (i : Nat) : UInt32 :=
  if h : i < bytes.size then bytes[i].toUInt32 else 0

/-- The little-endian word at a byte position, zero bytes past the end. -/
def wordAt (bytes : ByteArray) (i : Nat) : UInt32 :=
  byteAt bytes i ||| byteAt bytes (i + 1) <<< 8 ||| byteAt bytes (i + 2) <<< 16 |||
    byteAt bytes (i + 3) <<< 24

/-- The sixteen words of the block that starts at a byte position of a zero-padded chunk. -/
def blockAt (chunk : ByteArray) (start : Nat) : Words :=
  Vector.ofFn fun i => wordAt chunk (start + 4 * i.val)

/-- A node of the hash tree, ready for its last compression. -/
structure Node where
  /-- The chaining value that enters the last compression. -/
  input : Chaining
  /-- The message words of that compression. -/
  block : Words
  /-- The number of the chunk, zero for joined nodes. -/
  counter : UInt64
  /-- The number of message bytes in the block. -/
  size : UInt32
  /-- The flags, without the root flag. -/
  flags : UInt32

/-- The chaining value that a node hands to the level above. -/
def Node.value (node : Node) : Chaining :=
  compress node.input node.block node.counter node.size node.flags

/-- The chaining value of a node that is the root. -/
def Node.rootValue (node : Node) : Chaining :=
  compress node.input node.block 0 node.size (node.flags ||| root)

/-- The node of a chunk: all blocks but the last are compressed at once. -/
def Node.ofChunk (index : Nat) (chunk : ByteArray) : Node :=
  let count := max 1 ((chunk.size + 63) / 64)
  let counter := UInt64.ofNat index
  let flag (i : Nat) : UInt32 :=
    (if i = 0 then chunkStart else 0) ||| (if i + 1 = count then chunkEnd else 0)
  let input := (List.range (count - 1)).foldl
    (fun cv i => compress cv (blockAt chunk (64 * i)) counter 64 (flag i)) iv
  let last := count - 1
  { input, block := blockAt chunk (64 * last), counter
    size := UInt32.ofNat (chunk.size - 64 * last), flags := flag last }

/-- The node that joins two nodes. -/
def Node.join (left right : Node) : Node :=
  { input := iv, block := left.value ++ right.value, counter := 0, size := 64, flags := parent }

/-- One level of the tree: neighbours are joined, an odd last node moves up. -/
def joinPairs : List Node → List Node
  | left :: right :: rest => left.join right :: joinPairs rest
  | rest => rest

/-- Joining pairs adds no node. -/
theorem length_joinPairs_le : ∀ nodes : List Node, (joinPairs nodes).length ≤ nodes.length
  | _ :: _ :: rest => by
    have := length_joinPairs_le rest
    simp only [joinPairs, List.length_cons]
    omega
  | [] => Nat.le_refl _
  | [_] => Nat.le_refl _

/-- Join the nodes, the first of them given apart, down to one. -/
def joinAll : Node → List Node → Node
  | node, [] => node
  | left, right :: rest => joinAll (left.join right) (joinPairs rest)
termination_by _ nodes => nodes.length
decreasing_by
  have := length_joinPairs_le rest
  simp only [List.length_cons]; omega

/-- The nodes of the chunks after the first. -/
def laterChunks (bytes : ByteArray) : List Node :=
  (List.range ((bytes.size - 1) / 1024)).map fun i =>
    Node.ofChunk (i + 1) (bytes.extract (1024 * (i + 1)) (1024 * (i + 2)))

/-- The four bytes of a word, least significant first. -/
def bytesOfWord (word : UInt32) : Bytes :=
  [word.toUInt8, (word >>> 8).toUInt8, (word >>> 16).toUInt8, (word >>> 24).toUInt8]

/-- The 32 bytes of the hash. -/
def hash (message : Bytes) : Bytes :=
  let bytes := ByteArray.mk message.toArray
  let node := joinAll (Node.ofChunk 0 (bytes.extract 0 1024)) (laterChunks bytes)
  node.rootValue.toList.flatMap bytesOfWord

/-- A hash has 32 bytes. -/
theorem length_hash (message : Bytes) : (hash message).length = 32 := by
  have flat : ∀ words : List UInt32, (words.flatMap bytesOfWord).length = 4 * words.length := by
    intro words
    induction words with
    | nil => rfl
    | cons word rest ih => simp [bytesOfWord, ih]; omega
  simp [hash, flat]

end OverlayStore.Blake3
