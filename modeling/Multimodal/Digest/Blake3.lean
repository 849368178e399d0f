/-! # The Blake3 hash function

The input is cut into chunks of 1024 bytes and every chunk into blocks of 64.  The blocks of a chunk
are chained; the chunks are the leaves of a binary tree whose left half is always the largest full
power of two that leaves something for the right half.

* `compress`: seven rounds of mixing over one block.
* `Node`: a compression that is still to be done, as a chunk, as a parent or as the root.
* `hash`: the 32 bytes of a byte string.
-/

namespace Multimodal.Blake3

/-- The sixteen words of a block or of the mixing state. -/
abbrev Block := Vector UInt32 16

/-- The eight words that one compression hands to the next. -/
abbrev Chaining := Vector UInt32 8

/-- The chaining value that hashing starts from. -/
def initial : Chaining :=
  #v[0x6A09E667, 0xBB67AE85, 0x3C6EF372, 0xA54FF53A, 0x510E527F, 0x9B05688C, 0x1F83D9AB, 0x5BE0CD19]

/-- Where each word of a block comes from in the next round. -/
def schedule : Vector (Fin 16) 16 := #v[2, 6, 3, 10, 7, 0, 4, 13, 1, 11, 12, 5, 9, 14, 15, 8]

/-! ## Flags -/

def chunkStart : UInt32 := 1
def chunkEnd : UInt32 := 2
def parent : UInt32 := 4
def root : UInt32 := 8

/-! ## Compression -/

/-- The word turned right by `count` bits. -/
def rotate (word count : UInt32) : UInt32 := (word >>> count) ||| (word <<< (32 - count))

/-- Four words of the state mixed with two words of the block. -/
def mix (s : Block) (a b c d : Fin 16) (x y : UInt32) : Block :=
  let a₁ := s[a] + s[b] + x
  let d₁ := rotate (s[d] ^^^ a₁) 16
  let c₁ := s[c] + d₁
  let b₁ := rotate (s[b] ^^^ c₁) 12
  let a₂ := a₁ + b₁ + y
  let d₂ := rotate (d₁ ^^^ a₂) 8
  let c₂ := c₁ + d₂
  let b₂ := rotate (b₁ ^^^ c₂) 7
  (((s.set a a₂).set b b₂).set c c₂).set d d₂

/-- The columns of the state are mixed, then its diagonals. -/
def mixRound (s m : Block) : Block :=
  let s := mix s 0 4 8 12 m[0] m[1]
  let s := mix s 1 5 9 13 m[2] m[3]
  let s := mix s 2 6 10 14 m[4] m[5]
  let s := mix s 3 7 11 15 m[6] m[7]
  let s := mix s 0 5 10 15 m[8] m[9]
  let s := mix s 1 6 11 12 m[10] m[11]
  let s := mix s 2 7 8 13 m[12] m[13]
  mix s 3 4 9 14 m[14] m[15]

/-- So many rounds, the block being permuted between them. -/
def mixRounds : Nat → Block → Block → Block
  | 0, s, _ => s
  | n + 1, s, m => mixRounds n (mixRound s m) (schedule.map fun i => m[i])

/-- One compression; the state is folded into eight words. -/
def compress (cv : Chaining) (m : Block) (counter : UInt64) (length flags : UInt32) : Chaining :=
  let s : Block := #v[cv[0], cv[1], cv[2], cv[3], cv[4], cv[5], cv[6], cv[7], initial[0], initial[1],
    initial[2], initial[3], counter.toUInt32, (counter >>> 32).toUInt32, length, flags]
  let t := mixRounds 7 s m
  #v[t[0] ^^^ t[8], t[1] ^^^ t[9], t[2] ^^^ t[10], t[3] ^^^ t[11], t[4] ^^^ t[12], t[5] ^^^ t[13],
    t[6] ^^^ t[14], t[7] ^^^ t[15]]

/-! ## Bytes and words -/

/-- A block of at most 64 bytes as little-endian words, filled up with zeros. -/
def wordsOfBytes (bytes : List UInt8) : Block :=
  let b := bytes.toArray
  let byte (i : Nat) : UInt32 := (b[i]?.getD 0).toUInt32
  Vector.ofFn fun i : Fin 16 =>
    byte (4 * i) ||| (byte (4 * i + 1) <<< 8) ||| (byte (4 * i + 2) <<< 16) |||
      (byte (4 * i + 3) <<< 24)

/-- The 32 bytes of eight little-endian words. -/
def bytesOfWords (words : Chaining) : Vector UInt8 32 :=
  Vector.ofFn fun i : Fin 32 =>
    (words[i.val / 4] >>> (8 * (i.val % 4)).toUInt32).toUInt8

/-- The bytes cut into pieces of `size + 1`, the last one shorter; no bytes are one empty piece. -/
def pieces (size : Nat) (bytes : List UInt8) : List (List UInt8) :=
  if bytes.length ≤ size + 1 then [bytes]
  else bytes.take (size + 1) :: pieces size (bytes.drop (size + 1))
termination_by bytes.length
decreasing_by simp only [List.length_drop]; omega

/-! ## The tree -/

/-- A compression before it is known whether it is the root. -/
structure Node where
  chaining : Chaining
  block : Block
  counter : UInt64
  length : UInt32
  flags : UInt32

namespace Node

/-- The value handed to the parent. -/
def value (n : Node) : Chaining := compress n.chaining n.block n.counter n.length n.flags

/-- The value as the end result. -/
def rootValue (n : Node) : Chaining := compress n.chaining n.block 0 n.length (n.flags ||| root)

/-- The blocks of a chunk, chained up to the last one. -/
def ofBlocks (counter : UInt64) : Chaining → UInt32 → List (List UInt8) → Node
  | cv, flags, [] => ⟨cv, wordsOfBytes [], counter, 0, flags ||| chunkEnd⟩
  | cv, flags, [last] =>
    ⟨cv, wordsOfBytes last, counter, last.length.toUInt32, flags ||| chunkEnd⟩
  | cv, flags, block :: rest =>
    ofBlocks counter (compress cv (wordsOfBytes block) counter 64 flags) 0 rest

/-- The leaf of the chunk that has this number. -/
def ofChunk (number : Nat) (chunk : List UInt8) : Node :=
  ofBlocks number.toUInt64 initial chunkStart (pieces 63 chunk)

/-- The node over two subtrees. -/
def join (left right : Node) : Node :=
  ⟨initial, Vector.cast (by decide) (left.value ++ right.value), 0, 64, parent⟩

/-- How many of at least two chunks go to the left: the largest power of two below their number. -/
def leftCount (n : Nat) : Nat := Nat.pow 2 (n - 1).log2

theorem leftCount_pos (n : Nat) : 0 < leftCount n := Nat.two_pow_pos _

theorem leftCount_lt {n : Nat} (h : 2 ≤ n) : leftCount n < n := by
  have hlog : Nat.pow 2 (n - 1).log2 ≤ n - 1 := Nat.log2_self_le (by omega)
  unfold leftCount
  omega

/-- The tree over the chunks from number `first` on. -/
def ofChunks (first : Nat) (chunks : List (List UInt8)) : Node :=
  if chunks.length < 2 then ofChunk first (chunks.headD [])
  else
    let k := leftCount chunks.length
    join (ofChunks first (chunks.take k)) (ofChunks (first + k) (chunks.drop k))
termination_by chunks.length
decreasing_by
  all_goals
    have := leftCount_lt (n := chunks.length) (by omega)
    have := leftCount_pos chunks.length
    simp only [List.length_take, List.length_drop]
    omega

end Node

/-- The 32 bytes that stand for a byte string. -/
def hash (bytes : List UInt8) : Vector UInt8 32 :=
  bytesOfWords (Node.ofChunks 0 (pieces 1023 bytes)).rootValue

end Multimodal.Blake3
