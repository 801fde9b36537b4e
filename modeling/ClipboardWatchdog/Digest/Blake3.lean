/-!
# The BLAKE3 digest

The plain hash of a byte string under BLAKE3: the input is cut into chunks of 1024 bytes, each
chunk is folded block by block, and the chunks are joined in a binary tree whose left side is the
largest full tree that leaves something for the right side. Only the first 32 bytes of output are
made.

The mixing state has four rows of four words. One round mixes the columns and then, with the rows
turned against each other, the diagonals.
-/

namespace ClipboardWatchdog.Blake3

/-- A row of four words. -/
structure Row where
  a : UInt32
  b : UInt32
  c : UInt32
  d : UInt32
  deriving DecidableEq, Inhabited

namespace Row

/-- Combines two rows place by place. -/
def zip (f : UInt32 → UInt32 → UInt32) (x y : Row) : Row :=
  ⟨f x.a y.a, f x.b y.b, f x.c y.c, f x.d y.d⟩

def map (f : UInt32 → UInt32) (x : Row) : Row := ⟨f x.a, f x.b, f x.c, f x.d⟩

/-- Turns a row one place to the left. -/
def turn (x : Row) : Row := ⟨x.b, x.c, x.d, x.a⟩

end Row

/-- The bits of a word moved to the right, those that fall off coming back on the left. -/
def rotateRight (n : UInt32) (x : UInt32) : UInt32 := (x >>> n) ||| (x <<< (32 - n))

/-- The four rows of the mixing state. -/
structure State where
  w : Row
  x : Row
  y : Row
  z : Row

namespace State

/-- Mixes every column with one word of the message for each half of the step. -/
def mix (s : State) (m n : Row) : State :=
  let w := (s.w.zip (· + ·) s.x).zip (· + ·) m
  let z := (s.z.zip (· ^^^ ·) w).map (rotateRight 16)
  let y := s.y.zip (· + ·) z
  let x := (s.x.zip (· ^^^ ·) y).map (rotateRight 12)
  let w := (w.zip (· + ·) x).zip (· + ·) n
  let z := (z.zip (· ^^^ ·) w).map (rotateRight 8)
  let y := y.zip (· + ·) z
  let x := (x.zip (· ^^^ ·) y).map (rotateRight 7)
  ⟨w, x, y, z⟩

/-- Turns the rows so that the diagonals become columns. -/
def slant (s : State) : State := ⟨s.w, s.x.turn, s.y.turn.turn, s.z.turn.turn.turn⟩

/-- Turns the rows back. -/
def unslant (s : State) : State := ⟨s.w, s.x.turn.turn.turn, s.y.turn.turn, s.z.turn⟩

end State

/-- A block of sixteen message words, row by row: the words of the two halves of the column step
and of the two halves of the diagonal step. -/
structure Block where
  columns₁ : Row
  columns₂ : Row
  diagonals₁ : Row
  diagonals₂ : Row

namespace Block

/-- The sixteen words in the order in which the first round uses them. -/
def ofWords (m : Array UInt32) : Block :=
  let word (i : Nat) : UInt32 := m.getD i 0
  { columns₁ := ⟨word 0, word 2, word 4, word 6⟩
    columns₂ := ⟨word 1, word 3, word 5, word 7⟩
    diagonals₁ := ⟨word 8, word 10, word 12, word 14⟩
    diagonals₂ := ⟨word 9, word 11, word 13, word 15⟩ }

/-- The words in the order of the following round. -/
def permute (m : Block) : Block :=
  let ⟨⟨m0, m2, m4, m6⟩, ⟨m1, m3, m5, m7⟩, ⟨m8, m10, m12, m14⟩, ⟨m9, m11, m13, m15⟩⟩ := m
  { columns₁ := ⟨m2, m3, m7, m4⟩
    columns₂ := ⟨m6, m10, m0, m13⟩
    diagonals₁ := ⟨m1, m12, m9, m15⟩
    diagonals₂ := ⟨m11, m5, m14, m8⟩ }

end Block

/-- So many rounds of mixing. -/
def rounds : Nat → State → Block → State
  | 0, s, _ => s
  | n + 1, s, m =>
    rounds n ((s.mix m.columns₁ m.columns₂).slant.mix m.diagonals₁ m.diagonals₂).unslant m.permute

/-- A chaining value: eight words in two rows. -/
structure Chain where
  low : Row
  high : Row
  deriving DecidableEq, Inhabited

/-- The words that start every mixing state, and the chain before the first block. -/
def start : Chain where
  low := ⟨0x6A09E667, 0xBB67AE85, 0x3C6EF372, 0xA54FF53A⟩
  high := ⟨0x510E527F, 0x9B05688C, 0x1F83D9AB, 0x5BE0CD19⟩

/-- The block is the first one of a chunk. -/
def chunkStart : UInt32 := 1

/-- The block is the last one of a chunk. -/
def chunkEnd : UInt32 := 2

/-- The block joins two subtrees. -/
def parent : UInt32 := 4

/-- The block ends the whole computation. -/
def root : UInt32 := 8

/-- Folds one block into a chain. -/
def compress (chain : Chain) (block : Block) (counter : UInt64) (length flags : UInt32) : Chain :=
  let s : State :=
    ⟨chain.low, chain.high, start.low,
      ⟨counter.toUInt32, (counter >>> 32).toUInt32, length, flags⟩⟩
  let s := rounds 7 s block
  ⟨s.w.zip (· ^^^ ·) s.y, s.x.zip (· ^^^ ·) s.z⟩

/-- The bytes of a range of the input, as words in little-endian order and zeros beyond the end. -/
def blockAt (input : ByteArray) (offset length : Nat) : Block :=
  let byte (i : Nat) : UInt32 :=
    if i < length then ((input[offset + i]?).getD 0).toUInt32 else 0
  Block.ofWords <| Array.ofFn fun i : Fin 16 =>
    let k := 4 * i.val
    byte k ||| byte (k + 1) <<< 8 ||| byte (k + 2) <<< 16 ||| byte (k + 3) <<< 24

/-- Folds the rest of a chunk, `left` bytes from `offset` on, into a chain. The last block has
`last` among its flags. -/
def foldBlocks (input : ByteArray) (counter : UInt64) (last : UInt32) (chain : Chain)
    (offset left : Nat) (flags : UInt32) : Chain :=
  if left ≤ 64 then
    compress chain (blockAt input offset left) counter left.toUInt32 (flags ||| chunkEnd ||| last)
  else
    foldBlocks input counter last (compress chain (blockAt input offset 64) counter 64 flags)
      (offset + 64) (left - 64) 0
termination_by left
decreasing_by omega

/-- The chunks on the left side of a tree of `n` chunks: the largest power of two below `n`. -/
def leftChunks (n : Nat) : Nat := if n < 2 then 1 else 1 <<< (n - 1).log2

theorem leftChunks_lt {n : Nat} (h : 2 ≤ n) : leftChunks n < n := by
  have h1 : n - 1 ≠ 0 := by omega
  have := Nat.log2_self_le h1
  simp only [leftChunks, show ¬ n < 2 by omega, if_false, Nat.one_shiftLeft]
  omega

theorem leftChunks_pos (n : Nat) : 0 < leftChunks n := by
  unfold leftChunks
  split
  · exact Nat.one_pos
  · rw [Nat.one_shiftLeft]
    exact Nat.two_pow_pos _

/-- The chain of the tree over `chunks` chunks, the first of them being chunk number `first`. The
flags `last` go to the block that ends the tree. -/
def tree (input : ByteArray) (last : UInt32) (first chunks : Nat) : Chain :=
  if _h : chunks < 2 then
    let offset := 1024 * first
    foldBlocks input first.toUInt64 last start offset (min 1024 (input.size - offset)) chunkStart
  else
    let left := leftChunks chunks
    let l := tree input 0 first left
    let r := tree input 0 (first + left) (chunks - left)
    let block : Block := Block.ofWords
      #[l.low.a, l.low.b, l.low.c, l.low.d, l.high.a, l.high.b, l.high.c, l.high.d,
        r.low.a, r.low.b, r.low.c, r.low.d, r.high.a, r.high.b, r.high.c, r.high.d]
    compress start block 0 64 (parent ||| last)
termination_by chunks
decreasing_by
  · exact leftChunks_lt (by omega)
  · have := leftChunks_pos chunks
    omega

/-- The number of chunks of an input; an empty input is one empty chunk. -/
def chunkCount (size : Nat) : Nat := max 1 ((size + 1023) / 1024)

/-- The first 32 bytes of the digest, as eight words. -/
def hash (input : ByteArray) : Chain := tree input root 0 (chunkCount input.size)

end ClipboardWatchdog.Blake3
