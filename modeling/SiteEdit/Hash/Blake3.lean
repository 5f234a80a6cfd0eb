/-!
# The hash function BLAKE3

A text of bytes is cut into chunks of 1024 bytes and those into blocks of 64.  The blocks of a chunk are compressed
one after another; the chunks are the leaves of a binary tree whose left part is as large as a power of two can be.
The hash is the first 32 bytes of the root.
-/
namespace SiteEdit.Hash

/-- Sixteen words: the message of a block, or the state of a compression. -/
abbrev Block := Vector UInt32 16

/-- Eight words that stand for the part of the text that is hashed so far. -/
abbrev Chaining := Vector UInt32 8

/-- The eight words that hashing starts from. -/
def initial : Chaining :=
  #v[0x6A09E667, 0xBB67AE85, 0x3C6EF372, 0xA54FF53A, 0x510E527F, 0x9B05688C, 0x1F83D9AB, 0x5BE0CD19]

/-! ## Compression -/

/-- Turns a word to the right. -/
def rotateRight (x : UInt32) (n : UInt32) : UInt32 := (x >>> n) ||| (x <<< (32 - n))

/-- Mixes two words of the message into four words of the state. -/
def mix (s : Block) (a b c d : Fin 16) (x y : UInt32) : Block :=
  let a1 := s[a] + s[b] + x
  let d1 := rotateRight (s[d] ^^^ a1) 16
  let c1 := s[c] + d1
  let b1 := rotateRight (s[b] ^^^ c1) 12
  let a2 := a1 + b1 + y
  let d2 := rotateRight (d1 ^^^ a2) 8
  let c2 := c1 + d2
  let b2 := rotateRight (b1 ^^^ c2) 7
  (((s.set a a2).set b b2).set c c2).set d d2

/-- One round: the columns of the state, then its diagonals. -/
def round (s m : Block) : Block :=
  let s := mix s 0 4 8 12 m[0] m[1]
  let s := mix s 1 5 9 13 m[2] m[3]
  let s := mix s 2 6 10 14 m[4] m[5]
  let s := mix s 3 7 11 15 m[6] m[7]
  let s := mix s 0 5 10 15 m[8] m[9]
  let s := mix s 1 6 11 12 m[10] m[11]
  let s := mix s 2 7 8 13 m[12] m[13]
  mix s 3 4 9 14 m[14] m[15]

/-- The order of the words of the message in the next round. -/
def permute (m : Block) : Block :=
  #v[m[2], m[6], m[3], m[10], m[7], m[0], m[4], m[13], m[1], m[11], m[12], m[5], m[9], m[14], m[15], m[8]]

/-- Rounds, each with the message in the next order. -/
def rounds : Nat → Block → Block → Block
  | 0, s, _ => s
  | n + 1, s, m => rounds n (round s m) (permute m)

/-- What a compression is told besides the words. -/
structure Header where
  counter : UInt64
  length : UInt32
  flags : UInt32

/-- Compresses a block into eight words. -/
def compress (h : Chaining) (m : Block) (t : Header) : Chaining :=
  let s : Block :=
    #v[h[0], h[1], h[2], h[3], h[4], h[5], h[6], h[7], initial[0], initial[1], initial[2], initial[3],
      t.counter.toUInt32, (t.counter >>> 32).toUInt32, t.length, t.flags]
  let s := rounds 7 s m
  #v[s[0] ^^^ s[8], s[1] ^^^ s[9], s[2] ^^^ s[10], s[3] ^^^ s[11], s[4] ^^^ s[12], s[5] ^^^ s[13], s[6] ^^^ s[14],
    s[7] ^^^ s[15]]

/-! ## Chunks -/

def chunkStart : UInt32 := 1
def chunkEnd : UInt32 := 2
def parent : UInt32 := 4
def root : UInt32 := 8

/-- Four bytes as a word, the least first; missing bytes are zero. -/
def word (bytes : List UInt8) : UInt32 :=
  let byte (i : Nat) : UInt32 := (bytes.getD i 0).toUInt32
  byte 0 ||| (byte 1 <<< 8) ||| (byte 2 <<< 16) ||| (byte 3 <<< 24)

/-- The words of a block of at most 64 bytes. -/
def blockWords (bytes : List UInt8) : Block := Vector.ofFn fun i => word (bytes.drop (4 * i.val))

/-- Compresses the blocks of a chunk, at most `fuel` of them; `extra` is told to the last one. -/
def hashBlocks (counter : UInt64) (extra : UInt32) : Nat → UInt32 → Chaining → List UInt8 → Chaining
  | 0, _, h, _ => h
  | fuel + 1, start, h, bytes =>
    let here := bytes.take 64
    let more := bytes.drop 64
    let m := blockWords here
    let size := UInt32.ofNat here.length
    if more.isEmpty then compress h m ⟨counter, size, start ||| chunkEnd ||| extra⟩
    else hashBlocks counter extra fuel 0 (compress h m ⟨counter, size, start⟩) more

/-- The words of a chunk of at most 1024 bytes. -/
def hashChunk (counter : UInt64) (extra : UInt32) (bytes : List UInt8) : Chaining :=
  hashBlocks counter extra 16 chunkStart initial bytes

/-! ## The tree -/

/-- How many bytes the left part of a tree of `n` bytes has. -/
def leftSize (n : Nat) : Nat := 1024 * Nat.pow 2 (Nat.log2 ((n - 1) / 1024))

theorem leftSize_pos (n : Nat) : 0 < leftSize n := Nat.mul_pos (by decide) (Nat.two_pow_pos _)

theorem leftSize_lt {n : Nat} (h : 1024 < n) : leftSize n < n := by
  have h1 : (n - 1) / 1024 ≠ 0 := by omega
  have h2 : Nat.pow 2 (Nat.log2 ((n - 1) / 1024)) ≤ (n - 1) / 1024 := Nat.log2_self_le h1
  unfold leftSize
  omega

/-- The words of a tree whose first chunk has number `counter`; `extra` is told to its top. -/
def hashTree (counter : UInt64) (extra : UInt32) (bytes : List UInt8) : Chaining :=
  if h : bytes.length ≤ 1024 then hashChunk counter extra bytes
  else
    let size := leftSize bytes.length
    let l := hashTree counter 0 (bytes.take size)
    let r := hashTree (counter + UInt64.ofNat (size / 1024)) 0 (bytes.drop size)
    let m : Block :=
      #v[l[0], l[1], l[2], l[3], l[4], l[5], l[6], l[7], r[0], r[1], r[2], r[3], r[4], r[5], r[6], r[7]]
    compress initial m ⟨0, 64, parent ||| extra⟩
termination_by bytes.length
decreasing_by
  · have := leftSize_lt (Nat.lt_of_not_le h)
    simp only [List.length_take]
    omega
  · have := leftSize_pos bytes.length
    simp only [List.length_drop]
    omega

/-- The bytes of a word, the least first. -/
def wordBytes (x : UInt32) : List UInt8 := [x.toUInt8, (x >>> 8).toUInt8, (x >>> 16).toUInt8, (x >>> 24).toUInt8]

/-- The 32 bytes of the hash. -/
def blake3 (bytes : List UInt8) : List UInt8 := (hashTree 0 root bytes).toList.flatMap wordBytes

/-- Bytes as hexadecimal digits. -/
def hex (bytes : List UInt8) : String :=
  String.ofList (bytes.flatMap fun b => [Nat.digitChar (b.toNat / 16), Nat.digitChar (b.toNat % 16)])

end SiteEdit.Hash
