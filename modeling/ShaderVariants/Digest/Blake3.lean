/-!
The BLAKE3 hash in its plain mode. A text is cut into chunks of 1024 bytes; each chunk chains
the compressions of its blocks of 64 bytes, and the chunks are the leaves of a binary tree whose
left halves are full. The compression at the top is the root, and its output is the digest.
-/

namespace ShaderVariants.Digest

abbrev Words8 := Vector UInt32 8
abbrev Words16 := Vector UInt32 16

def initial : Words8 := #v[
  0x6A09E667, 0xBB67AE85, 0x3C6EF372, 0xA54FF53A,
  0x510E527F, 0x9B05688C, 0x1F83D9AB, 0x5BE0CD19]

/-- Where each word of a block goes between two rounds. -/
def schedule : Vector (Fin 16) 16 := #v[2, 6, 3, 10, 7, 0, 4, 13, 1, 11, 12, 5, 9, 14, 15, 8]

def chunkStart : UInt32 := 1
def chunkEnd : UInt32 := 2
def parentNode : UInt32 := 4
def rootNode : UInt32 := 8

def rotateRight (x : UInt32) (n : UInt32) : UInt32 := (x >>> n) ||| (x <<< (32 - n))

/-- Mixes two words of the block into four words of the state. -/
def mix (v : Words16) (a b c d : Fin 16) (x y : UInt32) : Words16 :=
  let va := v[a] + v[b] + x
  let vd := rotateRight (v[d] ^^^ va) 16
  let vc := v[c] + vd
  let vb := rotateRight (v[b] ^^^ vc) 12
  let va := va + vb + y
  let vd := rotateRight (vd ^^^ va) 8
  let vc := vc + vd
  let vb := rotateRight (vb ^^^ vc) 7
  (((v.set a va).set b vb).set c vc).set d vd

/-- The columns, then the diagonals. -/
def round (v m : Words16) : Words16 :=
  let v := mix v 0 4 8 12 m[0] m[1]
  let v := mix v 1 5 9 13 m[2] m[3]
  let v := mix v 2 6 10 14 m[4] m[5]
  let v := mix v 3 7 11 15 m[6] m[7]
  let v := mix v 0 5 10 15 m[8] m[9]
  let v := mix v 1 6 11 12 m[10] m[11]
  let v := mix v 2 7 8 13 m[12] m[13]
  mix v 3 4 9 14 m[14] m[15]

def rounds : (count : Nat) → (v m : Words16) → Words16
  | 0, v, _ => v
  | count + 1, v, m => rounds count (round v m) (schedule.map (m[·]))

def roundCount : Nat := 7

/-- One input of the compression: the chaining value, the block, how many chunks come before,
the bytes in the block, and what kind of node it is. -/
structure Node where
  chain : Words8
  block : Words16
  counter : Nat
  length : Nat
  flags : UInt32

def Node.compress (n : Node) : Words8 :=
  let h := n.chain
  let v : Words16 := #v[
    h[0], h[1], h[2], h[3], h[4], h[5], h[6], h[7],
    initial[0], initial[1], initial[2], initial[3],
    n.counter.toUInt32, (n.counter >>> 32).toUInt32, n.length.toUInt32, n.flags]
  let v := rounds roundCount v n.block
  #v[v[0] ^^^ v[8], v[1] ^^^ v[9], v[2] ^^^ v[10], v[3] ^^^ v[11],
    v[4] ^^^ v[12], v[5] ^^^ v[13], v[6] ^^^ v[14], v[7] ^^^ v[15]]

/-- The little-endian word of four bytes, absent ones counting as zero. -/
def wordAt (bytes : List UInt8) (i : Nat) : UInt32 :=
  let byte (k : Nat) : UInt32 := (bytes.getD (4 * i + k) 0).toUInt32
  byte 0 ||| (byte 1 <<< 8) ||| (byte 2 <<< 16) ||| (byte 3 <<< 24)

def blockOf (bytes : List UInt8) : Words16 := Vector.ofFn fun i => wordAt bytes i.val

def blockSize : Nat := 64
def chunkSize : Nat := 1024

/-- Chains the blocks of a chunk; the node of its last block is left for its place in the tree.
`left` bounds the number of blocks. -/
def chunkNode (counter : Nat) :
    (left : Nat) → (chain : Words8) → (flags : UInt32) → List UInt8 → Node
  | 0, chain, flags, bytes => ⟨chain, blockOf bytes, counter, bytes.length, flags ||| chunkEnd⟩
  | left + 1, chain, flags, bytes =>
      if bytes.length ≤ blockSize then
        ⟨chain, blockOf bytes, counter, bytes.length, flags ||| chunkEnd⟩
      else
        let block := bytes.take blockSize
        let node : Node := ⟨chain, blockOf block, counter, blockSize, flags⟩
        chunkNode counter left node.compress 0 (bytes.drop blockSize)

def chunk (counter : Nat) (bytes : List UInt8) : Node :=
  chunkNode counter (chunkSize / blockSize) initial chunkStart bytes

def parent (left right : Words8) : Node :=
  ⟨initial, (left ++ right).cast (by decide), 0, blockSize, parentNode⟩

/-- The greatest power of two below `n`, for `n` above one. -/
def leftChunks (n : Nat) : Nat := 1 <<< (n - 1).log2

/-- The top node over the bytes, of which `counter` chunks come before; `height` bounds the
height of the tree. -/
def tree : (height : Nat) → (counter : Nat) → List UInt8 → Node
  | 0, counter, bytes => chunk counter bytes
  | height + 1, counter, bytes =>
      if bytes.length ≤ chunkSize then chunk counter bytes
      else
        let before := leftChunks ((bytes.length + chunkSize - 1) / chunkSize)
        let left := tree height counter (bytes.take (before * chunkSize))
        let right := tree height (counter + before) (bytes.drop (before * chunkSize))
        parent left.compress right.compress

/-- The eight words of the digest, in little-endian order of their bytes. -/
def blake3 (bytes : List UInt8) : Words8 :=
  let top := tree (bytes.length.log2 + 1) 0 bytes
  { top with flags := top.flags ||| rootNode }.compress

/-- The first word of the digest of a text. -/
def shortId (text : String) : Nat := (blake3 text.toUTF8.toList)[0].toNat

end ShaderVariants.Digest
