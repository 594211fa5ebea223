/-!
The hash function BLAKE3, for an output of 32 bytes and without a key. The input is cut into chunks
of 1024 bytes and each chunk into blocks of 64 bytes; a compression function folds the blocks of a
chunk into a chaining value, and the chaining values of chunks are joined pairwise in a binary
tree whose left subtrees are complete.
-/

namespace TypeCatalog.Digest.Blake3

/-- The eight words of a chaining value. -/
abbrev ChainingValue := Vector UInt32 8

/-- The sixteen words of a block or of the state of a compression. -/
abbrev Block := Vector UInt32 16

/-! ### Constants -/

/-- The chaining value that every chunk starts from. -/
def startValue : ChainingValue :=
  #v[0x6A09E667, 0xBB67AE85, 0x3C6EF372, 0xA54FF53A, 0x510E527F, 0x9B05688C, 0x1F83D9AB, 0x5BE0CD19]

/-- The order in which a round takes the words of the block of the round before. -/
def permutation : Vector (Fin 16) 16 := #v[2, 6, 3, 10, 7, 0, 4, 13, 1, 11, 12, 5, 9, 14, 15, 8]

def chunkStartFlag : UInt32 := 1
def chunkEndFlag : UInt32 := 2
def parentFlag : UInt32 := 4
def rootFlag : UInt32 := 8

def blockSize : Nat := 64
def chunkSize : Nat := 1024

/-! ### Compression -/

/-- Rotation of a word to the right. -/
def rotateRight (w n : UInt32) : UInt32 := (w >>> n) ||| (w <<< (32 - n))

/-- Mixes two words of a block into four words of the state. -/
def mix (s : Block) (a b c d : Fin 16) (x y : UInt32) : Block :=
  let s := s.set a (s[a] + s[b] + x)
  let s := s.set d (rotateRight (s[d] ^^^ s[a]) 16)
  let s := s.set c (s[c] + s[d])
  let s := s.set b (rotateRight (s[b] ^^^ s[c]) 12)
  let s := s.set a (s[a] + s[b] + y)
  let s := s.set d (rotateRight (s[d] ^^^ s[a]) 8)
  let s := s.set c (s[c] + s[d])
  s.set b (rotateRight (s[b] ^^^ s[c]) 7)

/-- A round: mixes the block into the columns of the state and then into its diagonals. -/
def mixBlock (s m : Block) : Block :=
  let s := mix s 0 4 8 12 m[0] m[1]
  let s := mix s 1 5 9 13 m[2] m[3]
  let s := mix s 2 6 10 14 m[4] m[5]
  let s := mix s 3 7 11 15 m[6] m[7]
  let s := mix s 0 5 10 15 m[8] m[9]
  let s := mix s 1 6 11 12 m[10] m[11]
  let s := mix s 2 7 8 13 m[12] m[13]
  mix s 3 4 9 14 m[14] m[15]

/-- Several rounds, each on a permuted block. -/
def rounds : Nat → Block → Block → Block
  | 0, s, _ => s
  | n + 1, s, m => rounds n (mixBlock s m) (permutation.map fun i => m[i])

/-- What a compression works on. -/
structure Node where
  input : ChainingValue
  block : Block
  counter : UInt64
  length : UInt32
  flags : UInt32

/-- The state that a compression starts from. -/
def Node.startState (n : Node) : Block :=
  #v[n.input[0], n.input[1], n.input[2], n.input[3], n.input[4], n.input[5], n.input[6], n.input[7],
     startValue[0], startValue[1], startValue[2], startValue[3],
     n.counter.toUInt32, (n.counter >>> 32).toUInt32, n.length, n.flags]

/-- The first eight words of the compressed node. -/
def Node.compress (n : Node) : ChainingValue :=
  let s := rounds 7 n.startState n.block
  Vector.ofFn fun i : Fin 8 => s[i.val] ^^^ s[i.val + 8]

/-! ### Blocks, chunks and the tree -/

/-- The number whose bytes, the lowest first, are given. -/
def wordOfBytes : List UInt8 → UInt32
  | [] => 0
  | b :: rest => b.toUInt32 ||| (wordOfBytes rest <<< 8)

/-- The block of at most 64 bytes, filled up with zeros. -/
def blockOfBytes (bytes : List UInt8) : Block :=
  Vector.ofFn fun i : Fin 16 => wordOfBytes ((bytes.drop (4 * i.val)).take 4)

/-- A list cut into pieces of a size, as many as the fuel allows; never no piece at all. -/
def cut (size : Nat) : Nat → List UInt8 → List (List UInt8)
  | 0, bytes => [bytes]
  | fuel + 1, bytes =>
    let rest := bytes.drop size
    if rest.isEmpty then [bytes] else bytes.take size :: cut size fuel rest

/-- The last node of a chunk, from the chaining value that its earlier blocks have given. -/
def chunkNode (counter : UInt64) (flag : UInt32) (input : ChainingValue) :
    List (List UInt8) → Node
  | [] => ⟨input, blockOfBytes [], counter, 0, flag ||| chunkEndFlag⟩
  | [last] =>
    ⟨input, blockOfBytes last, counter, UInt32.ofNat last.length, flag ||| chunkEndFlag⟩
  | block :: rest =>
    let node : Node := ⟨input, blockOfBytes block, counter, UInt32.ofNat block.length, flag⟩
    chunkNode counter 0 node.compress rest

/-- The node of the chunk at a position. -/
def nodeOfChunk (position : Nat) (bytes : List UInt8) : Node :=
  chunkNode (UInt64.ofNat position) chunkStartFlag startValue (cut blockSize bytes.length bytes)

/-- The node that joins two chaining values. -/
def parentNode (left right : ChainingValue) : Node :=
  ⟨startValue, (left ++ right).cast rfl, 0, UInt32.ofNat blockSize, parentFlag⟩

/-- The greatest power of two below a number, if that is at least two. -/
def leftSize (n : Nat) : Nat := Nat.pow 2 (n - 1).log2

/-- The node of the tree over some chunks, the first of which has a position. -/
def tree : Nat → Nat → List (List UInt8) → Node
  | 0, position, chunks => nodeOfChunk position chunks.flatten
  | _, position, [] => nodeOfChunk position []
  | _, position, [chunk] => nodeOfChunk position chunk
  | fuel + 1, position, chunks =>
    let n := leftSize chunks.length
    parentNode (tree fuel position (chunks.take n)).compress
      (tree fuel (position + n) (chunks.drop n)).compress

/-- The bytes of a word, the lowest first. -/
def bytesOfWord (w : UInt32) : List UInt8 :=
  [w.toUInt8, (w >>> 8).toUInt8, (w >>> 16).toUInt8, (w >>> 24).toUInt8]

/-- The 32 bytes that a list of bytes hashes to. -/
def hash (bytes : List UInt8) : List UInt8 :=
  let chunks := cut chunkSize bytes.length bytes
  let root := tree chunks.length 0 chunks
  let output := { root with flags := root.flags ||| rootFlag }.compress
  output.toList.flatMap bytesOfWord

/-! ### Text -/

/-- A byte as two hexadecimal digits. -/
def hexOfByte (b : UInt8) : List Char :=
  [Nat.digitChar (b.toNat / 16), Nat.digitChar (b.toNat % 16)]

/-- The hash of a text's UTF-8 bytes in 64 hexadecimal digits. -/
def hexOfText (text : String) : String :=
  String.ofList ((hash text.toUTF8.toList).flatMap hexOfByte)

end TypeCatalog.Digest.Blake3
