import LintWatch.FileSystem

/-! The order in which a directory lists its entries. An indexed directory keeps its entries
by a hash of their names and lists them in the order of that hash: half of an MD4
compression, run over the name's bytes 32 at a time from the default seed, with every byte
read as a signed character. The hash has a major and a minor word, and entries are listed
by the major word, then the minor one; names that share both are listed by name. -/
namespace LintWatch.Listing

/-- The four words the compression carries from one block of a name to the next. -/
structure State where
  a : UInt32
  b : UInt32
  c : UInt32
  d : UInt32
  deriving Repr, BEq, DecidableEq

/-- The state a name's hash starts from when the directory has no seed of its own. -/
def seed : State := ⟨0x67452301, 0xefcdab89, 0x98badcfe, 0x10325476⟩

/-- Rotation of a word left by `s` bits, for `0 < s < 32`. -/
def rotl (x s : UInt32) : UInt32 := (x <<< s) ||| (x >>> (32 - s))

/-- Bitwise choice: the bits of `y` where `x` is set, those of `z` elsewhere. -/
def choose (x y z : UInt32) : UInt32 := z ^^^ (x &&& (y ^^^ z))

/-- Bitwise majority of three words, written as the sum of two disjoint parts. -/
def majority (x y z : UInt32) : UInt32 := (x &&& y) + ((x ^^^ y) &&& z)

/-- Bitwise parity of three words. -/
def parity (x y z : UInt32) : UInt32 := x ^^^ y ^^^ z

/-- A round of the compression: how it mixes three words, the constant it adds, the order
in which it reads the eight words of a block, and the rotations of its four kinds of step. -/
structure Round where
  mix : UInt32 → UInt32 → UInt32 → UInt32
  constant : UInt32
  order : List Nat
  shifts : List UInt32

def rounds : List Round := [
  ⟨choose, 0, [0, 1, 2, 3, 4, 5, 6, 7], [3, 7, 11, 19]⟩,
  ⟨majority, 0x5A827999, [1, 3, 5, 7, 0, 2, 4, 6], [3, 5, 9, 13]⟩,
  ⟨parity, 0x6ED9EBA1, [3, 7, 2, 6, 1, 5, 0, 4], [3, 9, 11, 15]⟩]

/-- One step: the word in front is mixed with the other three, the block word the slot names
and the round's constant, then rotated; the words then turn so that the last comes first.
Four steps bring every word back to its place. -/
def step (r : Round) (block : List UInt32) (s : State) (slot : Nat × UInt32) : State :=
  let front := rotl (s.a + r.mix s.b s.c s.d + (block.getD slot.1 0 + r.constant)) slot.2
  ⟨s.d, front, s.b, s.c⟩

/-- Runs a round over a block. -/
def runRound (block : List UInt32) (s : State) (r : Round) : State :=
  (r.order.zip (r.shifts ++ r.shifts)).foldl (step r block) s

/-- Compresses one block of eight words into the state. -/
def compress (s : State) (block : List UInt32) : State :=
  let t := rounds.foldl (runRound block) s
  ⟨s.a + t.a, s.b + t.b, s.c + t.c, s.d + t.d⟩

/-- A byte read as a signed character and widened to a word. -/
def signed (b : UInt8) : UInt32 :=
  if b < 128 then b.toUInt32 else b.toUInt32 + 0xFFFFFF00

/-- Up to four bytes packed into a word, the first highest, on top of `pad`. -/
def pack (pad : UInt32) (bytes : List UInt8) : UInt32 :=
  bytes.foldl (fun v b => signed b + (v <<< 8)) pad

/-- The bytes packed four to a word; a short last group is packed as it is. -/
def packAll (pad : UInt32) : List UInt8 → List UInt32
  | [] => []
  | b0 :: b1 :: b2 :: b3 :: rest => pack pad [b0, b1, b2, b3] :: packAll pad rest
  | bytes => [pack pad bytes]

/-- The block read from what is left of a name: its first 32 bytes packed into words, and
the words after them filled with a pad that repeats the count of bytes left. -/
def block (rest : List UInt8) : List UInt32 :=
  let n := rest.length.toUInt32
  let half := n ||| (n <<< 8)
  let pad := half ||| (half <<< 16)
  let words := packAll pad (rest.take 32)
  words ++ List.replicate (8 - words.length) pad

/-- Compresses the blocks of what is left of a name, 32 bytes at a time. -/
def absorb (s : State) : List UInt8 → State
  | [] => s
  | b :: bs => absorb (compress s (block (b :: bs))) ((b :: bs).drop 32)
termination_by bytes => bytes.length
decreasing_by simp only [List.length_drop, List.length_cons]; omega

/-- The major and minor hash of a name. The major hash has its low bit cleared, and the
value that would stand for the end of the directory is moved to the one below it. -/
def nameHash (name : String) : UInt32 × UInt32 :=
  let s := absorb seed name.toUTF8.toList
  let major := s.b &&& 0xFFFFFFFE
  (if major == 0xFFFFFFFE then 0xFFFFFFFC else major, s.c)

/-- Whether `a` is listed no later than `b`: by major hash, then minor hash, then name. -/
def listsBefore (a b : (UInt32 × UInt32) × String) : Bool :=
  a.1.1 < b.1.1 || (a.1.1 == b.1.1 && (a.1.2 < b.1.2 || (a.1.2 == b.1.2 && a.2 ≤ b.2)))

end LintWatch.Listing

namespace LintWatch.FileSystem

/-- The names and nodes directly inside a directory, in the order the directory lists them. -/
def listing (fs : FileSystem) (dir : String) : List (String × Node) :=
  let keyed := (fs.children dir).map fun entry => ((Listing.nameHash entry.1, entry.1), entry)
  (keyed.mergeSort fun a b => Listing.listsBefore a.1 b.1).map (·.2)

end LintWatch.FileSystem
