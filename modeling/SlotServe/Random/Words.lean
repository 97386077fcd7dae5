import SlotServe.Random.Cipher
/-! A stream of random words that a seed determines, and the draws made from it. Every draw takes
words from the front of the stream. -/
namespace SlotServe.Random

structure WordStream where
  key : CipherKey
  /-- The number of the next block. -/
  block : UInt64
  /-- Words of the current block that are not taken yet. -/
  ready : List UInt32

-- A linear step, from whose state a word is folded and turned by the five highest bits.
def spreadStep (state : UInt64) : UInt64 := state * 6364136223846793005 + 11634580027462260723

def spreadWord (state : UInt64) : UInt32 :=
  let folded : UInt64 := ((state >>> 18) ^^^ state) >>> 27
  let turns : UInt64 := state >>> 59
  rotateLeft folded.toUInt32 (32 - turns.toUInt32)

def spreadRow (state : UInt64) : Row × UInt64 :=
  let one := spreadStep state
  let two := spreadStep one
  let three := spreadStep two
  let four := spreadStep three
  (⟨spreadWord one, spreadWord two, spreadWord three, spreadWord four⟩, four)

namespace WordStream

def ofSeed (seed : UInt64) : WordStream :=
  let (upper, state) := spreadRow seed
  ⟨⟨upper, (spreadRow state).1⟩, 0, []⟩

def next (stream : WordStream) : UInt32 × WordStream :=
  match stream.ready with
  | word :: rest => (word, { stream with ready := rest })
  | [] =>
    match blockWords stream.key stream.block with
    | word :: rest => (word, { stream with block := stream.block + 1, ready := rest })
    | [] => (0, stream)

def nextUnit (stream : WordStream) : Float32 × WordStream :=
  let (word, stream) := stream.next
  -- The upper 24 bits count units of `2 ^ -24`.
  ((word >>> 8).toFloat32 * Float32.ofBits 0x33800000, stream)

/-- The highest low half of a product that a draw below `width` accepts. -/
def acceptLimit (width : Nat) : Nat := (width * Nat.pow 2 (31 - Nat.log2 width) - 1) % 0x100000000

/-- A number below `width`, each equally likely: words whose product with `width` falls into an
incomplete stretch are passed over, at most `tries` of them. -/
def nextBelow (width : Nat) : Nat → WordStream → Nat × WordStream
  | 0, stream => (0, stream)
  | tries + 1, stream =>
    let (word, stream) := stream.next
    let product := word.toNat * width
    if product % 0x100000000 ≤ acceptLimit width then (product / 0x100000000, stream)
    else nextBelow width tries stream

/-- More words than a draw ever passes over: each is passed over with a chance below one half. -/
def maxTries : Nat := 4096

end WordStream

end SlotServe.Random
