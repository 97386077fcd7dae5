/-! The twelve-round stream cipher that random words are taken from. Its sixteen words stand in
four rows of four; a round mixes the columns, and then, the rows turned against each other, the
diagonals. -/
namespace SlotServe.Random

structure Row where
  first : UInt32
  second : UInt32
  third : UInt32
  fourth : UInt32
  deriving DecidableEq

namespace Row

@[inline] def combine (f : UInt32 → UInt32 → UInt32) (left right : Row) : Row :=
  ⟨f left.first right.first, f left.second right.second, f left.third right.third,
    f left.fourth right.fourth⟩

@[inline] def map (f : UInt32 → UInt32) (row : Row) : Row :=
  ⟨f row.first, f row.second, f row.third, f row.fourth⟩

@[inline] def turn (row : Row) : Row := ⟨row.second, row.third, row.fourth, row.first⟩

def words (row : Row) : List UInt32 := [row.first, row.second, row.third, row.fourth]

end Row

@[inline] def rotateLeft (word amount : UInt32) : UInt32 := (word <<< amount) ||| (word >>> (32 - amount))

structure Grid where
  top : Row
  upper : Row
  lower : Row
  bottom : Row
  deriving DecidableEq

namespace Grid

@[inline] def halfRound (wide narrow : UInt32) (grid : Grid) : Grid :=
  let top := grid.top.combine (· + ·) grid.upper
  let bottom := (grid.bottom.combine (· ^^^ ·) top).map (rotateLeft · wide)
  let lower := grid.lower.combine (· + ·) bottom
  let upper := (grid.upper.combine (· ^^^ ·) lower).map (rotateLeft · narrow)
  ⟨top, upper, lower, bottom⟩

def columnRound (grid : Grid) : Grid := (grid.halfRound 16 12).halfRound 8 7

def doubleRound (grid : Grid) : Grid :=
  let grid := grid.columnRound
  let turned := Grid.columnRound
    ⟨grid.top, grid.upper.turn, grid.lower.turn.turn, grid.bottom.turn.turn.turn⟩
  ⟨turned.top, turned.upper.turn.turn.turn, turned.lower.turn.turn, turned.bottom.turn⟩

def rounds : Nat → Grid → Grid
  | 0, grid => grid
  | count + 1, grid => rounds count grid.doubleRound

def words (grid : Grid) : List UInt32 :=
  grid.top.words ++ grid.upper.words ++ grid.lower.words ++ grid.bottom.words

end Grid

structure CipherKey where
  upper : Row
  lower : Row
  deriving DecidableEq

def startGrid (key : CipherKey) (block : UInt64) : Grid :=
  -- The fixed words spell `expand 32-byte k`.
  ⟨⟨0x61707865, 0x3320646e, 0x79622d32, 0x6b206574⟩, key.upper, key.lower,
    ⟨block.toUInt32, (block >>> 32).toUInt32, 0, 0⟩⟩

def blockWords (key : CipherKey) (block : UInt64) : List UInt32 :=
  let start := startGrid key block
  -- Two rounds in one, six times.
  let mixed := start.rounds 6
  List.zipWith (· + ·) mixed.words start.words

end SlotServe.Random
