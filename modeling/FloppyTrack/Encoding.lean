import FloppyTrack.Bits

set_option autoImplicit false

namespace FloppyTrack

inductive Encoding where
  -- The cells are the bits themselves, as in sync marks.
  | raw
  | mfm
  | even
  | odd
  -- All even halves of a block, then all odd halves.
  | evenOdd
  -- The same within every group of four bytes.
  | evenOddLongs
deriving DecidableEq, Repr

-- The cells of data bits written after the cell `last`.
def mfmCells (last : Bool) : List Bool → List Bool
  | [] => []
  | bit :: bits => (!(last || bit)) :: bit :: mfmCells bit bits

-- The data cells of a run of cells that starts with a clock.
def dataCells : List Bool → List Bool
  | _ :: bit :: cells => bit :: dataCells cells
  | _ => []

@[simp] theorem mfm_cells_length (last : Bool) (bits : List Bool) :
    (mfmCells last bits).length = 2 * bits.length := by
  induction bits generalizing last with
  | nil => rfl
  | cons bit bits ih => simp [mfmCells, ih]; omega

theorem data_cells_mfm_cells (last : Bool) (bits : List Bool) :
    dataCells (mfmCells last bits) = bits := by
  induction bits generalizing last with
  | nil => rfl
  | cons bit bits ih => simp [mfmCells, dataCells, ih]

-- The bits of the odd half in a whole long, and the data cells in a word of 32 cells.
def oddMask : UInt32 := 0x55555555

def dataByte (raw : UInt16) : UInt8 :=
  UInt8.ofNat (Bits.toNat (dataCells (Bits.ofNat 16 raw.toNat)))

def dataBytes : List UInt8 → List UInt8
  | high :: low :: raw => dataByte (high.toUInt16 <<< 8 ||| low.toUInt16) :: dataBytes raw
  | _ => []

def joinHalves (even odd : UInt8) : UInt8 :=
  ((even &&& 0x55) <<< 1) ||| (odd &&& 0x55)

-- The `n` bytes whose even halves come first in `raw`, and then their odd halves.
def joinSplit (n : Nat) (raw : List UInt8) : List UInt8 :=
  List.zipWith joinHalves (raw.take n) (raw.drop n)

-- As `joinSplit`, for every group of four bytes and for a shorter one at the end.
def joinLongs : Nat → List UInt8 → List UInt8
  | n + 4, raw => joinSplit 4 (raw.take 8) ++ joinLongs n (raw.drop 8)
  | n, raw => joinSplit n (raw.take (2 * n))

namespace Encoding

def cellCount (encoding : Encoding) (bits : Nat) : Nat :=
  match encoding with
  | raw | even | odd => bits
  | mfm | evenOdd | evenOddLongs => 2 * bits

def oddBits (n value : Nat) : List Bool :=
  ((List.range n).reverse.filter (· % 2 = 0)).map value.testBit

def evenBits (n value : Nat) : List Bool :=
  oddBits n (value / 2)

def splitBits (data : List UInt8) : List Bool :=
  data.flatMap (fun byte => evenBits 8 byte.toNat) ++
    data.flatMap (fun byte => oddBits 8 byte.toNat)

def longBits : List UInt8 → List Bool
  | a :: b :: c :: d :: data => splitBits [a, b, c, d] ++ longBits data
  | data => splitBits data

-- The data bits written for the low `n` bits of `value`.
def wordBits (encoding : Encoding) (n value : Nat) : List Bool :=
  match encoding with
  | raw | mfm => Bits.ofNat n value
  | even => evenBits n value
  | odd => oddBits n value
  | evenOdd | evenOddLongs => evenBits n value ++ oddBits n value

def blockBits (encoding : Encoding) (data : List UInt8) : List Bool :=
  match encoding with
  | evenOdd => splitBits data
  | evenOddLongs => longBits data
  | encoding => data.flatMap (fun byte => encoding.wordBits 8 byte.toNat)

-- The bits of a half keep their places in the whole long.
def decodeLong (encoding : Encoding) (word : UInt32) : UInt32 :=
  match encoding with
  | mfm => UInt32.ofNat (Bits.toNat (dataCells (Bits.ofNat 32 word.toNat)))
  | odd => word &&& oddMask
  | even => (word &&& oddMask) <<< 1
  | raw | evenOdd | evenOddLongs => word

-- The `n` bytes of a block, from raw bytes that hold two for each of them.
def decodeBlock (encoding : Encoding) (n : Nat) (data : List UInt8) : List UInt8 :=
  match encoding with
  | mfm => dataBytes (data.take (2 * n))
  | evenOdd => joinSplit n (data.take (2 * n))
  | evenOddLongs => joinLongs n data
  | raw | even | odd => data.take n

-- Decodes a block into the bytes `out`, or stops the program. That the raw bytes hold two for each byte is
-- a debug assertion: a build without it copies as many bytes as there are, and stops only where a split
-- or clocked layout runs out of them.
def decodeInto (asserts : Bool) (encoding : Encoding) (data out : List UInt8) :
    Option (List UInt8) :=
  if 2 * out.length ≤ data.length then some (encoding.decodeBlock out.length data)
  else
    match asserts, encoding with
    | false, raw | false, even | false, odd =>
      some (data.take out.length ++ out.drop data.length)
    | _, _ => none

end Encoding

end FloppyTrack
