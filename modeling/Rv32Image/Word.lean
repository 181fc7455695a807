/-
The half words and words of the image format and of the instruction set, with their
little-endian bytes.
-/

import Rv32Image.Bytes.LittleEndian

namespace Rv32Image

abbrev Half := BitVec 16

abbrev Word := BitVec 32

namespace Half

def bytes (half : Half) : List UInt8 :=
  LittleEndian.encode 2 half.toNat

def ofBytes (bytes : List UInt8) : Half :=
  BitVec.ofNat 16 (LittleEndian.decode bytes)

theorem length_bytes (half : Half) : half.bytes.length = 2 :=
  LittleEndian.length_encode 2 half.toNat

theorem ofBytes_bytes (half : Half) : ofBytes half.bytes = half := by
  rw [ofBytes, bytes, LittleEndian.decode_encode_of_lt (BitVec.isLt half), BitVec.ofNat_toNat,
    BitVec.setWidth_eq]

theorem bytes_inj {half other : Half} : half.bytes = other.bytes ↔ half = other := by
  constructor
  · intro same
    rw [← ofBytes_bytes half, same, ofBytes_bytes]
  · exact congrArg bytes

end Half

namespace Word

def bytes (word : Word) : List UInt8 :=
  LittleEndian.encode 4 word.toNat

def ofBytes (bytes : List UInt8) : Word :=
  BitVec.ofNat 32 (LittleEndian.decode bytes)

theorem length_bytes (word : Word) : word.bytes.length = 4 :=
  LittleEndian.length_encode 4 word.toNat

theorem ofBytes_bytes (word : Word) : ofBytes word.bytes = word := by
  rw [ofBytes, bytes, LittleEndian.decode_encode_of_lt (BitVec.isLt word), BitVec.ofNat_toNat,
    BitVec.setWidth_eq]

theorem bytes_inj {word other : Word} : word.bytes = other.bytes ↔ word = other := by
  constructor
  · intro same
    rw [← ofBytes_bytes word, same, ofBytes_bytes]
  · exact congrArg bytes

end Word

end Rv32Image
