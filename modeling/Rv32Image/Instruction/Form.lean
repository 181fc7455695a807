/-
The six bit layouts of 32-bit RISC-V instructions.  Registers, function codes and
opcodes are not masked: an operand wider than its field spills into the fields above.
-/

import Rv32Image.Word

namespace Rv32Image

namespace Opcode

def load : Word := 0x03

def immediate : Word := 0x13

def auipc : Word := 0x17

def store : Word := 0x23

def register : Word := 0x33

def lui : Word := 0x37

def branch : Word := 0x63

def jalr : Word := 0x67

def jal : Word := 0x6F

def system : Word := 0x73

end Opcode

namespace Form

def register (funct7 source2 source1 funct3 destination opcode : Word) : Word :=
  funct7 <<< 25 ||| source2 <<< 20 ||| source1 <<< 15 ||| funct3 <<< 12 |||
    destination <<< 7 ||| opcode

def immediate (value : Int) (source funct3 destination opcode : Word) : Word :=
  (BitVec.ofInt 32 value &&& 0xFFF) <<< 20 ||| source <<< 15 ||| funct3 <<< 12 |||
    destination <<< 7 ||| opcode

def store (value : Int) (source2 source1 funct3 : Word) : Word :=
  let bits := BitVec.ofInt 32 value
  ((bits >>> 5) &&& 0x7F) <<< 25 ||| source2 <<< 20 ||| source1 <<< 15 ||| funct3 <<< 12 |||
    (bits &&& 0x1F) <<< 7 ||| Opcode.store

/-- Bits 12, 10 to 5, 4 to 1 and 11 of the distance, from the top. -/
def branch (distance : Int) (source2 source1 funct3 : Word) : Word :=
  let bits := BitVec.ofInt 32 distance
  ((bits >>> 12) &&& 0x1) <<< 31 ||| ((bits >>> 5) &&& 0x3F) <<< 25 ||| source2 <<< 20 |||
    source1 <<< 15 ||| funct3 <<< 12 ||| ((bits >>> 1) &&& 0xF) <<< 8 |||
    ((bits >>> 11) &&& 0x1) <<< 7 ||| Opcode.branch

def upper (value destination opcode : Word) : Word :=
  (value &&& 0xFFFFF) <<< 12 ||| destination <<< 7 ||| opcode

/-- Bits 20, 10 to 1, 11 and 19 to 12 of the distance, from the top. -/
def jump (distance : Int) (destination : Word) : Word :=
  let bits := BitVec.ofInt 32 distance
  ((bits >>> 20) &&& 0x1) <<< 31 ||| ((bits >>> 1) &&& 0x3FF) <<< 21 |||
    ((bits >>> 11) &&& 0x1) <<< 20 ||| ((bits >>> 12) &&& 0xFF) <<< 12 |||
    destination <<< 7 ||| Opcode.jal

end Form

end Rv32Image
