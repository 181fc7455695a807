/-
The fixed values of a 32-bit little-endian RISC-V executable with one segment.
-/

import Rv32Image.Word

namespace Rv32Image.Format

/-! ### Identification bytes -/

def magic : List UInt8 := [0x7F, 0x45, 0x4C, 0x46]

def identificationLength : Nat := 16

def classIndex : Nat := 4

def encodingIndex : Nat := 5

def versionIndex : Nat := 6

def thirtyTwoBitClass : UInt8 := 1

def littleEndianEncoding : UInt8 := 1

/-! ### File header -/

def currentVersion : Word := 1

def executableType : Half := 2

def riscvMachine : Half := 0xF3

def machineFlags : Word := 0

def fileHeaderSize : Half := 52

def programHeaderSize : Half := 32

/-- Written although no section header follows. -/
def sectionHeaderSize : Half := 40

/-! ### Program header -/

def loadableSegment : Word := 1

def executePermission : Word := 1

def writePermission : Word := 2

def readPermission : Word := 4

def segmentPermissions : Word := readPermission ||| executePermission

def segmentAlignment : Word := 4

def programHeaderOffset : Word := 52

def codeOffset : Word := 84

/-- The longest code whose end is still a 32-bit offset. -/
def maximalCodeLength : Nat := 0xFFFFFFFF - codeOffset.toNat

end Rv32Image.Format
