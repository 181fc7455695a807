/-
The instructions of the RV32I base set that can be assembled, and their words.
-/

import Rv32Image.Instruction.Form

namespace Rv32Image

inductive ImmediateOperation where
  | addi | slti | xori | ori | andi
deriving DecidableEq, Repr

inductive RegisterOperation where
  | add | sub | slt | xor | or | and
deriving DecidableEq, Repr

inductive UpperOperation where
  | lui | auipc
deriving DecidableEq, Repr

inductive LoadOperation where
  | lw | lbu
deriving DecidableEq, Repr

inductive StoreOperation where
  | sw | sb
deriving DecidableEq, Repr

inductive BranchOperation where
  | beq | bne | blt | bge
deriving DecidableEq, Repr

inductive Instruction where
  | immediate (operation : ImmediateOperation) (destination source : Word) (value : Int)
  | register (operation : RegisterOperation) (destination source1 source2 : Word)
  | upper (operation : UpperOperation) (destination value : Word)
  | load (operation : LoadOperation) (destination base : Word) (offset : Int)
  | store (operation : StoreOperation) (source base : Word) (offset : Int)
  | branch (operation : BranchOperation) (source1 source2 : Word) (distance : Int)
  | jal (destination : Word) (distance : Int)
  | jalr (destination base : Word) (offset : Int)
  | move (destination source : Word)
  | nop
  | ecall
  /-- No instruction of the base set: execution stops on it. -/
  | halt
deriving DecidableEq, Repr

def ImmediateOperation.funct3 : ImmediateOperation → Word
  | addi => 0
  | slti => 2
  | xori => 4
  | ori => 6
  | andi => 7

def RegisterOperation.funct3 : RegisterOperation → Word
  | add => 0
  | sub => 0
  | slt => 2
  | xor => 4
  | or => 6
  | and => 7

/-- Subtraction is told from addition by this field alone. -/
def RegisterOperation.funct7 : RegisterOperation → Word
  | sub => 0x20
  | _ => 0

def UpperOperation.opcode : UpperOperation → Word
  | lui => Opcode.lui
  | auipc => Opcode.auipc

def LoadOperation.funct3 : LoadOperation → Word
  | lw => 2
  | lbu => 4

def StoreOperation.funct3 : StoreOperation → Word
  | sw => 2
  | sb => 0

def BranchOperation.funct3 : BranchOperation → Word
  | beq => 0
  | bne => 1
  | blt => 4
  | bge => 5

namespace Instruction

def encode : Instruction → Word
  | immediate operation destination source value =>
      Form.immediate value source operation.funct3 destination Opcode.immediate
  | register operation destination source1 source2 =>
      Form.register operation.funct7 source2 source1 operation.funct3 destination Opcode.register
  | upper operation destination value => Form.upper value destination operation.opcode
  | load operation destination base offset =>
      Form.immediate offset base operation.funct3 destination Opcode.load
  | store operation source base offset => Form.store offset source base operation.funct3
  | branch operation source1 source2 distance =>
      Form.branch distance source2 source1 operation.funct3
  | jal destination distance => Form.jump distance destination
  | jalr destination base offset => Form.immediate offset base 0 destination Opcode.jalr
  | move destination source => Form.immediate 0 source 0 destination Opcode.immediate
  | nop => Form.immediate 0 0 0 0 Opcode.immediate
  | ecall => Opcode.system
  | halt => 0

theorem encode_move (destination source : Word) :
    (move destination source).encode = (immediate .addi destination source 0).encode := rfl

theorem encode_nop : nop.encode = (immediate .addi 0 0 0).encode := rfl

end Instruction

end Rv32Image
