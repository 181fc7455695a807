/-
Lines of assembly with named registers.  `exit` stands for two instructions, every
other line for one.
-/

import Rv32Image.Instruction.Basic
import Rv32Image.Instruction.Register
import Rv32Image.Assembly.Builder

namespace Rv32Image

def exitRequest : Int := 10

/-- Memory operands are an offset and the register that holds the base. -/
inductive Line where
  | immediate (operation : ImmediateOperation) (destination source : Register) (value : Int)
  | li (destination : Register) (value : Int)
  | mv (destination source : Register)
  | register (operation : RegisterOperation) (destination source1 source2 : Register)
  | upper (operation : UpperOperation) (destination : Register) (value : Word)
  | load (operation : LoadOperation) (destination : Register) (offset : Int) (base : Register)
  | store (operation : StoreOperation) (source : Register) (offset : Int) (base : Register)
  | branch (operation : BranchOperation) (source1 source2 : Register) (distance : Int)
  | jal (destination : Register) (distance : Int)
  | jalr (destination : Register) (offset : Int) (base : Register)
  | ret
  | halt
  | exit
deriving DecidableEq, Repr

def Line.instructions : Line → List Instruction
  | immediate operation destination source value =>
      [.immediate operation destination.number source.number value]
  | li destination value => [.immediate .addi destination.number 0 value]
  | mv destination source => [.move destination.number source.number]
  | register operation destination source1 source2 =>
      [.register operation destination.number source1.number source2.number]
  | upper operation destination value => [.upper operation destination.number value]
  | load operation destination offset base =>
      [.load operation destination.number base.number offset]
  | store operation source offset base => [.store operation source.number base.number offset]
  | branch operation source1 source2 distance =>
      [.branch operation source1.number source2.number distance]
  | jal destination distance => [.jal destination.number distance]
  | jalr destination offset base => [.jalr destination.number base.number offset]
  | ret => [.jalr 0 1 0]
  | halt => [.halt]
  | exit => [.immediate .addi Register.a7.number 0 exitRequest, .ecall]

namespace Builder

def emitLine (builder : Builder) (line : Line) : Builder :=
  line.instructions.foldl (fun builder instruction => builder.emit instruction.encode) builder

end Builder

end Rv32Image
