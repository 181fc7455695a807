/-
The fixture programs: small programs whose final registers a simulator test can check.
Only `memory` uses absolute addresses, and means to be loaded at zero.
-/

import Rv32Image.Assembly.Basic

namespace Rv32Image

structure Fixture where
  name : String
  fileName : String
  description : String
  assembly : Assembly Unit
  assembles : (assembly.run .empty).isSome = true := by decide

namespace Fixture

open Assembly

def builder (fixture : Fixture) : Builder :=
  ((fixture.assembly.run .empty).get fixture.assembles).2

def code (fixture : Fixture) : List UInt8 :=
  fixture.builder.code

def image (fixture : Fixture) (entry loadAddress : Word) : Image :=
  Image.build fixture.code entry loadAddress

def countdown : Fixture where
  name := "countdown"
  fileName := "test.elf"
  description := "x1 counts down from 3 by x2 = 1; halts with x1 = 0"
  assembly := do
    line (.immediate .addi .ra .zero 3)
    line (.immediate .addi .sp .zero 1)
    let top ← label
    line (.register .sub .ra .ra .sp)
    line (.branch .bne .ra .zero (← distance (← label) top))
    line .halt

def sum : Fixture where
  name := "sum"
  fileName := "final_test.elf"
  description := "sum of 1..=5; halts with a1 = 15, a0 = 0"
  assembly := do
    line (.li .a0 5)
    line (.li .a1 0)
    let top ← label
    line (.register .add .a1 .a1 .a0)
    line (.immediate .addi .a0 .a0 (-1))
    line (.branch .bne .a0 .zero (← distance (← label) top))
    line .halt

/-- The function stands behind the halt and is reached by the jump alone. -/
def call : Fixture where
  name := "call"
  fileName := "test_func.elf"
  description := "a0 = 10, call a function adding 5, then add 1; halts with a0 = 16"
  assembly := do
    line (.li .a0 10)
    let callSite ← slot
    line (.immediate .addi .a0 .a0 1)
    line .halt
    let addFive ← label
    line (.immediate .addi .a0 .a0 5)
    line .ret
    fill callSite (.jal Register.ra.number (← distance callSite addFive))

def arithmetic : Fixture where
  name := "arithmetic"
  fileName := "arithmetic.elf"
  description := "add/sub/or/and of 5 and 3; exits with x12..x15 = 8, 2, 7, 1"
  assembly := do
    line (.li .a0 5)
    line (.li .a1 3)
    line (.register .add .a2 .a0 .a1)
    line (.register .sub .a3 .a0 .a1)
    line (.register .or .a4 .a0 .a1)
    line (.register .and .a5 .a0 .a1)
    line .exit

/-- Byte 101 is the second byte of the stored word. -/
def memory : Fixture where
  name := "memory"
  fileName := "memory.elf"
  description := "store 0x12345678 at 100, reload; exits with x7 = 0x12345678, x8 = 0x56"
  assembly := do
    line (.upper .lui .t1 0x12345)
    line (.immediate .addi .t1 .t1 0x678)
    line (.store .sw .t1 100 .zero)
    line (.load .lw .t2 100 .zero)
    line (.load .lbu .s0 101 .zero)
    line .exit

/-- Registers t0 and t1 hold two neighbours of the sequence, t2 counts the rounds. -/
def fibonacci : Fixture where
  name := "fibonacci"
  fileName := "fibonacci.elf"
  description := "iterative fib(10); exits with a0 = 55"
  assembly := do
    line (.li .a0 10)
    line (.li .t0 0)
    line (.li .t1 1)
    line (.li .t2 0)
    let top ← label
    let exitBranch ← slot
    line (.register .add .s0 .t1 .t0)
    line (.mv .t0 .t1)
    line (.mv .t1 .s0)
    line (.immediate .addi .t2 .t2 1)
    line (.branch .beq .zero .zero (← distance (← label) top))
    let done ← label
    fill exitBranch
      (.branch .bge Register.t2.number Register.a0.number (← distance exitBranch done))
    line (.mv .a0 .t0)
    line .exit

def all : List Fixture :=
  [countdown, sum, call, arithmetic, memory, fibonacci]

def find? (name : String) : Option Fixture :=
  all.find? fun fixture => fixture.name == name

end Fixture

end Rv32Image
