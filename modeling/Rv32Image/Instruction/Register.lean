/-
The thirty-two registers under the names of the calling convention, where register 8
has two.
-/

import Rv32Image.Word

namespace Rv32Image

inductive Register where
  | zero | ra | sp | gp | tp | t0 | t1 | t2 | s0 | s1
  | a0 | a1 | a2 | a3 | a4 | a5 | a6 | a7
  | s2 | s3 | s4 | s5 | s6 | s7 | s8 | s9 | s10 | s11
  | t3 | t4 | t5 | t6
deriving DecidableEq, Repr

namespace Register

def number (register : Register) : Word :=
  BitVec.ofNat 32 register.ctorIdx

theorem number_lt (register : Register) : register.number.toNat < 32 := by
  cases register <;> decide

def numberedNames : List (String × Register) :=
  [("x0", zero), ("x1", ra), ("x2", sp), ("x3", gp), ("x4", tp), ("x5", t0), ("x6", t1),
    ("x7", t2), ("x8", s0), ("x9", s1), ("x10", a0), ("x11", a1), ("x12", a2), ("x13", a3),
    ("x14", a4), ("x15", a5), ("x16", a6), ("x17", a7), ("x18", s2), ("x19", s3), ("x20", s4),
    ("x21", s5), ("x22", s6), ("x23", s7), ("x24", s8), ("x25", s9), ("x26", s10), ("x27", s11),
    ("x28", t3), ("x29", t4), ("x30", t5), ("x31", t6)]

def conventionNames : List (String × Register) :=
  [("zero", zero), ("ra", ra), ("sp", sp), ("gp", gp), ("tp", tp), ("t0", t0), ("t1", t1),
    ("t2", t2), ("s0", s0), ("fp", s0), ("s1", s1), ("a0", a0), ("a1", a1), ("a2", a2), ("a3", a3),
    ("a4", a4), ("a5", a5), ("a6", a6), ("a7", a7), ("s2", s2), ("s3", s3), ("s4", s4), ("s5", s5),
    ("s6", s6), ("s7", s7), ("s8", s8), ("s9", s9), ("s10", s10), ("s11", s11), ("t3", t3),
    ("t4", t4), ("t5", t5), ("t6", t6)]

def ofName? (name : String) : Option Register :=
  (numberedNames ++ conventionNames).lookup name

end Register

end Rv32Image
