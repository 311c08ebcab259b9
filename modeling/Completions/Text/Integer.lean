import Completions.Text.Blank

/-!
Whole numbers as people write them: blanks around, a sign, digits of any script, and single
underscores between digits.
-/

namespace Completions.Text

def digitZeros : List Nat :=
  [0x30, 0x660, 0x6f0, 0x7c0, 0x966, 0x9e6, 0xa66, 0xae6, 0xb66, 0xbe6,
   0xc66, 0xce6, 0xd66, 0xde6, 0xe50, 0xed0, 0xf20, 0x1040, 0x1090, 0x17e0,
   0x1810, 0x1946, 0x19d0, 0x1a80, 0x1a90, 0x1b50, 0x1bb0, 0x1c40, 0x1c50, 0xa620,
   0xa8d0, 0xa900, 0xa9d0, 0xa9f0, 0xaa50, 0xabf0, 0xff10, 0x104a0, 0x10d30, 0x11066,
   0x110f0, 0x11136, 0x111d0, 0x112f0, 0x11450, 0x114d0, 0x11650, 0x116c0, 0x11730, 0x118e0,
   0x11950, 0x11c50, 0x11d50, 0x11da0, 0x16a60, 0x16ac0, 0x16b50, 0x1d7ce, 0x1d7d8, 0x1d7e2,
   0x1d7ec, 0x1d7f6, 0x1e140, 0x1e2f0, 0x1e950, 0x1fbf0]

def digitValue? (c : Char) : Option Nat :=
  (digitZeros.find? fun z => decide (z ≤ c.toNat) && decide (c.toNat < z + 10)).map (c.toNat - ·)

/-- Blanks that may stand around a number: all but the separators among the controls. -/
def isMargin (c : Char) : Bool :=
  isBlank c && !(decide (0x1c ≤ c.toNat) && decide (c.toNat ≤ 0x1f))

def withoutMargins (t : List Char) : List Char :=
  ((t.dropWhile isMargin).reverse.dropWhile isMargin).reverse

def digitsOn? (n : Nat) : List Char → Option Nat
  | [] => some n
  | '_' :: c :: rest => do
    let d ← digitValue? c
    digitsOn? (10 * n + d) rest
  | c :: rest => do
    let d ← digitValue? c
    digitsOn? (10 * n + d) rest

def natural? : List Char → Option Nat
  | [] => none
  | c :: rest => do
    let d ← digitValue? c
    digitsOn? d rest

def integer? (t : List Char) : Option Int :=
  match withoutMargins t with
  | '-' :: rest => (natural? rest).map fun n => -(n : Int)
  | '+' :: rest => (natural? rest).map Int.ofNat
  | rest => (natural? rest).map Int.ofNat

end Completions.Text
