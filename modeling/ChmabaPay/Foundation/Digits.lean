import Mathlib.Tactic

/-! # Decimal digits of every script

Unicode gives sixty-six runs of ten characters the decimal values zero to nine, the ASCII
digits first among them. Superscripts, circled and a few old numerals are digits too,
without a decimal value.
-/

namespace Digits

/-- The zeros of the runs of ten. -/
def zeros : List ℕ :=
  [0x30, 0x660, 0x6f0, 0x7c0, 0x966, 0x9e6, 0xa66, 0xae6, 0xb66, 0xbe6, 0xc66, 0xce6, 0xd66,
    0xde6, 0xe50, 0xed0, 0xf20, 0x1040, 0x1090, 0x17e0, 0x1810, 0x1946, 0x19d0, 0x1a80, 0x1a90,
    0x1b50, 0x1bb0, 0x1c40, 0x1c50, 0xa620, 0xa8d0, 0xa900, 0xa9d0, 0xa9f0, 0xaa50, 0xabf0,
    0xff10, 0x104a0, 0x10d30, 0x11066, 0x110f0, 0x11136, 0x111d0, 0x112f0, 0x11450, 0x114d0,
    0x11650, 0x116c0, 0x11730, 0x118e0, 0x11950, 0x11c50, 0x11d50, 0x11da0, 0x16a60, 0x16ac0,
    0x16b50, 0x1d7ce, 0x1d7d8, 0x1d7e2, 0x1d7ec, 0x1d7f6, 0x1e140, 0x1e2f0, 0x1e950, 0x1fbf0]

/-- The runs of digits without a decimal value, from the first to the last of each. -/
def others : List (ℕ × ℕ) :=
  [(0xb2, 0xb3), (0xb9, 0xb9), (0x1369, 0x1371), (0x19da, 0x19da), (0x2070, 0x2070),
    (0x2074, 0x2079), (0x2080, 0x2089), (0x2460, 0x2468), (0x2474, 0x247c), (0x2488, 0x2490),
    (0x24ea, 0x24ea), (0x24f5, 0x24fd), (0x24ff, 0x24ff), (0x2776, 0x277e), (0x2780, 0x2788),
    (0x278a, 0x2792), (0x10a40, 0x10a43), (0x10e60, 0x10e68), (0x11052, 0x1105a),
    (0x1f100, 0x1f10a)]

/-- The decimal value of a character. -/
def decimal? (char : Char) : Option ℕ :=
  (zeros.find? fun base => decide (base ≤ char.toNat) && decide (char.toNat < base + 10)).map
    fun base => char.toNat - base

def isDecimal (char : Char) : Bool := (decimal? char).isSome

def isDigit (char : Char) : Bool :=
  isDecimal char ||
    others.any fun run => decide (run.1 ≤ char.toNat) && decide (char.toNat ≤ run.2)

/-- The number some characters read as, most significant first. -/
def reading (digits : List Char) : Option ℕ :=
  digits.foldlM (fun number digit => (decimal? digit).map fun value => 10 * number + value) 0

section

variable {char : Char}

/-- An ASCII digit is told by the first run. -/
theorem decimal?_of_isDigit (hdigit : char.isDigit = true) :
    decimal? char = some (char.toNat - 48) := by
  have hrange : 48 ≤ char.toNat ∧ char.toNat < 58 := by
    simp only [Char.isDigit, Bool.and_eq_true, decide_eq_true_eq, UInt32.le_iff_toNat_le] at hdigit
    exact ⟨hdigit.1, Nat.lt_succ_of_le hdigit.2⟩
  unfold decimal? zeros
  rw [List.find?_cons_of_pos (by simpa using hrange)]
  rfl

theorem isDigit_of_isDigit (hdigit : char.isDigit = true) : isDigit char = true := by
  rw [isDigit, isDecimal, decimal?_of_isDigit hdigit]
  rfl

end

end Digits
