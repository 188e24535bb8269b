import Mathlib.Data.List.GetD
import Mathlib.Tactic

/-! # Shift registers

A register takes in bits at its top and turns: it moves one place up, and where a bit falls
out the polynomial is added to it. A turn is linear, and it is injective when the polynomial
ends in a one. A burst that fits the register is then still visible after any number of turns.
-/

namespace ShiftRegister

variable {width : ℕ} (poly : BitVec width)

/-- One place up, and the polynomial for the bit that falls out. -/
def turn (register : BitVec width) : BitVec width :=
  if register.msb then (register <<< 1) ^^^ poly else register <<< 1

/-- A bit at the top of the register. -/
def top (bit : Bool) : BitVec width :=
  if bit then BitVec.twoPow width (width - 1) else .ofNat width 0

/-- The register after a list of bits. -/
def feed (register : BitVec width) (bits : List Bool) : BitVec width :=
  bits.foldl (fun register bit => turn poly (register ^^^ top bit)) register

/-- The bits side by side, the first at the top. -/
def word : List Bool → BitVec width
  | [] => .ofNat width 0
  | bit :: rest => top bit ^^^ (word rest >>> 1)

/-! ## Turns -/

theorem turn_xor (first second : BitVec width) :
    turn poly (first ^^^ second) = turn poly first ^^^ turn poly second := by
  unfold turn
  rw [BitVec.msb_xor, BitVec.shiftLeft_xor_distrib]
  cases first.msb with
  | false =>
      cases second.msb with
      | false => rfl
      | true => exact BitVec.xor_assoc _ _ _
  | true =>
      cases second.msb with
      | false =>
          change (first <<< 1 ^^^ second <<< 1) ^^^ poly = (first <<< 1 ^^^ poly) ^^^ second <<< 1
          rw [BitVec.xor_assoc, BitVec.xor_assoc, BitVec.xor_comm poly]
      | true =>
          change first <<< 1 ^^^ second <<< 1 = (first <<< 1 ^^^ poly) ^^^ (second <<< 1 ^^^ poly)
          rw [BitVec.xor_assoc, BitVec.xor_comm (second <<< 1) poly, ← BitVec.xor_assoc poly,
            BitVec.xor_self, BitVec.zero_xor]

variable {poly}

section Injective

variable (hpoly : poly.getLsbD 0 = true)

include hpoly

/-- Only the empty register turns into the empty one. -/
theorem turn_eq_zero {register : BitVec width} (hturn : turn poly register = .ofNat width 0) :
    register = .ofNat width 0 := by
  have hshift : (register <<< 1).getLsbD 0 = false := by simp
  unfold turn at hturn
  split at hturn
  · -- the lowest bit of the polynomial is left over
    have hlow := congrArg (BitVec.getLsbD · 0) hturn
    simp [BitVec.getLsbD_xor, hshift, hpoly] at hlow
  next hmsb =>
    refine BitVec.eq_of_getLsbD_eq fun index hindex => ?_
    rw [BitVec.getLsbD_zero]
    by_cases hlast : index + 1 < width
    · have hnext := congrArg (BitVec.getLsbD · (index + 1)) hturn
      rw [BitVec.getLsbD_zero, BitVec.getLsbD_shiftLeft, Nat.add_sub_cancel] at hnext
      simpa [hlast] using hnext
    · have htop : index = width - 1 := by omega
      rw [htop, ← BitVec.msb_eq_getLsbD_last]
      simpa using hmsb

theorem turn_injective : Function.Injective (turn poly) := by
  intro first second heq
  refine BitVec.xor_eq_zero_iff.mp (turn_eq_zero hpoly ?_)
  rw [turn_xor, heq, BitVec.xor_self]

theorem feed_injective (bits : List Bool) :
    Function.Injective fun register => feed poly register bits := by
  induction bits with
  | nil => exact fun _ _ heq => heq
  | cons bit bits ih =>
      intro first second heq
      exact (BitVec.xor_left_inj _).mp (turn_injective hpoly (ih heq))

end Injective

/-! ## Bits side by side -/

theorem getLsbD_top (hwidth : 0 < width) (bit : Bool) (index : ℕ) :
    (top bit : BitVec width).getLsbD index = (decide (index = width - 1) && bit) := by
  cases bit with
  | false => simp [top]
  | true =>
      rw [top, if_pos rfl, BitVec.getLsbD_twoPow, Bool.and_true]
      by_cases heq : index = width - 1
      · simp [heq, hwidth]
      · simp [heq, Ne.symm heq]

theorem getLsbD_word (hwidth : 0 < width) (bits : List Bool) (index : ℕ) :
    (word bits : BitVec width).getLsbD index =
      (decide (index < width) && bits.getD (width - 1 - index) false) := by
  induction bits generalizing index with
  | nil => simp [word]
  | cons bit bits ih =>
      rw [word, BitVec.getLsbD_xor, getLsbD_top hwidth, BitVec.getLsbD_ushiftRight, ih]
      rcases lt_trichotomy index (width - 1) with hbelow | heq | habove
      · have hnext : width - 1 - index = (width - 1 - (1 + index)) + 1 := by omega
        rw [hnext, List.getD_cons_succ]
        simp [hbelow.ne, show 1 + index < width by omega, show index < width by omega]
      · have hnone : ¬ 1 + index < width := by omega
        simp [heq, hwidth, show ¬ 1 + (width - 1) < width by omega]
      · simp [habove.ne', show ¬ 1 + index < width by omega, show ¬ index < width by omega]

/-- A word that leaves the lowest place free comes back when it was moved down and turned. -/
theorem turn_word (hwidth : 0 < width) {bits : List Bool} (hlength : bits.length < width) :
    turn poly (word bits >>> 1) = word bits := by
  have hmsb : (word bits >>> 1 : BitVec width).msb = false := by
    rw [BitVec.msb_eq_getLsbD_last, BitVec.getLsbD_ushiftRight]
    exact BitVec.getLsbD_of_ge _ _ (by omega)
  rw [turn, hmsb, if_neg Bool.false_ne_true]
  refine BitVec.eq_of_getLsbD_eq fun index hindex => ?_
  rw [BitVec.getLsbD_shiftLeft, BitVec.getLsbD_ushiftRight]
  cases index with
  | zero =>
      have hfree : (word bits : BitVec width).getLsbD 0 = false := by
        rw [getLsbD_word hwidth, List.getD_eq_default _ _ (by omega), Bool.and_false]
      rw [hfree]
      simp
  | succ index =>
      rw [Nat.add_sub_cancel, Nat.add_comm 1 index]
      simp [hindex]

/-- Bits that fit the register may as well be put in at once. -/
theorem feed_eq_turn (hwidth : 0 < width) (register : BitVec width) {bits : List Bool}
    (hlength : bits.length ≤ width) :
    feed poly register bits = (turn poly)^[bits.length] (register ^^^ word bits) := by
  induction bits generalizing register with
  | nil => exact (BitVec.xor_zero).symm
  | cons bit bits ih =>
      have hshort : bits.length < width := hlength
      have hfed : feed poly register (bit :: bits) =
          feed poly (turn poly (register ^^^ top bit)) bits := rfl
      rw [hfed, ih _ hshort.le, List.length_cons, Function.iterate_succ_apply, word,
        ← BitVec.xor_assoc, turn_xor poly (register ^^^ top bit), turn_word hwidth hshort]

theorem word_injective (hwidth : 0 < width) {first second : List Bool}
    (hlength : first.length = second.length) (hshort : first.length ≤ width)
    (hword : (word first : BitVec width) = word second) : first = second := by
  refine List.ext_getElem hlength fun index hindex hindex' => ?_
  have hbit := congrArg (BitVec.getLsbD · (width - 1 - index)) hword
  simp only [getLsbD_word hwidth] at hbit
  have hplace : width - 1 - (width - 1 - index) = index := by omega
  rw [hplace, decide_eq_true (show width - 1 - index < width by omega), Bool.true_and,
    Bool.true_and, List.getD_eq_getElem _ _ hindex, List.getD_eq_getElem _ _ hindex'] at hbit
  exact hbit

/-! ## Bursts -/

theorem feed_append (register : BitVec width) (first second : List Bool) :
    feed poly register (first ++ second) = feed poly (feed poly register first) second :=
  List.foldl_append

/-- Two runs of bits that fit the register and differ leave it in different states, whatever
came before and whatever comes behind. -/
theorem feed_ne_of_burst (hwidth : 0 < width) (hpoly : poly.getLsbD 0 = true)
    (register : BitVec width) {first second : List Bool} (before behind : List Bool)
    (hlength : first.length = second.length) (hshort : first.length ≤ width)
    (hne : first ≠ second) :
    feed poly register (before ++ first ++ behind) ≠
      feed poly register (before ++ second ++ behind) := by
  intro heq
  rw [feed_append, feed_append, feed_append, feed_append] at heq
  have hburst := feed_injective hpoly behind heq
  generalize feed poly register before = start at hburst
  rw [feed_eq_turn hwidth start hshort, feed_eq_turn hwidth start (hlength.ge.trans hshort),
    ← hlength] at hburst
  have hwords := (BitVec.xor_right_inj start).mp ((turn_injective hpoly).iterate _ hburst)
  exact hne (word_injective hwidth hlength hshort hwords)

end ShiftRegister
