import ChmabaPay.Foundation.ShiftRegister
import ChmabaPay.Payments.Decoding
import Mathlib.Data.Bool.AllAny
import Mathlib.Data.Nat.Bitwise

/-! # What the checksum detects

The checksum of a payload is a shift register of sixteen bits, fed with the bits of the text.
It goes on from one part of a text to the next, and a burst of at most sixteen bits changes it.
-/

namespace ChmabaPay

open ShiftRegister

/-- The polynomial of CRC-16/CCITT. -/
def crcPolynomial : BitVec 16 := 0x1021#16

/-- The bits of a byte, the highest first. -/
def byteBits (byte : UInt8) : List Bool :=
  (List.range 8).map fun index => byte.toNat.testBit (7 - index)

/-- The bits of a text of bytes, in the order the loop takes them. -/
def dataBits (data : List UInt8) : List Bool := data.flatMap byteBits

/-! ## The loop as a register -/

theorem ofNat_crcBit (crc : ℕ) :
    BitVec.ofNat 16 (crcBit crc) = turn crcPolynomial (BitVec.ofNat 16 crc) := by
  have hmask : ∀ number : ℕ, BitVec.ofNat 16 (number &&& 0xFFFF) = BitVec.ofNat 16 number := by
    intro number
    refine BitVec.eq_of_toNat_eq ?_
    rw [BitVec.toNat_ofNat, BitVec.toNat_ofNat]
    have hlow : number &&& 0xFFFF = number % 2 ^ 16 := Nat.and_two_pow_sub_one_eq_mod number 16
    rw [hlow, Nat.mod_mod]
  have hshift : BitVec.ofNat 16 (crc <<< 1) = BitVec.ofNat 16 crc <<< 1 := by
    refine BitVec.eq_of_toNat_eq ?_
    rw [BitVec.toNat_ofNat, BitVec.toNat_shiftLeft, BitVec.toNat_ofNat, Nat.shiftLeft_eq,
      Nat.shiftLeft_eq, Nat.mod_mul_mod]
  have hmsb : (BitVec.ofNat 16 crc).msb = decide (crc &&& 0x8000 ≠ 0) := by
    have hbit : crc &&& 0x8000 = (crc.testBit 15).toNat * 2 ^ 15 := Nat.and_two_pow crc 15
    rw [BitVec.msb_eq_getLsbD_last, BitVec.getLsbD_ofNat, hbit]
    cases crc.testBit 15 with
    | false => rfl
    | true => rfl
  unfold crcBit turn
  rw [hmsb]
  split
  next hset =>
    rw [decide_eq_true hset, if_pos rfl, hmask, BitVec.ofNat_xor, hshift]
    rfl
  next hclear =>
    rw [decide_eq_false hclear, if_neg Bool.false_ne_true, hmask, hshift]

theorem ofNat_iterate_crcBit (count crc : ℕ) :
    BitVec.ofNat 16 (crcBit^[count] crc) = (turn crcPolynomial)^[count] (BitVec.ofNat 16 crc) := by
  induction count generalizing crc with
  | zero => rfl
  | succ count ih =>
      rw [Function.iterate_succ_apply, Function.iterate_succ_apply, ih, ofNat_crcBit]

theorem length_byteBits (byte : UInt8) : (byteBits byte).length = 8 := by
  rw [byteBits, List.length_map, List.length_range]

theorem getD_byteBits (byte : UInt8) (index : ℕ) :
    (byteBits byte).getD index false = (decide (index < 8) && byte.toNat.testBit (7 - index)) := by
  rw [byteBits, List.getD_eq_getElem?_getD, List.getElem?_map]
  by_cases hindex : index < 8
  · rw [List.getElem?_range hindex, decide_eq_true hindex]
    rfl
  · rw [List.getElem?_eq_none (by simpa using hindex), decide_eq_false hindex]
    rfl

/-- A byte is put in at the top of the register. -/
theorem word_byteBits (byte : UInt8) :
    (word (byteBits byte) : BitVec 16) = BitVec.ofNat 16 (byte.toNat <<< 8) := by
  refine BitVec.eq_of_getLsbD_eq fun index hindex => ?_
  rw [getLsbD_word (by decide), getD_byteBits, BitVec.getLsbD_ofNat, Nat.testBit_shiftLeft,
    decide_eq_true hindex, Bool.true_and, Bool.true_and]
  by_cases hhigh : 8 ≤ index
  · have hplace : 7 - (16 - 1 - index) = index - 8 := by omega
    rw [hplace, decide_eq_true hhigh, decide_eq_true (by omega : 16 - 1 - index < 8)]
  · rw [decide_eq_false (by omega : ¬ 16 - 1 - index < 8)]
    simp [hhigh]

/-- One byte of the loop. -/
theorem ofNat_crcByte (crc : ℕ) (byte : UInt8) :
    BitVec.ofNat 16 (crcBit^[8] (crc ^^^ (byte.toNat <<< 8))) =
      feed crcPolynomial (BitVec.ofNat 16 crc) (byteBits byte) := by
  have hshort : (byteBits byte).length ≤ 16 := by
    rw [length_byteBits]
    decide
  rw [feed_eq_turn (by decide) _ hshort, length_byteBits, ofNat_iterate_crcBit, BitVec.ofNat_xor,
    word_byteBits]

theorem dataBits_cons (byte : UInt8) (data : List UInt8) :
    dataBits (byte :: data) = byteBits byte ++ dataBits data := rfl

theorem ofNat_crc16 (data : List UInt8) (init : ℕ) :
    BitVec.ofNat 16 (crc16CcittFalseFrom data init) =
      feed crcPolynomial (BitVec.ofNat 16 init) (dataBits data) := by
  induction data generalizing init with
  | nil => rfl
  | cons byte data ih =>
      have hstep : crc16CcittFalseFrom (byte :: data) init =
          crc16CcittFalseFrom data (crcBit^[8] (init ^^^ (byte.toNat <<< 8))) := rfl
      rw [hstep, ih, ofNat_crcByte, dataBits_cons, feed_append]

/-! ## Bursts -/

theorem byteBits_injective : Function.Injective byteBits := by
  intro first second heq
  refine UInt8.toNat_inj.mp (Nat.eq_of_testBit_eq fun index => ?_)
  rcases Nat.lt_or_ge index 8 with hlow | hhigh
  · have hbit := congrArg (List.getD · (7 - index) false) heq
    simp only [getD_byteBits] at hbit
    have hplace : 7 - (7 - index) = index := by omega
    rw [hplace, decide_eq_true (by omega : 7 - index < 8), Bool.true_and, Bool.true_and] at hbit
    exact hbit
  · have hsmall : ∀ byte : UInt8, byte.toNat.testBit index = false := by
      intro byte
      have hbyte : byte.toNat < 2 ^ index :=
        byte.toNat_lt.trans_le (Nat.pow_le_pow_right (by decide) hhigh)
      exact Nat.testBit_lt_two_pow hbyte
    rw [hsmall, hsmall]

theorem length_dataBits (data : List UInt8) : (dataBits data).length = 8 * data.length := by
  induction data with
  | nil => rfl
  | cons byte data ih =>
      rw [dataBits_cons, List.length_append, length_byteBits, ih, List.length_cons]
      omega

theorem dataBits_injective : Function.Injective dataBits := by
  intro first second heq
  have hlength := congrArg List.length heq
  rw [length_dataBits, length_dataBits] at hlength
  induction first generalizing second with
  | nil => exact (List.length_eq_zero_iff.mp (by simpa using hlength.symm)).symm
  | cons byte first ih =>
      cases second with
      | nil => simp at hlength
      | cons other second =>
          rw [dataBits_cons, dataBits_cons] at heq
          obtain ⟨hbyte, hrest⟩ := List.append_inj heq (by rw [length_byteBits, length_byteBits])
          rw [byteBits_injective hbyte, ih hrest (by simpa using hlength)]

/-- Two lists that differ within a window only agree before and behind it. -/
theorem exists_window {α : Type} {first second : List α} (hlength : first.length = second.length)
    (start size : ℕ)
    (hwindow : ∀ index : ℕ, first[index]? ≠ second[index]? → start ≤ index ∧ index < start + size) :
    ∃ before behind, ∃ burst burst' : List α, first = before ++ burst ++ behind ∧
      second = before ++ burst' ++ behind ∧ burst.length = burst'.length ∧ burst.length ≤ size := by
  have hsplit : ∀ bits : List α,
      bits = bits.take start ++ (bits.drop start).take size ++ bits.drop (start + size) := by
    intro bits
    rw [← List.drop_drop, List.append_assoc, List.take_append_drop, List.take_append_drop]
  have hbefore : second.take start = first.take start := by
    refine List.ext_getElem? fun index => ?_
    rw [List.getElem?_take, List.getElem?_take]
    split
    next hlow =>
      by_contra hne
      have := (hwindow index (Ne.symm hne)).1
      omega
    · rfl
  have hbehind : second.drop (start + size) = first.drop (start + size) := by
    refine List.ext_getElem? fun index => ?_
    rw [List.getElem?_drop, List.getElem?_drop]
    by_contra hne
    have := (hwindow _ (Ne.symm hne)).2
    omega
  refine ⟨first.take start, first.drop (start + size), (first.drop start).take size,
    (second.drop start).take size, hsplit first, ?_, ?_, ?_⟩
  · rw [← hbefore, ← hbehind]
    exact hsplit second
  · simp [hlength]
  · simp

/-- A burst of at most sixteen bits changes the checksum, whatever it started from. -/
theorem crc16_ne_of_burst (init : ℕ) {first second : List UInt8}
    (hlength : first.length = second.length) (hne : first ≠ second) (start : ℕ)
    (hwindow : ∀ index : ℕ, (dataBits first)[index]? ≠ (dataBits second)[index]? →
      start ≤ index ∧ index < start + 16) :
    crc16CcittFalseFrom first init ≠ crc16CcittFalseFrom second init := by
  intro heq
  have hbits : (dataBits first).length = (dataBits second).length := by
    rw [length_dataBits, length_dataBits, hlength]
  obtain ⟨before, behind, burst, burst', hfirst, hsecond, hsame, hshort⟩ :=
    exists_window hbits start 16 hwindow
  have hdiffer : burst ≠ burst' := by
    rintro rfl
    exact hne (dataBits_injective (hfirst.trans hsecond.symm))
  have hregister := congrArg (BitVec.ofNat 16) heq
  rw [ofNat_crc16, ofNat_crc16, hfirst, hsecond] at hregister
  exact feed_ne_of_burst (by decide) (by decide) _ before behind hsame hshort hdiffer hregister

/-- The checksum of a text goes on from that of its first part. -/
theorem crc16_append (first second : List UInt8) (init : ℕ) :
    crc16CcittFalseFrom (first ++ second) init =
      crc16CcittFalseFrom second (crc16CcittFalseFrom first init) := List.foldl_append

/-! ## Characters -/

theorem dataBits_append (first second : List UInt8) :
    dataBits (first ++ second) = dataBits first ++ dataBits second := List.flatMap_append

/-- Two bytes side by side are a burst. -/
theorem crc16_ne_of_bytes (init : ℕ) (before behind : List UInt8) {burst burst' : List UInt8}
    (hlength : burst.length = burst'.length) (hshort : burst.length ≤ 2) (hne : burst ≠ burst') :
    crc16CcittFalseFrom (before ++ burst ++ behind) init ≠
      crc16CcittFalseFrom (before ++ burst' ++ behind) init := by
  intro heq
  have hregister := congrArg (BitVec.ofNat 16) heq
  simp only [ofNat_crc16, dataBits_append] at hregister
  have hbits : (dataBits burst).length = (dataBits burst').length := by
    rw [length_dataBits, length_dataBits, hlength]
  have hfits : (dataBits burst).length ≤ 16 := by
    rw [length_dataBits]
    omega
  exact feed_ne_of_burst (by decide) (by decide) _ _ _ hbits hfits
    (fun hsame => hne (dataBits_injective hsame)) hregister

/-- A single-byte character is its own byte. -/
theorem utf8EncodeChar_of_lt {char : Char} (hascii : char.toNat < 128) :
    String.utf8EncodeChar char = [UInt8.ofNat char.toNat] := by
  have hsmall : char.val.toNat ≤ 127 := Nat.le_of_lt_succ hascii
  rw [String.utf8EncodeChar]
  simp only [hsmall, if_true]
  rfl

theorem flatMap_utf8EncodeChar {text : List Char} (hascii : ∀ char ∈ text, char.toNat < 128) :
    text.flatMap String.utf8EncodeChar = text.map fun char => UInt8.ofNat char.toNat := by
  induction text with
  | nil => rfl
  | cons char text ih =>
      rw [List.forall_mem_cons] at hascii
      rw [List.flatMap_cons, utf8EncodeChar_of_lt hascii.1, ih hascii.2, List.map_cons,
        List.singleton_append]

theorem utf8_injective_of_ascii {first second : List Char}
    (hfirst : ∀ char ∈ first, char.toNat < 128) (hsecond : ∀ char ∈ second, char.toNat < 128)
    (hbytes : first.flatMap String.utf8EncodeChar = second.flatMap String.utf8EncodeChar) :
    first = second := by
  rw [flatMap_utf8EncodeChar hfirst, flatMap_utf8EncodeChar hsecond] at hbytes
  have hback : ∀ text : List Char, (∀ char ∈ text, char.toNat < 128) →
      (text.map fun char => UInt8.ofNat char.toNat).map (fun byte => Char.ofNat byte.toNat) =
        text := by
    intro text hascii
    rw [List.map_map]
    refine (List.map_congr_left fun char hchar => ?_).trans (List.map_id text)
    have hsmall := hascii char hchar
    rw [Function.comp_apply, UInt8.toNat_ofNat', Nat.mod_eq_of_lt (by omega), Char.ofNat_toNat]
    rfl
  rw [← hback first hfirst, hbytes, hback second hsecond]

/-- One or two single-byte characters side by side change the digits of tag 63. -/
theorem payloadChecksum_ne (before behind : List Char) {burst burst' : List Char}
    (hlength : burst.length = burst'.length) (hshort : burst.length ≤ 2)
    (hascii : ∀ char ∈ burst, char.toNat < 128) (hascii' : ∀ char ∈ burst', char.toNat < 128)
    (hne : burst ≠ burst') :
    payloadChecksum (before ++ burst ++ behind) ≠ payloadChecksum (before ++ burst' ++ behind) := by
  intro heq
  have hcrc := congrArg hexReading heq
  rw [payloadChecksum, payloadChecksum, (hexReading_checksumText _).1,
    (hexReading_checksumText _).1] at hcrc
  simp only [List.flatMap_append, List.append_assoc] at hcrc
  have hbytes : ∀ text : List Char, (∀ char ∈ text, char.toNat < 128) →
      (text.flatMap String.utf8EncodeChar).length = text.length := by
    intro text htext
    rw [flatMap_utf8EncodeChar htext, List.length_map]
  have hdiffer : crc16CcittFalseFrom (before.flatMap String.utf8EncodeChar ++
        burst.flatMap String.utf8EncodeChar ++ (behind ++ "6304".toList).flatMap
          String.utf8EncodeChar) 0xFFFF ≠
      crc16CcittFalseFrom (before.flatMap String.utf8EncodeChar ++
        burst'.flatMap String.utf8EncodeChar ++ (behind ++ "6304".toList).flatMap
          String.utf8EncodeChar) 0xFFFF := by
    refine crc16_ne_of_bytes 0xFFFF _ _ ?_ ?_ fun hsame =>
      hne (utf8_injective_of_ascii hascii hascii' hsame)
    · rw [hbytes _ hascii, hbytes _ hascii', hlength]
    · rw [hbytes _ hascii]
      exact hshort
  simp only [List.flatMap_append, List.append_assoc] at hdiffer
  exact hdiffer hcrc

/-- The checksum goes on from part to part of a text, changes under every burst of at most
sixteen bits, and in tag 63 under every change of one or two single-byte characters side by
side. -/
theorem crc16_detects :
    (∀ (init : ℕ) (first second : List UInt8), first.length = second.length → first ≠ second →
      ∀ start : ℕ, (∀ index : ℕ, (dataBits first)[index]? ≠ (dataBits second)[index]? →
        start ≤ index ∧ index < start + 16) →
      crc16CcittFalseFrom first init ≠ crc16CcittFalseFrom second init) ∧
    (∀ (first second : List UInt8) (init : ℕ), crc16CcittFalseFrom (first ++ second) init =
      crc16CcittFalseFrom second (crc16CcittFalseFrom first init)) ∧
    ∀ before behind burst burst' : List Char, burst.length = burst'.length → burst.length ≤ 2 →
      (∀ char ∈ burst, char.toNat < 128) → (∀ char ∈ burst', char.toNat < 128) → burst ≠ burst' →
      payloadChecksum (before ++ burst ++ behind) ≠ payloadChecksum (before ++ burst' ++ behind) :=
  ⟨fun init _ _ hlength hne start hwindow => crc16_ne_of_burst init hlength hne start hwindow,
    crc16_append, fun before behind _ _ hlength hshort hascii hascii' hne =>
      payloadChecksum_ne before behind hlength hshort hascii hascii' hne⟩

/-- Two digits of an amount change places. -/
theorem crc16_detects_swap :
    crc16CcittFalse [53, 46, 50, 49] ≠ crc16CcittFalse [53, 46, 49, 50] ∧
      payloadChecksum "5.21".toList ≠ payloadChecksum "5.12".toList := by
  have hwindow : ∀ index : ℕ,
      (dataBits [53, 46, 50, 49])[index]? ≠ (dataBits [53, 46, 49, 50])[index]? →
        16 ≤ index ∧ index < 16 + 16 := by
    intro index hdiffer
    have hfits : index < 32 := by
      by_contra hlong
      refine hdiffer ?_
      rw [List.getElem?_eq_none (by rw [length_dataBits]; simp; omega),
        List.getElem?_eq_none (by rw [length_dataBits]; simp; omega)]
    refine ⟨?_, hfits⟩
    by_contra hearly
    have hsame : ∀ index < 16,
        (dataBits [53, 46, 50, 49])[index]? = (dataBits [53, 46, 49, 50])[index]? := by
      decide
    exact hdiffer (hsame index (by omega))
  exact ⟨crc16_detects.1 0xFFFF [53, 46, 50, 49] [53, 46, 49, 50] rfl (by decide) 16 hwindow,
    crc16_detects.2.2 "5.".toList [] "21".toList "12".toList rfl (by decide)
      (List.all_iff_forall_prop.mp (by decide)) (List.all_iff_forall_prop.mp (by decide))
      (by decide)⟩

end ChmabaPay
