import ChmabaPay.Foundation.Base64
import ChmabaPay.Foundation.Json

/-! # Texts as bytes

A text is written in UTF-8. The reader of a JSON document guesses the encoding from the
zeros and the mark at its beginning. A document in ASCII, as the writer leaves it, is read
back.
-/

namespace Encodings

open Base64 Escapes Json

/-- The bytes of a text in UTF-8. -/
def encode (text : List Char) : List Byte :=
  (text.flatMap String.utf8EncodeChar).map UInt8.toFin

def decodeUtf8 (bytes : List Byte) : Option (List Char) :=
  (ByteArray.utf8Decode? (bytes.map UInt8.ofFin).toByteArray).map Array.toList

theorem decodeUtf8_encode (text : List Char) : decodeUtf8 (encode text) = some text := by
  have hbytes : ((encode text).map UInt8.ofFin).toByteArray = text.utf8Encode := by
    rw [encode, List.map_map, List.utf8Encode]
    exact congrArg List.toByteArray (List.map_id _)
  rw [decodeUtf8, hbytes, List.utf8Decode?_utf8Encode, Option.map_some]

/-! ## The encoding of a document -/

inductive Encoding where
  | utf8
  | utf16 (bigEndian : Bool)
  | utf32 (bigEndian : Bool)
deriving DecidableEq

/-- The marks a document may begin with. -/
def marks : List (List Byte × Encoding) :=
  [([0x00, 0x00, 0xfe, 0xff].map byteOf, .utf32 true),
    ([0xff, 0xfe, 0x00, 0x00].map byteOf, .utf32 false), ([0xfe, 0xff].map byteOf, .utf16 true),
    ([0xff, 0xfe].map byteOf, .utf16 false), ([0xef, 0xbb, 0xbf].map byteOf, .utf8)]

/-- The encoding of a document without a mark, from its zeros. -/
def detectZeros : List Byte → Encoding
  | first :: second :: third :: fourth :: _ =>
      if first.val = 0 then if second.val = 0 then .utf32 true else .utf16 true
      else if second.val = 0 then
        if third.val = 0 ∧ fourth.val = 0 then .utf32 false else .utf16 false
      else .utf8
  | [first, second] =>
      if first.val = 0 then .utf16 true else if second.val = 0 then .utf16 false else .utf8
  | _ => .utf8

/-- The encoding of a document, and the length of its mark. -/
def detect (bytes : List Byte) : Encoding × ℕ :=
  match marks.find? fun mark => mark.1.isPrefixOf bytes with
  | some (mark, encoding) => (encoding, mark.length)
  | none => (detectZeros bytes, 0)

/-- Bytes in groups of two. -/
def halves (bigEndian : Bool) : List Byte → Option (List ℕ)
  | [] => some []
  | first :: second :: rest =>
      (halves bigEndian rest).map
        ((if bigEndian then first.val * 0x100 + second.val
          else second.val * 0x100 + first.val) :: ·)
  | _ => none

/-- Bytes in groups of four. -/
def points (bigEndian : Bool) : List Byte → Option (List Char)
  | [] => some []
  | first :: second :: third :: fourth :: rest =>
      (charOf
        (if bigEndian then
          ((first.val * 0x100 + second.val) * 0x100 + third.val) * 0x100 + fourth.val
        else
          ((fourth.val * 0x100 + third.val) * 0x100 + second.val) * 0x100 + first.val)).bind
        fun char => (points bigEndian rest).map (char :: ·)
  | _ => none

def decode (bytes : List Byte) : Option (List Char) :=
  let (encoding, mark) := detect bytes
  match encoding with
  | .utf8 => decodeUtf8 (bytes.drop mark)
  | .utf16 bigEndian => (halves bigEndian (bytes.drop mark)).bind joinHalves
  | .utf32 bigEndian => points bigEndian (bytes.drop mark)

/-! ## ASCII -/

theorem encode_cons_of_printed {char : Char} (hprinted : Printed char) (text : List Char) :
    encode (char :: text) = byteOf char.toNat :: encode text := by
  have hchar : String.utf8EncodeChar char = [char.val.toUInt8] := by
    apply String.utf8EncodeChar_eq_singleton
    rw [Char.utf8Size_eq_one_iff]
    exact Nat.le_of_lt_succ (Nat.lt_of_lt_of_le hprinted.2 (by decide))
  rw [encode, List.flatMap_cons, hchar, List.singleton_append, List.map_cons]
  rfl

theorem encode_of_printed {text : List Char} (hprinted : ∀ char ∈ text, Printed char) :
    encode text = text.map fun char => byteOf char.toNat := by
  induction text with
  | nil => rfl
  | cons char text ih =>
      rw [List.forall_mem_cons] at hprinted
      rw [encode_cons_of_printed hprinted.1, ih hprinted.2, List.map_cons]

/-- Bytes of ASCII have neither a mark nor zeros. -/
theorem detect_of_printed {bytes : List Byte}
    (hbytes : ∀ byte ∈ bytes, 32 ≤ byte.val ∧ byte.val < 127) :
    detect bytes = (.utf8, 0) := by
  have hnonzero : ∀ byte ∈ bytes, byte.val ≠ 0 := fun byte hbyte =>
    Nat.ne_of_gt (Nat.lt_of_lt_of_le (by decide) (hbytes byte hbyte).1)
  have hmarks : (marks.find? fun mark => mark.1.isPrefixOf bytes) = none := by
    rw [List.find?_eq_none]
    intro mark hmark hstart
    have hfirst : ∀ mark ∈ marks, ∃ byte ∈ mark.1, ¬(32 ≤ byte.val ∧ byte.val < 127) := by
      decide +kernel
    obtain ⟨byte, hbyte, hnot⟩ := hfirst mark hmark
    exact hnot (hbytes byte ((List.isPrefixOf_iff_prefix.mp hstart).subset hbyte))
  have hzeros : detectZeros bytes = .utf8 := by
    unfold detectZeros
    split
    next =>
      rw [if_neg (hnonzero _ (by simp)), if_neg (hnonzero _ (by simp))]
    next =>
      rw [if_neg (hnonzero _ (by simp)), if_neg (hnonzero _ (by simp))]
    next => rfl
  rw [detect, hmarks, hzeros]

/-- A document in ASCII is read back. -/
theorem decode_encode {text : List Char} (hprinted : ∀ char ∈ text, Printed char) :
    decode (encode text) = some text := by
  have hbytes : ∀ byte ∈ encode text, 32 ≤ byte.val ∧ byte.val < 127 := by
    rw [encode_of_printed hprinted]
    rintro byte hbyte
    obtain ⟨char, hchar, rfl⟩ := List.mem_map.mp hbyte
    have hlow := (hprinted char hchar).1
    have hhigh := (hprinted char hchar).2
    simp only [byteOf]
    omega
  rw [decode, detect_of_printed hbytes]
  exact decodeUtf8_encode text

end Encodings
