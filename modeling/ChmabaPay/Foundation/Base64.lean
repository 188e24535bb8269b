import Mathlib.Data.Fin.Basic
import Mathlib.Tactic

/-! # Base 64

Three bytes make four digits below 64. The reader takes the digits one by one and passes
over every character that is none. Padding closes it where a group may end, and is passed
over elsewhere, so that more padding than the writer's does no harm.
-/

namespace Base64

abbrev Byte := Fin 256

abbrev Digit := Fin 64

def byteOf (number : ℕ) : Byte := ⟨number % 256, Nat.mod_lt _ (by decide)⟩

def digitOf (number : ℕ) : Digit := ⟨number % 64, Nat.mod_lt _ (by decide)⟩

/-! ## Groups -/

def firstDigit (first : Byte) : Digit := digitOf (first.val / 4)

def secondDigit (first second : Byte) : Digit :=
  digitOf (first.val % 4 * 16 + second.val / 16)

def thirdDigit (second third : Byte) : Digit :=
  digitOf (second.val % 16 * 4 + third.val / 64)

def fourthDigit (third : Byte) : Digit := digitOf third.val

/-- The digits of a text of bytes. A last group of one or two bytes is cut short. -/
def digits : List Byte → List Digit
  | [] => []
  | [first] => [firstDigit first, secondDigit first 0]
  | [first, second] => [firstDigit first, secondDigit first second, thirdDigit second 0]
  | first :: second :: third :: rest =>
      firstDigit first :: secondDigit first second :: thirdDigit second third ::
        fourthDigit third :: digits rest

/-- How much padding the last group asks for. -/
def padding (bytes : List Byte) : ℕ := (3 - bytes.length % 3) % 3

/-- A full group does not change what the last one asks for. -/
theorem padding_group (first second third : Byte) (rest : List Byte) :
    padding (first :: second :: third :: rest) = padding rest := by
  simp only [padding, List.length_cons]
  omega

/-- Padding a text up to the next multiple of four, or by four, is enough. -/
theorem padding_le (bytes : List Byte) : padding bytes ≤ 4 - (digits bytes).length % 4 := by
  induction bytes using digits.induct with
  | case1 => exact Nat.zero_le _
  | case2 first => exact le_rfl
  | case3 first second => exact le_rfl
  | case4 first second third rest ih =>
      rw [padding_group]
      simp only [digits, List.length_cons]
      omega

/-! ## The reader -/

inductive Symbol where
  | digit (value : Digit)
  | pad
  | other
deriving DecidableEq

/-- The place within a group, the bits left over from the digit before, the padding met in
a row and the bytes so far. -/
structure Reader where
  place : Fin 4
  left : ℕ
  pads : ℕ
  bytes : List Byte
  closed : Bool
deriving DecidableEq

/-- A reader between two groups. -/
def Reader.ready (bytes : List Byte) : Reader := ⟨0, 0, 0, bytes, false⟩

def Reader.digit (reader : Reader) (value : Digit) : Reader :=
  match reader.place with
  | 0 => ⟨1, value.val, 0, reader.bytes, false⟩
  | 1 => ⟨2, value.val % 16, 0,
      reader.bytes ++ [byteOf (reader.left * 4 + value.val / 16)], false⟩
  | 2 => ⟨3, value.val % 4, 0,
      reader.bytes ++ [byteOf (reader.left * 16 + value.val / 4)], false⟩
  | 3 => ⟨0, 0, 0, reader.bytes ++ [byteOf (reader.left * 64 + value.val)], false⟩

def Reader.pad (reader : Reader) : Reader :=
  if reader.place < 2 then reader
  else
    { reader with
      pads := reader.pads + 1
      closed := decide (4 ≤ reader.place.val + (reader.pads + 1)) }

def Reader.read (reader : Reader) (symbol : Symbol) : Reader :=
  if reader.closed then reader
  else match symbol with
    | .digit value => reader.digit value
    | .pad => reader.pad
    | .other => reader

/-- A text that breaks off within a group is refused. -/
def Reader.finish (reader : Reader) : Option (List Byte) :=
  if reader.closed ∨ reader.place = 0 then some reader.bytes else none

def decode (symbols : List Symbol) : Option (List Byte) :=
  (symbols.foldl Reader.read (.ready [])).finish

/-! ## Reading back -/

section Groups

variable (first second third : Byte) (bytes : List Byte)

theorem byte_first : byteOf ((firstDigit first).val * 4 + (secondDigit first second).val / 16) =
    first := by
  apply Fin.ext
  simp only [firstDigit, secondDigit, byteOf, digitOf]
  omega

theorem byte_second :
    byteOf ((secondDigit first second).val % 16 * 16 + (thirdDigit second third).val / 4) =
      second := by
  apply Fin.ext
  simp only [secondDigit, thirdDigit, byteOf, digitOf]
  omega

theorem byte_third :
    byteOf ((thirdDigit second third).val % 4 * 64 + (fourthDigit third).val) = third := by
  apply Fin.ext
  simp only [thirdDigit, fourthDigit, byteOf, digitOf]
  omega

/-- The first two digits of a group give its first byte. -/
theorem read_two :
    [Symbol.digit (firstDigit first), .digit (secondDigit first second)].foldl Reader.read
        (.ready bytes) =
      ⟨2, (secondDigit first second).val % 16, 0, bytes ++ [first], false⟩ := by
  simp [Reader.read, Reader.digit, Reader.ready, byte_first]

theorem read_three :
    [Symbol.digit (firstDigit first), .digit (secondDigit first second),
        .digit (thirdDigit second third)].foldl Reader.read (.ready bytes) =
      ⟨3, (thirdDigit second third).val % 4, 0, bytes ++ [first, second], false⟩ := by
  simp [Reader.read, Reader.digit, Reader.ready, byte_first, byte_second]

theorem read_four :
    [Symbol.digit (firstDigit first), .digit (secondDigit first second),
        .digit (thirdDigit second third), .digit (fourthDigit third)].foldl Reader.read
        (.ready bytes) = .ready (bytes ++ [first, second, third]) := by
  simp [Reader.read, Reader.digit, Reader.ready, byte_first, byte_second, byte_third]

end Groups

/-- A closed reader stays as it is. -/
theorem foldl_read_of_closed {reader : Reader} (hclosed : reader.closed = true)
    (symbols : List Symbol) : symbols.foldl Reader.read reader = reader := by
  induction symbols with
  | nil => rfl
  | cons symbol rest ih =>
      have hstays : reader.read symbol = reader := by simp [Reader.read, hclosed]
      rw [List.foldl_cons, hstays, ih]

/-- Padding between two groups is passed over. -/
theorem foldl_pads_ready (bytes : List Byte) (count : ℕ) :
    (List.replicate count Symbol.pad).foldl Reader.read (.ready bytes) = .ready bytes := by
  induction count with
  | zero => rfl
  | succ count ih =>
      rw [List.replicate_succ, List.foldl_cons]
      exact ih

theorem foldl_digits (bytes : List Byte) (before : List Byte) {count : ℕ}
    (hcount : padding bytes ≤ count) :
    (((digits bytes).map Symbol.digit ++ List.replicate count Symbol.pad).foldl Reader.read
      (.ready before)).finish = some (before ++ bytes) := by
  induction bytes using digits.induct generalizing before with
  | case1 =>
      rw [digits, List.map_nil, List.nil_append, foldl_pads_ready, List.append_nil]
      rfl
  | case2 first =>
      have hmore : 2 ≤ count := hcount
      obtain ⟨more, rfl⟩ : ∃ more, count = more + 2 := ⟨count - 2, by omega⟩
      rw [List.foldl_append]
      change ((List.replicate (more + 2) Symbol.pad).foldl Reader.read
        ([Symbol.digit (firstDigit first), .digit (secondDigit first 0)].foldl Reader.read
          (.ready before))).finish = _
      rw [read_two, List.replicate_succ, List.replicate_succ, List.foldl_cons, List.foldl_cons,
        foldl_read_of_closed rfl]
      rfl
  | case3 first second =>
      have hmore : 1 ≤ count := hcount
      obtain ⟨more, rfl⟩ : ∃ more, count = more + 1 := ⟨count - 1, by omega⟩
      rw [List.foldl_append]
      change ((List.replicate (more + 1) Symbol.pad).foldl Reader.read
        ([Symbol.digit (firstDigit first), .digit (secondDigit first second),
          .digit (thirdDigit second 0)].foldl Reader.read (.ready before))).finish = _
      rw [read_three, List.replicate_succ, List.foldl_cons, foldl_read_of_closed rfl]
      rfl
  | case4 first second third rest ih =>
      have hrest : padding rest ≤ count := padding_group first second third rest ▸ hcount
      have hgroup := ih (before ++ [first, second, third]) hrest
      rw [← read_four, ← List.foldl_append] at hgroup
      simpa [digits] using hgroup

/-- The bytes are read back, with the padding they ask for or more. -/
theorem decode_digits (bytes : List Byte) {count : ℕ} (hcount : padding bytes ≤ count) :
    decode ((digits bytes).map Symbol.digit ++ List.replicate count Symbol.pad) = some bytes :=
  foldl_digits bytes [] hcount

end Base64
