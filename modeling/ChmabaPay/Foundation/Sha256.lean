import ChmabaPay.Foundation.Base64

/-! # SHA-256

A message is padded to whole blocks of sixty-four bytes. Every block turns a state of eight words
sixty-four times, and the digest is the state the last block leaves. Under a key a message is
hashed twice, each time behind a block that is made of the key.
-/

namespace Sha256

open Base64

abbrev Word := BitVec 32

/-! ## Words and bytes -/

/-- The words of a text of bytes, the highest byte first. -/
def words : List Byte → List Word
  | first :: second :: third :: fourth :: rest =>
      .ofNat 32 (((first.val * 256 + second.val) * 256 + third.val) * 256 + fourth.val) ::
        words rest
  | _ => []

/-- A number in some bytes, the highest first. -/
def bytesOf : ℕ → ℕ → List Byte
  | 0, _ => []
  | count + 1, number => bytesOf count (number / 256) ++ [byteOf number]

@[simp] theorem length_bytesOf (count number : ℕ) : (bytesOf count number).length = count := by
  induction count generalizing number with
  | zero => rfl
  | succ count ih => rw [bytesOf, List.length_append, ih, List.length_singleton]

/-- The message, a one, zeros up to the last eight bytes of a block, and its length in bits. -/
def padded (message : List Byte) : List Byte :=
  message ++ byteOf 0x80 :: List.replicate ((119 - message.length % 64) % 64) (byteOf 0) ++
    bytesOf 8 (8 * message.length)

/-! ## Compression -/

/-- The first bits behind the point of the cube roots of the first primes. -/
def constants : List Word :=
  [0x428a2f98, 0x71374491, 0xb5c0fbcf, 0xe9b5dba5, 0x3956c25b, 0x59f111f1, 0x923f82a4,
    0xab1c5ed5, 0xd807aa98, 0x12835b01, 0x243185be, 0x550c7dc3, 0x72be5d74, 0x80deb1fe,
    0x9bdc06a7, 0xc19bf174, 0xe49b69c1, 0xefbe4786, 0x0fc19dc6, 0x240ca1cc, 0x2de92c6f,
    0x4a7484aa, 0x5cb0a9dc, 0x76f988da, 0x983e5152, 0xa831c66d, 0xb00327c8, 0xbf597fc7,
    0xc6e00bf3, 0xd5a79147, 0x06ca6351, 0x14292967, 0x27b70a85, 0x2e1b2138, 0x4d2c6dfc,
    0x53380d13, 0x650a7354, 0x766a0abb, 0x81c2c92e, 0x92722c85, 0xa2bfe8a1, 0xa81a664b,
    0xc24b8b70, 0xc76c51a3, 0xd192e819, 0xd6990624, 0xf40e3585, 0x106aa070, 0x19a4c116,
    0x1e376c08, 0x2748774c, 0x34b0bcb5, 0x391c0cb3, 0x4ed8aa4a, 0x5b9cca4f, 0x682e6ff3,
    0x748f82ee, 0x78a5636f, 0x84c87814, 0x8cc70208, 0x90befffa, 0xa4506ceb, 0xbef9a3f7,
    0xc67178f2]

structure State where
  a : Word
  b : Word
  c : Word
  d : Word
  e : Word
  f : Word
  g : Word
  h : Word
deriving DecidableEq

/-- The first bits behind the point of the square roots of the first primes. -/
def State.initial : State :=
  ⟨0x6a09e667, 0xbb67ae85, 0x3c6ef372, 0xa54ff53a, 0x510e527f, 0x9b05688c, 0x1f83d9ab, 0x5be0cd19⟩

def State.toList (state : State) : List Word :=
  [state.a, state.b, state.c, state.d, state.e, state.f, state.g, state.h]

def choose (x y z : Word) : Word := (x &&& y) ^^^ (~~~ x &&& z)

def majority (x y z : Word) : Word := (x &&& y) ^^^ (x &&& z) ^^^ (y &&& z)

def bigSigma0 (x : Word) : Word := x.rotateRight 2 ^^^ x.rotateRight 13 ^^^ x.rotateRight 22

def bigSigma1 (x : Word) : Word := x.rotateRight 6 ^^^ x.rotateRight 11 ^^^ x.rotateRight 25

def smallSigma0 (x : Word) : Word := x.rotateRight 7 ^^^ x.rotateRight 18 ^^^ x >>> 3

def smallSigma1 (x : Word) : Word := x.rotateRight 17 ^^^ x.rotateRight 19 ^^^ x >>> 10

/-- One turn of the state. -/
def State.turn (state : State) (constant word : Word) : State :=
  let first := state.h + bigSigma1 state.e + choose state.e state.f state.g + constant + word
  let second := bigSigma0 state.a + majority state.a state.b state.c
  ⟨first + second, state.a, state.b, state.c, state.d + first, state.e, state.f, state.g⟩

/-- The words of the turns, from the sixteen that come next. -/
def schedule : ℕ → List Word → List Word
  | 0, _ => []
  | _, [] => []
  | count + 1, first :: rest =>
      first :: schedule count (rest ++
        [smallSigma1 (rest.getD 13 0) + rest.getD 8 0 + smallSigma0 (rest.getD 0 0) + first])

def State.compress (state : State) (block : List Word) : State :=
  let turned := (constants.zip (schedule 64 block)).foldl
    (fun state pair => state.turn pair.1 pair.2) state
  ⟨state.a + turned.a, state.b + turned.b, state.c + turned.c, state.d + turned.d,
    state.e + turned.e, state.f + turned.f, state.g + turned.g, state.h + turned.h⟩

/-! ## Digests -/

/-- The digest of a message, thirty-two bytes. -/
def hash (message : List Byte) : List Byte :=
  let text := words (padded message)
  let last := (List.range (text.length / 16)).foldl
    (fun state index => State.compress state ((text.drop (16 * index)).take 16)) State.initial
  last.toList.flatMap fun word => bytesOf 4 word.toNat

theorem length_hash (message : List Byte) : (hash message).length = 32 := by
  simp [hash, State.toList]

/-- A key as a block. One that is too long is hashed first. -/
def keyBlock (key : List Byte) : List Byte :=
  let short := if 64 < key.length then hash key else key
  short ++ List.replicate (64 - short.length) (byteOf 0)

/-- The digest of a message under a key. -/
def hmac (key message : List Byte) : List Byte :=
  hash ((keyBlock key).map (· ^^^ byteOf 0x5c) ++
    hash ((keyBlock key).map (· ^^^ byteOf 0x36) ++ message))

def hexCodes : List Char := "0123456789abcdef".toList

/-- Two codes for each byte. -/
def hexlify (bytes : List Byte) : List Char :=
  bytes.flatMap fun byte =>
    [hexCodes.getD (byte.val / 16) '0', hexCodes.getD (byte.val % 16) '0']

theorem mem_hexCodes_of_mem_hexlify {bytes : List Byte} {char : Char}
    (hchar : char ∈ hexlify bytes) : char ∈ hexCodes := by
  have hcode : ∀ digit < 16, hexCodes.getD digit '0' ∈ hexCodes := by decide
  obtain ⟨byte, -, hpair⟩ := List.mem_flatMap.mp hchar
  have hhigh : byte.val / 16 < 16 := by omega
  have hlow : byte.val % 16 < 16 := Nat.mod_lt _ (by decide)
  rcases List.mem_pair.mp hpair with rfl | rfl
  · exact hcode _ hhigh
  · exact hcode _ hlow

example : hexlify (hash ([0x61, 0x62, 0x63].map byteOf)) =
    "ba7816bf8f01cfea414140de5dae2223b00361a396177a9cb410ff61f20015ad".toList := by
  decide +kernel

theorem length_hexlify (bytes : List Byte) : (hexlify bytes).length = 2 * bytes.length := by
  simp [hexlify, Nat.mul_comm]

end Sha256
