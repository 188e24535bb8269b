import ChmabaPay.Foundation.Sha256
import ChmabaPay.Routers.Billing
import ChmabaPay.Routers.Tokens

/-! # Signatures of webhooks

`security.py` and the header of a delivery: it carries the second it was signed in, and a code of
that second and the body. Whoever has the secret checks both, and a header that is too old is
refused. Of two parts with one name the later one is read.
-/

namespace ChmabaPay

open Base64 Relational

/-- A code of a message under a key, in hexadecimal. -/
structure Hmac where
  hexdigest : List Byte → List Byte → List Char
  hex : ∀ key message, ∀ char ∈ hexdigest key message, char ∈ Sha256.hexCodes
  nonempty : ∀ key message, hexdigest key message ≠ []

/-- `hmac` with SHA-256, the one the source signs with. -/
def hmacSha256 : Hmac where
  hexdigest key message := Sha256.hexlify (Sha256.hmac key message)
  hex key message char hchar := Sha256.mem_hexCodes_of_mem_hexlify hchar
  nonempty key message hempty := by
    have hlength : (Sha256.hexlify (Sha256.hmac key message)).length = 2 * 32 := by
      rw [Sha256.length_hexlify, Sha256.hmac, Sha256.length_hash]
    rw [hempty] at hlength
    cases hlength

/-- `sign_payload`, at a given second. -/
def signPayload (hmac : Hmac) (payload : List Byte) (secret : List Char) (t : ℤ) : List Char :=
  hmac.hexdigest (Encodings.encode secret) (Encodings.encode (Json.printInt t ++ ['.']) ++ payload)

/-- The signature among `delivery_headers`. -/
def signatureHeader (hmac : Hmac) (payload : List Byte) (secret : List Char) (t : ℤ) :
    List Char :=
  ['t', '='] ++ Json.printInt t ++ ',' :: (['v', '1', '='] ++ signPayload hmac payload secret t)

/-- A chunk of a header around its first `=`. -/
def headerPart (chunk : List Char) : Option (List Char × List Char) :=
  if '=' ∈ chunk then
    some (pythonStrip (chunk.takeWhile (· ≠ '=')), pythonStrip ((chunk.dropWhile (· ≠ '=')).drop 1))
  else none

/-- The part of a header with a name, the last one there is. -/
def headerValue (header name : List Char) : Option (List Char) :=
  (((header.splitOn ',').filterMap headerPart).reverse.find? fun part =>
    decide (part.1 = name)).map Prod.snd

/-- From here on a whole number is too large for a float. -/
def floatLimit : ℕ := 2 ^ 1024 - 2 ^ 970

/-- `verify_signature`. A second that no float holds raises, and so does a code that is not
ASCII. -/
def verifySignature (hmac : Hmac) (payload : List Byte) (secret header : List Char) (now : ℚ)
    (maxAgeSeconds : ℕ) : Except Failure Bool :=
  match headerValue header ['t'], headerValue header ['v', '1'] with
  | some tRaw, some v1 =>
      if tRaw = [] ∨ v1 = [] then .ok false
      else
        match pythonInt tRaw with
        | none => .ok false
        | some t =>
            if floatLimit ≤ t.natAbs then .error unhandled
            else if maxAgeSeconds < |now - t| then .ok false
            else if v1.all fun char => decide (char.toNat < 128) then
              .ok (decide (signPayload hmac payload secret t = v1))
            else .error unhandled
  | _, _ => .ok false

end ChmabaPay
