import ChmabaPay.Auth
import ChmabaPay.Foundation.Encodings
import ChmabaPay.Routers.Billing
import Mathlib.Data.List.DropRight

/-! # Session tokens and the state of a sign-in

`routers/auth.py`: a session cookie is three parts of base 64 between points, the last of them
the authentication code of the others. The state that goes through Google and back carries the
page to land on, and no code.
-/

namespace ChmabaPay

open Base64 Calendar Encodings Relational

/-- What Starlette answers when an exception escapes. -/
def unhandled : Failure := .http 500 "Internal Server Error"

/-! ## Base 64 in an address -/

/-- The alphabet of `urlsafe_b64encode`. -/
def alphabet : List Char :=
  "ABCDEFGHIJKLMNOPQRSTUVWXYZabcdefghijklmnopqrstuvwxyz0123456789-_".toList

def letterOf (digit : Digit) : Char := alphabet.getD digit.val 'A'

/-- `urlsafe_b64decode` puts `+` and `/` in the place of `-` and `_`, and takes both. -/
def standardLetter (char : Char) : Char :=
  if char = '+' then '-' else if char = '/' then '_' else char

def symbolOf (char : Char) : Symbol :=
  let place := alphabet.findIdx fun letter => decide (letter = standardLetter char)
  if char = '=' then .pad
  else if hplace : place < 64 then .digit ⟨place, hplace⟩
  else .other

/-- `_b64url_encode`. -/
def b64urlEncode (bytes : List Byte) : List Char :=
  ((digits bytes).map letterOf ++ List.replicate (padding bytes) '=').rdropWhile (· = '=')

/-- `_b64url_decode`. -/
def b64urlDecode (data : List Char) : Option (List Byte) :=
  let padded := data ++ List.replicate (4 - data.length % 4) '='
  if padded.all fun char => decide (char.toNat < 128) then Base64.decode (padded.map symbolOf)
  else none

/-! ## Session tokens -/

/-- `hmac` with SHA-256, and what the interpreter does with a number that has a fraction:
whether a moment is after it, and its whole part. Not every one has a whole part. -/
structure Outside where
  digest : List Char → List Byte → List Byte
  isAfter : Instant → List Char → Bool
  truncate : List Char → Except Failure (Option ℤ)

def signingInput (header payload : List Char) : List Byte :=
  Encodings.encode (header ++ '.' :: payload)

def jwtHeader : Json.Value :=
  .object [("alg".toList, .text "HS256".toList), ("typ".toList, .text "JWT".toList)]

/-- `_sign_jwt`. -/
def signJwt (outside : Outside) (payload : Json.Value) (secret : List Char) : List Char :=
  let header := b64urlEncode (Encodings.encode (Json.print jwtHeader))
  let body := b64urlEncode (Encodings.encode (Json.print payload))
  let signature := b64urlEncode (outside.digest secret (signingInput header body))
  header ++ '.' :: body ++ '.' :: signature

/-- `now > exp`; a comparison that is none raises. -/
def isExpired (outside : Outside) (now : Instant) : Json.Value → Option Bool
  | .bool true => some (decide (seconds 1 < now))
  | .bool false => some (decide (0 < now))
  | .int exp => some (decide (seconds exp < now))
  | .float token => some (outside.isAfter now token)
  | _ => none

/-- `json.loads` of a document. -/
def loadDocument (bytes : List Byte) : Option Json.Value :=
  (Encodings.decode bytes).bind Json.loads

/-- The claims, when they carry no moment or one that has not passed. -/
def unexpired (outside : Outside) (now : Instant) (members : List (List Char × Json.Value)) :
    Option (List (List Char × Json.Value)) :=
  match (Json.Value.object members).get? "exp".toList with
  | none | some .null => some members
  | some exp => (isExpired outside now exp).bind fun expired =>
      if expired then none else some members

/-- `_verify_jwt`. Whatever raises is no session. -/
def verifyJwt (outside : Outside) (now : Instant) (token secret : List Char) :
    Option (List (List Char × Json.Value)) :=
  match token.splitOn '.' with
  | [header, body, signature] => do
      let expected := outside.digest secret (signingInput header body)
      let actual ← b64urlDecode signature
      if expected ≠ actual then none
      else
        match ← loadDocument (← b64urlDecode body) with
        | .object members => unexpired outside now members
        | _ => none
  | _ => none

/-- What a session token says. -/
def sessionClaims (ttlSeconds : ℤ) (now : Instant) (accountId : ℕ) (account : Account)
    (amr : List Char) : List (List Char × Json.Value) :=
  let iat := now.tdiv 1000000
  [("sub".toList, .text (Nat.toDigits 10 accountId)),
    ("email".toList, .text account.email.toList),
    ("is_platform_admin".toList, .bool account.isPlatformAdmin),
    ("amr".toList, .text amr),
    ("iat".toList, .int iat),
    ("exp".toList, .int (iat + ttlSeconds))]

/-- `_make_session_jwt`. -/
def makeSessionJwt (outside : Outside) (ttlSeconds : ℤ) (secret : List Char) (now : Instant)
    (accountId : ℕ) (account : Account) (amr : List Char) : List Char :=
  signJwt outside (.object (sessionClaims ttlSeconds now accountId account amr)) secret

/-- `session_auth_method`. -/
def sessionAuthMethod (outside : Outside) (secret : List Char) (now : Instant)
    (token : Option (List Char)) : List Char :=
  match token with
  | none | some [] => "unknown".toList
  | some token =>
      match (verifyJwt outside now token secret).bind fun members =>
        (Json.Value.object members).get? "amr".toList with
      | some (.text amr) => amr
      | _ => "unknown".toList

/-- `int(payload["sub"])`. -/
def sessionSubject (outside : Outside) (members : List (List Char × Json.Value)) :
    Except Failure (Option ℤ) :=
  match (Json.Value.object members).get? "sub".toList with
  | some (.text digits) => .ok (pythonInt digits)
  | some (.int number) => .ok (some number)
  | some (.bool true) => .ok (some 1)
  | some (.bool false) => .ok (some 0)
  | some (.float token) => outside.truncate token
  | _ => .ok none

/-- The account a cookie names. -/
def readSession (outside : Outside) (secret : List Char) (now : Instant)
    (token : Option (List Char)) : Except Failure ℤ :=
  match token with
  | none | some [] => .error (.http 401 "invalid_session")
  | some token =>
      match verifyJwt outside now token secret with
      | none => .error (.http 401 "invalid_session")
      | some members => do
          match ← sessionSubject outside members with
          | none => throw (.http 401 "invalid_session")
          | some subject => return subject

/-- `get_current_session_account`. No account has a negative key. -/
def getCurrentSessionAccount (outside : Outside) (secret : List Char) (now : Instant)
    (tables : Tables) (token : Option (List Char)) (request : HttpRequest) :
    Except Failure Account := do
  match ← readSession outside secret now token with
  | .ofNat accountId => currentSessionAccount tables accountId request
  | .negSucc _ => throw (.http 401 "invalid_session")

/-! ## The state of a sign-in -/

/-- `_is_safe_next`. -/
def isSafeNext : Option (List Char) → Bool
  | none => false
  | some next => "/".toList.isPrefixOf next && !"//".toList.isPrefixOf next

/-- `_decode_google_state`. -/
def decodeGoogleState (state : Option (List Char)) : List (List Char × Json.Value) :=
  match state with
  | none | some [] => []
  | some state =>
      match (b64urlDecode state).bind loadDocument with
      | some (.object members) => members
      | _ => []

/-- The page of a browser that asked for none. -/
def homePage (postLoginRedirectUrl : List Char) : List Char :=
  if postLoginRedirectUrl = [] then "/".toList else postLoginRedirectUrl

/-- Where `google_callback` sends the browser. A page that is no text has no beginning. -/
def googleLanding (postLoginRedirectUrl : List Char) (state : Option (List Char)) :
    Except Failure (List Char) :=
  match (Json.Value.object (decodeGoogleState state)).get? "next".toList with
  | none | some .null => .ok (homePage postLoginRedirectUrl)
  | some (.text next) =>
      .ok (if isSafeNext (some next) then next else homePage postLoginRedirectUrl)
  | some _ => .error unhandled

end ChmabaPay
