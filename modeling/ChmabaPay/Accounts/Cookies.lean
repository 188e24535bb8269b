import ChmabaPay.Payments.Currencies
import ChmabaPay.Routers.Tokens
import ChmabaPay.Specimen

/-! # What a cookie is worth

The token minted at a sign-in is read back as it was written. It serves its account until the
second it names and nobody afterwards, and another secret does not open it.
-/

namespace ChmabaPay

open Base64 Calendar Encodings Relational

/-! ## Base 64 in an address -/

theorem symbolOf_letterOf : ∀ digit : Digit, symbolOf (letterOf digit) = .digit digit := by
  decide +kernel

theorem letterOf_plain : ∀ digit : Digit,
    letterOf digit ≠ '=' ∧ letterOf digit ≠ '.' ∧ (letterOf digit).toNat < 128 := by
  decide +kernel

/-- The padding is taken away, and nothing else. -/
theorem b64urlEncode_eq (bytes : List Byte) : b64urlEncode bytes = (digits bytes).map letterOf := by
  have hkept : ((digits bytes).map letterOf).rdropWhile (fun char => decide (char = '=')) =
      (digits bytes).map letterOf := by
    rw [List.rdropWhile_eq_self_iff]
    intro hne hlast
    obtain ⟨digit, -, hdigit⟩ := List.mem_map.mp (List.getLast_mem hne)
    rw [← hdigit] at hlast
    exact (letterOf_plain digit).1 (of_decide_eq_true hlast)
  rw [b64urlEncode]
  induction padding bytes with
  | zero => rw [List.replicate_zero, List.append_nil, hkept]
  | succ count ih =>
      rw [List.replicate_succ', ← List.append_assoc,
        List.rdropWhile_concat_pos _ _ _ (by decide), ih]

theorem b64urlDecode_encode (bytes : List Byte) :
    b64urlDecode (b64urlEncode bytes) = some bytes := by
  have hletters : (b64urlEncode bytes ++
      List.replicate (4 - (b64urlEncode bytes).length % 4) '=').all
        (fun char => decide (char.toNat < 128)) = true := by
    rw [List.all_eq_true]
    intro char hchar
    rw [b64urlEncode_eq] at hchar
    rcases List.mem_append.mp hchar with hchar | hchar
    · obtain ⟨digit, -, rfl⟩ := List.mem_map.mp hchar
      exact decide_eq_true (letterOf_plain digit).2.2
    · rw [List.eq_of_mem_replicate hchar]
      decide
  have hsymbols : (digits bytes).map (symbolOf ∘ letterOf) = (digits bytes).map Symbol.digit :=
    List.map_congr_left fun digit _ => symbolOf_letterOf digit
  have hpad : symbolOf '=' = .pad := by decide +kernel
  rw [b64urlDecode, if_pos hletters, b64urlEncode_eq, List.length_map, List.map_append,
    List.map_map, hsymbols, List.map_replicate, hpad]
  exact decode_digits bytes (padding_le bytes)

theorem not_mem_b64urlEncode (bytes : List Byte) : '.' ∉ b64urlEncode bytes := by
  rw [b64urlEncode_eq]
  intro hmem
  obtain ⟨digit, -, hdigit⟩ := List.mem_map.mp hmem
  exact (letterOf_plain digit).2.1 hdigit

theorem b64urlEncode_ne_nil {bytes : List Byte} (hbytes : bytes ≠ []) :
    b64urlEncode bytes ≠ [] := by
  rw [b64urlEncode_eq]
  match bytes with
  | [] => exact absurd rfl hbytes
  | [_] => exact List.cons_ne_nil _ _
  | [_, _] => exact List.cons_ne_nil _ _
  | _ :: _ :: _ :: _ => exact List.cons_ne_nil _ _

/-- A document without fractions is read back from its bytes. -/
theorem loadDocument_print {value : Json.Value} (hplain : value.Plain) :
    loadDocument (Encodings.encode (Json.print value)) = some value := by
  rw [loadDocument, decode_encode (Json.printed_print value hplain), Option.bind_some,
    Json.loads_print hplain]

/-! ## The text of a key -/

theorem ofDigitChars_eq_reading {digits : List Char}
    (hdigits : ∀ digit ∈ digits, digit.isDigit = true) :
    Digits.reading digits = some (Nat.ofDigitChars 10 digits 0) := by
  have hfold : ∀ start, digits.foldlM (fun number digit =>
      (Digits.decimal? digit).map fun value => 10 * number + value) start =
        some (Nat.ofDigitChars 10 digits start) := by
    induction digits with
    | nil => intro start; rfl
    | cons digit digits ih =>
        intro start
        rw [List.forall_mem_cons] at hdigits
        rw [List.foldlM_cons, Digits.decimal?_of_isDigit hdigits.1, Nat.ofDigitChars_cons]
        exact ih hdigits.2 _
  exact hfold 0

/-- A number the database gave is read back, if it is not absurdly long. -/
theorem pythonInt_toDigits (number : ℕ) :
    pythonInt (Nat.toDigits 10 number) =
      if maxStrDigits < (Nat.toDigits 10 number).length then none else some (number : ℤ) := by
  have hdigits := Numerals.all_isDigit_toDigits number
  have hdecimal : ∀ digit ∈ Nat.toDigits 10 number, Digits.isDecimal digit = true := by
    intro digit hdigit
    rw [Digits.isDecimal, Digits.decimal?_of_isDigit (hdigits digit hdigit)]
    rfl
  have hstrip : intStrip (Nat.toDigits 10 number) = Nat.toDigits 10 number := by
    apply Trimming.trim_eq_self
    apply Trimming.Trimmed.of_forall
    intro digit hdigit
    rw [isIntSpace, isDecimal_not_space (hdecimal digit hdigit)]
    rfl
  have hsplit : (Nat.toDigits 10 number).splitOn '_' = [Nat.toDigits 10 number] :=
    List.splitOn_eq_singleton Nat.underscore_not_in_toDigits
  have hall : [Nat.toDigits 10 number].all
      (fun group => !group.isEmpty && group.all Digits.isDecimal) = true := by
    simpa using hdecimal
  have hread : Digits.reading (Nat.toDigits 10 number) = some number := by
    rw [ofDigitChars_eq_reading hdigits, Nat.ofDigitChars_ten_toDigits]
  have hsigns : ∀ rest, Nat.toDigits 10 number ≠ '-' :: rest ∧
      Nat.toDigits 10 number ≠ '+' :: rest := by
    refine fun rest => ⟨fun heq => ?_, fun heq => ?_⟩
    · exact absurd (hdigits '-' (heq ▸ List.mem_cons_self)) (by decide)
    · exact absurd (hdigits '+' (heq ▸ List.mem_cons_self)) (by decide)
  unfold pythonInt
  rw [hstrip]
  split
  next hsign =>
    split at hsign
    next heq => exact absurd heq (hsigns _).1
    next heq => exact absurd heq (hsigns _).2
    next =>
      obtain ⟨rfl, rfl⟩ := Prod.mk.inj hsign
      rw [hsplit, if_pos hall, List.flatten_singleton, hread]
      rfl

/-! ## The token -/

section Token

variable (outside : Outside)

/-- What the digest of a token is taken of. -/
def sessionInput (members : List (List Char × Json.Value)) : List Byte :=
  signingInput (b64urlEncode (Encodings.encode (Json.print jwtHeader)))
    (b64urlEncode (Encodings.encode (Json.print (.object members))))

/-- The parts of a token. -/
theorem splitOn_signJwt (members : List (List Char × Json.Value)) (secret : List Char) :
    (signJwt outside (.object members) secret).splitOn '.' =
      [b64urlEncode (Encodings.encode (Json.print jwtHeader)),
        b64urlEncode (Encodings.encode (Json.print (.object members))),
        b64urlEncode (outside.digest secret (sessionInput members))] := by
  rw [signJwt, List.append_assoc, List.cons_append,
    List.splitOn_append_cons_self_of_not_mem (not_mem_b64urlEncode _),
    List.splitOn_append_cons_self_of_not_mem (not_mem_b64urlEncode _),
    List.splitOn_eq_singleton (not_mem_b64urlEncode _)]
  rfl

/-- A token is taken apart as it was put together. -/
theorem verifyJwt_signJwt (now : Instant) {members : List (List Char × Json.Value)}
    (hplain : Json.PlainMembers members) (secret other : List Char) :
    verifyJwt outside now (signJwt outside (.object members) secret) other =
      if outside.digest other (sessionInput members) ≠ outside.digest secret (sessionInput members)
      then none
      else unexpired outside now members := by
  have hload : loadDocument (Encodings.encode (Json.print (.object members))) =
      some (.object members) :=
    loadDocument_print hplain
  rw [verifyJwt, splitOn_signJwt]
  simp only [b64urlDecode_encode, hload, Option.bind_eq_bind, Option.bind_some]
  rfl

variable (ttlSeconds : ℤ) (minted now : Instant) (accountId : ℕ) (account : Account)
variable (amr secret : List Char)

theorem plain_sessionClaims :
    Json.PlainMembers (sessionClaims ttlSeconds minted accountId account amr) := by
  simp [sessionClaims, Json.PlainMembers, Json.Value.Plain]

/-- The second a token names is the last it serves in. -/
def lastMoment : Instant := seconds (minted.tdiv 1000000 + ttlSeconds)

/-- The claims stand as long as the moment they name has not passed. -/
theorem unexpired_sessionClaims :
    unexpired outside now (sessionClaims ttlSeconds minted accountId account amr) =
      if now ≤ lastMoment ttlSeconds minted then
        some (sessionClaims ttlSeconds minted accountId account amr)
      else none := by
  have hexp : (Json.Value.object
      (sessionClaims ttlSeconds minted accountId account amr)).get? "exp".toList =
        some (.int (minted.tdiv 1000000 + ttlSeconds)) := rfl
  rw [unexpired, hexp]
  by_cases hstands : now ≤ lastMoment ttlSeconds minted
  · have hnot : ¬ seconds (minted.tdiv 1000000 + ttlSeconds) < now := not_lt.mpr hstands
    rw [if_pos hstands]
    simp [isExpired, hnot]
  · have hpassed : seconds (minted.tdiv 1000000 + ttlSeconds) < now := not_le.mp hstands
    rw [if_neg hstands]
    simp [isExpired, hpassed]

theorem makeSessionJwt_ne_nil :
    makeSessionJwt outside ttlSeconds secret minted accountId account amr ≠ [] := by
  simp [makeSessionJwt, signJwt]

/-- The token under the secret it was signed with. -/
theorem verifyJwt_makeSessionJwt :
    verifyJwt outside now (makeSessionJwt outside ttlSeconds secret minted accountId account amr)
        secret =
      if now ≤ lastMoment ttlSeconds minted then
        some (sessionClaims ttlSeconds minted accountId account amr)
      else none := by
  rw [makeSessionJwt, verifyJwt_signJwt outside now
    (plain_sessionClaims ttlSeconds minted accountId account amr), if_neg (not_not.mpr rfl),
    unexpired_sessionClaims]

variable {token : List Char} {claims : List (List Char × Json.Value)}

theorem readSession_none (hverify : verifyJwt outside now token secret = none) :
    readSession outside secret now (some token) = .error (.http 401 "invalid_session") := by
  cases token with
  | nil => rfl
  | cons first rest =>
      rw [readSession, hverify]
      exact List.cons_ne_nil first rest

theorem readSession_some (hne : token ≠ []) {subject : ℤ}
    (hverify : verifyJwt outside now token secret = some claims)
    (hsubject : sessionSubject outside claims = .ok (some subject)) :
    readSession outside secret now (some token) = .ok subject := by
  cases token with
  | nil => exact absurd rfl hne
  | cons first rest =>
      rw [readSession, hverify]
      · simp only [hsubject]
        rfl
      · exact hne

theorem readSession_unread (hne : token ≠ [])
    (hverify : verifyJwt outside now token secret = some claims)
    (hsubject : sessionSubject outside claims = .ok none) :
    readSession outside secret now (some token) = .error (.http 401 "invalid_session") := by
  cases token with
  | nil => exact absurd rfl hne
  | cons first rest =>
      rw [readSession, hverify]
      · simp only [hsubject]
        rfl
      · exact hne

theorem sessionAuthMethod_none (hverify : verifyJwt outside now token secret = none) :
    sessionAuthMethod outside secret now (some token) = "unknown".toList := by
  cases token with
  | nil => rfl
  | cons first rest =>
      unfold sessionAuthMethod
      dsimp only
      rw [hverify]
      rfl

theorem sessionAuthMethod_some (hne : token ≠ [])
    (hverify : verifyJwt outside now token secret = some claims)
    (hmethod : (Json.Value.object claims).get? "amr".toList = some (.text amr)) :
    sessionAuthMethod outside secret now (some token) = amr := by
  cases token with
  | nil => exact absurd rfl hne
  | cons first rest =>
      unfold sessionAuthMethod
      dsimp only
      rw [hverify, Option.bind_some, hmethod]

theorem sessionSubject_claims :
    sessionSubject outside (sessionClaims ttlSeconds minted accountId account amr) =
      .ok (pythonInt (Nat.toDigits 10 accountId)) := rfl

theorem sessionSubject_sessionClaims
    (hlength : (Nat.toDigits 10 accountId).length ≤ maxStrDigits) :
    sessionSubject outside (sessionClaims ttlSeconds minted accountId account amr) =
      .ok (some (accountId : ℤ)) := by
  rw [sessionSubject_claims, pythonInt_toDigits, if_neg (not_lt.mpr hlength)]

theorem sessionSubject_long
    (hlength : maxStrDigits < (Nat.toDigits 10 accountId).length) :
    sessionSubject outside (sessionClaims ttlSeconds minted accountId account amr) = .ok none := by
  rw [sessionSubject_claims, pythonInt_toDigits, if_pos hlength]

end Token

/-- What the routes do with a session's token depends on its moment alone: up to the second it
names it is the session of the account it was minted for, with the way that account signed
in, and later it is no session. A secret that does not give the same code opens it at no
time. -/
theorem session_cookie_window (outside : Outside) (ttlSeconds : ℤ) (secret amr : List Char)
    (minted now : Instant) (accountId : ℕ) (account : Account)
    (hlength : (Nat.toDigits 10 accountId).length ≤ maxStrDigits) :
    let token := makeSessionJwt outside ttlSeconds secret minted accountId account amr
    let claims := sessionClaims ttlSeconds minted accountId account amr
    (∀ tables request, getCurrentSessionAccount outside secret now tables (some token) request =
      if now ≤ lastMoment ttlSeconds minted then currentSessionAccount tables accountId request
      else .error (.http 401 "invalid_session")) ∧
    sessionAuthMethod outside secret now (some token) =
      (if now ≤ lastMoment ttlSeconds minted then amr else "unknown".toList) ∧
    ∀ other, outside.digest other (sessionInput claims) ≠
        outside.digest secret (sessionInput claims) →
      readSession outside other now (some token) = .error (.http 401 "invalid_session") := by
  intro token claims
  have hverify : verifyJwt outside now token secret =
      if now ≤ lastMoment ttlSeconds minted then some claims else none :=
    verifyJwt_makeSessionJwt outside ttlSeconds minted now accountId account amr secret
  have hne : token ≠ [] :=
    makeSessionJwt_ne_nil outside ttlSeconds minted accountId account amr secret
  have hsubject := sessionSubject_sessionClaims outside ttlSeconds minted accountId account amr
    hlength
  by_cases hserved : now ≤ lastMoment ttlSeconds minted
  · rw [if_pos hserved] at hverify
    refine ⟨fun tables request => ?_, ?_, fun other hother => ?_⟩
    · rw [getCurrentSessionAccount, readSession_some outside now secret hne hverify hsubject,
        if_pos hserved]
      rfl
    · rw [sessionAuthMethod_some outside now amr secret hne hverify rfl, if_pos hserved]
    · apply readSession_none
      exact (verifyJwt_signJwt outside now
        (plain_sessionClaims ttlSeconds minted accountId account amr) secret other).trans
        (if_pos hother)
  · rw [if_neg hserved] at hverify
    refine ⟨fun tables request => ?_, ?_, fun other hother => ?_⟩
    · rw [getCurrentSessionAccount, readSession_none outside now secret hverify, if_neg hserved]
      rfl
    · rw [sessionAuthMethod_none outside now secret hverify, if_neg hserved]
    · apply readSession_none
      exact (verifyJwt_signJwt outside now
        (plain_sessionClaims ttlSeconds minted accountId account amr) secret other).trans
        (if_pos hother)

/-! ## No session without a sign-in -/

/-- A sign-in, as far as its token is concerned. -/
structure SignIn where
  moment : Instant
  accountId : ℕ
  account : Account
  amr : List Char
deriving DecidableEq

/-- What happens to tokens: one is minted at a sign-in, or a request carries one. -/
inductive TokenEvent where
  | minted (signIn : SignIn)
  | presented (moment : Instant) (token : List Char)
deriving DecidableEq

section Correspondence

variable (outside : Outside) (ttlSeconds : ℤ) (secret : List Char)

def SignIn.claims (signIn : SignIn) : List (List Char × Json.Value) :=
  sessionClaims ttlSeconds signIn.moment signIn.accountId signIn.account signIn.amr

def SignIn.token (signIn : SignIn) : List Char :=
  makeSessionJwt outside ttlSeconds secret signIn.moment signIn.accountId signIn.account signIn.amr

/-- The third part of a token is the code of the others. -/
def Signed (token : List Char) (input : List Byte) : Prop :=
  ∃ header body signature, token.splitOn '.' = [header, body, signature] ∧
    input = signingInput header body ∧ b64urlDecode signature = some (outside.digest secret input)

/-- Who does not know the secret presents no code but those it has seen: what a presented code
is the code of was signed before. -/
def Unforged (events : List TokenEvent) : Prop :=
  ∀ earlier moment token later, events = earlier ++ .presented moment token :: later →
    ∀ input, Signed outside secret token input →
      ∃ signIn, .minted signIn ∈ earlier ∧ input = sessionInput (signIn.claims ttlSeconds)

/-- A token is signed for one text at most. -/
theorem Signed.unique {token : List Char} {input input' : List Byte}
    (hsigned : Signed outside secret token input) (hsigned' : Signed outside secret token input') :
    input = input' := by
  obtain ⟨header, body, signature, hsplit, rfl, -⟩ := hsigned
  obtain ⟨header', body', signature', hsplit', rfl, -⟩ := hsigned'
  rw [hsplit] at hsplit'
  injection hsplit' with hheader hrest
  injection hrest with hbody
  rw [hheader, hbody]

/-- A text that is verified is signed, and its second part is what stands. -/
theorem verifyJwt_eq_some {now : Instant} {token : List Char}
    {members : List (List Char × Json.Value)}
    (hverify : verifyJwt outside now token secret = some members) :
    ∃ header body, Signed outside secret token (signingInput header body) ∧
      ∃ bytes read, b64urlDecode body = some bytes ∧ loadDocument bytes = some (.object read) ∧
        unexpired outside now read = some members := by
  unfold verifyJwt at hverify
  split at hverify
  next header body signature hsplit =>
    simp only [Option.bind_eq_bind, Option.bind_eq_some_iff] at hverify
    obtain ⟨actual, hactual, hverify⟩ := hverify
    split at hverify
    next => cases hverify
    next hsame =>
      rw [not_not] at hsame
      obtain ⟨bytes, hbytes, hverify⟩ := Option.bind_eq_some_iff.mp hverify
      obtain ⟨document, hdocument, hverify⟩ := Option.bind_eq_some_iff.mp hverify
      cases document with
      | object read =>
          exact ⟨header, body, ⟨header, body, signature, hsplit, rfl, hsame ▸ hactual⟩, bytes,
            read, hbytes, hdocument, hverify⟩
      | _ => cases hverify
  next => cases hverify

/-- The parts of what is signed can be told apart. -/
theorem signingInput_inj {header body header' body' : List Char} (hheader : '.' ∉ header')
    (hbody : '.' ∉ body') (hsame : signingInput header body = signingInput header' body') :
    header = header' ∧ body = body' := by
  have htext : header ++ '.' :: body = header' ++ '.' :: body' := by
    have hdecoded := congrArg decodeUtf8 hsame
    rwa [signingInput, signingInput, decodeUtf8_encode, decodeUtf8_encode, Option.some_inj]
      at hdecoded
  have hpieces : header.splitOn '.' ++ body.splitOn '.' = [header', body'] := by
    rw [← List.splitOn_append_cons_self, htext, List.splitOn_append_cons_self,
      List.splitOn_eq_singleton hheader, List.splitOn_eq_singleton hbody, List.singleton_append]
  obtain ⟨first, rest, hfirst⟩ := List.exists_cons_of_ne_nil (List.splitOn_ne_nil '.' header)
  obtain ⟨second, more, hsecond⟩ := List.exists_cons_of_ne_nil (List.splitOn_ne_nil '.' body)
  have hlength := congrArg List.length hpieces
  rw [hfirst, hsecond] at hpieces hlength
  simp only [List.length_append, List.length_cons, List.length_nil] at hlength
  obtain rfl : rest = [] := List.eq_nil_of_length_eq_zero (by omega)
  obtain rfl : more = [] := List.eq_nil_of_length_eq_zero (by omega)
  simp only [List.cons_append, List.nil_append, List.cons.injEq, and_true] at hpieces
  have hjoin (text : List Char) : ['.'].intercalate (text.splitOn '.') = text :=
    List.intercalate_splitOn '.'
  constructor
  · rw [← hjoin header, hfirst, ← hpieces.1]
    simp [List.intercalate]
  · rw [← hjoin body, hsecond, ← hpieces.2]
    simp [List.intercalate]

/-- What a signed token of a sign-in says is what that sign-in put in it. -/
theorem verifyJwt_of_signed {now : Instant} {token : List Char}
    {members claims : List (List Char × Json.Value)} (hplain : Json.PlainMembers claims)
    (hsigned : ∀ input, Signed outside secret token input → input = sessionInput claims)
    (hverify : verifyJwt outside now token secret = some members) :
    unexpired outside now claims = some members := by
  obtain ⟨header, body, hcode, bytes, read, hbytes, hread, hstands⟩ :=
    verifyJwt_eq_some outside secret hverify
  obtain ⟨-, rfl⟩ := signingInput_inj (not_mem_b64urlEncode _) (not_mem_b64urlEncode _)
    (hsigned _ hcode)
  rw [b64urlDecode_encode, Option.some_inj] at hbytes
  subst hbytes
  have hload : loadDocument (Encodings.encode (Json.print (.object claims))) =
      some (.object claims) :=
    loadDocument_print hplain
  rw [hload, Option.some_inj] at hread
  obtain rfl := Json.Value.object.inj hread
  exact hstands

/-- The token of a sign-in is signed for its claims. -/
theorem SignIn.signed (signIn : SignIn) :
    Signed outside secret (signIn.token outside ttlSeconds secret)
      (sessionInput (signIn.claims ttlSeconds)) :=
  ⟨_, _, _, splitOn_signJwt outside _ secret, rfl, b64urlDecode_encode _⟩

end Correspondence

/-- In every run of sign-ins and requests in which nobody forges a code, a request that a token
admits is made for an account that signed in before, in the way it signed in, and no later than
the last second of that sign-in's session. -/
theorem session_follows_sign_in (outside : Outside) (ttlSeconds : ℤ) (secret : List Char)
    (events : List TokenEvent) (hunforged : Unforged outside ttlSeconds secret events)
    (earlier later : List TokenEvent) (now : Instant) (token : List Char)
    (hevents : events = earlier ++ .presented now token :: later) (subject : ℤ)
    (hread : readSession outside secret now (some token) = .ok subject) :
    ∃ signIn, .minted signIn ∈ earlier ∧ subject = signIn.accountId ∧
      sessionAuthMethod outside secret now (some token) = signIn.amr ∧
      now ≤ lastMoment ttlSeconds signIn.moment := by
  have hne : token ≠ [] := by
    rintro rfl
    cases hread
  cases hverify : verifyJwt outside now token secret with
  | none =>
      rw [readSession_none outside now secret hverify] at hread
      cases hread
  | some members =>
      obtain ⟨header, body, hcode, -⟩ := verifyJwt_eq_some outside secret hverify
      obtain ⟨signIn, hminted, hinput⟩ := hunforged earlier now token later hevents _ hcode
      -- a code that was not forged is the code of a sign-in, so the claims are those it signed
      have hstands := verifyJwt_of_signed outside secret
        (plain_sessionClaims ttlSeconds signIn.moment signIn.accountId signIn.account signIn.amr)
        (fun input hsigned => (hsigned.unique outside secret hcode).trans hinput) hverify
      rw [unexpired_sessionClaims] at hstands
      split at hstands
      next hserved =>
        obtain rfl := Option.some.inj hstands
        refine ⟨signIn, hminted, ?_, ?_, hserved⟩
        -- a subject of more digits than `int` reads opens nothing
        · by_cases hlength : (Nat.toDigits 10 signIn.accountId).length ≤ maxStrDigits
          · rw [readSession_some outside now secret hne hverify
              (sessionSubject_sessionClaims outside ttlSeconds _ _ _ _ hlength)] at hread
            exact (Except.ok.inj hread).symm
          · rw [readSession_unread outside now secret hne hverify
              (sessionSubject_long outside ttlSeconds _ _ _ _ (not_le.mp hlength))] at hread
            cases hread
        · exact sessionAuthMethod_some outside now signIn.amr secret hne hverify rfl
      next => cases hstands

/-- A code that is the text itself behind the secret. -/
def plainCode : Outside where
  digest secret input := Encodings.encode secret ++ input
  isAfter _ _ := false
  truncate _ := .ok none

/-- A merchant signs in at the epoch. -/
def firstSignIn : SignIn where
  moment := 0
  accountId := 7
  account :=
    { email := "owner@shop.kh", name := "Owner", status := .active, isPlatformAdmin := false }
  amr := "password".toList

/-- A merchant's token in the last second it names, and in the one after. -/
theorem session_cookie_window_day :
    getCurrentSessionAccount plainCode "key".toList (seconds 86400) Specimen.tables
        (some (makeSessionJwt plainCode 86400 "key".toList 0 1 Specimen.merchant
          "password".toList)) ⟨"GET", "/api/v1/me"⟩ = .ok Specimen.merchant ∧
      getCurrentSessionAccount plainCode "key".toList (seconds 86401) Specimen.tables
        (some (makeSessionJwt plainCode 86400 "key".toList 0 1 Specimen.merchant
          "password".toList)) ⟨"GET", "/api/v1/me"⟩ = .error (.http 401 "invalid_session") :=
  ⟨((session_cookie_window plainCode 86400 "key".toList "password".toList 0 (seconds 86400) 1
      Specimen.merchant (by decide)).1 _ _).trans ((if_pos (by decide)).trans rfl),
    ((session_cookie_window plainCode 86400 "key".toList "password".toList 0 (seconds 86401) 1
      Specimen.merchant (by decide)).1 _ _).trans (if_neg (by decide))⟩

/-- The token is used a minute later, and nothing else is presented. -/
theorem unforged_first : Unforged plainCode 86400 "key".toList
    [.minted firstSignIn,
      .presented (seconds 60) (firstSignIn.token plainCode 86400 "key".toList)] := by
  intro earlier moment token later hevents input hsigned
  match earlier with
  | [] => cases hevents
  | [event] =>
      obtain ⟨rfl, hrest⟩ := List.cons.inj hevents
      obtain ⟨hsame, -⟩ := List.cons.inj hrest
      obtain ⟨-, rfl⟩ := TokenEvent.presented.inj hsame
      exact ⟨firstSignIn, List.mem_singleton_self _, hsigned.unique plainCode "key".toList
        (firstSignIn.signed plainCode 86400 "key".toList)⟩
  | first :: second :: rest =>
      have hlength := congrArg List.length hevents
      simp at hlength

theorem session_follows_sign_in_first :
    ∃ signIn, TokenEvent.minted signIn ∈ [TokenEvent.minted firstSignIn] ∧
      (7 : ℤ) = signIn.accountId ∧
      sessionAuthMethod plainCode "key".toList (seconds 60)
        (some (firstSignIn.token plainCode 86400 "key".toList)) = signIn.amr ∧
      seconds 60 ≤ lastMoment 86400 signIn.moment :=
  session_follows_sign_in plainCode 86400 "key".toList _ unforged_first
    [.minted firstSignIn] [] (seconds 60) (firstSignIn.token plainCode 86400 "key".toList) rfl 7
    (readSession_some plainCode (seconds 60) "key".toList
      (makeSessionJwt_ne_nil plainCode 86400 0 7 firstSignIn.account "password".toList
        "key".toList)
      ((verifyJwt_makeSessionJwt plainCode 86400 0 (seconds 60) 7 firstSignIn.account
        "password".toList "key".toList).trans (if_pos (by decide)))
      (sessionSubject_sessionClaims plainCode 86400 0 7 firstSignIn.account "password".toList
        (by decide)))

/-! ## Where a sign-in lands -/

/-- A document goes through as a state, whoever wrote it. -/
theorem decodeGoogleState_document {members : List (List Char × Json.Value)}
    (hplain : (Json.Value.object members).Plain) :
    decodeGoogleState (some (b64urlEncode (Encodings.encode
      (Json.print (.object members))))) = members := by
  have hprint : Json.print (.object members) = '{' :: (Json.printMembers members ++ ['}']) := rfl
  have hbytes : Encodings.encode (Json.print (.object members)) ≠ [] := by
    rw [hprint, encode_cons_of_printed (by decide)]
    exact List.cons_ne_nil _ _
  have hdecode : (b64urlDecode (b64urlEncode (Encodings.encode
      (Json.print (.object members))))).bind loadDocument = some (.object members) := by
    rw [b64urlDecode_encode, Option.bind_some]
    exact loadDocument_print hplain
  obtain ⟨first, rest, hstate⟩ := List.exists_cons_of_ne_nil (b64urlEncode_ne_nil hbytes)
  rw [hstate] at hdecode ⊢
  rw [decodeGoogleState, hdecode]
  exact List.cons_ne_nil first rest

/-- The state is a document that names a page, and the page is no text. -/
def MisnamesPage (state : Option (List Char)) : Prop :=
  ∃ value, (Json.Value.object (decodeGoogleState state)).get? "next".toList = some value ∧
    value ≠ .null ∧ ∀ page, value ≠ .text page

/-- Whoever forges a state may break the landing. -/
theorem misnamesPage_forged {value : Json.Value} (hplain : value.Plain) (hnull : value ≠ .null)
    (htext : ∀ page, value ≠ .text page) :
    MisnamesPage (some (b64urlEncode (Encodings.encode
      (Json.print (.object [("next".toList, value)]))))) := by
  refine ⟨value, ?_, hnull, htext⟩
  have hmembers : (Json.Value.object [("next".toList, value)]).Plain := ⟨hplain, trivial⟩
  rw [decodeGoogleState_document hmembers]
  rfl

end ChmabaPay
