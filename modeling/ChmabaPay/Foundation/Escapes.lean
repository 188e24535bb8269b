import ChmabaPay.Foundation.Framing

/-! # Escapes in string literals

JSON spells a text between double quotes: quotes, backslashes and control characters behind a
backslash, everything else as it is. The codec `unicode_escape` takes backslashes back on
bytes, and every other byte for the character of that number.
-/

namespace Escapes

/-! ## Replacing pairs -/

/-- Replace one character behind another by a third, from left to right. -/
def replacePair (first second replacement : Char) : List Char → List Char
  | char :: next :: rest =>
      if char = first ∧ next = second then replacement :: replacePair first second replacement rest
      else char :: replacePair first second replacement (next :: rest)
  | short => short

section Pairs

variable {first second replacement : Char}

theorem replacePair_pair (rest : List Char) :
    replacePair first second replacement (first :: second :: rest) =
      replacement :: replacePair first second replacement rest := by
  rw [replacePair, if_pos ⟨rfl, rfl⟩]

/-- A character that begins no pair stays. -/
theorem replacePair_cons {char : Char} {rest : List Char}
    (hpair : char = first → rest.head? ≠ some second) :
    replacePair first second replacement (char :: rest) =
      char :: replacePair first second replacement rest := by
  cases rest with
  | nil => rfl
  | cons next rest =>
      rw [replacePair, if_neg]
      rintro ⟨hfirst, hsecond⟩
      exact hpair hfirst (congrArg some hsecond)

/-- Characters none of which begins a pair stay. -/
theorem replacePair_append {kept rest : List Char} (hkept : ∀ char ∈ kept, char ≠ first) :
    replacePair first second replacement (kept ++ rest) =
      kept ++ replacePair first second replacement rest := by
  induction kept with
  | nil => rfl
  | cons char kept ih =>
      rw [List.forall_mem_cons] at hkept
      rw [List.cons_append, replacePair_cons (fun hfirst => absurd hfirst hkept.1), ih hkept.2,
        List.cons_append]

end Pairs

/-! ## JSON -/

/-- A character of a JSON text between double quotes. -/
def jsonEscape (char : Char) : List Char :=
  if char = '"' then ['\\', '"']
  else if char = '\\' then ['\\', '\\']
  else if char = '\x08' then ['\\', 'b']
  else if char = '\x0c' then ['\\', 'f']
  else if char = '\n' then ['\\', 'n']
  else if char = '\r' then ['\\', 'r']
  else if char = '\t' then ['\\', 't']
  else if char.toNat < 32 then
    ['\\', 'u', '0', '0', Nat.digitChar (char.toNat / 16), Nat.digitChar (char.toNat % 16)]
  else [char]

def jsonLiteral (text : List Char) : List Char := '"' :: text.flatMap jsonEscape ++ ['"']

/-! ## Bytes -/

/-- The bytes of a character in UTF-8, each as the character of its number. -/
def utf8Latin (char : Char) : List Char :=
  (String.utf8EncodeChar char).map fun byte => Char.ofNat byte.toNat

theorem toNat_ofNat {number : ℕ} (hvalid : number.isValidChar) :
    (Char.ofNat number).toNat = number := by
  unfold Char.ofNat
  rw [dif_pos hvalid]
  rfl

theorem utf8Latin_of_lt {char : Char} (hascii : char.toNat < 128) : utf8Latin char = [char] := by
  have hsmall : char.val.toNat ≤ 127 := Nat.le_of_lt_succ hascii
  rw [utf8Latin, String.utf8EncodeChar]
  simp only [hsmall, if_true, List.map_cons, List.map_nil, UInt8.toNat_ofNat']
  rw [Nat.mod_eq_of_lt (by omega)]
  exact congrArg (fun char => [char]) char.ofNat_toNat

/-- A character outside ASCII takes two bytes at least, none of which is ASCII. -/
theorem utf8Latin_of_le {char : Char} (hlarge : 128 ≤ char.toNat) :
    (∀ byte ∈ utf8Latin char, 128 ≤ byte.toNat) ∧ 2 ≤ (utf8Latin char).length := by
  have hbyte : ∀ number, 128 ≤ number → number < 256 →
      128 ≤ (Char.ofNat (UInt8.ofNat number).toNat).toNat := by
    intro number hlow hhigh
    rw [UInt8.toNat_ofNat', Nat.mod_eq_of_lt hhigh, toNat_ofNat (.inl (by omega))]
    exact hlow
  have hascii : ¬ char.val.toNat ≤ 127 := Nat.not_le.mpr hlarge
  rw [utf8Latin, String.utf8EncodeChar]
  simp only [hascii, if_false]
  split
  · simp only [List.map_cons, List.map_nil, List.forall_mem_cons, List.not_mem_nil,
      false_imp_iff, implies_true, and_true, List.length_cons, List.length_nil]
    exact ⟨⟨hbyte _ (by omega) (by omega), hbyte _ (by omega) (by omega)⟩, by omega⟩
  · split
    all_goals
      simp only [List.map_cons, List.map_nil, List.forall_mem_cons, List.not_mem_nil,
        false_imp_iff, implies_true, and_true, List.length_cons, List.length_nil]
    · exact ⟨⟨hbyte _ (by omega) (by omega), hbyte _ (by omega) (by omega),
        hbyte _ (by omega) (by omega)⟩, by omega⟩
    · exact ⟨⟨hbyte _ (by omega) (by omega), hbyte _ (by omega) (by omega),
        hbyte _ (by omega) (by omega), hbyte _ (by omega) (by omega)⟩, by omega⟩

/-! ## The codec -/

def hexDigit? (char : Char) : Option ℕ :=
  if '0' ≤ char ∧ char ≤ '9' then some (char.toNat - 48)
  else if 'a' ≤ char ∧ char ≤ 'f' then some (char.toNat - 87)
  else if 'A' ≤ char ∧ char ≤ 'F' then some (char.toNat - 55)
  else none

def hexNumber (digits : List Char) : Option ℕ :=
  digits.foldlM (fun number digit => (hexDigit? digit).map fun value => 16 * number + value) 0

/-- The character of a number. Halves of surrogate pairs are no characters here. -/
def charOf (number : ℕ) : Option Char :=
  if number.isValidChar then some (Char.ofNat number) else none

/-- A number of hexadecimal digits, and what follows them. -/
def readHex (width : ℕ) (text : List Char) : Option (List Char × List Char) :=
  if text.length < width then none
  else ((hexNumber (text.take width)).bind charOf).map fun char => ([char], text.drop width)

def simpleEscape : Char → Option Char
  | '\\' => some '\\'
  | '\'' => some '\''
  | '"' => some '"'
  | 'a' => some '\x07'
  | 'b' => some '\x08'
  | 'f' => some '\x0c'
  | 'n' => some '\n'
  | 'r' => some '\r'
  | 't' => some '\t'
  | 'v' => some '\x0b'
  | _ => none

def isOctal (char : Char) : Bool := decide ('0' ≤ char) && decide (char ≤ '7')

/-- What a backslash begins. A letter that means nothing keeps its backslash. -/
def readEscape (named : List Char → Option Char) : List Char → Option (List Char × List Char)
  | [] => none
  | '\n' :: rest => some ([], rest)
  | 'x' :: rest => readHex 2 rest
  | 'u' :: rest => readHex 4 rest
  | 'U' :: rest => readHex 8 rest
  | 'N' :: rest =>
      match rest, rest.dropWhile (· ≠ '}') with
      | '{' :: name, _ :: behind => (named (name.takeWhile (· ≠ '}'))).map fun char =>
          ([char], behind)
      | _, _ => none
  | char :: rest =>
      match simpleEscape char with
      | some escaped => some ([escaped], rest)
      | none =>
          let octal := ((char :: rest).take 3).takeWhile isOctal
          if octal = [] then some (['\\', char], rest)
          else some ([Char.ofNat (octal.foldl (fun number digit =>
            8 * number + (digit.toNat - 48)) 0)], (char :: rest).drop octal.length)

/-- One unit of a text: an escape, or a byte. -/
def readUnit (named : List Char → Option Char) : List Char → Option (List Char × List Char)
  | [] => none
  | '\\' :: rest => readEscape named rest
  | char :: rest => some ([char], rest)

theorem readHex_shrinks {width : ℕ} {text piece rest : List Char}
    (hread : readHex width text = some (piece, rest)) : rest.length ≤ text.length := by
  unfold readHex at hread
  split at hread
  · cases hread
  · obtain ⟨char, -, heq⟩ := Option.map_eq_some_iff.mp hread
    rw [← (Prod.mk.inj heq).2, List.length_drop]
    omega

theorem readEscape_shrinks {named : List Char → Option Char} {text piece rest : List Char}
    (hread : readEscape named text = some (piece, rest)) : rest.length ≤ text.length := by
  unfold readEscape at hread
  split at hread
  · cases hread
  · cases hread
    simp
  · exact (readHex_shrinks hread).trans (by simp)
  · exact (readHex_shrinks hread).trans (by simp)
  · exact (readHex_shrinks hread).trans (by simp)
  · split at hread
    next name other behind hbrace =>
      obtain ⟨char, -, heq⟩ := Option.map_eq_some_iff.mp hread
      have hlength := (List.dropWhile_sublist (fun char : Char => decide (char ≠ '}'))
        (l := '{' :: name)).length_le
      rw [hbrace, List.length_cons] at hlength
      rw [← (Prod.mk.inj heq).2, List.length_cons]
      omega
    · cases hread
  · split at hread
    · cases hread
      simp
    · dsimp only at hread
      split at hread
      · cases hread
        simp
      · cases hread
        rw [List.length_drop]
        omega

theorem readUnit_shrinks {named : List Char → Option Char} {text piece rest : List Char}
    (hread : readUnit named text = some (piece, rest)) : rest.length < text.length := by
  unfold readUnit at hread
  split at hread
  · cases hread
  · exact Nat.lt_succ_of_le (readEscape_shrinks hread)
  · cases hread
    simp

def unitReader (named : List Char → Option Char) : Framing.Reader Char (List Char) where
  read := readUnit named
  shrinks := readUnit_shrinks

/-- `text.decode("unicode_escape")`, where nothing in the text is refused. -/
def decode (named : List Char → Option Char) (text : List Char) : Option (List Char) :=
  if (unitReader named).leftover text = [] then some ((unitReader named).elements text).flatten
  else none

section Decode

variable {named : List Char → Option Char} {text piece rest : List Char}

theorem decode_nil : decode named [] = some [] := by
  have hread : (unitReader named).read [] = none := rfl
  rw [decode, Framing.Reader.leftover_of_none hread, Framing.Reader.elements_of_none hread]
  rfl

/-- What a unit stands for is put in front of what follows. -/
theorem decode_unit (hread : readUnit named text = some (piece, rest)) :
    decode named text = (decode named rest).map (piece ++ ·) := by
  have hunit : (unitReader named).read text = some (piece, rest) := hread
  unfold decode
  rw [Framing.Reader.leftover_of_some hunit, Framing.Reader.elements_of_some hunit]
  split
  · rfl
  · rfl

/-- Text without a backslash stands for itself. -/
theorem decode_append {plain : List Char} (hplain : ∀ char ∈ plain, char ≠ '\\') :
    decode named (plain ++ rest) = (decode named rest).map (plain ++ ·) := by
  induction plain with
  | nil => simp
  | cons char plain ih =>
      rw [List.forall_mem_cons] at hplain
      have hread : readUnit named (char :: (plain ++ rest)) = some ([char], plain ++ rest) := by
        rw [readUnit]
        · exact hplain.1
      rw [List.cons_append, decode_unit hread, ih hplain.2, Option.map_map]
      rfl

end Decode

end Escapes
