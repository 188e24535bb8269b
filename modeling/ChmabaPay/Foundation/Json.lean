import ChmabaPay.Foundation.Escapes
import ChmabaPay.Foundation.Numerals

/-! # JSON

Values are written without white space and in ASCII alone, where a character beyond it is
one or two escaped halves. The reader takes white space between tokens, and gives back what
was written.
-/

namespace Json

open Escapes Numerals

/-- A number with a fraction or an exponent is kept as it is spelled. -/
inductive Value where
  | null
  | bool (value : Bool)
  | int (value : ℤ)
  | float (token : List Char)
  | text (chars : List Char)
  | array (items : List Value)
  | object (members : List (List Char × Value))

/-- The member of an object under a key, the last one of them. -/
def Value.get? (key : List Char) : Value → Option Value
  | .object members => (members.reverse.find? fun member => decide (member.1 = key)).map Prod.snd
  | _ => none

/-! ## Texts -/

/-- The halves of a character in UTF-16. -/
def utf16 (char : Char) : List ℕ :=
  if char.toNat < 0x10000 then [char.toNat]
  else [0xd800 + (char.toNat - 0x10000) / 0x400, 0xdc00 + (char.toNat - 0x10000) % 0x400]

def isHigh (half : ℕ) : Bool := decide (0xd800 ≤ half) && decide (half < 0xdc00)

def isLow (half : ℕ) : Bool := decide (0xdc00 ≤ half) && decide (half < 0xe000)

/-- Halves put together. A half that stands alone is no character here. -/
def joinHalves : List ℕ → Option (List Char)
  | [] => some []
  | half :: rest =>
      match rest with
      | [] => (charOf half).map fun char => [char]
      | low :: behind =>
          if isHigh half && isLow low then
            (joinHalves behind).map
              (Char.ofNat (0x10000 + (half - 0xd800) * 0x400 + (low - 0xdc00)) :: ·)
          else (charOf half).bind fun char => (joinHalves (low :: behind)).map (char :: ·)

/-- `\uXXXX`. -/
def escapeHalf (half : ℕ) : List Char :=
  ['\\', 'u', Nat.digitChar (half / 0x1000 % 16), Nat.digitChar (half / 0x100 % 16),
    Nat.digitChar (half / 0x10 % 16), Nat.digitChar (half % 16)]

/-- The letters behind a backslash that stand for one character. -/
def shortEscapes : List (Char × Char) :=
  [('"', '"'), ('\\', '\\'), ('n', '\n'), ('r', '\r'), ('t', '\t'), ('f', '\x0c'), ('b', '\x08')]

/-- A character between the quotes of a text. -/
def escape (char : Char) : List Char :=
  match shortEscapes.find? fun short => decide (short.2 = char) with
  | some short => ['\\', short.1]
  | none => if ' ' ≤ char ∧ char ≤ '~' then [char] else (utf16 char).flatMap escapeHalf

def quote (text : List Char) : List Char := '"' :: text.flatMap escape ++ ['"']

/-- What a letter behind a backslash stands for. -/
def unescape (letter : Char) : Option Char :=
  if letter = '/' then some '/'
  else (shortEscapes.find? fun short => decide (short.1 = letter)).map Prod.snd

/-- The halves up to the closing quote, and what follows it. -/
def readHalves : List Char → Option (List ℕ × List Char)
  | [] => none
  | '"' :: rest => some ([], rest)
  | '\\' :: 'u' :: first :: second :: third :: fourth :: rest =>
      (hexNumber [first, second, third, fourth]).bind fun half =>
        (readHalves rest).map fun read => (half :: read.1, read.2)
  | '\\' :: letter :: rest =>
      (unescape letter).bind fun char =>
        (readHalves rest).map fun read => (char.toNat :: read.1, read.2)
  | char :: rest =>
      if char.toNat < 32 ∨ char = '\\' then none
      else (readHalves rest).map fun read => (char.toNat :: read.1, read.2)

/-- The text behind an opening quote. -/
def readText (text : List Char) : Option (List Char × List Char) :=
  (readHalves text).bind fun read => (joinHalves read.1).map fun chars => (chars, read.2)

section Texts

theorem hexDigit?_digitChar : ∀ value < 16, hexDigit? (Nat.digitChar value) = some value := by
  decide

theorem hexNumber_escapeHalf {half : ℕ} (hhalf : half < 0x10000) :
    hexNumber [Nat.digitChar (half / 0x1000 % 16), Nat.digitChar (half / 0x100 % 16),
      Nat.digitChar (half / 0x10 % 16), Nat.digitChar (half % 16)] = some half := by
  simp only [hexNumber, List.foldlM_cons, List.foldlM_nil, Option.bind_eq_bind,
    hexDigit?_digitChar _ (Nat.mod_lt _ (by decide)), Option.map_some, Option.bind_some,
    Option.pure_def]
  congr 1
  omega

theorem readHalves_escapeHalf {half : ℕ} (hhalf : half < 0x10000) (rest : List Char) :
    readHalves (escapeHalf half ++ rest) =
      (readHalves rest).map fun read => (half :: read.1, read.2) := by
  simp only [escapeHalf, List.cons_append, List.nil_append]
  rw [readHalves, hexNumber_escapeHalf hhalf, Option.bind_some]

theorem toNat_lt (char : Char) : char.toNat < 0x110000 := by
  rcases char.valid with hsmall | ⟨-, hlarge⟩
  · exact Nat.lt_trans hsmall (by decide)
  · exact hlarge

theorem utf16_lt (char : Char) : ∀ half ∈ utf16 char, half < 0x10000 := by
  have hlt := toNat_lt char
  unfold utf16
  split
  next hsmall => simpa using hsmall
  next hlarge =>
    simp only [List.forall_mem_cons, List.not_mem_nil, false_imp_iff, implies_true, and_true]
    omega

theorem readHalves_flatMap {halves : List ℕ} (hhalves : ∀ half ∈ halves, half < 0x10000)
    (rest : List Char) :
    readHalves (halves.flatMap escapeHalf ++ rest) =
      (readHalves rest).map fun read => (halves ++ read.1, read.2) := by
  induction halves with
  | nil => simp
  | cons half halves ih =>
      rw [List.forall_mem_cons] at hhalves
      rw [List.flatMap_cons, List.append_assoc, readHalves_escapeHalf hhalves.1, ih hhalves.2,
        Option.map_map]
      rfl

/-- A character that stands for itself between the quotes. -/
theorem readHalves_plain {char : Char} (hplain : 32 ≤ char.toNat) (hquote : char ≠ '"')
    (hslash : char ≠ '\\') (rest : List Char) :
    readHalves (char :: rest) =
      (readHalves rest).map fun read => (char.toNat :: read.1, read.2) := by
  rw [readHalves.eq_def]
  split
  next => simp_all
  next => simp_all
  next => simp_all
  next => simp_all
  next heq =>
    obtain ⟨rfl, rfl⟩ := List.cons.inj heq
    rw [if_neg]
    rintro (hcontrol | hsame)
    · omega
    · exact hslash hsame

theorem readHalves_escape (char : Char) (rest : List Char) :
    readHalves (escape char ++ rest) =
      (readHalves rest).map fun read => (utf16 char ++ read.1, read.2) := by
  unfold escape
  split
  next short hshort =>
    have hmem := List.mem_of_find?_eq_some hshort
    obtain rfl : short.2 = char := by simpa using List.find?_some hshort
    simp only [shortEscapes, List.mem_cons, List.not_mem_nil, or_false] at hmem
    rcases hmem with rfl | rfl | rfl | rfl | rfl | rfl | rfl <;> rfl
  next hnone =>
    split
    next hprinted =>
      have hlow : 32 ≤ char.toNat := hprinted.1
      have hhigh : char.toNat ≤ 126 := hprinted.2
      have hquote : char ≠ '"' := by
        rintro rfl
        exact absurd hnone (by decide)
      have hslash : char ≠ '\\' := by
        rintro rfl
        exact absurd hnone (by decide)
      rw [List.singleton_append, readHalves_plain hlow hquote hslash, utf16,
        if_pos (show char.toNat < 0x10000 by omega)]
      rfl
    next => exact readHalves_flatMap (utf16_lt char) rest

theorem charOf_toNat (char : Char) : charOf char.toNat = some char := by
  rw [charOf, if_pos (show char.toNat.isValidChar from char.valid), Char.ofNat_toNat]

/-- No character is a half. -/
theorem isHigh_toNat (char : Char) : isHigh char.toNat = false := by
  rcases char.valid with hsmall | ⟨hlarge, -⟩
  · have hlow : char.toNat < 0xd800 := hsmall
    simp only [isHigh, Bool.and_eq_false_iff, decide_eq_false_iff_not]
    omega
  · have hhigh : 0xdfff < char.toNat := hlarge
    simp only [isHigh, Bool.and_eq_false_iff, decide_eq_false_iff_not]
    omega

theorem joinHalves_utf16 (char : Char) (halves : List ℕ) :
    joinHalves (utf16 char ++ halves) = (joinHalves halves).map (char :: ·) := by
  have hlt := toNat_lt char
  unfold utf16
  split
  next hsmall =>
    cases halves with
    | nil => simp [joinHalves, charOf_toNat]
    | cons low behind => simp [joinHalves, isHigh_toNat, charOf_toNat]
  next hlarge =>
    have hhigh : isHigh (0xd800 + (char.toNat - 0x10000) / 0x400) = true := by
      simp only [isHigh, Bool.and_eq_true, decide_eq_true_eq]
      omega
    have hlow : isLow (0xdc00 + (char.toNat - 0x10000) % 0x400) = true := by
      simp only [isLow, Bool.and_eq_true, decide_eq_true_eq]
      omega
    have hnumber : 0x10000 + (0xd800 + (char.toNat - 0x10000) / 0x400 - 0xd800) * 0x400 +
        (0xdc00 + (char.toNat - 0x10000) % 0x400 - 0xdc00) = char.toNat := by
      omega
    rw [List.cons_append, List.singleton_append, joinHalves, hhigh, hlow, hnumber,
      Char.ofNat_toNat]
    rfl

/-- A text is read back, with what follows its closing quote. -/
theorem readText_flatMap (text rest : List Char) :
    readText (text.flatMap escape ++ '"' :: rest) = some (text, rest) := by
  have hhalves : readHalves (text.flatMap escape ++ '"' :: rest) =
      some (text.flatMap utf16, rest) := by
    induction text with
    | nil => rfl
    | cons char text ih =>
        rw [List.flatMap_cons, List.append_assoc, readHalves_escape, ih]
        rfl
  have hjoin : joinHalves (text.flatMap utf16) = some text := by
    clear hhalves
    induction text with
    | nil => rfl
    | cons char text ih => rw [List.flatMap_cons, joinHalves_utf16, ih, Option.map_some]
  rw [readText, hhalves, Option.bind_some, hjoin, Option.map_some]

end Texts

/-! ## Numbers -/

def printInt (value : ℤ) : List Char :=
  if value < 0 then '-' :: Nat.toDigits 10 value.natAbs else Nat.toDigits 10 value.natAbs

/-- The digits behind a point, with the point. -/
def takeFraction : List Char → List Char
  | '.' :: rest =>
      match rest.takeWhile Char.isDigit with
      | [] => []
      | digits => '.' :: digits
  | _ => []

/-- The digits behind an `e`, with it and their sign. -/
def takeExponent : List Char → List Char
  | mark :: rest =>
      if mark = 'e' ∨ mark = 'E' then
        let sign := rest.take 1 |>.filter fun char => char = '+' || char = '-'
        match (rest.drop sign.length).takeWhile Char.isDigit with
        | [] => []
        | digits => mark :: sign ++ digits
      else []
  | [] => []

/-- The digits in front of the point. A zero stands alone. -/
def takeWhole : List Char → List Char
  | '0' :: _ => ['0']
  | text => text.takeWhile Char.isDigit

def readNumber (text : List Char) : Option (Value × List Char) :=
  let sign := text.take 1 |>.filter fun char => char = '-'
  let body := text.drop sign.length
  let whole := takeWhole body
  let fraction := takeFraction (body.drop whole.length)
  let exponent := takeExponent ((body.drop whole.length).drop fraction.length)
  let rest := ((body.drop whole.length).drop fraction.length).drop exponent.length
  if whole = [] then none
  else if fraction = [] ∧ exponent = [] then
    (natural? whole).map fun number : ℕ =>
      (.int (if sign = [] then (number : ℤ) else -(number : ℤ)), rest)
  else some (.float (sign ++ whole ++ fraction ++ exponent), rest)

section Numbers

/-- What may follow a printed value. -/
def Delimited (rest : List Char) : Prop := ∀ char ∈ rest.head?, char = ',' ∨ char = ']' ∨ char = '}'

/-- A positive number is not printed with a zero in front. -/
theorem head?_toDigits {number : ℕ} (hpos : 0 < number) :
    (Nat.toDigits 10 number).head? ≠ some '0' := by
  induction number using Nat.strong_induction_on with
  | _ number ih =>
      rcases Nat.lt_or_ge number 10 with hsmall | hlarge
      · rw [Nat.toDigits_of_lt_base hsmall]
        interval_cases number <;> decide
      · rw [Nat.toDigits_of_base_le (by decide) hlarge,
          List.head?_append_of_ne_nil _ Nat.toDigits_ne_nil]
        exact ih (number / 10) (by omega) (by omega)

theorem takeWhile_digits {digits rest : List Char}
    (hdigits : ∀ digit ∈ digits, digit.isDigit = true) (hrest : Delimited rest) :
    (digits ++ rest).takeWhile Char.isDigit = digits := by
  have hstop : rest.takeWhile Char.isDigit = [] := by
    cases rest with
    | nil => rfl
    | cons char rest =>
        rw [List.takeWhile_cons_of_neg]
        rcases hrest char rfl with rfl | rfl | rfl <;> decide
  rw [List.takeWhile_append_of_pos hdigits, hstop, List.append_nil]

theorem takeWhole_toDigits (number : ℕ) {rest : List Char} (hrest : Delimited rest) :
    takeWhole (Nat.toDigits 10 number ++ rest) = Nat.toDigits 10 number := by
  rcases Nat.eq_zero_or_pos number with rfl | hpos
  · rw [Nat.toDigits_zero]
    rfl
  · have hhead := head?_toDigits hpos
    unfold takeWhole
    split
    next heq =>
      obtain ⟨digit, digits, hdigits⟩ := List.exists_cons_of_ne_nil (@Nat.toDigits_ne_nil number 10)
      rw [hdigits] at heq hhead
      obtain ⟨rfl, -⟩ := List.cons.inj heq
      exact absurd rfl hhead
    next => exact takeWhile_digits (all_isDigit_toDigits number) hrest

theorem takeFraction_delimited {rest : List Char} (hrest : Delimited rest) :
    takeFraction rest = [] := by
  unfold takeFraction
  split
  next => simpa using hrest '.' rfl
  next => rfl

theorem takeExponent_delimited {rest : List Char} (hrest : Delimited rest) :
    takeExponent rest = [] := by
  unfold takeExponent
  split
  next mark _ =>
    rw [if_neg]
    rcases hrest mark rfl with rfl | rfl | rfl <;> decide
  next => rfl

/-- A printed number is read back. -/
theorem readNumber_printInt (value : ℤ) {rest : List Char} (hrest : Delimited rest) :
    readNumber (printInt value ++ rest) = some (.int value, rest) := by
  have hne : Nat.toDigits 10 value.natAbs ≠ [] := Nat.toDigits_ne_nil
  have hfirst : ((Nat.toDigits 10 value.natAbs ++ rest).take 1).filter
      (fun char => char = '-') = [] := by
    obtain ⟨digit, digits, hdigits⟩ := List.exists_cons_of_ne_nil hne
    have hdigit : digit.isDigit = true :=
      all_isDigit_toDigits value.natAbs digit (by simp [hdigits])
    rw [hdigits, List.cons_append, List.take_succ_cons, List.take_zero, List.filter_cons_of_neg]
    · rfl
    · intro hminus
      rw [of_decide_eq_true hminus] at hdigit
      exact absurd hdigit (by decide)
  have hread (sign : List Char)
      (htext : ((sign ++ (Nat.toDigits 10 value.natAbs ++ rest)).take 1).filter
        (fun char => char = '-') = sign) :
      readNumber (sign ++ (Nat.toDigits 10 value.natAbs ++ rest)) =
        some (.int (if sign = [] then (value.natAbs : ℤ) else -value.natAbs), rest) := by
    simp only [readNumber, htext, List.drop_left, takeWhole_toDigits _ hrest,
      takeFraction_delimited hrest, List.length_nil, List.drop_zero,
      takeExponent_delimited hrest, hne, if_false, and_self, if_true, natural?_toDigits,
      Option.map_some]
  unfold printInt
  split
  next hneg =>
    refine (hread ['-'] rfl).trans ?_
    rw [if_neg (by decide), Int.ofNat_natAbs_of_nonpos hneg.le, neg_neg]
  next hnonneg =>
    refine (hread [] hfirst).trans ?_
    rw [if_pos rfl, Int.natAbs_of_nonneg (not_lt.mp hnonneg)]

end Numbers

/-! ## Values -/

mutual

def print : Value → List Char
  | .null => "null".toList
  | .bool true => "true".toList
  | .bool false => "false".toList
  | .int value => printInt value
  | .float token => token
  | .text chars => quote chars
  | .array items => '[' :: printItems items ++ [']']
  | .object members => '{' :: printMembers members ++ ['}']

def printItems : List Value → List Char
  | [] => []
  | [item] => print item
  | item :: next :: rest => print item ++ ',' :: printItems (next :: rest)

def printMembers : List (List Char × Value) → List Char
  | [] => []
  | [(key, value)] => quote key ++ ':' :: print value
  | (key, value) :: next :: rest =>
      quote key ++ ':' :: (print value ++ ',' :: printMembers (next :: rest))

end

def isSpace (char : Char) : Bool := char = ' ' || char = '\t' || char = '\n' || char = '\r'

def skip (text : List Char) : List Char := text.dropWhile isSpace

/-- The words that are values. -/
def readWord (text : List Char) : Option (Value × List Char) :=
  let words : List (String × Value) :=
    [("null", .null), ("true", .bool true), ("false", .bool false), ("NaN", .float "NaN".toList),
      ("Infinity", .float "Infinity".toList), ("-Infinity", .float "-Infinity".toList)]
  (words.find? fun word => word.1.toList.isPrefixOf text).map fun word =>
    (word.2, text.drop word.1.toList.length)

mutual

def readValue : ℕ → List Char → Option (Value × List Char)
  | 0, _ => none
  | fuel + 1, text =>
      match text with
      | '"' :: rest => (readText rest).map fun read => (.text read.1, read.2)
      | '[' :: rest =>
          match skip rest with
          | ']' :: rest => some (.array [], rest)
          | rest => (readItems fuel rest).map fun read => (.array read.1, read.2)
      | '{' :: rest =>
          match skip rest with
          | '}' :: rest => some (.object [], rest)
          | rest => (readMembers fuel rest).map fun read => (.object read.1, read.2)
      | text => (readWord text).or (readNumber text)

def readItems : ℕ → List Char → Option (List Value × List Char)
  | 0, _ => none
  | fuel + 1, text => do
      let (item, rest) ← readValue fuel text
      match skip rest with
      | ']' :: rest => return ([item], rest)
      | ',' :: rest =>
          let (items, rest) ← readItems fuel (skip rest)
          return (item :: items, rest)
      | _ => none

def readMembers : ℕ → List Char → Option (List (List Char × Value) × List Char)
  | 0, _ => none
  | fuel + 1, text =>
      match text with
      | '"' :: rest => do
          let (key, rest) ← readText rest
          match skip rest with
          | ':' :: rest =>
              let (value, rest) ← readValue fuel (skip rest)
              match skip rest with
              | '}' :: rest => return ([(key, value)], rest)
              | ',' :: rest =>
                  let (members, rest) ← readMembers fuel (skip rest)
                  return ((key, value) :: members, rest)
              | _ => none
          | _ => none
      | _ => none

end

/-- A text that is one value. -/
def loads (text : List Char) : Option Value := do
  let (value, rest) ← readValue (text.length + 1) (skip text)
  if skip rest = [] then return value else none

/-! ## Reading back -/

mutual

/-- A value with no fractions and no exponents in it. -/
def Value.Plain : Value → Prop
  | .float _ => False
  | .array items => PlainItems items
  | .object members => PlainMembers members
  | _ => True

def PlainItems : List Value → Prop
  | [] => True
  | item :: rest => item.Plain ∧ PlainItems rest

def PlainMembers : List (List Char × Value) → Prop
  | [] => True
  | member :: rest => member.2.Plain ∧ PlainMembers rest

end

/-- What a printed value begins with. -/
def Begins (text : List Char) : Prop :=
  ∃ char rest, text = char :: rest ∧ isSpace char = false ∧ char ≠ ']' ∧ char ≠ '}'

theorem Begins.append {text : List Char} (hbegins : Begins text) (rest : List Char) :
    Begins (text ++ rest) := by
  obtain ⟨char, behind, rfl, hspace, hsquare, hcurly⟩ := hbegins
  exact ⟨char, behind ++ rest, rfl, hspace, hsquare, hcurly⟩

theorem Begins.skip {text : List Char} (hbegins : Begins text) : skip text = text := by
  obtain ⟨char, behind, rfl, hspace, -, -⟩ := hbegins
  exact List.dropWhile_cons_of_neg (by simp [hspace])

theorem skip_of_delimited {rest : List Char} (hrest : Delimited rest) : skip rest = rest := by
  cases rest with
  | nil => rfl
  | cons char rest =>
      apply List.dropWhile_cons_of_neg
      rcases hrest char rfl with rfl | rfl | rfl <;> decide

theorem delimited_comma (rest : List Char) : Delimited (',' :: rest) := by
  simp [Delimited]

theorem delimited_square (rest : List Char) : Delimited (']' :: rest) := by
  simp [Delimited]

theorem delimited_curly (rest : List Char) : Delimited ('}' :: rest) := by
  simp [Delimited]

/-- A number begins with a digit, or with a sign and a digit. -/
theorem printInt_shape (value : ℤ) :
    ∃ digit digits, digit.isDigit = true ∧
      (printInt value = digit :: digits ∨ printInt value = '-' :: digit :: digits) := by
  obtain ⟨digit, digits, hdigits⟩ :=
    List.exists_cons_of_ne_nil (@Nat.toDigits_ne_nil value.natAbs 10)
  have hdigit : digit.isDigit = true :=
    all_isDigit_toDigits value.natAbs digit (hdigits ▸ List.mem_cons_self)
  refine ⟨digit, digits, hdigit, ?_⟩
  unfold printInt
  split
  next => exact Or.inr (by rw [hdigits])
  next => exact Or.inl hdigits

theorem ne_of_isDigit {digit other : Char} (hdigit : digit.isDigit = true)
    (hother : other.isDigit = false) : digit ≠ other := by
  rintro rfl
  rw [hdigit] at hother
  cases hother

theorem begins_printInt (value : ℤ) : Begins (printInt value) := by
  obtain ⟨digit, digits, hdigit, heq | heq⟩ := printInt_shape value
  · refine ⟨digit, digits, heq, ?_, ne_of_isDigit hdigit (by decide),
      ne_of_isDigit hdigit (by decide)⟩
    simp [isSpace, ne_of_isDigit hdigit]
  · exact ⟨'-', digit :: digits, heq, by decide, by decide, by decide⟩

theorem begins_print {value : Value} (hplain : value.Plain) : Begins (print value) := by
  cases value with
  | null => exact ⟨_, _, rfl, by decide, by decide, by decide⟩
  | bool value => cases value <;> exact ⟨_, _, rfl, by decide, by decide, by decide⟩
  | int value => simpa only [print] using begins_printInt value
  | float token => simp [Value.Plain] at hplain
  | text chars => exact ⟨_, _, rfl, by decide, by decide, by decide⟩
  | array items => exact ⟨_, _, rfl, by decide, by decide, by decide⟩
  | object members => exact ⟨_, _, rfl, by decide, by decide, by decide⟩

/-- No word is the beginning of a number. -/
theorem readWord_printInt (value : ℤ) (rest : List Char) :
    readWord (printInt value ++ rest) = none := by
  obtain ⟨digit, digits, hdigit, heq | heq⟩ := printInt_shape value
  · have hne (letter : Char) (hletter : letter.isDigit = false) : letter ≠ digit :=
      (ne_of_isDigit hdigit hletter).symm
    simp [readWord, heq, hne]
  · have hne : 'I' ≠ digit := (ne_of_isDigit hdigit (by decide)).symm
    simp [readWord, heq, hne]

/-- A value that is no text, array or object is a word or a number. -/
theorem readValue_other (fuel : ℕ) {char : Char} (hquote : char ≠ '"') (hsquare : char ≠ '[')
    (hcurly : char ≠ '{') (rest : List Char) :
    readValue (fuel + 1) (char :: rest) =
      (readWord (char :: rest)).or (readNumber (char :: rest)) := by
  rw [readValue.eq_def]
  split
  next => simp_all
  next =>
    split <;> simp_all

theorem readValue_printInt (fuel : ℕ) (value : ℤ) {rest : List Char} (hrest : Delimited rest) :
    readValue (fuel + 1) (printInt value ++ rest) = some (.int value, rest) := by
  have hread : (readWord (printInt value ++ rest)).or (readNumber (printInt value ++ rest)) =
      some (.int value, rest) := by
    rw [readWord_printInt, readNumber_printInt value hrest, Option.none_or]
  obtain ⟨digit, digits, hdigit, heq | heq⟩ := printInt_shape value
  · rw [heq, List.cons_append] at hread ⊢
    rw [readValue_other fuel (ne_of_isDigit hdigit (by decide)) (ne_of_isDigit hdigit (by decide))
      (ne_of_isDigit hdigit (by decide)), hread]
  · rw [heq, List.cons_append] at hread ⊢
    exact hread

/-- Square brackets that do not close at once hold items. -/
theorem readValue_array (fuel : ℕ) {text : List Char} (hbegins : Begins text) :
    readValue (fuel + 1) ('[' :: text) =
      (readItems fuel text).map fun read => (.array read.1, read.2) := by
  have hskip := hbegins.skip
  obtain ⟨char, behind, rfl, hspace, hsquare, -⟩ := hbegins
  rw [readValue, hskip]
  split
  next heq => exact absurd (List.cons.inj heq).1 hsquare
  next => rfl

theorem readValue_object (fuel : ℕ) {text : List Char} (hbegins : Begins text) :
    readValue (fuel + 1) ('{' :: text) =
      (readMembers fuel text).map fun read => (.object read.1, read.2) := by
  have hskip := hbegins.skip
  obtain ⟨char, behind, rfl, hspace, -, hcurly⟩ := hbegins
  rw [readValue, hskip]
  split
  next heq => exact absurd (List.cons.inj heq).1 hcurly
  next => rfl

theorem begins_printItems {item : Value} {rest : List Value} (hplain : item.Plain) :
    Begins (printItems (item :: rest)) := by
  cases rest with
  | nil => exact begins_print hplain
  | cons next rest => exact (begins_print hplain).append _

theorem begins_printMembers (member : List Char × Value) (rest : List (List Char × Value)) :
    Begins (printMembers (member :: rest)) := by
  cases rest with
  | nil => exact ⟨_, _, rfl, by decide, by decide, by decide⟩
  | cons next rest => exact ⟨_, _, rfl, by decide, by decide, by decide⟩

theorem readItems_last {fuel : ℕ} {text rest : List Char} {item : Value}
    (hread : readValue fuel text = some (item, ']' :: rest)) :
    readItems (fuel + 1) text = some ([item], rest) := by
  simp [readItems, hread, skip_of_delimited (delimited_square rest)]

theorem readItems_more {fuel : ℕ} {text behind : List Char} {item : Value}
    (hread : readValue fuel text = some (item, ',' :: behind)) (hbegins : Begins behind) :
    readItems (fuel + 1) text =
      (readItems fuel behind).map fun read => (item :: read.1, read.2) := by
  simp only [readItems, hread, Option.bind_eq_bind, Option.bind_some,
    skip_of_delimited (delimited_comma behind), hbegins.skip, Option.map_eq_bind]
  rfl

/-- A member's value, behind its key. -/
theorem readMembers_last {fuel : ℕ} {key text rest : List Char} {value : Value}
    (hbegins : Begins text) (hread : readValue fuel text = some (value, '}' :: rest)) :
    readMembers (fuel + 1) (quote key ++ ':' :: text) = some ([(key, value)], rest) := by
  have hskip : skip (':' :: text) = ':' :: text := rfl
  simp [readMembers, quote, readText_flatMap, hskip, hbegins.skip, hread,
    skip_of_delimited (delimited_curly rest)]

theorem readMembers_more {fuel : ℕ} {key text behind : List Char} {value : Value}
    (hbegins : Begins text) (hread : readValue fuel text = some (value, ',' :: behind))
    (hbehind : Begins behind) :
    readMembers (fuel + 1) (quote key ++ ':' :: text) =
      (readMembers fuel behind).map fun read => ((key, value) :: read.1, read.2) := by
  have hskip : skip (':' :: text) = ':' :: text := rfl
  simp only [readMembers, quote, List.cons_append, List.append_assoc, List.nil_append,
    readText_flatMap, Option.bind_eq_bind, Option.bind_some, hskip, hbegins.skip, hread,
    skip_of_delimited (delimited_comma behind), hbehind.skip, Option.map_eq_bind]
  rfl

mutual

/-- A printed value is read back, with what follows it. -/
theorem readValue_print : ∀ (value : Value) {fuel : ℕ} {rest : List Char}, value.Plain →
    (print value).length < fuel → Delimited rest →
      readValue fuel (print value ++ rest) = some (value, rest)
  | value, 0, _, _, hfuel, _ => absurd hfuel (Nat.not_lt_zero _)
  | .null, fuel + 1, rest, _, _, _ => by simp [print, readValue, readWord]
  | .bool true, fuel + 1, rest, _, _, _ => by simp [print, readValue, readWord]
  | .bool false, fuel + 1, rest, _, _, _ => by simp [print, readValue, readWord]
  | .int value, fuel + 1, rest, _, _, hrest => by
      simpa only [print] using readValue_printInt fuel value hrest
  | .float token, fuel + 1, rest, hplain, _, _ => by simp [Value.Plain] at hplain
  | .text chars, fuel + 1, rest, _, _, _ => by
      simp [print, quote, readValue, readText_flatMap]
  | .array [], fuel + 1, rest, _, _, _ => by simp [print, printItems, readValue, skip, isSpace]
  | .array (item :: items), fuel + 1, rest, hplain, hfuel, _ => by
      have hitems : readItems fuel (printItems (item :: items) ++ ']' :: rest) =
          some (item :: items, rest) :=
        readItems_printItems (item :: items) (List.cons_ne_nil _ _) hplain
          (by simp [print] at hfuel; omega)
      rw [print, List.append_assoc, List.cons_append, List.singleton_append,
        readValue_array fuel ((begins_printItems hplain.1).append _), hitems, Option.map_some]
  | .object [], fuel + 1, rest, _, _, _ => by simp [print, printMembers, readValue, skip, isSpace]
  | .object (member :: members), fuel + 1, rest, hplain, hfuel, _ => by
      have hmembers : readMembers fuel (printMembers (member :: members) ++ '}' :: rest) =
          some (member :: members, rest) :=
        readMembers_printMembers (member :: members) (List.cons_ne_nil _ _) hplain
          (by simp [print] at hfuel; omega)
      rw [print, List.append_assoc, List.cons_append, List.singleton_append,
        readValue_object fuel ((begins_printMembers member members).append _), hmembers,
        Option.map_some]

theorem readItems_printItems : ∀ (items : List Value) {fuel : ℕ} {rest : List Char}, items ≠ [] →
    PlainItems items → (printItems items).length + 1 < fuel →
      readItems fuel (printItems items ++ ']' :: rest) = some (items, rest)
  | [], _, _, hne, _, _ => absurd rfl hne
  | _ :: _, 0, _, _, _, hfuel => absurd hfuel (Nat.not_lt_zero _)
  | [item], fuel + 1, rest, _, hplain, hfuel => by
      rw [printItems] at hfuel ⊢
      exact readItems_last (readValue_print item hplain.1 (by omega) (delimited_square rest))
  | item :: next :: items, fuel + 1, rest, _, hplain, hfuel => by
      rw [printItems] at hfuel ⊢
      simp only [List.length_append, List.length_cons] at hfuel
      rw [List.append_assoc, List.cons_append,
        readItems_more (readValue_print item hplain.1 (by omega) (delimited_comma _))
          ((begins_printItems hplain.2.1).append _),
        readItems_printItems (next :: items) (List.cons_ne_nil _ _) hplain.2 (by omega),
        Option.map_some]

theorem readMembers_printMembers : ∀ (members : List (List Char × Value)) {fuel : ℕ}
    {rest : List Char}, members ≠ [] → PlainMembers members →
      (printMembers members).length + 1 < fuel →
      readMembers fuel (printMembers members ++ '}' :: rest) = some (members, rest)
  | [], _, _, hne, _, _ => absurd rfl hne
  | _ :: _, 0, _, _, _, hfuel => absurd hfuel (Nat.not_lt_zero _)
  | [(key, value)], fuel + 1, rest, _, hplain, hfuel => by
      rw [printMembers] at hfuel ⊢
      simp only [List.length_append, List.length_cons] at hfuel
      rw [List.append_assoc, List.cons_append]
      exact readMembers_last ((begins_print hplain.1).append _)
        (readValue_print value hplain.1 (by omega) (delimited_curly rest))
  | (key, value) :: next :: members, fuel + 1, rest, _, hplain, hfuel => by
      rw [printMembers] at hfuel ⊢
      simp only [List.length_append, List.length_cons] at hfuel
      rw [List.append_assoc, List.cons_append, List.append_assoc, List.cons_append,
        readMembers_more ((begins_print hplain.1).append _)
          (readValue_print value hplain.1 (by omega) (delimited_comma _))
          ((begins_printMembers next members).append _),
        readMembers_printMembers (next :: members) (List.cons_ne_nil _ _) hplain.2 (by omega),
        Option.map_some]

end

/-- Loading gives back what was printed. -/
theorem loads_print {value : Value} (hplain : value.Plain) : loads (print value) = some value := by
  have hread : readValue ((print value).length + 1) (print value ++ []) = some (value, []) :=
    readValue_print value hplain (by omega) (by simp [Delimited])
  rw [List.append_nil] at hread
  rw [loads, (begins_print hplain).skip, hread]
  rfl

/-! ## What is written is ASCII -/

/-- A character the writer uses. -/
def Printed (char : Char) : Prop := 32 ≤ char.toNat ∧ char.toNat < 127

instance (char : Char) : Decidable (Printed char) :=
  inferInstanceAs (Decidable (32 ≤ char.toNat ∧ char.toNat < 127))

theorem printed_of_all {text : List Char}
    (hall : (text.all fun letter => decide (Printed letter)) = true) :
    ∀ letter ∈ text, Printed letter := fun letter hletter =>
  of_decide_eq_true (List.all_eq_true.mp hall letter hletter)

theorem printed_digitChar : ∀ value < 16, Printed (Nat.digitChar value) := by decide

theorem printed_of_isDigit {digit : Char} (hdigit : digit.isDigit = true) : Printed digit := by
  have hrange : '0'.val ≤ digit.val ∧ digit.val ≤ '9'.val := by
    simpa only [Char.isDigit, Bool.and_eq_true, decide_eq_true_eq] using hdigit
  have hlow : 48 ≤ digit.toNat := hrange.1
  have hhigh : digit.toNat ≤ 57 := hrange.2
  exact ⟨by omega, by omega⟩

theorem printed_escape (char : Char) : ∀ letter ∈ escape char, Printed letter := by
  unfold escape
  split
  next short hshort =>
    have hmem := List.mem_of_find?_eq_some hshort
    have hletters : (shortEscapes.all fun short =>
        ['\\', short.1].all fun letter => decide (Printed letter)) = true := by decide
    exact printed_of_all (List.all_eq_true.mp hletters short hmem)
  next =>
    split
    next hprinted =>
      have hlow : 32 ≤ char.toNat := hprinted.1
      have hhigh : char.toNat ≤ 126 := hprinted.2
      intro letter hletter
      rw [List.mem_singleton.mp hletter]
      exact ⟨hlow, by omega⟩
    next =>
      intro letter hletter
      obtain ⟨half, -, hhalf⟩ := List.mem_flatMap.mp hletter
      simp only [escapeHalf, List.mem_cons, List.not_mem_nil, or_false] at hhalf
      rcases hhalf with rfl | rfl | rfl | rfl | rfl | rfl
      · decide
      · decide
      all_goals exact printed_digitChar _ (Nat.mod_lt _ (by decide))

theorem printed_quote (text : List Char) : ∀ letter ∈ quote text, Printed letter := by
  intro letter hletter
  rcases List.mem_append.mp hletter with hletter | hletter
  · rcases List.mem_cons.mp hletter with rfl | hletter
    · decide
    · obtain ⟨char, -, hchar⟩ := List.mem_flatMap.mp hletter
      exact printed_escape char letter hchar
  · rw [List.mem_singleton.mp hletter]
    decide

theorem printed_printInt (value : ℤ) : ∀ letter ∈ printInt value, Printed letter := by
  have hdigits : ∀ digit ∈ Nat.toDigits 10 value.natAbs, Printed digit := fun digit hdigit =>
    printed_of_isDigit (all_isDigit_toDigits _ digit hdigit)
  unfold printInt
  split
  next => exact List.forall_mem_cons.mpr ⟨by decide, hdigits⟩
  next => exact hdigits

theorem printed_append {first second : List Char} (hfirst : ∀ letter ∈ first, Printed letter)
    (hsecond : ∀ letter ∈ second, Printed letter) :
    ∀ letter ∈ first ++ second, Printed letter := fun letter hletter =>
  (List.mem_append.mp hletter).elim (hfirst letter) (hsecond letter)

theorem printed_cons {char : Char} {text : List Char} (hchar : Printed char)
    (htext : ∀ letter ∈ text, Printed letter) : ∀ letter ∈ char :: text, Printed letter :=
  List.forall_mem_cons.mpr ⟨hchar, htext⟩

mutual

/-- Without fractions, everything written is ASCII. -/
theorem printed_print : ∀ value : Value, value.Plain → ∀ letter ∈ print value, Printed letter
  | .null, _ => printed_of_all (by decide)
  | .bool true, _ => printed_of_all (by decide)
  | .bool false, _ => printed_of_all (by decide)
  | .int value, _ => printed_printInt value
  | .float token, hplain => by simp [Value.Plain] at hplain
  | .text chars, _ => printed_quote chars
  | .array items, hplain =>
      printed_cons (by decide)
        (printed_append (printed_printItems items hplain) (printed_of_all (by decide)))
  | .object members, hplain =>
      printed_cons (by decide)
        (printed_append (printed_printMembers members hplain) (printed_of_all (by decide)))

theorem printed_printItems :
    ∀ items : List Value, PlainItems items → ∀ letter ∈ printItems items, Printed letter
  | [], _ => by simp [printItems]
  | [item], hplain => printed_print item hplain.1
  | item :: next :: rest, hplain =>
      printed_append (printed_print item hplain.1)
        (printed_cons (by decide) (printed_printItems (next :: rest) hplain.2))

theorem printed_printMembers : ∀ members : List (List Char × Value), PlainMembers members →
    ∀ letter ∈ printMembers members, Printed letter
  | [], _ => by simp [printMembers]
  | [(key, value)], hplain =>
      printed_append (printed_quote key) (printed_cons (by decide) (printed_print value hplain.1))
  | (key, value) :: next :: rest, hplain =>
      printed_append (printed_quote key) (printed_cons (by decide)
        (printed_append (printed_print value hplain.1)
          (printed_cons (by decide) (printed_printMembers (next :: rest) hplain.2))))

end

end Json
