import ChmabaPay.Services.PaywayParser
import Mathlib.Data.Bool.AllAny
import Mathlib.Data.List.Infix

/-! # String arguments

Which texts come through as an argument of the page. The parser takes the backslashes from
quotes and apostrophes first and reads the other escapes byte by byte, so an apostrophe
behind a backslash loses it, and a character outside ASCII comes out as its bytes.
-/

namespace ChmabaPay

open Escapes

/-! ## Characters of a literal -/

/-- A character of a literal once the quotes have lost their backslashes. -/
def escapeUnquoted (char : Char) : List Char := if char = '"' then ['"'] else jsonEscape char

theorem jsonEscape_of_le {char : Char} (hplain : 32 ≤ char.toNat) (hquote : char ≠ '"')
    (hslash : char ≠ '\\') : jsonEscape char = [char] := by
  have hne : ∀ control : Char, control.toNat < 32 → char ≠ control := by
    intro control hcontrol heq
    rw [heq] at hplain
    omega
  rw [jsonEscape, if_neg hquote, if_neg hslash, if_neg (hne _ (by decide)),
    if_neg (hne _ (by decide)), if_neg (hne _ (by decide)), if_neg (hne _ (by decide)),
    if_neg (hne _ (by decide)), if_neg (Nat.not_lt.mpr hplain)]

/-- A letter and digits of an escape, which no replacement touches. -/
structure Spells (letters : List Char) (char : Char) : Prop where
  ascii : ∀ letter ∈ letters, letter.toNat < 128
  plain : ∀ letter ∈ letters, letter ≠ '\\'
  quote : letters.head? ≠ some '"'
  apostrophe : letters.head? ≠ some '\''
  read : ∀ named rest, readUnit named ('\\' :: letters ++ rest) = some ([char], rest)

theorem readHex_control {char : Char} (hcontrol : char.toNat < 32) (rest : List Char) :
    readHex 4 (['0', '0', Nat.digitChar (char.toNat / 16), Nat.digitChar (char.toNat % 16)] ++ rest)
      = some ([char], rest) := by
  have hnumber : ∀ number < 32,
      (hexNumber ['0', '0', Nat.digitChar (number / 16), Nat.digitChar (number % 16)]).bind charOf =
        some (Char.ofNat number) := by
    decide
  have hlong : ¬ (['0', '0', Nat.digitChar (char.toNat / 16), Nat.digitChar (char.toNat % 16)]
      ++ rest).length < 4 := by
    rw [List.length_append]
    simp
  have htaken := hnumber char.toNat hcontrol
  rw [char.ofNat_toNat] at htaken
  rw [readHex, if_neg hlong]
  exact congrArg (Option.map fun char => ([char], rest)) htaken

theorem jsonEscape_control {char : Char} (hcontrol : char.toNat < 32) :
    ∃ letters, jsonEscape char = '\\' :: letters ∧ Spells letters char := by
  have hquote : char ≠ '"' := by
    rintro rfl
    revert hcontrol
    decide
  have hslash : char ≠ '\\' := by
    rintro rfl
    revert hcontrol
    decide
  by_cases hshort : char ∈ ['\x08', '\x0c', '\n', '\r', '\t']
  · simp only [List.mem_cons, List.not_mem_nil, or_false] at hshort
    rcases hshort with rfl | rfl | rfl | rfl | rfl
    · exact ⟨['b'], rfl, by simp, by simp, by simp, by simp, fun _ _ => rfl⟩
    · exact ⟨['f'], rfl, by simp, by simp, by simp, by simp, fun _ _ => rfl⟩
    · exact ⟨['n'], rfl, by simp, by simp, by simp, by simp, fun _ _ => rfl⟩
    · exact ⟨['r'], rfl, by simp, by simp, by simp, by simp, fun _ _ => rfl⟩
    · exact ⟨['t'], rfl, by simp, by simp, by simp, by simp, fun _ _ => rfl⟩
  · simp only [List.mem_cons, List.not_mem_nil, or_false, not_or] at hshort
    obtain ⟨hb, hf, hn, hr, ht⟩ := hshort
    have hdigits : ∀ number < 32, ∀ letter ∈ ['u', '0', '0', Nat.digitChar (number / 16),
        Nat.digitChar (number % 16)], letter.toNat < 128 ∧ letter ≠ '\\' := by
      intro number hnumber
      refine List.all_iff_forall_prop.mp ?_
      revert number
      decide
    refine ⟨['u', '0', '0', Nat.digitChar (char.toNat / 16), Nat.digitChar (char.toNat % 16)],
      ?_, ?_, ?_, ?_, ?_, ?_⟩
    · rw [jsonEscape, if_neg hquote, if_neg hslash, if_neg hb, if_neg hf, if_neg hn, if_neg hr,
        if_neg ht, if_pos hcontrol]
    · exact fun letter hletter => (hdigits _ hcontrol letter hletter).1
    · exact fun letter hletter => (hdigits _ hcontrol letter hletter).2
    · simp
    · simp
    · exact fun named rest => readHex_control hcontrol rest

/-- The characters of a literal are of four kinds. -/
theorem char_kinds (char : Char) :
    char = '"' ∨ char = '\\' ∨
      (char ≠ '"' ∧ ∃ letters, jsonEscape char = '\\' :: letters ∧ Spells letters char) ∨
      (char ≠ '"' ∧ char ≠ '\\' ∧ jsonEscape char = [char]) := by
  by_cases hquote : char = '"'
  · exact .inl hquote
  by_cases hslash : char = '\\'
  · exact .inr (.inl hslash)
  by_cases hcontrol : char.toNat < 32
  · exact .inr (.inr (.inl ⟨hquote, jsonEscape_control hcontrol⟩))
  · exact .inr (.inr (.inr ⟨hquote, hslash,
      jsonEscape_of_le (Nat.not_lt.mp hcontrol) hquote hslash⟩))

/-! ## Replacements -/

theorem replaceQuotes_literal (text : List Char) :
    replacePair '\\' '"' '"' (text.flatMap jsonEscape) = text.flatMap escapeUnquoted ∧
      (text.flatMap jsonEscape).head? ≠ some '"' := by
  induction text with
  | nil => exact ⟨rfl, by simp⟩
  | cons char text ih =>
      rw [List.flatMap_cons, List.flatMap_cons, escapeUnquoted]
      rcases char_kinds char with rfl | rfl | ⟨hquote, letters, hletters, hspells⟩ |
        ⟨hquote, hslash, hchar⟩
      · refine ⟨?_, by simp [jsonEscape]⟩
        exact (replacePair_pair _).trans (congrArg _ ih.1)
      · refine ⟨?_, by simp [jsonEscape]⟩
        have hescape : jsonEscape '\\' = ['\\', '\\'] := rfl
        rw [if_neg (by decide), hescape, List.cons_append, List.cons_append, List.nil_append,
          replacePair_cons (fun _ => by simp), replacePair_cons (fun _ => ih.2), ih.1]
        rfl
      · rw [if_neg hquote, hletters]
        refine ⟨?_, by simp⟩
        have hhead : (letters ++ text.flatMap jsonEscape).head? ≠ some '"' := by
          rw [List.head?_append]
          cases hfirst : letters.head? with
          | none => exact ih.2
          | some letter =>
              rw [← hfirst]
              simpa [hfirst] using hspells.quote
        rw [List.cons_append, replacePair_cons (fun _ => hhead), replacePair_append hspells.plain,
          ih.1, List.cons_append]
      · rw [if_neg hquote, hchar]
        refine ⟨?_, by simpa using hquote⟩
        rw [List.singleton_append, replacePair_cons (fun heq => absurd heq hslash), ih.1,
          List.singleton_append]

/-- An apostrophe of a literal stands for one of the text. -/
theorem head_escapeUnquoted (text : List Char) :
    (text.flatMap escapeUnquoted).head? = some '\'' ↔ text.head? = some '\'' := by
  cases text with
  | nil => exact Iff.rfl
  | cons char text =>
      rw [List.flatMap_cons, escapeUnquoted, List.head?_cons]
      rcases char_kinds char with rfl | rfl | ⟨hquote, letters, hletters, hspells⟩ |
        ⟨hquote, hslash, hchar⟩
      · simp
      · simp [jsonEscape]
      · rw [if_neg hquote, hletters]
        have hcontrol : char ≠ '\'' := by
          rintro rfl
          have hescape : jsonEscape '\'' = ['\''] := rfl
          rw [hescape] at hletters
          cases hletters
        simpa using hcontrol
      · rw [if_neg hquote, hchar]
        simp

/-! ## What comes out -/

/-- What the argument of a text stands for. -/
def decodedText : List Char → List Char
  | '\\' :: '\'' :: rest => '\'' :: decodedText rest
  | char :: rest => utf8Latin char ++ decodedText rest
  | [] => []

theorem utf8Latin_plain {char : Char} (hslash : char ≠ '\\') :
    ∀ byte ∈ utf8Latin char, byte ≠ '\\' := by
  rcases Nat.lt_or_ge char.toNat 128 with hascii | hlarge
  · rw [utf8Latin_of_lt hascii, List.forall_mem_singleton]
    exact hslash
  · rintro byte hbyte rfl
    have := (utf8Latin_of_le hlarge).1 _ hbyte
    revert this
    decide

theorem flatMap_utf8Latin {letters : List Char} (hascii : ∀ letter ∈ letters, letter.toNat < 128) :
    letters.flatMap utf8Latin = letters := by
  induction letters with
  | nil => rfl
  | cons letter letters ih =>
      rw [List.forall_mem_cons] at hascii
      rw [List.flatMap_cons, utf8Latin_of_lt hascii.1, ih hascii.2, List.singleton_append]

/-- The text of a literal, apostrophes replaced and written out in bytes. -/
def literalBytes (text : List Char) : List Char :=
  (replacePair '\\' '\'' '\'' (text.flatMap escapeUnquoted)).flatMap utf8Latin

section Decoded

variable {named : List Char → Option Char}

/-- A character that no apostrophe follows behind a backslash is decoded by itself. -/
theorem decode_char {char : Char} {rest : List Char}
    (happart : char = '\\' → rest.head? ≠ some '\'') :
    decode named (literalBytes (char :: rest)) =
      (decode named (literalBytes rest)).map (utf8Latin char ++ ·) := by
  have hbytes : literalBytes rest =
      (replacePair '\\' '\'' '\'' (rest.flatMap escapeUnquoted)).flatMap utf8Latin := rfl
  rw [hbytes, literalBytes, List.flatMap_cons, escapeUnquoted]
  rcases char_kinds char with rfl | rfl | ⟨hquote, letters, hletters, hspells⟩ |
    ⟨hquote, hslash, hchar⟩
  · rw [if_pos rfl, List.singleton_append, replacePair_cons (fun heq => absurd heq (by decide)),
      List.flatMap_cons]
    exact decode_append (utf8Latin_plain (by decide))
  · have hhead : (rest.flatMap escapeUnquoted).head? ≠ some '\'' :=
      fun hsome => happart rfl ((head_escapeUnquoted rest).mp hsome)
    have hescape : jsonEscape '\\' = ['\\', '\\'] := rfl
    have hslash : utf8Latin '\\' = ['\\'] := utf8Latin_of_lt (by decide)
    rw [if_neg (by decide), hescape, List.cons_append, List.cons_append, List.nil_append,
      replacePair_cons (fun _ => by simp), replacePair_cons (fun _ => hhead), List.flatMap_cons,
      List.flatMap_cons, hslash]
    exact decode_unit rfl
  · have hcontrol : char.toNat < 128 := by
      by_contra hlarge
      have hplain := jsonEscape_of_le (by omega) hquote (by rintro rfl; revert hlarge; decide)
      rw [hletters] at hplain
      cases hplain
      revert hlarge
      decide
    have hhead : (letters ++ rest.flatMap escapeUnquoted).head? ≠ some '\'' := by
      obtain ⟨first, others, hfirst⟩ : ∃ first others, letters = first :: others := by
        cases letters with
        | nil =>
            have hread := hspells.read named ['\'']
            cases hread
        | cons first others => exact ⟨first, others, rfl⟩
      rw [hfirst, List.cons_append, List.head?_cons]
      simpa [hfirst] using hspells.apostrophe
    have hslash : utf8Latin '\\' = ['\\'] := utf8Latin_of_lt (by decide)
    rw [if_neg hquote, hletters, List.cons_append, replacePair_cons (fun _ => hhead),
      replacePair_append hspells.plain, List.flatMap_cons, List.flatMap_append,
      flatMap_utf8Latin hspells.ascii, hslash, utf8Latin_of_lt hcontrol]
    exact decode_unit (hspells.read _ _)
  · rw [if_neg hquote, hchar, List.singleton_append,
      replacePair_cons (fun heq => absurd heq hslash), List.flatMap_cons]
    exact decode_append (utf8Latin_plain hslash)

theorem decode_apostrophe (rest : List Char) :
    decode named (literalBytes ('\\' :: '\'' :: rest)) =
      (decode named (literalBytes rest)).map ('\'' :: ·) := by
  have hbytes : literalBytes ('\\' :: '\'' :: rest) = '\\' :: '\'' :: literalBytes rest := by
    have hescape : ('\\' :: '\'' :: rest).flatMap escapeUnquoted =
        '\\' :: '\\' :: '\'' :: rest.flatMap escapeUnquoted := rfl
    rw [literalBytes, hescape, replacePair_cons (fun _ => by simp), replacePair_pair,
      List.flatMap_cons, List.flatMap_cons, utf8Latin_of_lt (by decide),
      utf8Latin_of_lt (by decide)]
    rfl
  have hread : readUnit named ('\\' :: '\'' :: literalBytes rest) =
      some (['\''], literalBytes rest) := rfl
  rw [hbytes]
  exact decode_unit hread

theorem decode_literalBytes (text : List Char) :
    decode named (literalBytes text) = some (decodedText text) := by
  induction text using decodedText.induct with
  | case1 rest ih =>
      rw [decode_apostrophe, ih, decodedText]
      rfl
  | case2 char rest happart ih =>
      have hhead : char = '\\' → rest.head? ≠ some '\'' := by
        intro hslash hsome
        obtain ⟨others, hothers⟩ := List.head?_eq_some_iff.mp hsome
        exact happart others hslash hothers
      rw [decode_char hhead, ih, decodedText]
      · rfl
      · exact happart
  | case3 => exact decode_nil

end Decoded

/-! ## Texts that come through -/

/-- Bytes outside ASCII in front of a text cannot make up for what it loses. -/
theorem ahead_ne {text : List Char} :
    ∀ {ahead : List Char}, ahead ≠ [] → (∀ byte ∈ ahead, 128 ≤ byte.toNat) →
      ahead ++ decodedText text ≠ text := by
  induction text using decodedText.induct with
  | case1 rest ih =>
      intro ahead hahead hlarge heq
      obtain ⟨byte, others, rfl⟩ := List.exists_cons_of_ne_nil hahead
      have hbyte : byte = '\\' := (List.cons.inj heq).1
      have := hlarge byte List.mem_cons_self
      rw [hbyte] at this
      revert this
      decide
  | case2 char rest happart ih =>
      intro ahead hahead hlarge heq
      rw [decodedText] at heq
      · obtain ⟨byte, others, rfl⟩ := List.exists_cons_of_ne_nil hahead
        rw [List.cons_append, List.cons.injEq] at heq
        obtain ⟨rfl, hrest⟩ := heq
        rw [List.forall_mem_cons] at hlarge
        have hchar := utf8Latin_of_le hlarge.1
        rw [← List.append_assoc] at hrest
        refine ih ?_ ?_ hrest
        · intro hnil
          have hempty := (List.append_eq_nil_iff.mp hnil).2
          rw [hempty] at hchar
          exact absurd hchar.2 (by decide)
        · exact List.forall_mem_append.mpr ⟨hlarge.2, hchar.1⟩
      · exact happart
  | case3 =>
      intro ahead hahead _ heq
      exact hahead (List.append_eq_nil_iff.mp heq).1

theorem decodedText_eq_iff (text : List Char) :
    decodedText text = text ↔
      (∀ char ∈ text, char.toNat < 128) ∧ ¬ ['\\', '\''] <:+: text := by
  induction text using decodedText.induct with
  | case1 rest ih =>
      refine iff_of_false (fun heq => ?_) fun hboth => ?_
      · have hfirst : '\'' = '\\' := (List.cons.inj heq).1
        revert hfirst
        decide
      · exact hboth.2 ⟨[], rest, rfl⟩
  | case2 char rest happart ih =>
      have hinfix : ['\\', '\''] <:+: char :: rest ↔ ['\\', '\''] <:+: rest := by
        rw [List.infix_cons_iff]
        refine or_iff_right ?_
        rintro ⟨others, hothers⟩
        obtain ⟨hslash, hrest⟩ := List.cons.inj hothers
        exact happart others hslash.symm hrest.symm
      rw [decodedText]
      · rw [List.forall_mem_cons, hinfix]
        rcases Nat.lt_or_ge char.toNat 128 with hascii | hlarge
        · rw [utf8Latin_of_lt hascii, List.singleton_append, List.cons.injEq, ih]
          simp only [hascii, true_and]
        · refine iff_of_false (fun heq => ?_) fun hboth => absurd hboth.1.1 (by omega)
          obtain ⟨hbytes, hlong⟩ := utf8Latin_of_le hlarge
          have hpos : 0 < (utf8Latin char).length := by omega
          obtain ⟨byte, others, hothers⟩ := List.exists_cons_of_length_pos hpos
          rw [hothers] at heq hbytes hlong
          refine ahead_ne ?_ (List.forall_mem_cons.mp hbytes).2 (List.cons.inj heq).2
          rintro rfl
          exact absurd hlong (by simp)
      · exact happart
  | case3 =>
      refine iff_of_true rfl ⟨by simp, ?_⟩
      rw [List.infix_nil]
      exact List.cons_ne_nil _ _

theorem parseJsArg_jsonLiteral {J : Type} (library : PythonLibrary J) (text : List Char) :
    parseJsArg library (jsonLiteral text) = some (.text (decodedText text)) := by
  have hinner : ((jsonLiteral text).drop 1).dropLast = text.flatMap jsonEscape :=
    List.dropLast_concat
  have hlast : (jsonLiteral text).getLast? = some '"' := by
    rw [jsonLiteral, List.getLast?_append]
    rfl
  have hstring : jsString library (text.flatMap jsonEscape) = some (decodedText text) := by
    rw [jsString, (replaceQuotes_literal text).1]
    exact decode_literalBytes text
  have hne : ∀ word : List Char, word.head? ≠ some '"' → jsonLiteral text ≠ word := by
    rintro word hword rfl
    exact hword rfl
  have hword := hne "null".toList (by decide)
  have hundefined := hne "undefined".toList (by decide)
  unfold parseJsArg
  rw [if_neg (not_or.mpr ⟨hword, hundefined⟩), if_neg (hne _ (by decide)),
    if_neg (hne _ (by decide)), hinner, hlast, hstring]
  rfl

/-- A text comes through as an argument just when it is ASCII and no apostrophe stands right
behind a backslash. -/
theorem parseJsArg_literal_iff {J : Type} (library : PythonLibrary J) (text : List Char) :
    parseJsArg library (jsonLiteral text) = some (.text text) ↔
      (∀ char ∈ text, char.toNat < 128) ∧ ¬ ['\\', '\''] <:+: text := by
  rw [parseJsArg_jsonLiteral, Option.some.injEq, JsArg.text.injEq, decodedText_eq_iff]

/-- A library without names, numbers or objects. -/
def plainLibrary : PythonLibrary Unit where
  isAlnum char := char.isAlphanum
  charNamed _ := none
  loads _ := none
  float _ := none

/-- A Khmer name comes out as the bytes of its letters. -/
theorem parseJsArg_khmer :
    parseJsArg plainLibrary (jsonLiteral "ខ្មែរ".toList) ≠ some (.text "ខ្មែរ".toList) := by
  rw [parseJsArg_jsonLiteral]
  decide

end ChmabaPay
