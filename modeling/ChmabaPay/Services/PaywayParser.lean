import ChmabaPay.Foundation.Escapes
import ChmabaPay.Foundation.Splitting
import ChmabaPay.Routers.Billing

/-! # The arguments of a page

`payway_parser.py` reads the values that the script of a link page is called with. A page
names its strings once, as arguments, and refers to them by parameters.
-/

namespace ChmabaPay

open Escapes

/-- What the parser uses of Python's library: which characters are letters or digits, the
characters that have a name, `json.loads` and `float`. -/
structure PythonLibrary (J : Type) where
  isAlnum : Char → Bool
  charNamed : List Char → Option Char
  loads : List Char → Option J
  float : List Char → Option J

/-! ## Arguments in a row -/

/-- What `_split_top_level_commas` knows at a place of its text: whether it is in a string, how
deep it is in brackets, and whether the character before is a backslash. -/
structure CommaScan where
  doubleQuoted : Bool := false
  singleQuoted : Bool := false
  paren : ℤ := 0
  brace : ℤ := 0
  bracket : ℤ := 0
  behindBackslash : Bool := false
deriving DecidableEq

def CommaScan.next (scan : CommaScan) (char : Char) : CommaScan :=
  let moved := { scan with behindBackslash := char == '\\' }
  if !scan.singleQuoted && char == '"' && !scan.behindBackslash then
    { moved with doubleQuoted := !scan.doubleQuoted }
  else if !scan.doubleQuoted && char == '\'' && !scan.behindBackslash then
    { moved with singleQuoted := !scan.singleQuoted }
  else if !scan.singleQuoted && !scan.doubleQuoted then
    if char = '(' then { moved with paren := scan.paren + 1 }
    else if char = ')' then { moved with paren := scan.paren - 1 }
    else if char = '{' then { moved with brace := scan.brace + 1 }
    else if char = '}' then { moved with brace := scan.brace - 1 }
    else if char = '[' then { moved with bracket := scan.bracket + 1 }
    else if char = ']' then { moved with bracket := scan.bracket - 1 }
    else moved
  else moved

/-- A comma outside all strings and brackets. -/
def CommaScan.cuts (scan : CommaScan) (char : Char) : Bool :=
  char == ',' && !scan.singleQuoted && !scan.doubleQuoted && scan.paren == 0 &&
    scan.brace == 0 && scan.bracket == 0

theorem CommaScan.restarts (scan : CommaScan) (char : Char) (hcuts : scan.cuts char = true) :
    scan.next char = {} := by
  simp only [CommaScan.cuts, Bool.and_eq_true, beq_iff_eq, Bool.not_eq_true'] at hcuts
  obtain ⟨⟨⟨⟨⟨rfl, hsingle⟩, hdouble⟩, hparen⟩, hbrace⟩, hbracket⟩ := hcuts
  simp [CommaScan.next, hsingle, hdouble, hparen, hbrace, hbracket]

/-- The loop, from a place on, with the characters since the last cut. -/
def splitCommas (scan : CommaScan) (buffer : List Char) : List Char → List (List Char)
  | [] =>
      let tail := pythonStrip buffer
      if tail ≠ [] then [tail] else []
  | char :: rest =>
      if scan.cuts char then pythonStrip buffer :: splitCommas (scan.next char) [] rest
      else splitCommas (scan.next char) (buffer ++ [char]) rest

def splitTopLevelCommas (text : List Char) : List (List Char) := splitCommas {} [] text

/-! ## One argument -/

section Loose

variable {J : Type} (library : PythonLibrary J)

def isWordChar (char : Char) : Bool := library.isAlnum char || char == '_'

/-- Replace a word, where it stands between characters that are none of a word. -/
def replaceWord (word replacement : List Char) (text : List Char) : List Char :=
  (text.splitBy fun first second => isWordChar library first == isWordChar library second).flatMap
    fun run => if run = word then replacement else run

/-- `SINGLE_Q_STRING_RE` behind its first quote: the characters up to the next quote that no
backslash stands before, and what follows. -/
def readSingleQuoted : List Char → Option (List Char × List Char)
  | [] => none
  | '\'' :: rest => some ([], rest)
  | '\\' :: char :: rest =>
      if char = '\n' then none
      else (readSingleQuoted rest).map fun found => ('\\' :: char :: found.1, found.2)
  | '\\' :: [] => none
  | char :: rest => (readSingleQuoted rest).map fun found => (char :: found.1, found.2)

theorem readSingleQuoted_shrinks {text inner rest : List Char}
    (hread : readSingleQuoted text = some (inner, rest)) : rest.length < text.length := by
  induction text using readSingleQuoted.induct generalizing inner with
  | case1 => cases hread
  | case2 others =>
      rw [readSingleQuoted] at hread
      cases hread
      simp
  | case3 others =>
      rw [readSingleQuoted, if_pos rfl] at hread
      cases hread
  | case4 char others hchar ih =>
      rw [readSingleQuoted, if_neg hchar] at hread
      obtain ⟨⟨found, left⟩, hfound, heq⟩ := Option.map_eq_some_iff.mp hread
      obtain ⟨-, rfl⟩ := Prod.mk.inj heq
      exact (ih hfound).trans (by simp)
  | case5 =>
      rw [readSingleQuoted] at hread
      cases hread
  | case6 char others hquote hescape hend ih =>
      rw [readSingleQuoted] at hread
      · obtain ⟨⟨found, left⟩, hfound, heq⟩ := Option.map_eq_some_iff.mp hread
        obtain ⟨-, rfl⟩ := Prod.mk.inj heq
        exact (ih hfound).trans (by simp)
      all_goals assumption

/-- `_sq_to_dq`: the text of a string in single quotes, in double quotes. -/
def doubleQuoted (inner : List Char) : List Char :=
  let plain := replacePair '\\' '\'' '\'' (replacePair '\\' '"' '"' inner)
  '"' :: plain.flatMap (fun char => if char = '"' then ['\\', '"'] else [char]) ++ ['"']

/-- One piece of a text in which strings in single quotes become strings in double ones. -/
def readSingle : List Char → Option (List Char × List Char)
  | [] => none
  | char :: rest =>
      match if char = '\'' then readSingleQuoted rest else none with
      | some (inner, behind) => some (doubleQuoted inner, behind)
      | none => some ([char], rest)

def isKeyStart (char : Char) : Bool :=
  decide ('a' ≤ char ∧ char ≤ 'z') || decide ('A' ≤ char ∧ char ≤ 'Z') || char == '_' ||
    char == '$'

def isKeyChar (char : Char) : Bool := isKeyStart char || decide ('0' ≤ char ∧ char ≤ '9')

/-- `UNQUOTED_KEY_RE` behind its brace or comma: the name, and what follows its colon. -/
def readUnquotedKey (text : List Char) : Option (List Char × List Char) :=
  let named := text.dropWhile isPythonSpace
  let name := named.takeWhile isKeyChar
  if (name.head?.map isKeyStart).getD false then
    match (named.dropWhile isKeyChar).dropWhile isPythonSpace with
    | ':' :: behind => some (name, behind)
    | _ => none
  else none

theorem readUnquotedKey_shrinks {text name rest : List Char}
    (hread : readUnquotedKey text = some (name, rest)) : rest.length < text.length := by
  unfold readUnquotedKey at hread
  dsimp only at hread
  split at hread
  · split at hread
    next behind hcolon =>
      cases hread
      have hlength := congrArg List.length hcolon
      have hspaces := (List.dropWhile_sublist isPythonSpace (l := text)).length_le
      have hname := (List.dropWhile_sublist isKeyChar
        (l := text.dropWhile isPythonSpace)).length_le
      have hbehind := (List.dropWhile_sublist isPythonSpace
        (l := (text.dropWhile isPythonSpace).dropWhile isKeyChar)).length_le
      rw [List.length_cons] at hlength
      omega
    · cases hread
  · cases hread

/-- One piece of a text in which names before a colon come between quotes. -/
def readKey : List Char → Option (List Char × List Char)
  | [] => none
  | char :: rest =>
      match if char = '{' ∨ char = ',' then readUnquotedKey rest else none with
      | some (name, behind) => some (char :: '"' :: name ++ ['"', ':'], behind)
      | none => some ([char], rest)

theorem readSingle_shrinks {text piece rest : List Char}
    (hread : readSingle text = some (piece, rest)) : rest.length < text.length := by
  unfold readSingle at hread
  split at hread
  · cases hread
  next char others =>
    split at hread
    next inner behind hquoted =>
      cases hread
      split at hquoted
      · exact (readSingleQuoted_shrinks hquoted).trans (by simp)
      · cases hquoted
    · cases hread
      simp

theorem readKey_shrinks {text piece rest : List Char}
    (hread : readKey text = some (piece, rest)) : rest.length < text.length := by
  unfold readKey at hread
  split at hread
  · cases hread
  next char others =>
    split at hread
    next name behind hkey =>
      cases hread
      split at hkey
      · exact (readUnquotedKey_shrinks hkey).trans (by simp)
      · cases hkey
    · cases hread
      simp

def singleReader : Framing.Reader Char (List Char) where
  read := readSingle
  shrinks := readSingle_shrinks

def keyReader : Framing.Reader Char (List Char) where
  read := readKey
  shrinks := readKey_shrinks

def jsObjToJsonLike (source : List Char) : List Char :=
  let null := "null".toList
  let known := replaceWord library "Infinity".toList null
    (replaceWord library "NaN".toList null (replaceWord library "undefined".toList null source))
  (keyReader.elements (singleReader.elements known).flatten).flatten

/-- What an argument of the page stands for. -/
inductive JsArg (J : Type)
  | null
  | bool (value : Bool)
  | int (value : Int)
  | parsed (value : J)
  | text (value : List Char)
  deriving DecidableEq

/-- The text of a string argument. `none` where the codec raises. -/
def jsString (inner : List Char) : Option (List Char) :=
  let plain := replacePair '\\' '\'' '\'' (replacePair '\\' '"' '"' inner)
  decode library.charNamed (plain.flatMap utf8Latin)

/-- `_parse_js_arg`. `none` where it raises. -/
def parseJsArg (arg : List Char) : Option (JsArg J) :=
  if arg = "null".toList ∨ arg = "undefined".toList then some .null
  else if arg = "true".toList then some (.bool true)
  else if arg = "false".toList then some (.bool false)
  else match arg with
  | [] => some .null
  | first :: _ =>
    if (first = '"' ∧ arg.getLast? = some '"') ∨ (first = '\'' ∧ arg.getLast? = some '\'') then
      (jsString library (arg.drop 1).dropLast).map .text
    else if first = '{' ∨ first = '[' then
      some (((library.loads (jsObjToJsonLike library arg)).map .parsed).getD .null)
    else if first ∈ "-.0123456789".toList then
      if '.' ∈ arg then some (((library.float arg).map .parsed).getD .null)
      else some (((pythonInt arg).map .int).getD .null)
    else some .null

end Loose

end ChmabaPay
