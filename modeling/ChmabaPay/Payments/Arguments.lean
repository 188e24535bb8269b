import ChmabaPay.Services.PaywayParser

/-! # Arguments of a page

The arguments of a page are numbers, words, strings and literals in brackets. The splitter takes
a quote for the end of its string unless a backslash stands before it. That misreads a string
whose last character is an escaped backslash: it seems to go on.
-/

namespace ChmabaPay

open Splitting

/-! ## JavaScript texts -/

/-- A character of a number or a word. -/
def isBare (char : Char) : Bool := !isPythonSpace char && !"\"'()[]{},\\".toList.contains char

/-- A character between the strings of a literal in brackets. -/
def isPlain (char : Char) : Bool := !"\"'()[]{}\\".toList.contains char

/-- What stands between the quotes of a string. -/
inductive StringBody (quote : Char) : List Char → Prop
  | nil : StringBody quote []
  | plain {char : Char} {rest : List Char} : char ≠ quote → char ≠ '\\' →
      StringBody quote rest → StringBody quote (char :: rest)
  | escape {char : Char} {rest : List Char} : StringBody quote rest →
      StringBody quote ('\\' :: char :: rest)

/-- A string between quotes of either style, if this is allowed between them. -/
def IsLiteral (allowed : List Char → Prop) (text : List Char) : Prop :=
  ∃ quote body, (quote = '"' ∨ quote = '\'') ∧ StringBody quote body ∧ allowed body ∧
    text = quote :: (body ++ [quote])

def bracketPairs : List (Char × Char) := [('(', ')'), ('{', '}'), ('[', ']')]

/-- What stands between the brackets of a literal. -/
inductive InBrackets (allowed : List Char → Prop) : List Char → Prop
  | nil : InBrackets allowed []
  | plain {char : Char} {rest : List Char} : isPlain char = true → InBrackets allowed rest →
      InBrackets allowed (char :: rest)
  | literal {text rest : List Char} : IsLiteral allowed text → InBrackets allowed rest →
      InBrackets allowed (text ++ rest)
  | bracketed {opening closing : Char} {inside rest : List Char} :
      (opening, closing) ∈ bracketPairs → InBrackets allowed inside → InBrackets allowed rest →
      InBrackets allowed (opening :: (inside ++ closing :: rest))

/-- An argument: a number or a word, a string, or a literal in brackets. -/
inductive JsArgument (allowed : List Char → Prop) : List Char → Prop
  | word {text : List Char} : text ≠ [] → (∀ char ∈ text, isBare char = true) →
      JsArgument allowed text
  | literal {text : List Char} : IsLiteral allowed text → JsArgument allowed text
  | bracketed {opening closing : Char} {inside : List Char} :
      (opening, closing) ∈ bracketPairs → InBrackets allowed inside →
      JsArgument allowed (opening :: (inside ++ [closing]))

/-- Any text may stand between the quotes. -/
def AnyBody (_ : List Char) : Prop := True

/-- The text between the quotes does not end in a backslash. -/
def Unslashed (body : List Char) : Prop := body.getLast? ≠ some '\\'

/-- The text between the quotes ends in a backslash. -/
def Slashed (body : List Char) : Prop := body.getLast? = some '\\'

def IsQuote (char : Char) : Prop := char = '"' ∨ char = '\''

/-- Between the brackets a string ends in a backslash, and it is the last one and the only one
that does. -/
inductive SlashedInside : List Char → Prop
  | plain {char : Char} {rest : List Char} : isPlain char = true → SlashedInside rest →
      SlashedInside (char :: rest)
  | literal {text rest : List Char} : IsLiteral Unslashed text → SlashedInside rest →
      SlashedInside (text ++ rest)
  | bracketed {opening closing : Char} {inside rest : List Char} :
      (opening, closing) ∈ bracketPairs → InBrackets Unslashed inside → SlashedInside rest →
      SlashedInside (opening :: (inside ++ closing :: rest))
  | slashed {text rest : List Char} : IsLiteral Slashed text → InBrackets Unslashed rest →
      (∀ char ∈ rest, ¬ IsQuote char) → SlashedInside (text ++ rest)
  | within {opening closing : Char} {inside rest : List Char} :
      (opening, closing) ∈ bracketPairs → SlashedInside inside → InBrackets Unslashed rest →
      (∀ char ∈ rest, ¬ IsQuote char) → SlashedInside (opening :: (inside ++ closing :: rest))

/-- An argument whose last string, and no other one, ends in a backslash. -/
inductive SlashedLast : List Char → Prop
  | literal {text : List Char} : IsLiteral Slashed text → SlashedLast text
  | bracketed {opening closing : Char} {inside : List Char} :
      (opening, closing) ∈ bracketPairs → SlashedInside inside →
      SlashedLast (opening :: (inside ++ [closing]))

/-! ## The scanner -/

def commaSplitter : Splitter CommaScan Char where
  start := {}
  next := CommaScan.next
  cuts := CommaScan.cuts
  restarts := CommaScan.restarts

/-- Outside all strings, this deep in brackets. -/
def CommaScan.outside (paren brace bracket : ℤ) : CommaScan :=
  ⟨false, false, paren, brace, bracket, false⟩

/-- In a string of this quote. -/
def CommaScan.within (quote : Char) (paren brace bracket : ℤ) (behindBackslash : Bool) :
    CommaScan :=
  ⟨quote == '"', quote == '\'', paren, brace, bracket, behindBackslash⟩

section Scans

variable {paren brace bracket : ℤ} {quote : Char}

theorem next_plain {char : Char} (hplain : isPlain char = true) :
    commaSplitter.next (.outside paren brace bracket) char = .outside paren brace bracket := by
  simp [isPlain] at hplain
  simp [commaSplitter, CommaScan.next, CommaScan.outside, hplain]

theorem next_quote (hquote : quote = '"' ∨ quote = '\'') :
    commaSplitter.next (.outside paren brace bracket) quote =
      .within quote paren brace bracket false := by
  rcases hquote with rfl | rfl <;> rfl

theorem cuts_quote (hquote : quote = '"' ∨ quote = '\'') :
    commaSplitter.cuts (.outside paren brace bracket) quote = false := by
  rcases hquote with rfl | rfl <;> rfl

/-- In a string only its own quote matters, and only behind no backslash. -/
theorem next_within (hquote : quote = '"' ∨ quote = '\'') {char : Char} {behind : Bool}
    (hchar : char ≠ quote ∨ behind = true) :
    commaSplitter.next (.within quote paren brace bracket behind) char =
      .within quote paren brace bracket (char == '\\') := by
  rcases hquote with rfl | rfl <;> rcases hchar with hchar | rfl <;>
    simp [commaSplitter, CommaScan.next, CommaScan.within, *]

theorem next_closing (hquote : quote = '"' ∨ quote = '\'') :
    commaSplitter.next (.within quote paren brace bracket false) quote =
      .outside paren brace bracket := by
  rcases hquote with rfl | rfl <;> rfl

theorem cuts_within (hquote : quote = '"' ∨ quote = '\'') (char : Char) (behind : Bool) :
    commaSplitter.cuts (.within quote paren brace bracket behind) char = false := by
  rcases hquote with rfl | rfl <;> simp [commaSplitter, CommaScan.cuts, CommaScan.within]

end Scans

/-! ## Strings -/

section Strings

variable {paren brace bracket : ℤ} {quote : Char}

theorem endsInBackslash_cons (char : Char) (rest : List Char) (behind : Bool) :
    ((char :: rest).getLast?.map (· == '\\')).getD behind =
      (rest.getLast?.map (· == '\\')).getD (char == '\\') := by
  rw [List.getLast?_cons]
  cases rest.getLast? <;> rfl

/-- The body of a string stays in the string. -/
theorem through_body (hquote : quote = '"' ∨ quote = '\'') {body : List Char}
    (hbody : StringBody quote body) (behind : Bool) :
    commaSplitter.Through (.within quote paren brace bracket behind) body
      (.within quote paren brace bracket ((body.getLast?.map (· == '\\')).getD behind)) := by
  induction hbody generalizing behind with
  | nil => exact .nil _
  | @plain char rest hchar hslash hrest ih =>
      rw [endsInBackslash_cons]
      exact .cons (cuts_within hquote _ _) (next_within hquote (.inl hchar)) (ih _)
  | @escape char rest hrest ih =>
      have hslash : '\\' ≠ quote := by rcases hquote with rfl | rfl <;> decide
      rw [endsInBackslash_cons, endsInBackslash_cons]
      exact .cons (cuts_within hquote _ _) (next_within hquote (.inl hslash))
        (.cons (cuts_within hquote _ _) (next_within hquote (.inr rfl)) (ih _))

/-- Behind a string the scanner is outside again, unless its body ends in a backslash. -/
theorem through_literal (hquote : quote = '"' ∨ quote = '\'') {body : List Char}
    (hbody : StringBody quote body) :
    commaSplitter.Through (.outside paren brace bracket) (quote :: (body ++ [quote]))
      (if body.getLast? = some '\\' then .within quote paren brace bracket false
        else .outside paren brace bracket) := by
  have hslash : (quote == '\\') = false := by rcases hquote with rfl | rfl <;> rfl
  refine .cons (cuts_quote hquote) (next_quote hquote)
    ((through_body hquote hbody false).append ?_)
  split
  · -- the quote behind a backslash does not close
    rw [‹body.getLast? = _›]
    refine .cons (cuts_within hquote _ _) (next_within hquote (.inr rfl)) ?_
    rw [hslash]
    exact .nil _
  · rename_i hunslashed
    have hbehind : (body.getLast?.map (· == '\\')).getD false = false := by
      cases hlast : body.getLast? with
      | none => rfl
      | some char =>
          rw [hlast] at hunslashed
          exact beq_eq_false_iff_ne.mpr fun heq => hunslashed (congrArg some heq)
    rw [hbehind]
    exact .cons (cuts_within hquote _ _) (next_closing hquote) (.nil _)

end Strings

/-! ## Brackets -/

section Brackets

variable {paren brace bracket : ℤ}

/-- In some brackets. -/
def Deep (paren brace bracket : ℤ) : Prop :=
  0 ≤ paren ∧ 0 ≤ brace ∧ 0 ≤ bracket ∧ 0 < paren + brace + bracket

theorem cuts_deep (hdeep : Deep paren brace bracket) (char : Char) :
    commaSplitter.cuts (.outside paren brace bracket) char = false := by
  obtain ⟨hparen, hbrace, hbracket, hsum⟩ := hdeep
  have hsome : ¬ (paren = 0 ∧ brace = 0 ∧ bracket = 0) := by
    rintro ⟨rfl, rfl, rfl⟩
    exact absurd hsum (by decide)
  simp only [commaSplitter, CommaScan.cuts, CommaScan.outside]
  by_contra hcuts
  simp only [Bool.not_eq_false, Bool.and_eq_true, beq_iff_eq] at hcuts
  exact hsome ⟨hcuts.1.1.2, hcuts.1.2, hcuts.2⟩

/-- A bracket leads one deeper, and its partner back. -/
theorem next_brackets {opening closing : Char} (hpair : (opening, closing) ∈ bracketPairs)
    (hnonneg : 0 ≤ paren ∧ 0 ≤ brace ∧ 0 ≤ bracket) :
    commaSplitter.cuts (.outside paren brace bracket) opening = false ∧
      ∃ paren' brace' bracket', Deep paren' brace' bracket' ∧
        commaSplitter.next (.outside paren brace bracket) opening =
          .outside paren' brace' bracket' ∧
        commaSplitter.next (.outside paren' brace' bracket') closing =
          .outside paren brace bracket := by
  simp only [bracketPairs, List.mem_cons, Prod.mk.injEq, List.not_mem_nil, or_false] at hpair
  obtain ⟨hparen, hbrace, hbracket⟩ := hnonneg
  rcases hpair with ⟨rfl, rfl⟩ | ⟨rfl, rfl⟩ | ⟨rfl, rfl⟩
  · refine ⟨rfl, paren + 1, brace, bracket, ⟨by omega, by omega, by omega, by omega⟩, rfl, ?_⟩
    simp [commaSplitter, CommaScan.next, CommaScan.outside]
  · refine ⟨rfl, paren, brace + 1, bracket, ⟨by omega, by omega, by omega, by omega⟩, rfl, ?_⟩
    simp [commaSplitter, CommaScan.next, CommaScan.outside]
  · refine ⟨rfl, paren, brace, bracket + 1, ⟨by omega, by omega, by omega, by omega⟩, rfl, ?_⟩
    simp [commaSplitter, CommaScan.next, CommaScan.outside]

/-- What stands between brackets leads back to where it started. -/
theorem through_inBrackets {text : List Char} (htext : InBrackets Unslashed text)
    (hdeep : Deep paren brace bracket) :
    commaSplitter.Through (.outside paren brace bracket) text
      (.outside paren brace bracket) := by
  induction htext generalizing paren brace bracket with
  | nil => exact .nil _
  | plain hchar hrest ih => exact .cons (cuts_deep hdeep _) (next_plain hchar) (ih hdeep)
  | literal hliteral hrest ih =>
      obtain ⟨quote, body, hquote, hbody, hunslashed, rfl⟩ := hliteral
      have hthrough : commaSplitter.Through (.outside paren brace bracket) _ _ :=
        through_literal hquote hbody
      rw [if_neg hunslashed] at hthrough
      exact hthrough.append (ih hdeep)
  | bracketed hpair hinside hrest ihInside ihRest =>
      obtain ⟨hcuts, paren', brace', bracket', hdeeper, hopen, hclose⟩ :=
        next_brackets hpair ⟨hdeep.1, hdeep.2.1, hdeep.2.2.1⟩
      exact .cons hcuts hopen ((ihInside hdeeper).append
        (.cons (cuts_deep hdeeper _) hclose (ihRest hdeep)))

/-- Nothing but its own quote ends a string. -/
theorem through_unquoted {quote : Char} (hquote : quote = '"' ∨ quote = '\'') {text : List Char}
    (htext : ∀ char ∈ text, ¬ IsQuote char) (behind : Bool) :
    ∃ behind', commaSplitter.Through (.within quote paren brace bracket behind) text
      (.within quote paren brace bracket behind') := by
  induction text generalizing behind with
  | nil => exact ⟨behind, .nil _⟩
  | cons char rest ih =>
      have hchar : char ≠ quote := by
        rintro rfl
        exact htext _ List.mem_cons_self hquote
      have hothers : ∀ other ∈ rest, ¬ IsQuote other :=
        fun other hother => htext other (List.mem_cons_of_mem _ hother)
      obtain ⟨behind', hrest⟩ := ih hothers (char == '\\')
      exact ⟨behind', .cons (cuts_within hquote _ _) (next_within hquote (.inl hchar)) hrest⟩

theorem not_isQuote_closing {opening closing : Char} (hpair : (opening, closing) ∈ bracketPairs) :
    ¬ IsQuote closing := by
  simp only [bracketPairs, List.mem_cons, Prod.mk.injEq, List.not_mem_nil, or_false] at hpair
  rcases hpair with ⟨-, rfl⟩ | ⟨-, rfl⟩ | ⟨-, rfl⟩ <;> simp [IsQuote]

/-- In some string, wherever that stands. -/
def EndsWithin (start : CommaScan) (text : List Char) : Prop :=
  ∃ quote paren brace bracket behind, (quote = '"' ∨ quote = '\'') ∧
    commaSplitter.Through start text (.within quote paren brace bracket behind)

theorem EndsWithin.append {start middle : CommaScan} {first second : List Char}
    (hfirst : commaSplitter.Through start first middle) (hsecond : EndsWithin middle second) :
    EndsWithin start (first ++ second) := by
  obtain ⟨quote, paren, brace, bracket, behind, hquote, hthrough⟩ := hsecond
  exact ⟨quote, paren, brace, bracket, behind, hquote, hfirst.append hthrough⟩

theorem EndsWithin.unquoted {start : CommaScan} {first second : List Char}
    (hfirst : EndsWithin start first) (hsecond : ∀ char ∈ second, ¬ IsQuote char) :
    EndsWithin start (first ++ second) := by
  obtain ⟨quote, paren, brace, bracket, behind, hquote, hthrough⟩ := hfirst
  obtain ⟨behind', hbehind⟩ := through_unquoted hquote hsecond behind
  exact ⟨quote, paren, brace, bracket, behind', hquote, hthrough.append hbehind⟩

/-- The scanner does not find the end of a string that ends in a backslash. -/
theorem endsWithin_slashed {text : List Char} (htext : IsLiteral Slashed text) :
    EndsWithin (.outside paren brace bracket) text := by
  obtain ⟨quote, body, hquote, hbody, hslashed, rfl⟩ := htext
  have hthrough : commaSplitter.Through (.outside paren brace bracket) _ _ :=
    through_literal hquote hbody
  have hlast : body.getLast? = some '\\' := hslashed
  rw [if_pos hlast] at hthrough
  exact ⟨quote, paren, brace, bracket, false, hquote, hthrough⟩

/-- So it goes for the brackets around it. -/
theorem endsWithin_inside {text : List Char} (htext : SlashedInside text)
    (hdeep : Deep paren brace bracket) : EndsWithin (.outside paren brace bracket) text := by
  induction htext generalizing paren brace bracket with
  | plain hchar hrest ih =>
      exact .append (.cons (cuts_deep hdeep _) (next_plain hchar) (.nil _)) (ih hdeep)
  | literal hliteral hrest ih =>
      obtain ⟨quote, body, hquote, hbody, hunslashed, rfl⟩ := hliteral
      have hthrough : commaSplitter.Through (.outside paren brace bracket) _ _ :=
        through_literal hquote hbody
      rw [if_neg hunslashed] at hthrough
      exact .append hthrough (ih hdeep)
  | @bracketed opening closing inside rest hpair hinside hrest ih =>
      obtain ⟨hcuts, paren', brace', bracket', hdeeper, hopen, hclose⟩ :=
        next_brackets hpair ⟨hdeep.1, hdeep.2.1, hdeep.2.2.1⟩
      have hthrough : commaSplitter.Through (.outside paren brace bracket)
          (opening :: (inside ++ [closing])) (.outside paren brace bracket) :=
        .cons hcuts hopen ((through_inBrackets hinside hdeeper).append
          (.cons (cuts_deep hdeeper _) hclose (.nil _)))
      simpa using EndsWithin.append hthrough (ih hdeep)
  -- from the string on no quote follows that could bring the scanner back
  | slashed hliteral hrest hfree => exact (endsWithin_slashed hliteral).unquoted hfree
  | @within opening closing inside rest hpair hinside hrest hfree ih =>
      obtain ⟨hcuts, paren', brace', bracket', hdeeper, hopen, -⟩ :=
        next_brackets hpair ⟨hdeep.1, hdeep.2.1, hdeep.2.2.1⟩
      have hopened : commaSplitter.Through (.outside paren brace bracket) [opening] _ :=
        .cons hcuts hopen (.nil _)
      exact .append hopened ((ih hdeeper).unquoted
        (List.forall_mem_cons.mpr ⟨not_isQuote_closing hpair, hfree⟩))

theorem endsWithin_argument {text : List Char} (htext : SlashedLast text) :
    EndsWithin commaSplitter.start text := by
  cases htext with
  | literal hliteral => exact endsWithin_slashed hliteral
  | @bracketed opening closing inside hpair hinside =>
      obtain ⟨hcuts, paren, brace, bracket, hdeep, hopen, -⟩ :=
        @next_brackets 0 0 0 opening closing hpair ⟨le_rfl, le_rfl, le_rfl⟩
      have hopened : commaSplitter.Through commaSplitter.start [opening] _ :=
        .cons hcuts hopen (.nil _)
      exact .append hopened ((endsWithin_inside hinside hdeep).unquoted
        (List.forall_mem_singleton.mpr (not_isQuote_closing hpair)))

theorem through_word {text : List Char} (hbare : ∀ char ∈ text, isBare char = true) :
    commaSplitter.Through (.outside paren brace bracket) text (.outside paren brace bracket) := by
  induction text with
  | nil => exact .nil _
  | cons char rest ih =>
      have hchar : isBare char = true := hbare char List.mem_cons_self
      have hcomma : char ≠ ',' := by
        rintro rfl
        exact absurd hchar (by decide)
      have hplain : isPlain char = true := by
        simp only [isBare, isPlain, Bool.and_eq_true, Bool.not_eq_true'] at hchar ⊢
        simp at hchar ⊢
        tauto
      refine .cons ?_ (next_plain hplain) (ih fun other hother =>
        hbare other (List.mem_cons_of_mem _ hother))
      simp [commaSplitter, CommaScan.cuts, hcomma]

/-- An argument without a string that ends in a backslash leads back to the start. -/
theorem through_argument {text : List Char} (htext : JsArgument Unslashed text) :
    commaSplitter.Through commaSplitter.start text commaSplitter.start := by
  cases htext with
  | word hne hbare => exact through_word hbare
  | literal hliteral =>
      obtain ⟨quote, body, hquote, hbody, hunslashed, rfl⟩ := hliteral
      have hthrough : commaSplitter.Through (.outside 0 0 0) _ _ := through_literal hquote hbody
      rw [if_neg hunslashed] at hthrough
      exact hthrough
  | @bracketed opening closing inside hpair hinside =>
      obtain ⟨hcuts, paren, brace, bracket, hdeep, hopen, hclose⟩ :=
        @next_brackets 0 0 0 opening closing hpair ⟨le_rfl, le_rfl, le_rfl⟩
      exact .cons hcuts hopen ((through_inBrackets hinside hdeep).append
        (.cons (cuts_deep hdeep _) hclose (.nil _)))

end Brackets

/-! ## Trimmed pieces -/

section Trimmed

/-- What the splitter makes of the pieces: it strips them, and drops an empty last one. -/
def trimmed : List (List Char) → List (List Char)
  | [] => []
  | [tail] => if pythonStrip tail ≠ [] then [pythonStrip tail] else []
  | piece :: rest => pythonStrip piece :: trimmed rest

theorem splitCommas_eq (scan : CommaScan) (buffer text : List Char) :
    splitCommas scan buffer text =
      trimmed ((commaSplitter.pieces scan text).modifyHead (buffer ++ ·)) := by
  induction text generalizing scan buffer with
  | nil =>
      rw [splitCommas, Splitter.pieces, List.modifyHead_cons, List.append_nil]
      rfl
  | cons char rest ih =>
      obtain ⟨piece, pieces, hpieces⟩ := List.exists_cons_of_ne_nil
        (commaSplitter.pieces_ne_nil (scan.next char) rest)
      rw [splitCommas, Splitter.pieces]
      have hcuts : commaSplitter.cuts scan char = scan.cuts char := rfl
      have hnext : commaSplitter.next scan char = scan.next char := rfl
      rw [hcuts, hnext]
      split
      · rw [ih, hpieces, List.modifyHead_cons, List.modifyHead_cons, List.append_nil]
        rfl
      · rw [ih, hpieces, List.modifyHead_cons, List.modifyHead_cons, List.modifyHead_cons,
          List.append_assoc]
        rfl

theorem pythonStrip_sublist (text : List Char) : (pythonStrip text).Sublist text := by
  have hinner := List.dropWhile_sublist isPythonSpace (l := text)
  have houter := List.dropWhile_sublist isPythonSpace
    (l := (text.dropWhile isPythonSpace).reverse)
  exact (List.reverse_sublist.mp (by rwa [pythonStrip, List.reverse_reverse])).trans hinner

/-- What neither starts nor ends with a blank is not stripped. -/
theorem pythonStrip_eq_self {text : List Char}
    (hfirst : ∀ char, text.head? = some char → isPythonSpace char = false)
    (hlast : ∀ char, text.getLast? = some char → isPythonSpace char = false) :
    pythonStrip text = text := by
  have hkeep : ∀ kept : List Char,
      (∀ char, kept.head? = some char → isPythonSpace char = false) →
        kept.dropWhile isPythonSpace = kept := by
    intro kept hhead
    cases kept with
    | nil => rfl
    | cons char rest => exact List.dropWhile_cons_of_neg (by simp [hhead char rfl])
  rw [pythonStrip, hkeep text hfirst, hkeep text.reverse, List.reverse_reverse]
  intro char hchar
  rw [List.head?_reverse] at hchar
  exact hlast char hchar

/-- The characters of some texts together. -/
def totalLength (texts : List (List Char)) : ℕ := (texts.map List.length).sum

theorem totalLength_intercalate {texts : List (List Char)} (htexts : texts ≠ []) :
    ([','].intercalate texts).length + 1 = totalLength texts + texts.length := by
  induction texts with
  | nil => contradiction
  | cons text rest ih =>
      cases rest with
      | nil => simp [totalLength]
      | cons second rest =>
          have hrest := ih (List.cons_ne_nil _ _)
          rw [List.intercalate_cons_cons, List.length_append, List.length_append,
            List.length_singleton, List.length_cons]
          rw [totalLength, List.map_cons, List.sum_cons, ← totalLength]
          omega

theorem totalLength_strip_le (texts : List (List Char)) :
    totalLength (texts.map pythonStrip) ≤ totalLength texts := by
  induction texts with
  | nil => exact le_rfl
  | cons text rest ih => exact Nat.add_le_add (pythonStrip_sublist text).length_le ih

/-- Pieces that lose no character are not stripped. -/
theorem strip_eq_self_of_length {texts : List (List Char)}
    (hlength : totalLength (texts.map pythonStrip) = totalLength texts) :
    texts.map pythonStrip = texts := by
  induction texts with
  | nil => rfl
  | cons text rest ih =>
      have htext := (pythonStrip_sublist text).length_le
      have hrest := totalLength_strip_le rest
      simp only [totalLength, List.map_cons, List.sum_cons] at hlength hrest ih
      rw [List.map_cons, ih (by omega), (pythonStrip_sublist text).eq_of_length (by omega)]

theorem trimmed_eq_map (pieces : List (List Char)) :
    trimmed pieces = pieces.map pythonStrip ∨
      ∃ front tail, pieces = front ++ [tail] ∧ trimmed pieces = front.map pythonStrip := by
  induction pieces with
  | nil => exact .inl rfl
  | cons piece rest ih =>
      cases rest with
      | nil =>
          rw [trimmed]
          split
          · exact .inl rfl
          · exact .inr ⟨[], piece, rfl, rfl⟩
      | cons second rest =>
          rcases ih with hall | ⟨front, tail, hfront, htrimmed⟩
          · exact .inl (congrArg (_ :: ·) hall)
          · exact .inr ⟨piece :: front, tail, congrArg (_ :: ·) hfront,
              congrArg (_ :: ·) htrimmed⟩

theorem trimmed_eq_self {texts : List (List Char)} (hne : ∀ text ∈ texts, text ≠ [])
    (hstrip : ∀ text ∈ texts, pythonStrip text = text) : trimmed texts = texts := by
  induction texts with
  | nil => rfl
  | cons text rest ih =>
      have htext := hstrip text List.mem_cons_self
      cases rest with
      | nil => rw [trimmed, htext, if_pos (hne text List.mem_cons_self)]
      | cons second rest =>
          rw [trimmed, htext, ih (fun other hother => hne other (List.mem_cons_of_mem _ hother))
            fun other hother => hstrip other (List.mem_cons_of_mem _ hother)]
          exact List.cons_ne_nil _ _

/-- The pieces of joined texts are these texts when that is what they come to when stripped. -/
theorem trimmed_eq_iff {pieces texts : List (List Char)} (htexts : texts ≠ [])
    (hne : ∀ text ∈ texts, text ≠ []) (hstrip : ∀ text ∈ texts, pythonStrip text = text)
    (hjoined : [','].intercalate pieces = [','].intercalate texts) (hpieces : pieces ≠ []) :
    trimmed pieces = texts ↔ pieces = texts := by
  constructor
  · intro htrimmed
    have hpieceLength := totalLength_intercalate hpieces
    have htextLength := totalLength_intercalate htexts
    rw [hjoined] at hpieceLength
    rcases trimmed_eq_map pieces with hall | ⟨front, tail, rfl, hfront⟩
    · have hcount : pieces.length = texts.length := by rw [← htrimmed, hall, List.length_map]
      have hlength : totalLength (pieces.map pythonStrip) = totalLength pieces := by
        rw [← hall, htrimmed]
        omega
      rw [← htrimmed, hall, strip_eq_self_of_length hlength]
    · -- a dropped piece leaves too few characters
      exfalso
      have hcount : front.length = texts.length := by rw [← htrimmed, hfront, List.length_map]
      have hle : totalLength texts ≤ totalLength front := by
        rw [← htrimmed, hfront]
        exact totalLength_strip_le front
      have hsum : totalLength (front ++ [tail]) = totalLength front + tail.length := by
        simp [totalLength]
      rw [hsum, List.length_append, List.length_singleton] at hpieceLength
      omega
  · rintro rfl
    exact trimmed_eq_self hne hstrip

end Trimmed

/-! ## Joined arguments -/

section Joined

variable {allowed : List Char → Prop} {text : List Char}

theorem argument_ne_nil (htext : JsArgument allowed text) : text ≠ [] := by
  cases htext with
  | word hne hbare => exact hne
  | literal hliteral =>
      obtain ⟨quote, body, -, -, -, rfl⟩ := hliteral
      exact List.cons_ne_nil _ _
  | bracketed hpair hinside => exact List.cons_ne_nil _ _

theorem strip_argument (htext : JsArgument allowed text) : pythonStrip text = text := by
  cases htext with
  | word hne hbare =>
      have hspace : ∀ char ∈ text, isPythonSpace char = false := fun char hchar => by
        have hchar := hbare char hchar
        rw [isBare, Bool.and_eq_true, Bool.not_eq_true'] at hchar
        exact hchar.1
      exact pythonStrip_eq_self (fun char hchar => hspace char (List.mem_of_head? hchar))
        fun char hchar => hspace char (List.mem_of_getLast? hchar)
  | literal hliteral =>
      obtain ⟨quote, body, hquote, -, -, rfl⟩ := hliteral
      have hspace : isPythonSpace quote = false := by rcases hquote with rfl | rfl <;> rfl
      refine pythonStrip_eq_self (fun char hchar => ?_) fun char hchar => ?_
      · obtain rfl := Option.some.inj hchar
        exact hspace
      · rw [← List.cons_append, List.getLast?_append_cons] at hchar
        obtain rfl := Option.some.inj hchar
        exact hspace
  | @bracketed opening closing inside hpair hinside =>
      have hspace : isPythonSpace opening = false ∧ isPythonSpace closing = false := by
        simp only [bracketPairs, List.mem_cons, Prod.mk.injEq, List.not_mem_nil, or_false] at hpair
        rcases hpair with ⟨rfl, rfl⟩ | ⟨rfl, rfl⟩ | ⟨rfl, rfl⟩ <;> exact ⟨rfl, rfl⟩
      refine pythonStrip_eq_self (fun char hchar => ?_) fun char hchar => ?_
      · obtain rfl := Option.some.inj hchar
        exact hspace.1
      · rw [← List.cons_append, List.getLast?_append_cons] at hchar
        obtain rfl := Option.some.inj hchar
        exact hspace.2

theorem commaSplitter_cuts (scan : CommaScan) (char : Char)
    (hcuts : commaSplitter.cuts scan char = true) : char = ',' := by
  simp only [commaSplitter, CommaScan.cuts, Bool.and_eq_true, beq_iff_eq] at hcuts
  exact hcuts.1.1.1.1.1

/-- Joined arguments come back exactly when the scanner reads them apart. -/
theorem split_iff_readsApart {args : List (List Char)}
    (hargs : ∀ arg ∈ args, JsArgument allowed arg) :
    splitTopLevelCommas ([','].intercalate args) = args ↔ commaSplitter.ReadsApart ',' args := by
  cases args with
  | nil => exact iff_of_true rfl trivial
  | cons arg rest =>
      have hne : arg :: rest ≠ [] := List.cons_ne_nil _ _
      have hstart : (CommaScan.mk false false 0 0 0 false) = commaSplitter.start := rfl
      rw [← pieces_intercalate_iff hne, splitTopLevelCommas, splitCommas_eq, hstart]
      have hsame : ∀ pieces : List (List Char), pieces.modifyHead ([] ++ ·) = pieces :=
        fun pieces => by cases pieces <;> rfl
      rw [hsame]
      exact trimmed_eq_iff hne (fun text htext => argument_ne_nil (hargs text htext))
        (fun text htext => strip_argument (hargs text htext))
        (intercalate_pieces commaSplitter_cuts _ _) (commaSplitter.pieces_ne_nil _ _)

/-- Where in no argument a string follows one that ends in a backslash, the arguments are read
apart when none but the last holds such a string. -/
theorem readsApart_iff {args : List (List Char)}
    (hargs : ∀ arg ∈ args, JsArgument Unslashed arg ∨ SlashedLast arg) :
    commaSplitter.ReadsApart ',' args ↔ ∀ arg ∈ args.dropLast, JsArgument Unslashed arg := by
  -- no argument is cut inside: the scanner is at its start, in brackets, or still in a string
  have hwhole : ∀ arg ∈ args, commaSplitter.whole commaSplitter.start arg = true := by
    intro arg harg
    rcases hargs arg harg with hclean | hslashed
    · exact (through_argument hclean).1
    · obtain ⟨quote, paren, brace, bracket, behind, -, hthrough⟩ := endsWithin_argument hslashed
      exact hthrough.1
  induction args with
  | nil => exact iff_of_true trivial fun arg harg => by cases harg
  | cons arg rest ih =>
      cases rest with
      | nil =>
          exact iff_of_true (hwhole arg List.mem_cons_self) fun other hother => by cases hother
      | cons second rest =>
          have hrest : commaSplitter.ReadsApart ',' (second :: rest) ↔
              ∀ arg ∈ (second :: rest).dropLast, JsArgument Unslashed arg :=
            ih (fun other hother => hargs other (List.mem_cons_of_mem _ hother))
              fun other hother => hwhole other (List.mem_cons_of_mem _ hother)
          rw [Splitter.ReadsApart, hrest, List.dropLast_cons_of_ne_nil (List.cons_ne_nil _ _),
            List.forall_mem_cons, and_iff_right (hwhole arg List.mem_cons_self)]
          · refine and_congr_left' ⟨fun hcuts => ?_, fun hclean => ?_⟩
            -- a comma that cuts stands in no string, so the argument before has closed its own
            · refine (hargs arg List.mem_cons_self).resolve_right fun hslashed => ?_
              obtain ⟨quote, paren, brace, bracket, behind, hquote, hthrough⟩ :=
                endsWithin_argument hslashed
              rw [hthrough.2, cuts_within hquote] at hcuts
              cases hcuts
            · rw [(through_argument hclean).2]
              rfl
          · exact List.cons_ne_nil _ _

/-- Joined arguments come back when none but the last holds a string that ends in a backslash,
and no string follows such a one in the last. Where in no argument a string follows such a one,
they come back only then. -/
theorem split_join_iff {args : List (List Char)} (hargs : ∀ arg ∈ args, JsArgument AnyBody arg) :
    ((∀ arg ∈ args.dropLast, JsArgument Unslashed arg) →
        (∀ last ∈ args.getLast?, JsArgument Unslashed last ∨ SlashedLast last) →
          splitTopLevelCommas ([','].intercalate args) = args) ∧
      ((∀ arg ∈ args, JsArgument Unslashed arg ∨ SlashedLast arg) →
        splitTopLevelCommas ([','].intercalate args) = args →
          ∀ arg ∈ args.dropLast, JsArgument Unslashed arg) := by
  rw [split_iff_readsApart hargs]
  refine ⟨fun hfront hlast => ?_, fun hslashes => (readsApart_iff hslashes).mp⟩
  refine (readsApart_iff fun arg harg => ?_).mpr hfront
  rcases args.eq_nil_or_concat' with rfl | ⟨front, last, rfl⟩
  · cases harg
  · rw [List.dropLast_concat] at hfront
    rw [List.getLast?_concat] at hlast
    rcases List.mem_append.mp harg with hmem | hmem
    · exact .inl (hfront arg hmem)
    · exact List.mem_singleton.mp hmem ▸ hlast last rfl

/-- Where a string does follow such a one, the two misreadings can make up for one another. -/
example : splitTopLevelCommas "[\"a\\\\\",\"b\\\\\"],1".toList =
    ["[\"a\\\\\",\"b\\\\\"]".toList, "1".toList] := by decide

end Joined

namespace Specimen

/-- A string that is one escaped backslash. -/
def backslash : List Char := "\"\\\\\"".toList

theorem one_bare : ∀ char ∈ "1".toList, isBare char = true := List.all_eq_true.mp (by decide)

theorem backslash_slashed : IsLiteral Slashed backslash :=
  ⟨'"', ['\\', '\\'], .inl rfl, .escape .nil, rfl, rfl⟩

theorem backslash_literal : IsLiteral AnyBody backslash :=
  ⟨'"', ['\\', '\\'], .inl rfl, .escape .nil, trivial, rfl⟩

/-- A list of that string. -/
def backslashes : List Char := '[' :: (backslash ++ [']'])

end Specimen

section

open Specimen

/-- The number behind the string comes back as a part of it. -/
theorem split_backslash :
    (∀ arg ∈ [backslash, "1".toList], JsArgument AnyBody arg) ∧
      splitTopLevelCommas ([','].intercalate [backslash, "1".toList]) =
        [backslash ++ ",1".toList] := by
  refine ⟨fun arg harg => ?_, by decide⟩
  rcases List.mem_cons.mp harg with rfl | harg
  · exact .literal backslash_literal
  · obtain rfl := List.mem_singleton.mp harg
    exact .word (by decide) one_bare

/-- The last argument may hold the string, in brackets too. -/
theorem split_backslashes_last :
    splitTopLevelCommas ([','].intercalate ["1".toList, backslashes]) =
      ["1".toList, backslashes] := by
  have hlist : ∀ {allowed : List Char → Prop}, IsLiteral allowed backslash →
      InBrackets allowed backslash := fun hliteral =>
    List.append_nil backslash ▸ .literal hliteral .nil
  have hargs : ∀ arg ∈ ["1".toList, backslashes], JsArgument AnyBody arg := by
    intro arg harg
    rcases List.mem_cons.mp harg with rfl | harg
    · exact .word (by decide) one_bare
    · obtain rfl := List.mem_singleton.mp harg
      exact .bracketed (by decide) (hlist backslash_literal)
  have hslashed : SlashedInside backslash :=
    List.append_nil backslash ▸ .slashed backslash_slashed .nil nofun
  refine (split_join_iff hargs).1 (fun arg harg => ?_) fun last hlast => ?_
  · obtain rfl := List.mem_singleton.mp harg
    exact .word (by decide) one_bare
  · obtain rfl := Option.some.inj hlast
    exact .inr (.bracketed (by decide) hslashed)

end

end ChmabaPay
