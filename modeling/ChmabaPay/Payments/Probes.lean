import ChmabaPay.Foundation.Trimming
import ChmabaPay.Services.Probes
import Mathlib.Data.Bool.AllAny

/-! # Which probes a listing hides

Creation and the sweep take a payment for a probe by its trimmed reference or by a flag in
its metadata. A listing goes by the reference alone, as it stands.
-/

namespace ChmabaPay

open Patterns Trimming

/-! ## The prefix -/

/-- The characters of the prefix. -/
theorem prefix_chars : ∀ letter ∈ syntheticReferencePrefix.toList,
    letter.toNat < 128 ∧ letter ≠ 'i' ∧ isPythonSpace letter = false :=
  List.all_iff_forall_prop.mp (by decide)

theorem length_prefix : syntheticReferencePrefix.toList.length = 13 := by decide

theorem syntheticReferencePrefix_plain :
    '%' ∉ syntheticReferencePrefix.toList ∧ '_' ∉ syntheticReferencePrefix.toList := by
  decide

/-- `str.lower` of one character. -/
def lowerChar (char : Char) : List Char :=
  if char = '\u212a' then ['k'] else if char = '\u0130' then ['i', '\u0307'] else [char.toLower]

/-- Only an ASCII character has an ASCII lower case in its own right. -/
theorem toNat_lt_of_toLower {char : Char} (hlower : char.toLower.toNat < 128) :
    char.toNat < 128 := by
  unfold Char.toLower at hlower
  split at hlower
  next hcapital =>
    have hbound := UInt32.le_iff_toNat_le.mp hcapital.2
    exact Nat.lt_of_le_of_lt hbound (by decide)
  next => exact hlower

section Letters

variable {collation : Collation} {char letter : Char}

theorem lowerChar_eq_iff (hletter : letter ∈ syntheticReferencePrefix.toList) :
    lowerChar char = [letter] ↔
      char.toNat < 128 ∧ char.toLower = letter ∨ char = '\u212a' ∧ letter = 'k' := by
  obtain ⟨hascii, hdotted, -⟩ := prefix_chars letter hletter
  unfold lowerChar
  by_cases hkelvin : char = '\u212a'
  · subst hkelvin
    have hlarge : ¬ ('\u212a').toNat < 128 := by decide
    simp only [if_true, List.cons.injEq, and_true, hlarge, false_and, true_and, false_or]
    exact eq_comm
  by_cases hcapital : char = '\u0130'
  · subst hcapital
    simp
  simp only [hkelvin, hcapital, if_false, List.cons.injEq, and_true, false_and, or_false]
  constructor
  · rintro rfl
    exact ⟨toNat_lt_of_toLower hascii, rfl⟩
  · exact And.right

theorem lower_eq_iff (hletter : letter ∈ syntheticReferencePrefix.toList) :
    collation.lower char = [letter] ↔
      char.toNat < 128 ∧ char.toLower = letter ∨
        char = '\u212a' ∧ letter = 'k' ∧ collation.lower '\u212a' = ['k'] := by
  obtain ⟨hascii, hdotted, -⟩ := prefix_chars letter hletter
  by_cases hkelvin : char = '\u212a'
  · subst hkelvin
    have hlarge : ¬ ('\u212a').toNat < 128 := by decide
    simp only [hlarge, false_and, true_and, false_or]
    rcases collation.kelvin with hfolds | hkeeps
    · rw [hfolds]
      simp only [List.cons.injEq, and_true]
      exact eq_comm
    · rw [hkeeps]
      refine iff_of_false ?_ (by simp)
      rintro heq
      obtain rfl := (List.cons.inj heq).1
      exact hlarge hascii
  by_cases hsmall : char.toNat < 128
  · rw [collation.ascii char hsmall]
    simp [hsmall, hkelvin]
  · obtain ⟨first, rest, heq, hfirst⟩ := collation.other char (by omega) hkelvin
    rw [heq]
    refine iff_of_false ?_ (by simp [hsmall, hkelvin])
    intro hsame
    obtain rfl := (List.cons.inj hsame).1
    rcases hfirst with hlarge | hi
    · omega
    · exact hdotted hi

/-- Both lower cases write a character as one letter of the prefix, or as none. -/
theorem lowerChar_written (char : Char) : ∃ first rest, lowerChar char = first :: rest ∧
    (first ∈ syntheticReferencePrefix.toList → rest = []) := by
  unfold lowerChar
  split
  · exact ⟨_, _, rfl, fun _ => rfl⟩
  · split
    · refine ⟨_, _, rfl, fun hmem => ?_⟩
      exact absurd rfl (prefix_chars _ hmem).2.1
    · exact ⟨_, _, rfl, fun _ => rfl⟩

theorem lower_written (collation : Collation) (char : Char) :
    ∃ first rest, collation.lower char = first :: rest ∧
      (first ∈ syntheticReferencePrefix.toList → rest = []) := by
  by_cases hsmall : char.toNat < 128
  · exact ⟨_, _, collation.ascii char hsmall, fun _ => rfl⟩
  by_cases hkelvin : char = '\u212a'
  · subst hkelvin
    rcases collation.kelvin with hfolds | hkeeps
    · exact ⟨_, _, hfolds, fun _ => rfl⟩
    · exact ⟨_, _, hkeeps, fun _ => rfl⟩
  · obtain ⟨first, rest, heq, hfirst⟩ := collation.other char (by omega) hkelvin
    refine ⟨first, rest, heq, fun hmem => ?_⟩
    obtain ⟨hascii, hdotted, -⟩ := prefix_chars first hmem
    rcases hfirst with hlarge | hi
    · omega
    · exact absurd hi hdotted

end Letters

/-! ## Beginning with the prefix -/

/-- A text begins with the prefix in some lower case. -/
def Begins (lower : Char → List Char) (text : List Char) : Prop :=
  (text.take 13).map lower = syntheticReferencePrefix.toList.map fun letter => [letter]

theorem begins_iff_prefix {lower : Char → List Char}
    (hwritten : ∀ char, ∃ first rest, lower char = first :: rest ∧
      (first ∈ syntheticReferencePrefix.toList → rest = [])) (text : List Char) :
    syntheticReferencePrefix.toList <+: text.flatMap lower ↔ Begins lower text := by
  rw [prefix_flatMap_iff hwritten (fun _ hletter => hletter), length_prefix, Begins]

theorem prefix_pythonLower_iff (text : List Char) :
    syntheticReferencePrefix.toList <+: pythonLower text ↔ Begins lowerChar text :=
  begins_iff_prefix lowerChar_written text

section Begins

variable {text : List Char} {collation : Collation}

theorem Begins.length {lower : Char → List Char} (hbegins : Begins lower text) :
    13 ≤ text.length := by
  have hlength := congrArg List.length hbegins
  rw [List.length_map, List.length_map, length_prefix, List.length_take] at hlength
  omega

theorem Begins.letter {lower : Char → List Char} (hbegins : Begins lower text) {char : Char}
    (hchar : char ∈ text.take 13) :
    ∃ letter ∈ syntheticReferencePrefix.toList, lower char = [letter] := by
  have hmem : lower char ∈ (text.take 13).map lower := List.mem_map_of_mem hchar
  rw [hbegins, List.mem_map] at hmem
  obtain ⟨letter, hletter, heq⟩ := hmem
  exact ⟨letter, hletter, heq.symm⟩

/-- A blank has no other lower case, so none is written as a letter of the prefix. -/
theorem Begins.not_space (hbegins : Begins lowerChar text) {char : Char}
    (hchar : char ∈ text.take 13) : isPythonSpace char = false := by
  obtain ⟨letter, hletter, heq⟩ := hbegins.letter hchar
  rcases (lowerChar_eq_iff hletter).mp heq with ⟨-, hlower⟩ | ⟨rfl, -⟩
  · by_contra hspace
    rw [Bool.not_eq_false] at hspace
    have hsame : char.toLower = char := by
      unfold Char.toLower
      rw [dif_neg]
      rintro ⟨hlow, hhigh⟩
      have hlow := UInt32.le_iff_toNat_le.mp hlow
      have hhigh := UInt32.le_iff_toNat_le.mp hhigh
      have hrange : 65 ≤ char.toNat ∧ char.toNat ≤ 90 := ⟨hlow, hhigh⟩
      simp only [isPythonSpace, Bool.or_eq_true, Bool.and_eq_true, decide_eq_true_eq] at hspace
      omega
    rw [hsame] at hlower
    subst hlower
    exact Bool.false_ne_true ((prefix_chars char hletter).2.2.symm.trans hspace)
  · decide

/-- What begins with the prefix does so when it is trimmed. -/
theorem Begins.strip (hbegins : Begins lowerChar text) : Begins lowerChar (pythonStrip text) := by
  obtain ⟨pre, post, htext, hpre, hpost, -⟩ := exists_trim isPythonSpace text
  change text = pre ++ pythonStrip text ++ post at htext
  have hlength := hbegins.length
  have hempty : pre = [] := by
    cases pre with
    | nil => rfl
    | cons blank rest =>
        have hmem : blank ∈ text.take 13 := by
          rw [htext]
          exact List.mem_cons_self
        cases (hbegins.not_space hmem).symm.trans (hpre blank List.mem_cons_self)
  rw [hempty, List.nil_append] at htext
  have hlong : 13 ≤ (pythonStrip text).length := by
    by_contra hshort
    cases post with
    | nil =>
        rw [List.append_nil] at htext
        exact hshort (htext ▸ hlength)
    | cons blank rest =>
        have hmem : blank ∈ text.take 13 := by
          rw [htext, List.take_append, List.mem_append]
          right
          rw [List.take_cons (by omega)]
          exact List.mem_cons_self
        cases (hbegins.not_space hmem).symm.trans (hpost blank List.mem_cons_self)
  unfold Begins at hbegins
  rwa [htext, List.take_append_of_le_length hlong] at hbegins

theorem Begins.of_strip (hbegins : Begins lowerChar (pythonStrip text))
    (hblank : ∀ first ∈ text.head?, isPythonSpace first = false) : Begins lowerChar text := by
  obtain ⟨pre, post, htext, hpre, -, -⟩ := exists_trim isPythonSpace text
  change text = pre ++ pythonStrip text ++ post at htext
  have hempty : pre = [] := by
    cases pre with
    | nil => rfl
    | cons blank rest =>
        have hfirst := hblank blank (by rw [htext]; rfl)
        cases hfirst.symm.trans (hpre blank List.mem_cons_self)
  rw [hempty, List.nil_append] at htext
  have hlength := hbegins.length
  unfold Begins at hbegins ⊢
  rwa [htext, List.take_append_of_le_length hlength]

/-- The database finds the prefix where Python does, but for a Kelvin sign that it keeps. -/
theorem begins_collation_iff :
    Begins collation.lower text ↔ Begins lowerChar text ∧
      ('\u212a' ∈ text.take 13 → collation.lower '\u212a' = ['k']) := by
  constructor
  · intro hbegins
    refine ⟨map_singletons (fun char _ letter hletter heq => ?_) hbegins, fun hkelvin => ?_⟩
    · rw [lower_eq_iff hletter] at heq
      rw [lowerChar_eq_iff hletter]
      exact heq.imp_right fun hkelvin => ⟨hkelvin.1, hkelvin.2.1⟩
    · obtain ⟨letter, hletter, heq⟩ := hbegins.letter hkelvin
      rcases (lower_eq_iff hletter).mp heq with ⟨hsmall, -⟩ | ⟨-, -, hfolds⟩
      · exact absurd hsmall (by decide)
      · exact hfolds
  · rintro ⟨hbegins, hkelvin⟩
    refine map_singletons (fun char hchar letter hletter heq => ?_) hbegins
    rw [lowerChar_eq_iff hletter] at heq
    rw [lower_eq_iff hletter]
    exact heq.imp_right fun ⟨hsign, hk⟩ => ⟨hsign, hk, hkelvin (hsign ▸ hchar)⟩

end Begins

/-! ## Hidden and known -/

/-- The flag of a probe. -/
def Flagged (metadata : Option JsonObject) : Prop :=
  ∃ entries ∈ metadata, entries.lookup "synthetic" = some (.bool true)

/-- Metadata and reference mark a probe alike: what the flag marks has the prefix as well,
and the prefix stands in front, in letters the database writes small. -/
structure MarkedAlike (collation : Collation) (referenceId : Option String)
    (metadata : Option JsonObject) : Prop where
  flag : Flagged metadata → ∃ reference ∈ referenceId,
    syntheticReferencePrefix.toList <+: pythonLower reference.toList
  blanks : ∀ reference ∈ referenceId,
    syntheticReferencePrefix.toList <+: pythonLower (pythonStrip reference.toList) →
    ∀ first ∈ reference.toList.head?, isPythonSpace first = false
  kelvin : ∀ reference ∈ referenceId,
    syntheticReferencePrefix.toList <+: pythonLower reference.toList →
    '\u212a' ∈ reference.toList.take 13 → collation.lower '\u212a' = ['k']

section Hidden

variable {collation : Collation} {referenceId : Option String} {metadata : Option JsonObject}

theorem withoutSyntheticPayments_eq_false_iff :
    withoutSyntheticPayments collation referenceId = false ↔
      ∃ reference ∈ referenceId, Begins collation.lower reference.toList := by
  cases referenceId with
  | none => simp [withoutSyntheticPayments]
  | some reference =>
      rw [withoutSyntheticPayments, Bool.not_eq_false', like_stem syntheticReferencePrefix_plain,
        begins_iff_prefix (lower_written collation)]
      simp

theorem isSynthetic_iff :
    isSynthetic referenceId metadata = true ↔
      (∃ reference ∈ referenceId, Begins lowerChar (pythonStrip reference.toList)) ∨
        Flagged metadata := by
  rw [isSynthetic, Bool.or_eq_true, Option.any_eq_true, Option.any_eq_true]
  simp only [List.isPrefixOf_iff_prefix, prefix_pythonLower_iff, decide_eq_true_eq]
  rfl

/-- What the listings hide is what creation and the sweep take for a probe just when metadata
and reference mark it alike. -/
theorem hidden_iff_synthetic :
    (withoutSyntheticPayments collation referenceId = false ↔
      isSynthetic referenceId metadata = true) ↔
    MarkedAlike collation referenceId metadata := by
  rw [withoutSyntheticPayments_eq_false_iff, isSynthetic_iff]
  constructor
  · intro hagree
    have hhidden : ∀ reference ∈ referenceId, ∀ other ∈ referenceId,
        Begins collation.lower other.toList → Begins collation.lower reference.toList := by
      intro reference hreference other hother hbegins
      rwa [Option.some.inj (hreference.symm.trans hother)]
    refine ⟨fun hflag => ?_, fun reference hreference hprefix => ?_,
      fun reference hreference hprefix => ?_⟩
    · obtain ⟨reference, hreference, hbegins⟩ := hagree.mpr (.inr hflag)
      refine ⟨reference, hreference, ?_⟩
      rw [prefix_pythonLower_iff]
      exact (begins_collation_iff.mp hbegins).1
    · rw [prefix_pythonLower_iff] at hprefix
      obtain ⟨other, hother, hbegins⟩ := hagree.mpr (.inl ⟨reference, hreference, hprefix⟩)
      have hbegins := (begins_collation_iff.mp (hhidden _ hreference _ hother hbegins)).1
      intro first hfirst
      refine hbegins.not_space (?_ : first ∈ reference.toList.take 13)
      cases hlist : reference.toList with
      | nil =>
          rw [hlist] at hfirst
          cases hfirst
      | cons head rest =>
          rw [hlist] at hfirst
          obtain rfl := Option.some.inj hfirst
          exact List.mem_cons_self
    · rw [prefix_pythonLower_iff] at hprefix
      obtain ⟨other, hother, hbegins⟩ :=
        hagree.mpr (.inl ⟨reference, hreference, hprefix.strip⟩)
      exact (begins_collation_iff.mp (hhidden _ hreference _ hother hbegins)).2
  · rintro ⟨hflag, hblanks, hkelvin⟩
    have hfound : ∀ reference ∈ referenceId, Begins lowerChar reference.toList →
        Begins collation.lower reference.toList := by
      intro reference hreference hbegins
      refine begins_collation_iff.mpr ⟨hbegins, hkelvin reference hreference ?_⟩
      rwa [prefix_pythonLower_iff]
    constructor
    · rintro ⟨reference, hreference, hbegins⟩
      exact .inl ⟨reference, hreference, (begins_collation_iff.mp hbegins).1.strip⟩
    · rintro (⟨reference, hreference, hbegins⟩ | hmarked)
      · have hfirst := hblanks reference hreference
          ((prefix_pythonLower_iff _).mpr hbegins)
        exact ⟨reference, hreference, hfound reference hreference (hbegins.of_strip hfirst)⟩
      · obtain ⟨reference, hreference, hprefix⟩ := hflag hmarked
        rw [prefix_pythonLower_iff] at hprefix
        exact ⟨reference, hreference, hfound reference hreference hprefix⟩

end Hidden

/-- A database that knows the lower case of ASCII alone. -/
def Specimen.collation : Collation where
  lower char := [char.toLower]
  ascii := fun _ _ => rfl
  other := by
    intro char hlarge _
    refine ⟨char.toLower, [], rfl, .inl ?_⟩
    by_contra hsmall
    exact absurd (toNat_lt_of_toLower (by omega)) (by omega : ¬ char.toNat < 128)
  kelvin := .inr (by decide)

/-- A flagged probe without a reference is listed. -/
theorem flagged_probe_listed :
    ¬ (withoutSyntheticPayments Specimen.collation none = false ↔
      isSynthetic none (some [("synthetic", .bool true)]) = true) := by
  decide

end ChmabaPay
