import ChmabaPay.Foundation.Patterns
import ChmabaPay.Services.Payments

/-! # Probes in the listings

The queries of merchant-facing lists leave probes out with a pattern on the reference.
-/

namespace ChmabaPay

open Patterns

/-- The lower case of a database: that of ASCII, and elsewhere what its locale makes of a
character. Only the Kelvin sign and the dotted capital I have ASCII letters in lower case. -/
structure Collation where
  lower : Char → List Char
  ascii : ∀ char, char.toNat < 128 → lower char = [char.toLower]
  other : ∀ char, 128 ≤ char.toNat → char ≠ '\u212a' →
    ∃ first rest, lower char = first :: rest ∧ (128 ≤ first.toNat ∨ first = 'i')
  kelvin : lower '\u212a' = ['k'] ∨ lower '\u212a' = ['\u212a']

/-- `without_synthetic_payments`: a payment that a merchant-facing query keeps. -/
def withoutSyntheticPayments (collation : Collation) (referenceId : Option String) : Bool :=
  match referenceId with
  | none => true
  | some reference =>
      !like (syntheticReferencePrefix.toList ++ ['%']) (reference.toList.flatMap collation.lower)

end ChmabaPay
