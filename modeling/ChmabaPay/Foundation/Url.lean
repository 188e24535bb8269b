import Mathlib.Data.List.TakeDrop

/-! # The host of a URL

The generic syntax of a URL puts an authority between `//` and the next `/`, `?` or `#`:
a user part up to the last `@`, a host, and a port behind the next `:`. The host is what
a client connects to, in lower case.
-/

namespace Url

/-- The characters that end an authority. -/
def isDelimiter (char : Char) : Bool :=
  decide (char = '/') || decide (char = '?') || decide (char = '#')

/-- The text behind the first `//`. -/
def afterSlashes : List Char → List Char
  | '/' :: '/' :: rest => rest
  | _ :: rest => afterSlashes rest
  | [] => []

def authority (url : List Char) : List Char :=
  (afterSlashes url).takeWhile fun char => !isDelimiter char

/-- The authority behind its user part. -/
def withoutUser (authority : List Char) : List Char :=
  (authority.reverse.takeWhile fun char => decide (char ≠ '@')).reverse

/-- The host. One in brackets is an address that may hold colons itself. -/
def host (url : List Char) : List Char :=
  let named := withoutUser (authority url)
  if named.head? = some '[' then named.takeWhile (fun char => decide (char ≠ ']')) ++ [']']
  else (named.takeWhile fun char => decide (char ≠ ':')).map Char.toLower

/-- A host under a domain: the domain itself or a subdomain of it. -/
def Under (domain host : List Char) : Prop := host = domain ∨ '.' :: domain <:+ host

instance (domain host : List Char) : Decidable (Under domain host) :=
  inferInstanceAs (Decidable (_ ∨ _))

/-! ## What follows the authority does not matter -/

theorem afterSlashes_append (scheme rest : List Char) (hscheme : '/' ∉ scheme) :
    afterSlashes (scheme ++ '/' :: '/' :: rest) = rest := by
  induction scheme with
  | nil => rfl
  | cons char scheme ih =>
      obtain ⟨hchar, htail⟩ := not_or.mp (mt List.mem_cons.mpr hscheme)
      rw [List.cons_append, afterSlashes]
      · exact ih htail
      · rintro other heq -
        exact hchar heq.symm

/-- The authority of a URL spelled out in its parts. -/
theorem authority_append (scheme named path : List Char) (hscheme : '/' ∉ scheme)
    (hnamed : ∀ char ∈ named, isDelimiter char = false) :
    authority (scheme ++ '/' :: '/' :: (named ++ '/' :: path)) = named := by
  unfold authority
  rw [afterSlashes_append _ _ hscheme, List.takeWhile_append_of_pos]
  · simp [isDelimiter]
  · intro char hchar
    rw [hnamed char hchar]
    rfl

end Url
