import Stencil.Placeholder

/-! A record lists keys with their replacements.  Its pairs are applied one after another, each to
what the pairs before it left, so a replacement may bring in the token of a later key. -/

namespace Stencil

structure Record where
  pairs : List (Placeholder × Text)
  deriving DecidableEq

namespace Record

def empty : Record := ⟨[]⟩

/-- Compiles the pairs in order and stops at the first key that is no placeholder. -/
def ofPairs : List (Text × Text) → Except KeyFault Record
  | [] => .ok empty
  | (key, value) :: rest =>
    match Placeholder.ofKey key with
    | .error fault => .error fault
    | .ok placeholder => (ofPairs rest).map fun record => ⟨(placeholder, value) :: record.pairs⟩

def applyPairs : List (Placeholder × Text) → Text → Text
  | [], t => t
  | (placeholder, value) :: rest, t => applyPairs rest (placeholder.replaceAll value t)

def apply (r : Record) (t : Text) : Text := applyPairs r.pairs t

def get? (r : Record) (key : Text) : Option Text :=
  (r.pairs.find? fun pair => pair.1.key == key).map (·.2)

def tokens (r : Record) : List Text := r.pairs.map (·.1.token)

def keys (r : Record) : List Text := r.pairs.map (·.1.key)

/-- How log messages name a record: by its first pair. -/
def label (r : Record) : Text :=
  match r.pairs with
  | [] => "<empty>".toList
  | (placeholder, value) :: _ => placeholder.key ++ '=' :: value

def toPairs (r : Record) : List (Text × Text) := r.pairs.map fun pair => (pair.1.key, pair.2)

theorem toPairs_of_ofPairs {pairs : List (Text × Text)} {r : Record}
    (h : ofPairs pairs = .ok r) : r.toPairs = pairs := by
  induction pairs generalizing r with
  | nil =>
    obtain rfl : empty = r := by simpa [ofPairs] using h
    rfl
  | cons pair pairs ih =>
    obtain ⟨key, value⟩ := pair
    rw [ofPairs] at h
    cases hk : Placeholder.ofKey key with
    | error fault => simp [hk] at h
    | ok placeholder =>
      cases hr : ofPairs pairs with
      | error fault => simp [hk, hr, Except.map] at h
      | ok rest =>
        simp only [hk, hr, Except.map, Except.ok.injEq] at h
        subst h
        simpa [toPairs, Placeholder.key_of_ofKey hk] using ih hr

theorem ofPairs_toPairs (r : Record) : ofPairs r.toPairs = .ok r := by
  obtain ⟨pairs⟩ := r
  induction pairs with
  | nil => rfl
  | cons pair pairs ih =>
    have rest : ofPairs (toPairs ⟨pairs⟩) = .ok ⟨pairs⟩ := ih
    rw [toPairs] at rest
    rw [toPairs, List.map_cons, ofPairs, Placeholder.ofKey_key, rest]
    rfl

theorem keys_eq_map_toPairs (r : Record) : r.keys = r.toPairs.map Prod.fst := by
  rw [toPairs, List.map_map]
  rfl

end Record

end Stencil
