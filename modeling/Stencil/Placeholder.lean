import Stencil.Text.Escape
import Stencil.Text.Replace

/-! A placeholder is a key written between two delimiters, `@key@`.  A key is not empty and holds
neither the delimiter nor a line break, so a token lies within one line and two tokens in a text
share at most one delimiter. -/

namespace Stencil

inductive KeyFault where
  | empty
  | containsDelimiter (key : Text)
  | containsLineBreak (key : Text)
  deriving DecidableEq

namespace KeyFault

/-- A key with a line break is written escaped, so that the message stays on one line. -/
def message : KeyFault → Text
  | .empty => "key is empty".toList
  | .containsDelimiter key =>
    "key '".toList ++ key ++ "' contains the delimiter '@'".toList
  | .containsLineBreak key =>
    "key '".toList ++ Text.escaped key ++ "' contains a line break".toList

end KeyFault

namespace Placeholder

def delimiter : Char := '@'

def isLineBreak (c : Char) : Bool := c == '\n' || c == '\r'

/-- What is wrong with a key; the delimiter is looked for before line breaks. -/
def fault? (key : Text) : Option KeyFault :=
  if key = [] then some .empty
  else if key.contains delimiter then some (.containsDelimiter key)
  else if key.any isLineBreak then some (.containsLineBreak key)
  else none

def ValidKey (key : Text) : Prop := key ≠ [] ∧ '@' ∉ key ∧ '\n' ∉ key ∧ '\r' ∉ key

instance : DecidablePred ValidKey := fun _ => inferInstanceAs (Decidable (_ ∧ _))

theorem fault?_eq_none_iff (key : Text) : fault? key = none ↔ ValidKey key := by
  unfold fault? ValidKey
  by_cases h : key = []
  · simp [h]
  by_cases hd : '@' ∈ key
  · simp [h, hd, delimiter]
  by_cases hl : key.any isLineBreak = true
  · have hl' : '\n' ∈ key ∨ '\r' ∈ key := by
      simp only [List.any_eq_true, isLineBreak, Bool.or_eq_true, beq_iff_eq] at hl
      obtain ⟨c, hc, rfl | rfl⟩ := hl
      · exact .inl hc
      · exact .inr hc
    simp only [h, hd, delimiter, List.contains_eq_mem, hl, if_true, if_false, decide_false]
    simp only [Bool.false_eq_true, if_false, reduceCtorEq, false_iff]
    rintro ⟨_, _, hn, hr⟩
    exact hl'.elim hn hr
  · have hl' : '\n' ∉ key ∧ '\r' ∉ key := by
      simp only [List.any_eq_true, isLineBreak, Bool.or_eq_true, beq_iff_eq, not_exists] at hl
      exact ⟨fun hn => hl '\n' ⟨hn, .inl rfl⟩, fun hr => hl '\r' ⟨hr, .inr rfl⟩⟩
    simp [h, hd, delimiter, hl, hl'.1, hl'.2]

end Placeholder

structure Placeholder where
  key : Text
  valid : Placeholder.ValidKey key
  deriving DecidableEq

namespace Placeholder

def ofKey (key : Text) : Except KeyFault Placeholder :=
  match sound : fault? key with
  | some fault => .error fault
  | none => .ok ⟨key, (fault?_eq_none_iff key).mp sound⟩

theorem key_of_ofKey {key : Text} {p : Placeholder} (h : ofKey key = .ok p) : p.key = key := by
  unfold ofKey at h
  split at h
  · cases h
  · cases h
    rfl

theorem ofKey_key (p : Placeholder) : ofKey p.key = .ok p := by
  have sound := (fault?_eq_none_iff p.key).mpr p.valid
  unfold ofKey
  split
  · next fault found => cases sound.symm.trans found
  · rfl

def token (p : Placeholder) : Text := delimiter :: (p.key ++ [delimiter])

def isMatch (p : Placeholder) (t : Text) : Bool := Text.occurs p.token t

def replaceAll (p : Placeholder) (value t : Text) : Text := Text.replaceAll p.token value t

end Placeholder

end Stencil
