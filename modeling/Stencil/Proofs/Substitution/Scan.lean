import Stencil.Proofs.Substitution.Tokens

/-! Replacement as a scan over the segments that the delimiters cut a text into.  A segment between
two delimiters that is the key is a match if the delimiter in front of it is still there: the match
before may have taken it, since two tokens can share one. -/

namespace Stencil

/-- The parts of a text between its delimiters, one more than there are delimiters. -/
def Text.segments (t : Text) : List Text := t.splitOn Placeholder.delimiter

namespace Text

variable {s : Text}

theorem segments_ne_nil (t : Text) : segments t ≠ [] := List.splitOn_ne_nil _ t

theorem segments_of_clear (clear : Placeholder.delimiter ∉ s) : segments s = [s] :=
  List.splitOn_eq_singleton clear

theorem segments_append (clear : Placeholder.delimiter ∉ s) (t : Text) :
    segments (s ++ Placeholder.delimiter :: t) = s :: segments t :=
  List.splitOn_append_cons_self_of_not_mem clear t

theorem intercalate_segments (t : Text) : [Placeholder.delimiter].intercalate (segments t) = t :=
  List.intercalate_splitOn _

theorem clear_of_mem_segments {t : Text} (mem : s ∈ segments t) : Placeholder.delimiter ∉ s := by
  induction t using segment_induction with
  | last a clear =>
    rw [segments_of_clear clear] at mem
    exact List.mem_singleton.mp mem ▸ clear
  | segment a t clear ih =>
    rw [segments_append clear] at mem
    rcases List.mem_cons.mp mem with rfl | later
    · exact clear
    · exact ih later

end Text

namespace Placeholder

open Text (segments segments_of_clear segments_append segments_ne_nil)

/-- One pass over segments from left to right.  `consumed` says that no delimiter is left in front of
the next one: the match before has taken it, or the text begins there. -/
def scan (key value : Text) : (consumed : Bool) → List Text → Text
  | _, [] => []
  | true, s :: rest => s ++ scan key value false rest
  | false, s :: rest =>
    if s = key ∧ rest ≠ [] then value ++ scan key value true rest
    else delimiter :: (s ++ scan key value false rest)

variable (p : Placeholder) (value : Text)

/-- The search stands behind a delimiter that was consumed, or in front of one that was not.  Both
go on over the segments of the same text. -/
theorem replaceAll_eq_scan_segments (t : Text) :
    p.replaceAll value t = scan p.key value true (segments t) ∧
      p.replaceAll value (delimiter :: t) = scan p.key value false (segments t) := by
  induction t using segment_induction with
  | last s clear =>
    rw [segments_of_clear clear, p.replaceAll_of_clear value clear, p.replaceAll_last value clear]
    simp [scan]
  | segment s t clear ih =>
    obtain ⟨behind, before⟩ := ih
    rw [segments_append clear]
    constructor
    · rw [p.replaceAll_append_of_clear value clear, before, scan]
    · by_cases same : s = p.key
      · rw [scan, if_pos ⟨same, segments_ne_nil t⟩, same, p.replaceAll_segment_of_eq, behind]
      · rw [scan, if_neg fun h => same h.1, p.replaceAll_segment_of_ne value clear same, before]

/-- The same two places: only a segment with another one behind it is closed. -/
theorem isMatch_iff_mem_segments (t : Text) :
    (p.isMatch t = true ↔ p.key ∈ (segments t).tail.dropLast) ∧
      (p.isMatch (delimiter :: t) = true ↔ p.key ∈ (segments t).dropLast) := by
  induction t using segment_induction with
  | last s clear =>
    rw [segments_of_clear clear, p.isMatch_of_clear clear, p.isMatch_last clear]
    simp
  | segment s t clear ih =>
    obtain ⟨-, before⟩ := ih
    rw [segments_append clear]
    constructor
    · rw [p.isMatch_append_of_clear clear, before, List.tail_cons]
    · rw [p.isMatch_segment clear, before, List.dropLast_cons_of_ne_nil (segments_ne_nil t),
        List.mem_cons, eq_comm]

theorem replaceAll_eq_scan (t : Text) :
    ([delimiter].intercalate (segments t) = t ∧ ∀ s ∈ segments t, delimiter ∉ s) ∧
      p.replaceAll value t = scan p.key value true (segments t) ∧
      (p.isMatch t = true ↔
        ∃ i, 0 < i ∧ i + 1 < (segments t).length ∧ (segments t)[i]? = some p.key) := by
  refine ⟨⟨Text.intercalate_segments t, fun s mem => Text.clear_of_mem_segments mem⟩,
    (p.replaceAll_eq_scan_segments value t).1, ?_⟩
  rw [(p.isMatch_iff_mem_segments t).1, mem_tail_dropLast_iff]

/-- Three candidates share their delimiters, and the one in the middle is left without its own. -/
theorem replaceAll_shared_delimiters :
    let p : Placeholder := ⟨"k".toList, by decide⟩
    let t := "@k@k@k@".toList
    "k".toList ∈ segments t ∧ delimiter ∉ "k".toList ∧
      p.replaceAll "v".toList t = "vkv".toList ∧ p.isMatch t = true := by
  intro p t
  have law := p.replaceAll_eq_scan "v".toList t
  have listed : "k".toList ∈ segments t := by decide
  exact ⟨listed, law.1.2 _ listed, law.2.1.trans (by decide),
    law.2.2.mpr ⟨1, by decide, by decide, by decide⟩⟩

end Placeholder

end Stencil
