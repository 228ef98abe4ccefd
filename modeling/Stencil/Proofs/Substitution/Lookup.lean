import Mathlib.Data.List.Nodup
import Mathlib.Data.List.Perm.Basic
import Stencil.Record

/-! The replacement of a key.  The first pair with the key gives it; with distinct keys there is no
other one, and the order of the pairs does not matter. -/

namespace Stencil.Record

variable {r : Record}

theorem eq_of_key_eq (distinct : r.keys.Nodup) {pair other : Placeholder × Text}
    (mem : pair ∈ r.pairs) (mem' : other ∈ r.pairs) (same : other.1.key = pair.1.key) :
    other = pair :=
  List.inj_on_of_nodup_map distinct mem' mem same

theorem get?_of_mem (distinct : r.keys.Nodup) {pair : Placeholder × Text} (mem : pair ∈ r.pairs) :
    r.get? pair.1.key = some pair.2 := by
  unfold get?
  cases found : r.pairs.find? fun other => other.1.key == pair.1.key with
  | none =>
    have missed := List.find?_eq_none.mp found pair mem
    simp at missed
  | some other =>
    have same : other.1.key = pair.1.key := by simpa using List.find?_some found
    rw [eq_of_key_eq distinct mem (List.mem_of_find?_eq_some found) same]
    rfl

theorem get?_append (ps qs : List (Placeholder × Text)) (key : Text) :
    (Record.mk (ps ++ qs)).get? key =
      ((Record.mk ps).get? key).or ((Record.mk qs).get? key) := by
  unfold get?
  rw [List.find?_append]
  cases ps.find? fun pair => pair.1.key == key <;> rfl

theorem get?_singleton (p : Placeholder) (value key : Text) :
    (Record.mk [(p, value)]).get? key = if p.key = key then some value else none := by
  by_cases same : p.key = key <;> simp [get?, same]

theorem mem_of_get? {key value : Text} (h : r.get? key = some value) :
    ∃ pair ∈ r.pairs, pair.1.key = key ∧ pair.2 = value := by
  obtain ⟨pair, found, rfl⟩ := Option.map_eq_some_iff.mp h
  have same : pair.1.key = key := by simpa using List.find?_some found
  exact ⟨pair, List.mem_of_find?_eq_some found, same, rfl⟩

theorem get?_eq_some_iff (distinct : r.keys.Nodup) {key value : Text} :
    r.get? key = some value ↔ ∃ pair ∈ r.pairs, pair.1.key = key ∧ pair.2 = value := by
  constructor
  · exact mem_of_get?
  · rintro ⟨pair, mem, rfl, rfl⟩
    exact get?_of_mem distinct mem

theorem keys_perm {r' : Record} (perm : r'.pairs.Perm r.pairs) : r'.keys.Perm r.keys :=
  perm.map _

theorem get?_of_perm {r' : Record} (distinct : r.keys.Nodup) (perm : r'.pairs.Perm r.pairs)
    (key : Text) : r'.get? key = r.get? key := by
  have distinct' : r'.keys.Nodup := (keys_perm perm).nodup_iff.mpr distinct
  refine Option.ext fun value => ?_
  rw [get?_eq_some_iff distinct', get?_eq_some_iff distinct]
  simp only [perm.mem_iff]

end Stencil.Record
