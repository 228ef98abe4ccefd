import Stencil.Toml.Value
import Stencil.Proofs.Toml.Distinct

/-! Meanings, item by item.  A list means the list of what its items mean, if each of them means
something; a table keeps the names and the order of its entries. -/

namespace Stencil.Toml

theorem itemMeanings_eq_ok_iff {items : List Node} {values : List Value} :
    itemMeanings items = .ok values ↔
      List.Forall₂ (fun item value => item.meaning = .ok value) items values :=
  eq_ok_iff_forall₂ (f := itemMeanings) rfl fun x xs => by
    rw [itemMeanings]
    cases x.meaning <;> rfl

theorem tableMeanings_eq_ok_iff {tables : List (Table Node)} {values : List Value} :
    tableMeanings tables = .ok values ↔
      List.Forall₂ (fun t value => tableMeaning t = .ok value) tables values :=
  eq_ok_iff_forall₂ (f := tableMeanings) rfl fun x xs => by
    rw [tableMeanings]
    cases tableMeaning x <;> rfl

/-- The last table of a list is kept apart, but it means what the others do. -/
theorem meaning_tables (earlier : List (Table Node)) (last : Table Node) :
    (Node.tables earlier last).meaning = (tableMeanings (earlier ++ [last])).map .array := by
  have appended : tableMeanings (earlier ++ [last]) = (tableMeanings earlier).bind fun values =>
      (tableMeaning last).map fun value => values ++ [value] := by
    induction earlier with
    | nil =>
      simp only [List.nil_append, tableMeanings]
      cases tableMeaning last <;> rfl
    | cons t ts ih =>
      rw [List.cons_append, tableMeanings, tableMeanings, ih]
      cases tableMeaning t with
      | error fault => rfl
      | ok value =>
        cases tableMeanings ts with
        | error fault => rfl
        | ok values => cases tableMeaning last <;> rfl
  rw [Node.meaning, appended]
  cases tableMeanings earlier with
  | error fault => rfl
  | ok values => cases tableMeaning last <;> rfl

theorem entryMeaning_eq_ok_iff {entry : Key × Node} {value : Text × Value} :
    entryMeaning entry = .ok value ↔
      value.1 = entry.1.name ∧ entry.2.meaning = .ok value.2 := by
  obtain ⟨key, node⟩ := entry
  obtain ⟨name, meant⟩ := value
  rw [entryMeaning, map_eq_ok_iff]
  constructor
  · rintro ⟨v, found, same⟩
    obtain ⟨rfl, rfl⟩ := Prod.mk.inj same
    exact ⟨rfl, found⟩
  · rintro ⟨rfl, found⟩
    exact ⟨meant, found, rfl⟩

theorem entryMeanings_eq_ok_iff {entries : List (Key × Node)} {values : List (Text × Value)} :
    entryMeanings entries = .ok values ↔
      List.Forall₂ (fun entry value => entryMeaning entry = .ok value) entries values :=
  eq_ok_iff_forall₂ (f := entryMeanings) rfl fun x xs => by
    rw [entryMeanings]
    cases entryMeaning x <;> rfl

theorem tableMeaning_eq_table_iff {t : Table Node} {values : List (Text × Value)} :
    tableMeaning t = .ok (.table values) ↔
      dateEntry? t.entries = none ∧ entryMeanings t.entries = .ok values := by
  obtain ⟨standing, extent, entries⟩ := t
  rw [tableMeaning]
  cases date : dateEntry? entries with
  | some entry =>
    simp only [dateMeaning]
    split <;> simp
  | none => simp [map_eq_ok_iff]

theorem tableMeaning_ne_array (t : Table Node) (items : List Value) :
    tableMeaning t ≠ .ok (.array items) := by
  obtain ⟨standing, extent, entries⟩ := t
  rw [tableMeaning]
  cases date : dateEntry? entries with
  | some entry =>
    simp only [dateMeaning]
    split <;> simp
  | none => simp [map_eq_ok_iff]

theorem names_of_entryMeanings {entries : List (Key × Node)} {values : List (Text × Value)}
    (meant : entryMeanings entries = .ok values) :
    values.map Prod.fst = entries.map (·.1.name) := by
  have each := entryMeanings_eq_ok_iff.mp meant
  induction each with
  | nil => rfl
  | cons first rest ih =>
    rw [List.map_cons, List.map_cons, (entryMeaning_eq_ok_iff.mp first).1,
      ih (entryMeanings_eq_ok_iff.mpr rest)]

theorem Table.Distinct.nodup_of_meaning {t : Table Node} (d : t.Distinct)
    {values : List (Text × Value)} (meant : tableMeaning t = .ok (.table values)) :
    (values.map Prod.fst).Nodup := by
  rw [names_of_entryMeanings (tableMeaning_eq_table_iff.mp meant).2]
  exact d.names

namespace Node.Distinct

variable {node : Node}

theorem nodup_of_meaning (d : node.Distinct) {values : List (Text × Value)}
    (meant : node.meaning = .ok (.table values)) : (values.map Prod.fst).Nodup := by
  cases d with
  | scalar extent value => cases meant
  | array extent each =>
    obtain ⟨items, -, same⟩ := map_eq_ok_iff.mp meant
    cases same
  | inline distinct => exact distinct.nodup_of_meaning meant
  | table distinct => exact distinct.nodup_of_meaning meant
  | tables each distinct =>
    rw [meaning_tables] at meant
    obtain ⟨items, -, same⟩ := map_eq_ok_iff.mp meant
    cases same

theorem of_mem_items (d : node.Distinct) {items : List Value}
    (meant : node.meaning = .ok (.array items)) {item : Value} (mem : item ∈ items) :
    ∃ inner : Node, inner.Distinct ∧ inner.meaning = .ok item := by
  cases d with
  | scalar extent value => cases meant
  | array extent each =>
    obtain ⟨items', found, same⟩ := map_eq_ok_iff.mp meant
    obtain rfl := Value.array.inj same
    obtain ⟨inner, held, means⟩ := exists_of_mem_right (itemMeanings_eq_ok_iff.mp found) mem
    exact ⟨inner, each inner held, means⟩
  | inline distinct => exact absurd meant (tableMeaning_ne_array _ _)
  | table distinct => exact absurd meant (tableMeaning_ne_array _ _)
  | tables each distinct =>
    rw [meaning_tables] at meant
    obtain ⟨items', found, same⟩ := map_eq_ok_iff.mp meant
    obtain rfl := Value.array.inj same
    obtain ⟨t, held, means⟩ := exists_of_mem_right (tableMeanings_eq_ok_iff.mp found) mem
    refine ⟨.table t, .table ?_, means⟩
    rcases List.mem_append.mp held with old | latest
    · exact each t old
    · obtain rfl := List.mem_singleton.mp latest
      exact distinct

end Node.Distinct

end Stencil.Toml
