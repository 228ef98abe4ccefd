import Stencil.Proofs.Results
import Stencil.Toml.Nesting
import Mathlib.Data.List.Nodup

/-! No name stands twice in a table of a document.  A table is only ever changed in three ways: a
name that it lacks is added at its end, a name that it has gets another value in its place, and a
name is taken out; so this holds of every table at every depth, whichever way the document writes
it. -/

namespace Stencil.Toml

mutual

/-- No name stands twice, neither in the table nor in any table below it. -/
inductive Table.Distinct : Table Node → Prop
  | intro {t : Table Node} (names : t.names.Nodup) (values : ∀ e ∈ t.entries, Node.Distinct e.2) :
      Table.Distinct t

inductive Node.Distinct : Node → Prop
  | scalar (extent : Extent) (value : Scalar) : Node.Distinct (.scalar extent value)
  | array (extent : Extent) {items : List Node} (each : ∀ item ∈ items, Node.Distinct item) :
      Node.Distinct (.array extent items)
  | inline {t : Table Node} (distinct : Table.Distinct t) : Node.Distinct (.inline t)
  | table {t : Table Node} (distinct : Table.Distinct t) : Node.Distinct (.table t)
  | tables {earlier : List (Table Node)} {last : Table Node}
      (each : ∀ t ∈ earlier, Table.Distinct t) (distinct : Table.Distinct last) :
      Node.Distinct (.tables earlier last)

end

namespace Table.Distinct

variable {t t' : Table Node} {key : Key} {value : Node} {name : Text}

theorem names (d : t.Distinct) : t.names.Nodup := by
  cases d with
  | intro names values => exact names

theorem values (d : t.Distinct) : ∀ e ∈ t.entries, e.2.Distinct := by
  cases d with
  | intro names values => exact values

theorem empty (standing : Standing) (extent : Option Extent) :
    Table.Distinct (.empty standing extent) :=
  ⟨List.nodup_nil, by simp [Table.empty]⟩

theorem of_entries_eq (d : t.Distinct) (same : t'.entries = t.entries) : t'.Distinct := by
  refine ⟨?_, ?_⟩
  · rw [Table.names, same]
    exact d.names
  · rw [same]
    exact d.values

theorem find? (d : t.Distinct) (found : t.find? name = some value) : value.Distinct := by
  obtain ⟨e, lookup, rfl⟩ := Option.map_eq_some_iff.mp found
  exact d.values e (List.mem_of_find?_eq_some lookup)

theorem append (d : t.Distinct) (absent : key.name ∉ t.names) (holds : value.Distinct) :
    (t.append key value).Distinct := by
  refine ⟨?_, fun e mem => ?_⟩
  · rw [names_append, List.nodup_append_comm, List.singleton_append, List.nodup_cons]
    exact ⟨absent, d.names⟩
  · rcases List.mem_append.mp mem with old | new
    · exact d.values e old
    · obtain rfl := List.mem_singleton.mp new
      exact holds

theorem replace (d : t.Distinct) (name : Text) (holds : value.Distinct) :
    (t.replace name value).Distinct := by
  refine ⟨?_, fun e mem => ?_⟩
  · rw [names_replace]
    exact d.names
  · obtain ⟨old, held, rfl⟩ := List.mem_map.mp mem
    by_cases same : old.1.name = name
    · rw [if_pos same]
      exact holds
    · rw [if_neg same]
      exact d.values old held

theorem erase (d : t.Distinct) (name : Text) : (t.erase name).Distinct :=
  ⟨d.names.sublist (List.filter_sublist.map _), fun e mem => d.values e (List.mem_filter.mp mem).1⟩

theorem notMem_erase (t : Table Node) (name : Text) : name ∉ (t.erase name).names := by
  simp [Table.names, Table.erase]

section

variable {change : Table Node → Except Cause (Table Node)} {path : List Key} {walked : List Text}

theorem alter {made : Standing}
    (keeps : ∀ {t t'}, t.Distinct → change t = .ok t' → t'.Distinct) (d : t.Distinct)
    (altered : Table.alter made change path walked t = .ok t') : t'.Distinct := by
  induction path generalizing walked t t' with
  | nil => exact keeps d altered
  | cons k path ih =>
    rw [Table.alter] at altered
    cases found : t.find? k.name with
    | none =>
      rw [found] at altered
      obtain ⟨inner, below, made⟩ := bind_eq_ok_iff.mp altered
      obtain rfl := Except.ok.inj made
      exact d.append ((t.find?_eq_none_iff _).mp found) (.table (ih (.empty ..) below))
    | some node =>
      rw [found] at altered
      have holds := d.find? found
      cases holds with
      | scalar => cases altered
      | array => cases altered
      | inline => cases altered
      | table distinct =>
        simp only at altered
        split_ifs at altered
        obtain ⟨inner, below, made⟩ := bind_eq_ok_iff.mp altered
        obtain rfl := Except.ok.inj made
        exact d.replace _ (.table (ih distinct below))
      | tables each last =>
        obtain ⟨inner, below, made⟩ := bind_eq_ok_iff.mp altered
        obtain rfl := Except.ok.inj made
        exact d.replace _ (.tables each (ih last below))

theorem alterInline (keeps : ∀ {t t'}, t.Distinct → change t = .ok t' → t'.Distinct)
    (d : t.Distinct) (altered : Table.alterInline change path walked t = .ok t') :
    t'.Distinct := by
  induction path generalizing walked t t' with
  | nil => exact keeps d altered
  | cons k path ih =>
    rw [Table.alterInline] at altered
    cases found : t.find? k.name with
    | none =>
      rw [found] at altered
      obtain ⟨inner, below, made⟩ := bind_eq_ok_iff.mp altered
      obtain rfl := Except.ok.inj made
      exact d.append ((t.find?_eq_none_iff _).mp found) (.inline (ih (.empty ..) below))
    | some node =>
      rw [found] at altered
      have holds := d.find? found
      cases holds with
      | scalar => cases altered
      | array => cases altered
      | table => cases altered
      | tables => cases altered
      | inline distinct =>
        simp only at altered
        split_ifs at altered
        obtain ⟨inner, below, made⟩ := bind_eq_ok_iff.mp altered
        obtain rfl := Except.ok.inj made
        exact d.replace _ (.inline (ih distinct below))

end

theorem insertLast {path : KeyPath} {owner : Option (List Text)} (holds : value.Distinct)
    (d : t.Distinct) (inserted : Table.insertLast path owner value t = .ok t') : t'.Distinct := by
  unfold Table.insertLast at inserted
  split_ifs at inserted
  cases found : t.find? path.last.name with
  | some node => simp [found] at inserted
  | none =>
    obtain rfl : t.append path.last value = t' := by simpa [found] using inserted
    exact d.append ((t.find?_eq_none_iff _).mp found) holds

theorem ofPairs {pairs : List (KeyPath × Node)} (each : ∀ pair ∈ pairs, pair.2.Distinct)
    (d : t.Distinct) (made : Table.ofPairs pairs t = .ok t') : t'.Distinct := by
  induction pairs generalizing t with
  | nil =>
    obtain rfl := Except.ok.inj made
    exact d
  | cons pair rest ih =>
    obtain ⟨first, others⟩ := List.forall_mem_cons.mp each
    rw [Table.ofPairs] at made
    cases inserted : Table.alterInline (Table.insertLast pair.1 none pair.2) pair.1.through [] t with
    | error cause => simp [inserted] at made
    | ok next =>
      rw [inserted] at made
      exact ih others (d.alterInline (insertLast first) inserted) made

end Table.Distinct

/-! Every line of a document keeps the root distinct. -/

namespace Draft

variable {d d' : Draft} {path : KeyPath}

theorem distinct_insert {stop : Text} {value : Node} (holds : value.Distinct)
    (root : d.root.Distinct) (inserted : d.insert path stop value = .ok d') : d'.root.Distinct := by
  obtain ⟨root', altered, made⟩ := bind_eq_ok_iff.mp inserted
  obtain rfl := Except.ok.inj made
  refine root.alter (fun {t t'} distinct added => ?_) altered
  have extended : (extend stop t).Distinct := distinct.of_entries_eq rfl
  exact extended.alter (Table.Distinct.insertLast holds) added

theorem distinct_openTable {extent : Extent} (root : d.root.Distinct)
    (opened : d.openTable path extent = .ok d') : d'.root.Distinct := by
  obtain ⟨root', altered, made⟩ := bind_eq_ok_iff.mp opened
  obtain rfl := Except.ok.inj made
  refine root.alter (fun {parent parent'} distinct added => ?_) altered
  cases found : parent.find? path.last.name with
  | none =>
    rw [found] at added
    obtain rfl := Except.ok.inj added
    exact distinct.append ((parent.find?_eq_none_iff _).mp found) (.table (.empty ..))
  | some node =>
    have holds := distinct.find? found
    rw [found] at added
    cases holds with
    | scalar => cases added
    | array => cases added
    | inline => cases added
    | tables => cases added
    | table inner =>
      simp only at added
      split_ifs at added
      obtain rfl := Except.ok.inj added
      exact (distinct.erase _).append (Table.Distinct.notMem_erase _ _)
        (.table (inner.of_entries_eq rfl))

theorem distinct_openNext {extent : Extent} (root : d.root.Distinct)
    (opened : d.openNext path extent = .ok d') : d'.root.Distinct := by
  obtain ⟨root', altered, made⟩ := bind_eq_ok_iff.mp opened
  obtain rfl := Except.ok.inj made
  refine root.alter (fun {parent parent'} distinct added => ?_) altered
  cases found : parent.find? path.last.name with
  | none =>
    rw [found] at added
    obtain rfl := Except.ok.inj added
    exact distinct.append ((parent.find?_eq_none_iff _).mp found) (.tables (by simp) (.empty ..))
  | some node =>
    have holds := distinct.find? found
    rw [found] at added
    cases holds with
    | scalar => cases added
    | array => cases added
    | inline => cases added
    | table => cases added
    | @tables earlier last each inner =>
      obtain rfl := Except.ok.inj added
      refine distinct.replace _ (.tables (fun t mem => ?_) (.empty ..))
      rcases List.mem_append.mp mem with old | latest
      · exact each t old
      · obtain rfl := List.mem_singleton.mp latest
        exact inner

end Draft

end Stencil.Toml
