import Stencil.Descriptor
import Stencil.Proofs.Toml.Lines
import Stencil.Proofs.Toml.Meaning

/-! Records written as a descriptor and loaded again.  The list of the records is written on one
line or as a table for each record.  Either way the document holds the pairs of each record in their
order, and that is all that their meaning depends on. -/

namespace Stencil

namespace Toml

def Value.ofPairs (pairs : List (Text × Text)) : Value :=
  .table (pairs.map fun pair => (pair.1, .scalar (.string pair.2)))

variable {pairs : List (Text × Text)} {records : List (List (Text × Text))}

theorem IsEntry.meaning {pair : Text × Text} {entry : Key × Node} (fits : IsEntry pair entry) :
    entryMeaning entry = .ok (pair.1, .scalar (.string pair.2)) := by
  obtain ⟨extent, string⟩ := fits.value
  refine entryMeaning_eq_ok_iff.mpr ⟨fits.name.symm, ?_⟩
  rw [string, Node.meaning]

/-- A table of strings is no date, unless its first name says so. -/
theorem Table.Holds.meaning {t : Table Node} (holds : t.Holds pairs)
    (ordinary : privateDateTime ∉ pairs.map Prod.fst) :
    tableMeaning t = .ok (.ofPairs pairs) := by
  refine tableMeaning_eq_table_iff.mpr ⟨?_, entryMeanings_eq_ok_iff.mpr ?_⟩
  · rw [← names_of_entries holds] at ordinary
    cases entries : t.entries with
    | nil => rfl
    | cons entry rest =>
      rw [entries, List.map_cons, List.mem_cons, not_or] at ordinary
      exact if_neg (Ne.symm ordinary.1)
  · exact forall₂_map_of_forall₂ holds fun _ _ _ fits => fits.meaning

theorem meaning_of_inlines {extent : Extent} {items : List Node}
    (held : List.Forall₂ (fun pairs item => ∃ t, item = .inline t ∧ t.Holds pairs) records items)
    (ordinary : ∀ pairs ∈ records, privateDateTime ∉ pairs.map Prod.fst) :
    (Node.array extent items).meaning = .ok (.array (records.map .ofPairs)) := by
  have meant := itemMeanings_eq_ok_iff.mpr (forall₂_map_of_forall₂ (f := .ofPairs) held
    fun pairs mem item ⟨t, inline, holds⟩ => by
      rw [inline, Node.meaning]
      exact holds.meaning (ordinary pairs mem))
  rw [Node.meaning, meant]
  rfl

theorem meaning_of_tables {earlier : List (Table Node)} {last : Table Node}
    (held : List.Forall₂ (fun pairs t => t.Holds pairs) records (earlier ++ [last]))
    (ordinary : ∀ pairs ∈ records, privateDateTime ∉ pairs.map Prod.fst) :
    (Node.tables earlier last).meaning = .ok (.array (records.map .ofPairs)) := by
  have meant := tableMeanings_eq_ok_iff.mpr (forall₂_map_of_forall₂ held
    fun pairs mem t holds => holds.meaning (ordinary pairs mem))
  rw [meaning_tables, meant]
  rfl

end Toml

namespace Descriptor

theorem stringPairs_strings (pairs : List (Text × Text)) :
    stringPairs (pairs.map fun pair => (pair.1, .scalar (.string pair.2))) = .ok pairs := by
  induction pairs with
  | nil => rfl
  | cons pair pairs ih =>
    rw [List.map_cons, stringPairs, ih]
    rfl

theorem recordOf_ofPairs (index : Nat) (r : Record) :
    recordOf index (.ofPairs r.toPairs) = .ok r := by
  rw [Toml.Value.ofPairs, recordOf, stringPairs_strings]
  simp only [Record.ofPairs_toPairs]

theorem recordsFrom_ofPairs (index : Nat) (records : List Record) :
    recordsFrom index ((records.map Record.toPairs).map .ofPairs) = .ok records := by
  induction records generalizing index with
  | nil => rfl
  | cons r records ih =>
    rw [List.map_cons, List.map_cons, recordsFrom, recordOf_ofPairs]
    simp only [ih]
    rfl

theorem parse_of_meaning {text : Text} {root : Toml.Table Toml.Node} {node : Toml.Node}
    {records : List Record} (parsed : Toml.parse text = .ok root)
    (found : root.find? listKey = some node)
    (means : node.meaning = .ok (.array ((records.map Record.toPairs).map .ofPairs)))
    (path : Path) : parse text path = .ok records := by
  have looked : Toml.lookup text listKey =
      .ok (some (.array ((records.map Record.toPairs).map .ofPairs))) := by
    simp only [Toml.lookup, parsed, found, means]
  simp only [parse, looked, recordsOf, recordsFrom_ofPairs]

def inlineText (spell : Char → Text) (records : List Record) : Text :=
  Toml.arrayForm spell listKey (records.map Record.toPairs)

def tablesText (spell : Char → Text) (records : List Record) : Text :=
  Toml.tablesForm spell listKey (records.map Record.toPairs)

theorem isBare_listKey : Toml.IsBare listKey := ⟨by decide, by decide⟩

theorem parse_written {spell : Char → Text} (spells : ∀ c, Toml.Spells c (spell c))
    {records : List Record} (distinct : ∀ r ∈ records, r.keys.Nodup)
    (ordinary : ∀ r ∈ records, Toml.privateDateTime ∉ r.keys) (path : Path) :
    parse (inlineText spell records) path = .ok records ∧
      (records ≠ [] → parse (tablesText spell records) path = .ok records) := by
  have names : ∀ pairs ∈ records.map Record.toPairs, (pairs.map Prod.fst).Nodup ∧
      Toml.privateDateTime ∉ pairs.map Prod.fst := by
    intro pairs mem
    obtain ⟨r, listed, rfl⟩ := List.mem_map.mp mem
    rw [← Record.keys_eq_map_toPairs]
    exact ⟨distinct r listed, ordinary r listed⟩
  constructor
  · obtain ⟨root, extent, items, parsed, found, held⟩ :=
      Toml.parse_arrayForm spells isBare_listKey fun pairs mem => (names pairs mem).1
    exact parse_of_meaning parsed found
      (Toml.meaning_of_inlines held fun pairs mem => (names pairs mem).2) path
  · intro nonempty
    obtain ⟨root, earlier, last, parsed, found, held⟩ :=
      Toml.parse_tablesForm spells isBare_listKey (by simpa using nonempty)
        fun pairs mem => (names pairs mem).1
    exact parse_of_meaning parsed found
      (Toml.meaning_of_tables held fun pairs mem => (names pairs mem).2) path

namespace Writing

/-! A key that is a number, one with a dot and one in brackets; a value with a quotation mark, a
backslash, a control character and a line break; an empty value and an empty record. -/

def dense : Record :=
  ⟨[(⟨"7".toList, by decide⟩, []), (⟨"b.c".toList, by decide⟩, "\"\\\x01\n".toList),
    (⟨"[é]\t".toList, by decide⟩, "@7@".toList)]⟩

def denseLine : Text :=
  "types_list = [ \x7b \"7\" = \"\", \"b.c\" = \"\\\"\\\\\\u0001\\n\"".toList ++
    ", \"[é]\\t\" = \"@7@\" \x7d, \x7b  \x7d ]\n".toList

def denseTables : Text :=
  "[[types_list]]\n\"7\" = \"\"\n\"b.c\" = \"\\\"\\\\\\u0001\\n\"\n\"[é]\\t\" = \"@7@\"\n".toList ++
    "[[types_list]]\n".toList

theorem parse_written_dense :
    inlineText Toml.Key.escape [dense, .empty] = denseLine ∧
    tablesText Toml.Key.escape [dense, .empty] = denseTables ∧
    (∀ r ∈ [dense, .empty], r.keys.Nodup ∧ Toml.privateDateTime ∉ r.keys) ∧
    parse denseLine (Path.ofText "types.toml".toList) = .ok [dense, .empty] ∧
    parse denseTables (Path.ofText "types.toml".toList) = .ok [dense, .empty] := by
  have line : inlineText Toml.Key.escape [dense, .empty] = denseLine := by decide +kernel
  have tables : tablesText Toml.Key.escape [dense, .empty] = denseTables := by decide +kernel
  have keys : ∀ r ∈ [dense, .empty], r.keys.Nodup ∧ Toml.privateDateTime ∉ r.keys := by decide
  obtain ⟨one, each⟩ := parse_written Toml.spells_escape (fun r mem => (keys r mem).1)
    (fun r mem => (keys r mem).2) (Path.ofText "types.toml".toList)
  refine ⟨line, tables, keys, ?_, ?_⟩
  · rw [← line]
    exact one
  · rw [← tables]
    exact each (by simp)

end Writing

end Descriptor

end Stencil
