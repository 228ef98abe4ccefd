import Stencil.FileTree.Edit
import Stencil.Proofs.Generation.OnTree
import Stencil.Proofs.Substitution.Lookup
import Stencil.Proofs.Toml.Document
import Stencil.Proofs.Toml.Meaning

/-! The keys of the records that are loaded.  Every key is a placeholder's, decoded from however the
descriptor spells it, and no record has a key twice, because no table of a document has a name
twice.  So each key of a record has one replacement. -/

namespace Stencil

/-- The keys of a record are placeholders' keys, and each of them has one replacement. -/
structure Record.Unambiguous (r : Record) : Prop where
  valid : ∀ pair ∈ r.pairs, Placeholder.ValidKey pair.1.key
  token : ∀ pair ∈ r.pairs, pair.1.token = '@' :: pair.1.key ++ ['@']
  distinct : r.keys.Nodup
  get? : ∀ pair ∈ r.pairs, r.get? pair.1.key = some pair.2 ∧
    ∀ other ∈ r.pairs, other.1.key = pair.1.key → other = pair

namespace Record

variable {r : Record}

theorem unambiguous_of_nodup (distinct : r.keys.Nodup) : r.Unambiguous where
  valid pair _ := pair.1.valid
  token _ _ := rfl
  distinct := distinct
  get? _ mem := ⟨get?_of_mem distinct mem, fun _ mem' same => eq_of_key_eq distinct mem mem' same⟩

theorem keys_of_ofPairs {pairs : List (Text × Text)} (h : ofPairs pairs = .ok r) :
    r.keys = pairs.map Prod.fst := by
  rw [keys_eq_map_toPairs, toPairs_of_ofPairs h]

end Record

namespace Descriptor

theorem keys_of_stringPairs {entries : List (Text × Toml.Value)} {pairs : List (Text × Text)}
    (h : stringPairs entries = .ok pairs) : pairs.map Prod.fst = entries.map Prod.fst := by
  induction entries generalizing pairs with
  | nil =>
    obtain rfl := Except.ok.inj h
    rfl
  | cons entry entries ih =>
    unfold stringPairs at h
    split at h
    · cases ‹_ = []›
    · next same =>
      obtain ⟨rfl, rfl⟩ := List.cons.inj same
      obtain ⟨more, later, rfl⟩ := map_eq_ok_iff.mp h
      rw [List.map_cons, List.map_cons, ih later]
    · cases h

theorem table_of_recordOf {index : Nat} {value : Toml.Value} {r : Record}
    (h : recordOf index value = .ok r) :
    ∃ entries, value = .table entries ∧ r.keys = entries.map Prod.fst := by
  cases value with
  | scalar value => cases h
  | array items => cases h
  | table entries =>
    refine ⟨entries, rfl, ?_⟩
    rw [recordOf] at h
    cases strings : stringPairs entries with
    | error key => simp [strings] at h
    | ok pairs =>
      cases made : Record.ofPairs pairs with
      | error fault => simp [strings, made] at h
      | ok r' =>
        obtain rfl : r' = r := by simpa [strings, made] using h
        rw [Record.keys_of_ofPairs made, keys_of_stringPairs strings]

theorem exists_value {index : Nat} {values : List Toml.Value} {records : List Record}
    (h : recordsFrom index values = .ok records) {r : Record} (mem : r ∈ records) :
    ∃ value ∈ values, ∃ i, recordOf i value = .ok r := by
  induction values generalizing index records with
  | nil =>
    obtain rfl := Except.ok.inj h
    cases mem
  | cons value values ih =>
    rw [recordsFrom] at h
    cases first : recordOf index value with
    | error fault => simp [first] at h
    | ok r' =>
      rw [first] at h
      obtain ⟨more, later, rfl⟩ := map_eq_ok_iff.mp h
      rcases List.mem_cons.mp mem with rfl | mem
      · exact ⟨value, List.mem_cons_self, index, first⟩
      · obtain ⟨value', held, made⟩ := ih later mem
        exact ⟨value', List.mem_cons_of_mem _ held, made⟩

theorem recordsOf_of_parse {text : Text} {path : Path} {records : List Record}
    (h : parse text path = .ok records) :
    ∃ node value, Toml.Node.Distinct node ∧ node.meaning = .ok value ∧
      recordsOf value = .ok records := by
  unfold parse Toml.lookup at h
  cases parsed : Toml.parse text with
  | error e => simp [parsed] at h
  | ok root =>
    cases found : root.find? listKey with
    | none => simp [parsed, found] at h
    | some node =>
      cases means : node.meaning with
      | error fault => simp [parsed, found, means] at h
      | ok value =>
        cases made : recordsOf value with
        | error fault => simp [parsed, found, means, made] at h
        | ok records' =>
          obtain rfl : records' = records := by simpa [parsed, found, means, made] using h
          exact ⟨node, value, (Toml.distinct_of_parse parsed).find? found, means, made⟩

theorem nodup_keys_of_parse {text : Text} {path : Path} {records : List Record}
    (h : parse text path = .ok records) {r : Record} (mem : r ∈ records) : r.keys.Nodup := by
  obtain ⟨node, value, distinct, means, made⟩ := recordsOf_of_parse h
  cases value with
  | scalar value => cases made
  | table entries => cases made
  | array items =>
    obtain ⟨item, held, i, record⟩ := exists_value made mem
    obtain ⟨entries, rfl, keys⟩ := table_of_recordOf record
    obtain ⟨inner, distinct', means'⟩ := distinct.of_mem_items means held
    rw [keys]
    exact distinct'.nodup_of_meaning means'

theorem exists_parse_of_allOnTree {t : FileTree} {paths : List Path} {records : List Record}
    (h : allOnTree t paths = .ok records) {r : Record} (mem : r ∈ records) :
    ∃ path ∈ paths, ∃ text some, parse text path = .ok some ∧ r ∈ some := by
  obtain ⟨each, loaded, rfl⟩ := allOnTree_eq_ok_iff.mp h
  obtain ⟨own, listed, here⟩ := List.mem_flatten.mp mem
  obtain ⟨path, known, loads⟩ := exists_of_mem_right loaded listed
  unfold onTree at loads
  cases read : textOnTree t path with
  | error failure => simp [read] at loads
  | ok text => exact ⟨path, known, text, own, by simpa [read] using loads, here⟩

end Descriptor

theorem loaded_records_unambiguous {records : List Record} :
    (∀ {text path}, Descriptor.parse text path = .ok records → ∀ r ∈ records, r.Unambiguous) ∧
      ∀ {settings : Settings} {s after : Session},
        (loadRecords (m := Simulation) settings.descriptors).run s = (.ok records, after) →
          ∀ r ∈ records, r.Unambiguous := by
  refine ⟨fun parsed r mem => ?_, fun {settings s after} loaded r mem => ?_⟩
  · exact Record.unambiguous_of_nodup (Descriptor.nodup_keys_of_parse parsed mem)
  · obtain ⟨log, known⟩ := Descriptor.run_loadRecords settings.descriptors s
    have onTree := (Prod.mk.inj (known.symm.trans loaded)).1
    obtain ⟨path, -, text, own, parsed, here⟩ := Descriptor.exists_parse_of_allOnTree onTree mem
    exact Record.unambiguous_of_nodup (Descriptor.nodup_keys_of_parse parsed here)

namespace Spellings

/-! A key with an escape and a dot, one that looks like a dotted key and one that is a number, in two
descriptors. -/

def types : Path := Path.ofText "types.toml".toList

def more : Path := Path.ofText "more.toml".toList

def text : Text := "[[types_list]]\n\"\\u0061.b\" = '@a@'\n'a. b' = \"\\\\\"\n".toList

def tree : FileTree :=
  ((FileTree.scratch []).writeFile types (Utf8.encode text)).writeFile more
    (Utf8.encode "[[types_list]]\n1 = '1'\n[[types_list]]\n".toList)

def spelled : Record :=
  ⟨[(⟨"a.b".toList, by decide⟩, "@a@".toList), (⟨"a. b".toList, by decide⟩, "\\".toList)]⟩

def numbered : Record := ⟨[(⟨"1".toList, by decide⟩, "1".toList)]⟩

theorem loaded_spellings_unambiguous :
    Descriptor.parse text types = .ok [spelled] ∧ (∀ r ∈ [spelled], r.Unambiguous) ∧
    ∃ after, (loadRecords (m := Simulation) [types, more]).run ⟨tree, []⟩ =
        (.ok [spelled, numbered, .empty], after) ∧
      ∀ r ∈ [spelled, numbered, .empty], r.Unambiguous := by
  have parsed : Descriptor.parse text types = .ok [spelled] := by decide +kernel
  have loaded : (loadRecords (m := Simulation)
      (Settings.mk [types, more] [] []).descriptors).run ⟨tree, []⟩ =
        (.ok [spelled, numbered, .empty], _) :=
    Session.run_of_result (by decide +kernel)
  exact ⟨parsed, loaded_records_unambiguous.1 parsed, _, loaded, loaded_records_unambiguous.2 loaded⟩

end Spellings

end Stencil
