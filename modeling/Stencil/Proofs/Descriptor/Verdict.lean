import Stencil.Proofs.Descriptor.RoundTrip
import Stencil.Proofs.Toml.Ordinary

/-! What comes of a descriptor.  A descriptor may be wrong in many places at once, and the fault that
is reported is found in three passes, one inside the other: over the elements of the list, over the
values of an element, and over its keys once all its values are strings. -/

namespace Stencil

/-- Why a key is no placeholder's: the first of three reasons that applies. -/
inductive KeyFault.Reason (key : Text) : KeyFault → Prop
  | empty (none : key = []) : Reason key .empty
  | delimiter (some : key ≠ []) (mem : '@' ∈ key) : Reason key (.containsDelimiter key)
  | lineBreak (some : key ≠ []) (clear : '@' ∉ key) (mem : '\n' ∈ key ∨ '\r' ∈ key) :
      Reason key (.containsLineBreak key)

namespace Placeholder

theorem any_isLineBreak_iff {key : Text} :
    key.any isLineBreak = true ↔ '\n' ∈ key ∨ '\r' ∈ key := by
  simp only [List.any_eq_true, isLineBreak, Bool.or_eq_true, beq_iff_eq]
  constructor
  · rintro ⟨c, mem, rfl | rfl⟩
    · exact .inl mem
    · exact .inr mem
  · rintro (mem | mem)
    · exact ⟨_, mem, .inl rfl⟩
    · exact ⟨_, mem, .inr rfl⟩

theorem fault?_eq_some_iff {key : Text} {fault : KeyFault} :
    fault? key = some fault ↔ KeyFault.Reason key fault := by
  constructor
  · intro found
    unfold fault? at found
    split_ifs at found with none marked broken
    · obtain rfl := Option.some.inj found
      exact .empty none
    · obtain rfl := Option.some.inj found
      exact .delimiter none (by simpa [delimiter] using marked)
    · obtain rfl := Option.some.inj found
      exact .lineBreak none (by simpa [delimiter] using marked) (any_isLineBreak_iff.mp broken)
  · intro reason
    cases reason with
    | empty none => simp [fault?, none]
    | delimiter some mem => simp [fault?, some, mem, delimiter]
    | lineBreak some clear mem =>
      simp [fault?, some, clear, delimiter, any_isLineBreak_iff.mpr mem]

theorem ofKey_eq_error_iff {key : Text} {fault : KeyFault} :
    ofKey key = .error fault ↔ KeyFault.Reason key fault := by
  rw [← fault?_eq_some_iff]
  unfold ofKey
  split
  · next found sound => simp [sound]
  · next sound => simp [sound]

theorem exists_ofKey_iff {key : Text} : (∃ p, ofKey key = .ok p) ↔ ValidKey key := by
  constructor
  · rintro ⟨p, made⟩
    rw [← key_of_ofKey made]
    exact p.valid
  · exact fun valid => ⟨⟨key, valid⟩, ofKey_key ⟨key, valid⟩⟩

end Placeholder

namespace Record

theorem ofPairs_eq_error_iff {pairs : List (Text × Text)} {fault : KeyFault} :
    ofPairs pairs = .error fault ↔ ∃ before pair after, pairs = before ++ pair :: after ∧
      (∀ other ∈ before, Placeholder.ValidKey other.1) ∧ KeyFault.Reason pair.1 fault := by
  have first := eq_error_iff_split (f := ofPairs) (l := pairs) (e := fault)
    (g := fun pair => (Placeholder.ofKey pair.1).map fun placeholder => (placeholder, pair.2))
    (h := fun pair record => ⟨pair :: record.pairs⟩)
    (fun _ => exists_map_eq_ok_iff.trans Placeholder.exists_ofKey_iff) ⟨_, rfl⟩ fun pair rest => by
      rw [ofPairs]
      cases Placeholder.ofKey pair.1 <;> rfl
  simpa only [map_eq_error_iff, Placeholder.ofKey_eq_error_iff] using first

end Record

theorem KeyFault.Reason.not_valid {key : Text} {fault : KeyFault} (reason : Reason key fault) :
    ¬ Placeholder.ValidKey key := by
  rw [← Placeholder.fault?_eq_none_iff, Placeholder.fault?_eq_some_iff.mpr reason]
  exact Option.some_ne_none fault

namespace Toml.Value

def isString : Value → Bool
  | .scalar (.string _) => true
  | _ => false

/-- An element that makes a record: a table of strings under placeholders' keys. -/
def IsRecord (value : Value) : Prop :=
  ∃ entries, value = .table entries ∧ ∀ e ∈ entries, e.2.isString ∧ Placeholder.ValidKey e.1

theorem isRecord_ofPairs (r : Record) : IsRecord (.ofPairs r.toPairs) := by
  refine ⟨_, rfl, fun e mem => ?_⟩
  obtain ⟨_, listed, rfl⟩ := List.mem_map.mp mem
  obtain ⟨pair, -, rfl⟩ := List.mem_map.mp listed
  exact ⟨rfl, pair.1.valid⟩

end Toml.Value

namespace Descriptor

open Toml (Value)

/-- What is wrong with an element, as the fault that names it: the element itself, the first of its
values that is no string, or, if there is none such, the first of its keys that is no placeholder's. -/
inductive Flaw (index : Nat) : Value → LoadFault → Prop
  | entry {value : Value} (other : ∀ entries, value ≠ .table entries) :
      Flaw index value (.invalidEntry index)
  | value {before after : List (Text × Value)} {key : Text} {value : Value}
      (strings : ∀ e ∈ before, e.2.isString) (other : value.isString = false) :
      Flaw index (.table (before ++ (key, value) :: after)) (.invalidValue index key)
  | key {before after : List (Text × Text)} {pair : Text × Text} {fault : KeyFault}
      (valid : ∀ other ∈ before, Placeholder.ValidKey other.1)
      (reason : KeyFault.Reason pair.1 fault) :
      Flaw index (.ofPairs (before ++ pair :: after)) (.invalidKey index fault)

theorem Flaw.not_isRecord {index : Nat} {value : Value} {fault : LoadFault}
    (flaw : Flaw index value fault) : ¬ value.IsRecord := by
  rintro ⟨entries, rfl, sound⟩
  generalize table : Value.table entries = element at flaw
  cases flaw with
  | entry other => exact other entries table.symm
  | value strings other =>
    obtain rfl := Value.table.inj table
    have string := (sound _ (List.mem_append_right _ List.mem_cons_self)).1
    simp [other] at string
  | key valid reason =>
    obtain rfl := Value.table.inj table
    refine reason.not_valid (sound _ (List.mem_map_of_mem ?_)).2
    exact List.mem_append_right _ List.mem_cons_self

def stringPair : Text × Value → Except Text (Text × Text)
  | (key, .scalar (.string value)) => .ok (key, value)
  | (key, _) => .error key

theorem stringPairs_cons (entry : Text × Value) (entries : List (Text × Value)) :
    stringPairs (entry :: entries) =
      (stringPair entry).bind fun pair => (stringPairs entries).map (pair :: ·) := by
  obtain ⟨key, value⟩ := entry
  cases value with
  | scalar value => cases value <;> rfl
  | array items => rfl
  | table entries => rfl

theorem stringPair_cases (entry : Text × Value) :
    (∃ pair : Text × Text, entry = (pair.1, .scalar (.string pair.2)) ∧
      entry.2.isString = true ∧ stringPair entry = .ok pair) ∨
    entry.2.isString = false ∧ stringPair entry = .error entry.1 := by
  obtain ⟨key, value⟩ := entry
  cases value with
  | scalar value =>
    cases value with
    | string value => exact .inl ⟨(key, value), rfl, rfl, rfl⟩
    | _ => exact .inr ⟨rfl, rfl⟩
  | array items => exact .inr ⟨rfl, rfl⟩
  | table entries => exact .inr ⟨rfl, rfl⟩

theorem exists_stringPair_iff (entry : Text × Value) :
    (∃ pair, stringPair entry = .ok pair) ↔ entry.2.isString := by
  rcases stringPair_cases entry with ⟨pair, -, string, found⟩ | ⟨other, found⟩ <;> simp [*]

theorem eq_of_stringPair {entry : Text × Value} {pair : Text × Text}
    (found : stringPair entry = .ok pair) : entry = (pair.1, .scalar (.string pair.2)) := by
  rcases stringPair_cases entry with ⟨pair', same, -, found'⟩ | ⟨-, found'⟩
  · obtain rfl := Except.ok.inj (found'.symm.trans found)
    exact same
  · cases found'.symm.trans found

theorem stringPair_eq_error_iff {entry : Text × Value} {key : Text} :
    stringPair entry = .error key ↔ entry.1 = key ∧ entry.2.isString = false := by
  rcases stringPair_cases entry with ⟨pair, -, string, found⟩ | ⟨other, found⟩ <;> simp [*]

theorem eq_of_stringPairs {entries : List (Text × Value)} {pairs : List (Text × Text)}
    (found : stringPairs entries = .ok pairs) : Value.table entries = .ofPairs pairs := by
  have each := (eq_ok_iff_forall₂ (g := stringPair) rfl stringPairs_cons).mp found
  have same : entries = pairs.map fun pair => (pair.1, .scalar (.string pair.2)) := by
    rw [← List.forall₂_eq_eq_eq, List.forall₂_map_right_iff]
    exact each.imp fun _ _ => eq_of_stringPair
  rw [same, Value.ofPairs]

theorem stringPairs_eq_error_iff {entries : List (Text × Value)} {key : Text} :
    stringPairs entries = .error key ↔ ∃ before value after,
      entries = before ++ (key, value) :: after ∧ (∀ e ∈ before, e.2.isString) ∧
      value.isString = false := by
  rw [eq_error_iff_split (g := stringPair) (h := fun pair pairs => pair :: pairs)
    exists_stringPair_iff ⟨[], rfl⟩ stringPairs_cons]
  constructor
  · rintro ⟨before, ⟨_, value⟩, after, split, strings, failed⟩
    obtain ⟨rfl, other⟩ := stringPair_eq_error_iff.mp failed
    exact ⟨before, value, after, split, strings, other⟩
  · rintro ⟨before, value, after, split, strings, other⟩
    exact ⟨before, (key, value), after, split, strings, stringPair_eq_error_iff.mpr ⟨rfl, other⟩⟩

theorem recordOf_eq_ok_iff {index : Nat} {value : Value} {r : Record} :
    recordOf index value = .ok r ↔ value = .ofPairs r.toPairs := by
  constructor
  · intro made
    cases value with
    | scalar value => cases made
    | array items => cases made
    | table entries =>
      rw [recordOf] at made
      cases strings : stringPairs entries with
      | error key => simp [strings] at made
      | ok pairs =>
        cases compiled : Record.ofPairs pairs with
        | error fault => simp [strings, compiled] at made
        | ok r' =>
          obtain rfl : r' = r := by simpa [strings, compiled] using made
          rw [Record.toPairs_of_ofPairs compiled]
          exact eq_of_stringPairs strings
  · rintro rfl
    exact recordOf_ofPairs index r

theorem recordOf_eq_error_iff {index : Nat} {value : Value} {fault : LoadFault} :
    recordOf index value = .error fault ↔ Flaw index value fault := by
  constructor
  · intro failed
    cases value with
    | scalar value =>
      obtain rfl := Except.error.inj failed
      exact .entry fun entries => Value.noConfusion
    | array items =>
      obtain rfl := Except.error.inj failed
      exact .entry fun entries => Value.noConfusion
    | table entries =>
      rw [recordOf] at failed
      cases strings : stringPairs entries with
      | error key =>
        obtain rfl : .invalidValue index key = fault := by simpa [strings] using failed
        obtain ⟨before, value, after, rfl, passed, other⟩ := stringPairs_eq_error_iff.mp strings
        exact .value passed other
      | ok pairs =>
        rw [eq_of_stringPairs strings]
        cases compiled : Record.ofPairs pairs with
        | ok r => simp [strings, compiled] at failed
        | error reason =>
          obtain rfl : .invalidKey index reason = fault := by simpa [strings, compiled] using failed
          obtain ⟨before, pair, after, rfl, valid, why⟩ := Record.ofPairs_eq_error_iff.mp compiled
          exact .key valid why
  · intro flaw
    cases flaw with
    | entry other =>
      cases value with
      | scalar value => rfl
      | array items => rfl
      | table entries => exact absurd rfl (other entries)
    | @value before after key value strings other =>
      have failed : stringPairs (before ++ (key, value) :: after) = .error key :=
        stringPairs_eq_error_iff.mpr ⟨before, value, after, rfl, strings, other⟩
      rw [recordOf, failed]
    | @key before after pair reason valid why =>
      have failed : Record.ofPairs (before ++ pair :: after) = .error reason :=
        Record.ofPairs_eq_error_iff.mpr ⟨before, pair, after, rfl, valid, why⟩
      rw [Value.ofPairs, recordOf, stringPairs_strings]
      simp only [failed]

theorem exists_recordOf_iff (index : Nat) (value : Value) :
    (∃ r, recordOf index value = .ok r) ↔ value.IsRecord := by
  constructor
  · rintro ⟨r, made⟩
    rw [recordOf_eq_ok_iff.mp made]
    exact Toml.Value.isRecord_ofPairs r
  · intro sound
    cases made : recordOf index value with
    | error fault => exact absurd sound (recordOf_eq_error_iff.mp made).not_isRecord
    | ok r => exact ⟨r, rfl⟩

theorem recordsFrom_eq_ok_iff {index : Nat} {values : List Value} {records : List Record} :
    recordsFrom index values = .ok records ↔
      values = (records.map Record.toPairs).map .ofPairs := by
  constructor
  · intro made
    induction values generalizing index records with
    | nil =>
      obtain rfl := Except.ok.inj made
      rfl
    | cons value values ih =>
      rw [recordsFrom] at made
      cases first : recordOf index value with
      | error fault => simp [first] at made
      | ok r =>
        rw [first] at made
        obtain ⟨more, rest, rfl⟩ := map_eq_ok_iff.mp made
        rw [recordOf_eq_ok_iff.mp first, ih rest]
        rfl
  · rintro rfl
    exact recordsFrom_ofPairs index records

theorem recordsFrom_cons (index : Nat) (value : Value) (rest : List Value) :
    recordsFrom index (value :: rest) =
      (recordOf index value).bind fun r => (recordsFrom (index + 1) rest).map (r :: ·) := by
  rw [recordsFrom]
  cases recordOf index value <;> rfl

theorem recordsFrom_eq_error_iff {index : Nat} {values : List Value} {fault : LoadFault} :
    recordsFrom index values = .error fault ↔ ∃ before value after,
      values = before ++ value :: after ∧ (∀ other ∈ before, other.IsRecord) ∧
      Flaw (index + before.length) value fault := by
  rw [eq_error_iff_counted (f := recordsFrom) exists_recordOf_iff (fun _ => ⟨[], rfl⟩)
    recordsFrom_cons]
  simp only [recordOf_eq_error_iff]

theorem exists_recordsFrom_iff (index : Nat) {values : List Value} :
    (∃ records, recordsFrom index values = .ok records) ↔ ∀ value ∈ values, value.IsRecord :=
  exists_eq_ok_iff_counted (f := recordsFrom) exists_recordOf_iff (fun _ => ⟨[], rfl⟩)
    recordsFrom_cons

/-- What comes of a descriptor that gives its list the value, or none. -/
inductive Verdict (path : Path) : Option Value → Except Failure (List Record) → Prop
  | absent : Verdict path none (.error (.configuration path))
  | notAList {value : Value} (other : ∀ items, value ≠ .array items) :
      Verdict path (some value) (.error (.load path .notAList))
  | loaded (records : List Record) :
      Verdict path (some (.array ((records.map Record.toPairs).map .ofPairs))) (.ok records)
  | flawed {before after : List Value} {value : Value} {fault : LoadFault}
      (sound : ∀ other ∈ before, other.IsRecord) (flaw : Flaw before.length value fault) :
      Verdict path (some (.array (before ++ value :: after))) (.error (.load path fault))

theorem parse_eq_iff {text : Text} {binding : Option Value}
    (found : Toml.lookup text listKey = .ok binding) {path : Path}
    {result : Except Failure (List Record)} :
    parse text path = result ↔ Verdict path binding result := by
  have parses : parse text path = match binding with
      | none => .error (.configuration path)
      | some value => (recordsOf value).mapError (.load path) := by
    cases binding with
    | none => simp only [parse, found]
    | some value =>
      simp only [parse, found]
      cases recordsOf value <;> rfl
  rw [parses]
  constructor
  · rintro rfl
    cases binding with
    | none => exact .absent
    | some value =>
      cases value with
      | scalar value => exact .notAList fun items => Value.noConfusion
      | table entries => exact .notAList fun items => Value.noConfusion
      | array items =>
        simp only [recordsOf]
        cases made : recordsFrom 0 items with
        | ok records =>
          rw [recordsFrom_eq_ok_iff.mp made]
          exact .loaded records
        | error fault =>
          obtain ⟨before, value, after, rfl, sound, flaw⟩ := recordsFrom_eq_error_iff.mp made
          rw [Nat.zero_add] at flaw
          exact .flawed sound flaw
  · intro verdict
    cases verdict with
    | absent => rfl
    | @notAList value other =>
      cases value with
      | scalar value => rfl
      | table entries => rfl
      | array items => exact absurd rfl (other items)
    | loaded records =>
      simp only [recordsOf, recordsFrom_ofPairs]
      rfl
    | @flawed before after value fault sound flaw =>
      have failed : recordsFrom 0 (before ++ value :: after) = .error fault :=
        recordsFrom_eq_error_iff.mpr
          ⟨before, value, after, rfl, sound, by rwa [Nat.zero_add]⟩
      simp only [recordsOf, failed]
      rfl

theorem parse_verdict {text : Text} {root : Toml.Table Toml.Node}
    (parsed : Toml.parse text = .ok root)
    (ordinary : Toml.privateDateTime ∉ Toml.tableNames root) :
    ∃ binding, root.Binds listKey binding ∧ ∀ path,
      (∀ result, parse text path = result ↔ Verdict path binding result) ∧
      (∀ items, binding = some (.array items) →
        ((∃ records, parse text path = .ok records) ↔ ∀ item ∈ items, item.IsRecord)) ∧
      ∀ {text' root'}, Toml.parse text' = .ok root' → root'.Binds listKey binding →
        parse text' path = parse text path := by
  obtain ⟨binding, binds⟩ := Toml.Table.exists_binds ordinary listKey
  have found := Toml.lookup_of_binds parsed binds
  refine ⟨binding, binds, fun path => ⟨fun result => parse_eq_iff found, ?_, ?_⟩⟩
  · rintro items rfl
    rw [← exists_recordsFrom_iff 0]
    have parses : parse text path = (recordsFrom 0 items).mapError (.load path) := by
      simp only [parse, found, recordsOf]
      cases recordsFrom 0 items <;> rfl
    rw [parses]
    cases recordsFrom 0 items <;> simp [Except.mapError]
  · intro text' root' parsed' binds'
    exact (parse_eq_iff (Toml.lookup_of_binds parsed' binds')).mpr ((parse_eq_iff found).mp rfl)

namespace Disputed

/-! A list whose second element has a bad key before a number, and whose third is no table, among
other bindings. -/

def path : Path := Path.ofText "types.toml".toList

def text : Text :=
  "version = 3\ntypes_list = [\x7bt = 'd'\x7d, \x7b'a@b' = 'x', size = 8\x7d, 'f']\n[more]\nt = 1\n".toList

theorem parse_verdict_first_number :
    ∃ root binding, Toml.parse text = .ok root ∧
      Toml.privateDateTime ∉ Toml.tableNames root ∧ root.Binds listKey binding ∧
      Verdict path binding (.error (.load path (.invalidValue 1 "size".toList))) ∧
      ¬ Verdict path binding (.error (.load path (.invalidEntry 2))) := by
  have checked : (Toml.parse text).map (fun root =>
      decide (Toml.privateDateTime ∈ Toml.tableNames root)) = .ok false := by decide +kernel
  have result : parse text path = .error (.load path (.invalidValue 1 "size".toList)) := by
    decide +kernel
  obtain ⟨root, parsed, plain⟩ := map_eq_ok_iff.mp checked
  have ordinary : Toml.privateDateTime ∉ Toml.tableNames root := of_decide_eq_false plain
  obtain ⟨binding, binds, verdict⟩ := parse_verdict parsed ordinary
  refine ⟨root, binding, parsed, ordinary, binds, ((verdict path).1 _).mp result, ?_⟩
  rw [← (verdict path).1, result]
  decide

end Disputed

end Descriptor

end Stencil
