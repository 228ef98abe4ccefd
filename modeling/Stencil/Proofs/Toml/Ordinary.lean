import Stencil.Proofs.Toml.Meaning

/-! Documents without the private name.  Only a table whose first name is that name can fail to mean
anything, so where the name is not used at any depth everything has a meaning. -/

namespace Stencil.Toml

mutual

def Node.allNames : Node → List Text
  | .scalar _ _ => []
  | .array _ items => itemNames items
  | .inline t => tableNames t
  | .table t => tableNames t
  | .tables earlier last => tablesNames earlier ++ tableNames last
termination_by structural node => node

def itemNames : List Node → List Text
  | [] => []
  | item :: items => item.allNames ++ itemNames items
termination_by structural items => items

def tablesNames : List (Table Node) → List Text
  | [] => []
  | t :: ts => tableNames t ++ tablesNames ts
termination_by structural ts => ts

def tableNames : Table Node → List Text
  | ⟨_, _, entries⟩ => entriesNames entries
termination_by structural t => t

def entriesNames : List (Key × Node) → List Text
  | [] => []
  | entry :: entries => entryNames entry ++ entriesNames entries
termination_by structural entries => entries

def entryNames : Key × Node → List Text
  | (key, node) => key.name :: node.allNames
termination_by structural entry => entry

end

theorem dateEntry?_eq_none {entries : List (Key × Node)}
    (ordinary : privateDateTime ∉ entriesNames entries) : dateEntry? entries = none := by
  cases entries with
  | nil => rfl
  | cons entry entries =>
    refine if_neg fun same => ordinary ?_
    rw [entriesNames, entryNames, ← same]
    exact List.mem_cons_self

mutual

theorem Node.exists_meaning (node : Node) (ordinary : privateDateTime ∉ node.allNames) :
    ∃ value, node.meaning = .ok value := by
  cases node with
  | scalar extent value => exact ⟨_, rfl⟩
  | array extent items =>
    obtain ⟨values, meant⟩ := exists_itemMeanings items ordinary
    exact ⟨_, map_eq_ok_iff.mpr ⟨values, meant, rfl⟩⟩
  | inline t => exact exists_tableMeaning t ordinary
  | table t => exact exists_tableMeaning t ordinary
  | tables earlier last =>
    rw [Node.allNames, List.mem_append, not_or] at ordinary
    obtain ⟨values, meant⟩ := exists_tableMeanings earlier ordinary.1
    obtain ⟨value, last⟩ := exists_tableMeaning last ordinary.2
    exact ⟨.array (values ++ [value]), by rw [Node.meaning, meant, last]; rfl⟩
termination_by structural node

theorem exists_itemMeanings (items : List Node) (ordinary : privateDateTime ∉ itemNames items) :
    ∃ values, itemMeanings items = .ok values := by
  cases items with
  | nil => exact ⟨[], rfl⟩
  | cons item items =>
    rw [itemNames, List.mem_append, not_or] at ordinary
    obtain ⟨value, first⟩ := item.exists_meaning ordinary.1
    obtain ⟨values, rest⟩ := exists_itemMeanings items ordinary.2
    exact ⟨value :: values, by rw [itemMeanings, first, rest]; rfl⟩
termination_by structural items

theorem exists_tableMeanings (ts : List (Table Node)) (ordinary : privateDateTime ∉ tablesNames ts) :
    ∃ values, tableMeanings ts = .ok values := by
  cases ts with
  | nil => exact ⟨[], rfl⟩
  | cons t ts =>
    rw [tablesNames, List.mem_append, not_or] at ordinary
    obtain ⟨value, first⟩ := exists_tableMeaning t ordinary.1
    obtain ⟨values, rest⟩ := exists_tableMeanings ts ordinary.2
    exact ⟨value :: values, by rw [tableMeanings, first, rest]; rfl⟩
termination_by structural ts

theorem exists_tableMeaning (t : Table Node) (ordinary : privateDateTime ∉ tableNames t) :
    ∃ value, tableMeaning t = .ok value := by
  cases t with
  | mk standing extent entries =>
    obtain ⟨values, meant⟩ := exists_entryMeanings entries ordinary
    exact ⟨_, tableMeaning_eq_table_iff.mpr ⟨dateEntry?_eq_none ordinary, meant⟩⟩
termination_by structural t

theorem exists_entryMeanings (entries : List (Key × Node))
    (ordinary : privateDateTime ∉ entriesNames entries) :
    ∃ values, entryMeanings entries = .ok values := by
  cases entries with
  | nil => exact ⟨[], rfl⟩
  | cons entry entries =>
    rw [entriesNames, List.mem_append, not_or] at ordinary
    obtain ⟨value, first⟩ := exists_entryMeaning entry ordinary.1
    obtain ⟨values, rest⟩ := exists_entryMeanings entries ordinary.2
    exact ⟨value :: values, by rw [entryMeanings, first, rest]; rfl⟩
termination_by structural entries

theorem exists_entryMeaning (entry : Key × Node) (ordinary : privateDateTime ∉ entryNames entry) :
    ∃ value, entryMeaning entry = .ok value := by
  cases entry with
  | mk key node =>
    rw [entryNames, List.mem_cons, not_or] at ordinary
    obtain ⟨value, meant⟩ := node.exists_meaning ordinary.2
    exact ⟨(key.name, value), entryMeaning_eq_ok_iff.mpr ⟨rfl, meant⟩⟩
termination_by structural entry

end

theorem tableNames_eq (t : Table Node) : tableNames t = entriesNames t.entries := by
  cases t
  rfl

theorem allNames_subset_entriesNames {entries : List (Key × Node)} {entry : Key × Node}
    (mem : entry ∈ entries) : entry.2.allNames ⊆ entriesNames entries := by
  induction entries with
  | nil => cases mem
  | cons first entries ih =>
    rw [entriesNames]
    rcases List.mem_cons.mp mem with rfl | later
    · obtain ⟨key, node⟩ := entry
      exact List.subset_append_of_subset_left _ (List.subset_cons_self _ _)
    · exact List.subset_append_of_subset_right _ (ih later)

/-- The value that a table gives to a name, if it gives one. -/
inductive Table.Binds (t : Table Node) (name : Text) : Option Value → Prop
  | absent (missing : name ∉ t.names) : t.Binds name none
  | present {node : Node} {value : Value} (found : t.find? name = some node)
      (means : node.meaning = .ok value) : t.Binds name (some value)

theorem Table.exists_binds {t : Table Node} (ordinary : privateDateTime ∉ tableNames t)
    (name : Text) : ∃ binding, t.Binds name binding := by
  cases found : t.find? name with
  | none => exact ⟨none, .absent ((t.find?_eq_none_iff name).mp found)⟩
  | some node =>
    obtain ⟨entry, lookup, same⟩ := Option.map_eq_some_iff.mp found
    have names := allNames_subset_entriesNames (List.mem_of_find?_eq_some lookup)
    rw [same, ← tableNames_eq] at names
    obtain ⟨value, means⟩ := node.exists_meaning fun mem => ordinary (names mem)
    exact ⟨some value, .present found means⟩

theorem lookup_of_binds {text name : Text} {root : Table Node} {binding : Option Value}
    (parsed : parse text = .ok root) (binds : root.Binds name binding) :
    lookup text name = .ok binding := by
  unfold lookup
  rw [parsed]
  cases binds with
  | absent missing => simp only [(root.find?_eq_none_iff name).mpr missing]
  | present found means => simp only [found, means]

end Stencil.Toml
