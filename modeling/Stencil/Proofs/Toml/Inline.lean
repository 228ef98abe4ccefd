import Stencil.Toml.Document
import Stencil.Proofs.Toml.Quoted

/-! Pairs, inline tables and arrays as they are usually written: a space on either side of a sign,
a comma and a space between items, a space inside the brackets.  Keys and string values stand in
basic strings. -/

namespace Stencil.Toml

open Reader

def pairForm (spell : Char → Text) (pair : Text × Text) : Text :=
  quote spell pair.1 ++ " = ".toList ++ quote spell pair.2

def listForm (opening closing : Char) (items : List Text) : Text :=
  opening :: ' ' :: ([',', ' '].intercalate items ++ [' ', closing])

def inlineForm (spell : Char → Text) (pairs : List (Text × Text)) : Text :=
  listForm '\x7b' '\x7d' (pairs.map (pairForm spell))

/-- The entry of a table that a pair of strings makes. -/
structure IsEntry (pair : Text × Text) (entry : Key × Node) : Prop where
  name : entry.1.name = pair.1
  value : ∃ extent, entry.2 = .scalar extent (.string pair.2)

/-- A table that holds pairs of strings, in this order, and nothing else. -/
def Table.Holds (t : Table Node) (pairs : List (Text × Text)) : Prop :=
  List.Forall₂ IsEntry pairs t.entries

theorem names_of_entries {pairs : List (Text × Text)} {entries : List (Key × Node)}
    (held : List.Forall₂ IsEntry pairs entries) : entries.map (·.1.name) = pairs.map Prod.fst := by
  induction held with
  | nil => rfl
  | cons first rest ih => rw [List.map_cons, List.map_cons, first.name, ih]

theorem reads_spaces_none {c : Char} (dark : isSpace c = false) (s : Text) :
    spaces.Reads (c :: s) [] (c :: s) := by
  simp [Reads, spaces, run, dark]

theorem reads_spaces_one {c : Char} (dark : isSpace c = false) (s : Text) :
    spaces.Reads (' ' :: c :: s) [' '] (c :: s) := by
  have light : isSpace ' ' = true := rfl
  simp [Reads, spaces, run, dark, light]

theorem reads_keyPart {s mid after rest name blank blank' : Text}
    (lead : spaces.Reads s blank mid) (reads : keyName.Reads mid name after)
    (trail : spaces.Reads after blank' rest) : keyPart.Reads s ⟨name, ⟨mid, after⟩⟩ rest :=
  .bind lead (.bind reads.located (.bind trail (reads_accept ..)))

theorem reads_key {s rest : Text} {k : Key} (part : keyPart.Reads s k rest)
    (ends : rest.head? ≠ some '.') : key.Reads s ⟨[], k⟩ rest := by
  have more : (many (andThen (exactly '.') fun _ => keyPart)).Reads rest [] rest :=
    (Repeats.stop (.bind (refuses_exactly ends))).reads_many
  have parts : keyParts.Reads s (.ofParts k []) rest := .bind part (.bind more (reads_accept ..))
  exact .judged (.within parts) rfl

theorem reads_equals (s : Text) : equals.Reads ('=' :: s) '=' s :=
  .expecting (.expecting (reads_exactly ..))

theorem value_quotationMark (levels : Nat) (s : Text) :
    value levels ('"' :: s) = scalar .string string ('"' :: s) := by
  cases levels <;> rfl

theorem Reader.ItemEnd.reads_spaces {close : Char} (dark : isSpace close = false) {s s' : Text}
    (ends : ItemEnd close s s') : ∃ blank, spaces.Reads s blank s' := by
  cases ends with
  | next s => exact ⟨_, reads_spaces_none rfl _⟩
  | last s => exact ⟨_, reads_spaces_one dark _⟩

theorem reads_spaces_quote (spell : Char → Text) (t s : Text) :
    spaces.Reads (' ' :: (quote spell t ++ s)) [' '] (quote spell t ++ s) := by
  rw [quote_append]
  exact reads_spaces_one rfl _

theorem reads_value_of_array {levels : Nat} {s rest : Text} {node : Node}
    (reads : (array (value levels)).Reads ('[' :: s) node rest) :
    (value (levels + 1)).Reads ('[' :: s) node rest := reads

section

variable {spell : Char → Text} (spells : ∀ c, Spells c (spell c))
include spells

theorem reads_pair_key {s₀ blank : Text} (pair : Text × Text) (s : Text)
    (lead : spaces.Reads s₀ blank (pairForm spell pair ++ s)) :
    ∃ k : Key, k.name = pair.1 ∧
      key.Reads s₀ ⟨[], k⟩ ('=' :: ' ' :: (quote spell pair.2 ++ s)) := by
  have form : pairForm spell pair ++ s =
      quote spell pair.1 ++ ' ' :: '=' :: ' ' :: (quote spell pair.2 ++ s) := by
    simp [pairForm]
  rw [form] at lead
  have name := reads_basicString spells pair.1 (' ' :: '=' :: ' ' :: (quote spell pair.2 ++ s))
  rw [quote_append] at lead name
  exact ⟨_, rfl, reads_key (reads_keyPart lead name (reads_spaces_one rfl _)) (by simp)⟩

theorem reads_value_string (levels : Nat) (t : Text) {s : Text} (other : s.head? ≠ some '"') :
    ∃ extent, (value levels).Reads (quote spell t ++ s) (.scalar extent (.string t)) s := by
  have read : (scalar .string string).Reads (quote spell t ++ s)
      (.scalar ⟨quote spell t ++ s, s⟩ (.string t)) s := (reads_string spells t s other).located
  refine ⟨⟨quote spell t ++ s, s⟩, ?_⟩
  rw [quote_append] at read ⊢
  exact (value_quotationMark levels _).trans read

theorem reads_inlinePair (levels : Nat) (pair : Text × Text) {s s' : Text}
    (ends : ItemEnd '\x7d' s s') :
    ∃ made, (inlinePair (value levels)).Reads (' ' :: (pairForm spell pair ++ s)) made s' ∧
      made.1.through = [] ∧ IsEntry pair (made.1.last, made.2) := by
  have lead : spaces.Reads (' ' :: (pairForm spell pair ++ s)) [' ']
      (pairForm spell pair ++ s) := by
    rw [pairForm, List.append_assoc, List.append_assoc]
    exact reads_spaces_quote spell _ _
  obtain ⟨k, name, reads⟩ := reads_pair_key spells pair s lead
  have other : s.head? ≠ some '"' := by
    cases ends <;> simp
  obtain ⟨extent, node⟩ := reads_value_string spells levels pair.2 other
  obtain ⟨blank, trail⟩ := ends.reads_spaces rfl
  refine ⟨(⟨[], k⟩, _), .bind reads (.commit ?_), rfl, name, extent, rfl⟩
  exact .bind (reads_equals _) (.bind (reads_spaces_quote ..) (.bind node (.bind trail rfl)))

end

namespace Table

variable {t : Table Node}

theorem insertLast_of_absent {path : KeyPath} (plain : path.through = [])
    (standing : t.standing ≠ .dotted) (absent : path.last.name ∉ t.names)
    (owner : Option (List Text)) (value : Node) :
    insertLast path owner value t = .ok (t.append path.last value) := by
  simp [insertLast, plain, standing, (find?_eq_none_iff t _).mpr absent]

theorem ofPairs_of_nodup {pairs : List (KeyPath × Node)}
    (plain : ∀ pair ∈ pairs, pair.1.through = []) (standing : t.standing ≠ .dotted)
    (distinct : (t.names ++ pairs.map (·.1.last.name)).Nodup) :
    ofPairs pairs t =
      .ok { t with entries := t.entries ++ pairs.map fun pair => (pair.1.last, pair.2) } := by
  induction pairs generalizing t with
  | nil => simp [ofPairs]
  | cons pair rest ih =>
    obtain ⟨here, later⟩ := List.forall_mem_cons.mp plain
    have absent : pair.1.last.name ∉ t.names := fun mem =>
      (List.nodup_append.mp distinct).2.2 _ mem _ List.mem_cons_self rfl
    have inserted : alterInline (insertLast pair.1 none pair.2) pair.1.through [] t =
        .ok (t.append pair.1.last pair.2) := by
      rw [here, alterInline]
      exact insertLast_of_absent here standing absent none pair.2
    have distinct' : ((t.append pair.1.last pair.2).names ++
        rest.map (·.1.last.name)).Nodup := by
      simpa using distinct
    have rest := ih (t := t.append pair.1.last pair.2) later standing distinct'
    rw [ofPairs, inserted]
    simp only [rest]
    simp [append]

end Table

theorem listForm_append (opening closing : Char) (items : List Text) (s : Text) :
    listForm opening closing items ++ s =
      opening :: ' ' :: ([',', ' '].intercalate items ++ ' ' :: closing :: s) := by
  simp [listForm]

section

variable {spell : Char → Text} (spells : ∀ c, Spells c (spell c))
include spells

theorem reads_inlinePairs (levels : Nat) (pairs : List (Text × Text)) (s : Text) :
    ∃ made, (inlinePairs (value levels)).Reads
        (' ' :: ([',', ' '].intercalate (pairs.map (pairForm spell)) ++ ' ' :: '\x7d' :: s)) made
        ('\x7d' :: s) ∧
      List.Forall₂ (fun pair entry => entry.1.through = [] ∧ IsEntry pair (entry.1.last, entry.2))
        pairs made := by
  cases pairs with
  | nil =>
    have refuses : (inlinePair (value levels)).Refuses (' ' :: ' ' :: '\x7d' :: s) := ⟨_, rfl⟩
    exact ⟨[], .bind (reads_separated_of_refuses refuses) rfl, .nil⟩
  | cons pair pairs =>
    have notComma : '\x7d' ≠ ',' := by decide
    obtain ⟨made, reads, entries⟩ := reads_separated notComma pair pairs
      (fun pair _ _ _ ends => reads_inlinePair spells levels pair ends) s
    exact ⟨made, .bind reads (.bind (reads_spaces_none rfl _) rfl), entries⟩

theorem reads_inlineTable (levels : Nat) {pairs : List (Text × Text)}
    (distinct : (pairs.map Prod.fst).Nodup) (s : Text) :
    ∃ t, (inlineTable (value levels)).Reads (inlineForm spell pairs ++ s) (.inline t) s ∧
      t.Holds pairs := by
  obtain ⟨made, reads, entries⟩ := reads_inlinePairs spells levels pairs s
  have plain : ∀ entry ∈ made, entry.1.through = [] := by
    intro entry mem
    obtain ⟨pair, -, through, -⟩ := exists_of_mem_right entries mem
    exact through
  have held : List.Forall₂ IsEntry pairs (made.map fun entry => (entry.1.last, entry.2)) :=
    List.forall₂_map_right_iff.mpr (entries.imp fun _ _ fits => fits.2)
  have names : made.map (·.1.last.name) = pairs.map Prod.fst := by
    rw [← names_of_entries held, List.map_map]
    rfl
  have built := Table.ofPairs_of_nodup (t := .empty .written none) plain (by decide)
    (by simpa [Table.names, Table.empty, names] using distinct)
  rw [inlineForm, listForm_append]
  refine ⟨_, .located (.bind (reads_exactly ..) (.bind (Reads.judged reads built).commit
    (.bind (reads_exactly ..).commit.expecting.within rfl))), ?_⟩
  exact held

theorem reads_arrayItem (levels : Nat) {pairs : List (Text × Text)}
    (distinct : (pairs.map Prod.fst).Nodup) {s s' : Text} (ends : ItemEnd ']' s s') :
    ∃ item, (arrayItem (value (levels + 1))).Reads (' ' :: (inlineForm spell pairs ++ s)) item s' ∧
      ∃ t, item = .inline t ∧ t.Holds pairs := by
  obtain ⟨t, reads, holds⟩ := reads_inlineTable spells levels distinct s
  have lead : gap.Reads (' ' :: (inlineForm spell pairs ++ s)) ⟨⟩
      (inlineForm spell pairs ++ s) := by
    rw [inlineForm, listForm_append]
    rfl
  have item : (value (levels + 1)).Reads (inlineForm spell pairs ++ s) (.inline t) s := by
    rw [inlineForm, listForm_append] at reads ⊢
    exact reads
  have trail : gap.Reads s ⟨⟩ s' := by
    cases ends <;> rfl
  exact ⟨_, .bind lead (.bind item (.bind trail rfl)), t, rfl, holds⟩

theorem reads_arrayItems (levels : Nat) {records : List (List (Text × Text))}
    (distinct : ∀ pairs ∈ records, (pairs.map Prod.fst).Nodup) (s : Text) :
    ∃ items, (arrayItems (value (levels + 1))).Reads
        (' ' :: ([',', ' '].intercalate (records.map (inlineForm spell)) ++ ' ' :: ']' :: s)) items
        (']' :: s) ∧
      List.Forall₂ (fun pairs item => ∃ t, item = .inline t ∧ t.Holds pairs) records items := by
  cases records with
  | nil =>
    have refuses : (arrayItem (value (levels + 1))).Refuses (' ' :: ' ' :: ']' :: s) := ⟨_, rfl⟩
    exact ⟨[], .bind (reads_separated_of_refuses refuses) rfl, .nil⟩
  | cons pairs records =>
    have notComma : ']' ≠ ',' := by decide
    obtain ⟨items, reads, held⟩ := reads_separated notComma pairs records
      (fun pairs mem _ _ ends => reads_arrayItem spells levels (distinct pairs mem) ends) s
    refine ⟨items, .bind reads ?_, held⟩
    cases held
    have noComma : (optional (exactly ',')).Reads (']' :: s) none (']' :: s) :=
      .optional_of_refuses (refuses_exactly (by simp))
    exact .bind (.bind noComma rfl) rfl

theorem reads_array (levels : Nat) {records : List (List (Text × Text))}
    (distinct : ∀ pairs ∈ records, (pairs.map Prod.fst).Nodup) (s : Text) :
    ∃ extent items, (array (value (levels + 1))).Reads
        (listForm '[' ']' (records.map (inlineForm spell)) ++ s) (.array extent items) s ∧
      List.Forall₂ (fun pairs item => ∃ t, item = .inline t ∧ t.Holds pairs) records items := by
  obtain ⟨items, reads, held⟩ := reads_arrayItems spells levels distinct s
  rw [listForm_append]
  refine ⟨_, items, .located ?_, held⟩
  exact .bind (reads_exactly ..) (.bind reads.commit
    (.bind (reads_exactly ..).commit.expecting.within rfl))

end

end Stencil.Toml
