import Stencil.Toml.Value
import Stencil.Proofs.Toml.Inline

/-! Documents of one list.  The list is written as an array of inline tables on one line, or as a
table for each of its items, opened by a header line and filled pair by pair.  The lines are
followed one after another, with the draft that each of them leaves. -/

namespace Stencil.Toml

open Reader

structure IsBare (name : Text) : Prop where
  nonempty : name ≠ []
  bare : name.all Key.isBareChar

def arrayForm (spell : Char → Text) (name : Text) (records : List (List (Text × Text))) : Text :=
  name ++ ' ' :: '=' :: ' ' :: (listForm '[' ']' (records.map (inlineForm spell)) ++ ['\n'])

def pairLines (spell : Char → Text) (pairs : List (Text × Text)) : Text :=
  pairs.flatMap fun pair => pairForm spell pair ++ ['\n']

def tableForm (spell : Char → Text) (name : Text) (pairs : List (Text × Text)) : Text :=
  '[' :: '[' :: (name ++ ']' :: ']' :: '\n' :: pairLines spell pairs)

def tablesForm (spell : Char → Text) (name : Text) (records : List (List (Text × Text))) : Text :=
  records.flatMap (tableForm spell name)

/-- Lines that lead from one draft to another; what is left does not begin with a blank. -/
inductive LineSteps : Draft → Text → Draft → Text → Prop
  | refl (d : Draft) (s : Text) : LineSteps d s d s
  | step {d d' d'' : Draft} {s mid rest : Text} (one : (line d).Reads s d' mid)
      (clear : spaces.Reads mid [] mid) (takes : mid.length < s.length)
      (more : LineSteps d' mid d'' rest) : LineSteps d s d'' rest

namespace LineSteps

variable {d d' d'' : Draft} {s mid rest : Text}

theorem trans (first : LineSteps d s d' mid) (next : LineSteps d' mid d'' rest) :
    LineSteps d s d'' rest := by
  induction first with
  | refl => exact next
  | step one clear takes more ih => exact .step one clear takes (ih next)

theorem reads_lines (steps : LineSteps d s d' []) {bound : Text}
    (enough : s.length ≤ bound.length) : (lines bound d).Reads s d' [] := by
  generalize ends : ([] : Text) = rest at steps
  induction steps generalizing bound with
  | refl d s =>
    subst ends
    cases bound <;> rfl
  | @step d d' d'' s mid rest one clear takes more ih =>
    cases bound with
    | nil => exact absurd (Nat.lt_of_lt_of_le takes enough) (Nat.not_lt_zero _)
    | cons c bound =>
      have first : (andThen (line d) fun d => andThen spaces fun _ => accept d).Reads s d' mid :=
        .bind one (.bind clear (reads_accept d' mid))
      have later := ih (Nat.le_of_lt_succ (Nat.lt_of_lt_of_le takes enough)) ends
      rw [Reads] at first later ⊢
      rw [lines_cons, first]
      exact later

end LineSteps

theorem parse_of_lineSteps {s : Text} {d : Draft} (clear : spaces.Reads s [] s)
    (noMark : s.head? ≠ some byteOrderMark) (steps : LineSteps .start s d []) :
    parse s = .ok d.root := by
  have read : document.Reads s d.root [] := by
    have body : Reads (fun s => lines s .start s) s d [] := steps.reads_lines (Nat.le_refl _)
    exact .bind (.optional_of_refuses (refuses_exactly noMark))
      (.bind clear (.bind body (.bind rfl rfl)))
  rw [Reads] at read
  rw [parse, read]

theorem reads_endOfLine (s : Text) : endOfLine.Reads ('\n' :: s) ⟨⟩ s := rfl

theorem reads_bareName {name : Text} (bare : IsBare name) {c : Char}
    (ends : Key.isBareChar c = false) (s : Text) :
    keyName.Reads (name ++ c :: s) name (c :: s) := by
  obtain ⟨nonempty, all⟩ := bare
  rw [List.all_eq_true] at all
  have taken : (name ++ c :: s).takeWhile Key.isBareChar = name := by
    rw [List.takeWhile_append_of_pos all]
    simp [ends]
  have left : (name ++ c :: s).dropWhile Key.isBareChar = c :: s := by
    rw [List.dropWhile_append_of_pos all]
    simp [ends]
  have run : (run1 Key.isBareChar).Reads (name ++ c :: s) name (c :: s) := by
    simp [Reads, run1, taken, left, nonempty]
  cases name with
  | nil => exact absurd rfl nonempty
  | cons d name =>
    have first := all d List.mem_cons_self
    rw [Reads, List.cons_append, keyName]
    · exact run
    · rintro t same
      obtain ⟨rfl, -⟩ := List.cons.inj same
      cases first
    · rintro t same
      obtain ⟨rfl, -⟩ := List.cons.inj same
      cases first

theorem reads_pair {s₀ s₁ s : Text} {k : Key} {node : Node}
    (reads : key.Reads s₀ ⟨[], k⟩ ('=' :: ' ' :: s₁)) (blank : spaces.Reads (' ' :: s₁) [' '] s₁)
    (reads' : (value (depthLimit - 1)).Reads s₁ node ('\n' :: s)) :
    pair.Reads s₀ ⟨⟨[], k⟩, '\n' :: s, node⟩ s := by
  refine .bind reads (.commit (.bind (reads_equals _) (.bind blank (.bind reads'.located ?_))))
  exact .bind (reads_endOfLine s) rfl

theorem line_of_other {d : Draft} {c : Char} {s : Text} (other : c ∉ ['#', '[', '\n', '\r']) :
    line d (c :: s) = commit (judged (fun p => d.insert p.path p.stop p.value) pair) (c :: s) := by
  simp only [List.mem_cons, List.not_mem_nil, or_false, not_or] at other
  simp [line, other]

theorem IsBare.exists_cons {name : Text} (bare : IsBare name) :
    ∃ c rest, name = c :: rest ∧ isSpace c = false ∧ c ∉ ['#', '[', '\n', '\r'] := by
  obtain ⟨nonempty, all⟩ := bare
  cases name with
  | nil => exact absurd rfl nonempty
  | cons c rest =>
    have first := List.all_eq_true.mp all c List.mem_cons_self
    refine ⟨c, rest, rfl, ?_, ?_⟩
    · by_contra light
      simp only [isSpace, Bool.not_eq_false, Bool.or_eq_true, beq_iff_eq] at light
      rcases light with rfl | rfl <;> cases first
    · simp only [List.mem_cons, List.not_mem_nil, or_false]
      rintro (rfl | rfl | rfl | rfl) <;> cases first

/-- The drafts of a document that has, in a list of this name, these tables. -/
inductive Draft.Lists (name : Text) : Draft → List (Table Node) → Prop
  | start {d : Draft} (empty : d.root.entries = []) : Lists name d []
  | opened {d : Draft} {k : Key} {earlier : List (Table Node)} {last : Table Node}
      (named : k.name = name) (header : d.headerNames = [name])
      (entries : d.root.entries = [(k, .tables earlier last)]) : Lists name d (earlier ++ [last])

namespace Draft.Lists

variable {name : Text} {d : Draft} {ts : List (Table Node)} {last : Table Node} {k : Key}

theorem find? (lists : d.Lists name (ts ++ [last])) :
    d.root.find? name = some (.tables ts last) := by
  generalize whole : ts ++ [last] = all at lists
  cases lists with
  | start => simp at whole
  | opened named header entries =>
    obtain ⟨rfl, same⟩ := List.append_inj' whole rfl
    obtain rfl := List.singleton_inj.mp same
    simp [Table.find?, entries, named]

theorem openNext (lists : d.Lists name ts) (named : k.name = name) (extent : Extent) :
    ∃ d', d.openNext ⟨[], k⟩ extent = .ok d' ∧
      d'.Lists name (ts ++ [.empty .written (some extent)]) := by
  cases lists with
  | start empty =>
    have absent : d.root.find? k.name = none := by simp [Table.find?, empty]
    refine ⟨⟨d.root.append k (.tables [] (.empty .written (some extent))), [k]⟩, ?_, ?_⟩
    · simp [Draft.openNext, Table.alter, absent]
    · exact @opened name _ k [] _ named (by simp [headerNames, named])
        (by simp [Table.append, empty])
  | @opened k' earlier last named' header entries =>
    have found : d.root.find? k.name = some (.tables earlier last) := by
      simp [Table.find?, entries, named, named']
    refine ⟨⟨d.root.replace k.name (.tables (earlier ++ [last]) (.empty .written (some extent))),
      [k]⟩, ?_, ?_⟩
    · simp [Draft.openNext, Table.alter, found]
    · exact .opened named' (by simp [headerNames, named])
        (by simp [Table.replace, entries, named, named'])

theorem insert (lists : d.Lists name (ts ++ [last])) (standing : last.standing ≠ .dotted)
    (absent : k.name ∉ last.names) (stop : Text) (value : Node) :
    ∃ d', d.insert ⟨[], k⟩ stop value = .ok d' ∧
      d'.Lists name (ts ++ [(extend stop last).append k value]) := by
  generalize whole : ts ++ [last] = all at lists
  cases lists with
  | start => simp at whole
  | @opened k' earlier last' named header entries =>
    obtain ⟨rfl, same⟩ := List.append_inj' whole rfl
    obtain rfl := List.singleton_inj.mp same
    obtain ⟨h, opener, same⟩ := List.map_eq_singleton_iff.mp header
    have found : d.root.find? h.name = some (.tables ts last) := by
      simp [Table.find?, entries, named, same]
    have added : Table.insertLast ⟨[], k⟩ (some d.headerNames) value (extend stop last) =
        .ok ((extend stop last).append k value) :=
      Table.insertLast_of_absent (t := extend stop last) rfl standing absent _ _
    refine ⟨⟨d.root.replace h.name (.tables ts ((extend stop last).append k value)), d.header⟩,
      ?_, ?_⟩
    · rw [Draft.insert, opener]
      simp only [Table.alter, found, added]
      rfl
    · exact .opened named header (by simp [Table.replace, entries, named, same])

end Draft.Lists

/-- The last table of the list is open and holds these pairs. -/
def Draft.Fills (name : Text) (d : Draft) (ts : List (Table Node)) (pairs : List (Text × Text)) :
    Prop :=
  ∃ last, d.Lists name (ts ++ [last]) ∧ last.standing = .written ∧ last.Holds pairs

section

variable {spell : Char → Text} {name : Text} {d : Draft} {ts : List (Table Node)}
  {filled pairs : List (Text × Text)} {rest : Text}

theorem reads_header (bare : IsBare name) (s : Text) :
    ∃ h : Header, h.path.through = [] ∧ h.path.last.name = name ∧
      (header ['[', '['] [']', ']']).Reads
        ('[' :: '[' :: (name ++ ']' :: ']' :: '\n' :: s)) h s := by
  obtain ⟨c, more, rfl, dark, -⟩ := bare.exists_cons
  have name := reads_keyPart (reads_spaces_none dark _)
    (reads_bareName bare (c := ']') rfl (']' :: '\n' :: s)) (reads_spaces_none rfl _)
  have path := reads_key name (by simp)
  have closing : (literal [']', ']']).Reads (']' :: ']' :: '\n' :: s) ⟨⟩ ('\n' :: s) :=
    reads_literal [']', ']'] _
  have opening := reads_literal ['[', '['] (c :: more ++ ']' :: ']' :: '\n' :: s)
  refine ⟨_, ?_, ?_, .bind (.located (.bind opening (.bind path.commit
    (.bind closing.commit.expecting.expecting rfl)))) (.bind (reads_endOfLine s).commit rfl)⟩
  · rfl
  · rfl

theorem reads_headerLine (bare : IsBare name) (lists : d.Lists name ts) (s : Text) :
    ∃ d', (line d).Reads ('[' :: '[' :: (name ++ ']' :: ']' :: '\n' :: s)) d' s ∧
      d'.Fills name ts [] := by
  obtain ⟨⟨⟨through, last⟩, extent⟩, rfl, named, reads⟩ := reads_header bare s
  obtain ⟨d', opened, lists'⟩ := lists.openNext named extent
  refine ⟨d', ?_, _, lists', rfl, .nil⟩
  have line : (tableLine d).Reads ('[' :: '[' :: (name ++ ']' :: ']' :: '\n' :: s)) d' s :=
    .within (Reads.judged reads opened)
  exact line.commit

theorem pairLines_cons (spell : Char → Text) (pair : Text × Text) (pairs : List (Text × Text))
    (s : Text) : pairLines spell (pair :: pairs) ++ s =
      pairForm spell pair ++ '\n' :: (pairLines spell pairs ++ s) := by
  simp [pairLines]

theorem exists_pairForm (spell : Char → Text) (pair : Text × Text) (s : Text) :
    ∃ more, pairForm spell pair ++ s = '"' :: more :=
  ⟨_, by rw [pairForm, List.append_assoc, List.append_assoc, quote_append]⟩

theorem clear_pairLines (clear : spaces.Reads rest [] rest) (pairs : List (Text × Text)) :
    spaces.Reads (pairLines spell pairs ++ rest) [] (pairLines spell pairs ++ rest) := by
  cases pairs with
  | nil => exact clear
  | cons pair pairs =>
    obtain ⟨more, begins⟩ := exists_pairForm spell pair ('\n' :: (pairLines spell pairs ++ rest))
    rw [pairLines_cons, begins]
    exact reads_spaces_none rfl more

theorem Draft.insert_start (k : Key) (stop : Text) (node : Node) :
    ∃ d, Draft.start.insert ⟨[], k⟩ stop node = .ok d ∧ d.root.entries = [(k, node)] :=
  ⟨_, rfl, rfl⟩

theorem parse_value {list : Text} {node : Node} (bare : IsBare name)
    (blank : spaces.Reads (' ' :: list) [' '] list)
    (reads : (value (depthLimit - 1)).Reads list node ['\n']) :
    ∃ root, parse (name ++ ' ' :: '=' :: ' ' :: list) = .ok root ∧ root.find? name = some node := by
  obtain ⟨c, more, rfl, dark, other⟩ := bare.exists_cons
  obtain ⟨k, named, read⟩ : ∃ k : Key, k.name = c :: more ∧
      key.Reads (c :: more ++ ' ' :: '=' :: ' ' :: list) ⟨[], k⟩ ('=' :: ' ' :: list) :=
    ⟨_, rfl, reads_key (reads_keyPart (reads_spaces_none dark _)
      (reads_bareName bare (c := ' ') rfl _) (reads_spaces_one rfl _)) (by simp)⟩
  obtain ⟨d, inserted, entries⟩ := Draft.insert_start k ['\n'] node
  have judgement := (Reads.judged (f := fun p => Draft.start.insert p.path p.stop p.value)
    (reads_pair read blank reads) inserted).commit
  have one : (line .start).Reads (c :: more ++ ' ' :: '=' :: ' ' :: list) d [] :=
    (line_of_other other).trans judgement
  have steps := LineSteps.step one rfl (by simp) (.refl _ _)
  have noMark : c ≠ byteOrderMark := by
    rintro rfl
    exact absurd (List.all_eq_true.mp bare.bare _ List.mem_cons_self) (by decide)
  refine ⟨d.root, parse_of_lineSteps (reads_spaces_none dark _) (by simpa using noMark) steps, ?_⟩
  simp [Table.find?, entries, named]

variable (spells : ∀ c, Spells c (spell c))
include spells

theorem reads_pairLine (fills : d.Fills name ts filled) (pair : Text × Text)
    (new : pair.1 ∉ filled.map Prod.fst) (s : Text) :
    ∃ d', (line d).Reads (pairForm spell pair ++ '\n' :: s) d' s ∧
      d'.Fills name ts (filled ++ [pair]) := by
  obtain ⟨last, lists, standing, holds⟩ := fills
  obtain ⟨more, begins⟩ := exists_pairForm spell pair ('\n' :: s)
  have lead : spaces.Reads (pairForm spell pair ++ '\n' :: s) []
      (pairForm spell pair ++ '\n' :: s) := by
    rw [begins]
    exact reads_spaces_none rfl more
  obtain ⟨k, named, key⟩ := reads_pair_key spells pair ('\n' :: s) lead
  obtain ⟨extent, value⟩ :=
    reads_value_string spells (depthLimit - 1) pair.2 (s := '\n' :: s) (by simp)
  have read := reads_pair key (reads_spaces_quote ..) value
  have absent : k.name ∉ last.names := by
    rw [named, Table.names, names_of_entries holds]
    exact new
  obtain ⟨d', inserted, lists'⟩ :=
    lists.insert (by rw [standing]; decide) absent ('\n' :: s) (.scalar extent (.string pair.2))
  refine ⟨d', ?_, _, lists', standing, ?_⟩
  · have judgement :=
      (Reads.judged (f := fun p => d.insert p.path p.stop p.value) read inserted).commit
    rw [begins] at judgement ⊢
    exact (line_of_other (by decide)).trans judgement
  · exact List.rel_append holds (.cons ⟨named, extent, rfl⟩ .nil)

theorem lineSteps_pairs (clear : spaces.Reads rest [] rest) (fills : d.Fills name ts filled)
    (distinct : ((filled ++ pairs).map Prod.fst).Nodup) :
    ∃ d', LineSteps d (pairLines spell pairs ++ rest) d' rest ∧
      d'.Fills name ts (filled ++ pairs) := by
  induction pairs generalizing d filled with
  | nil =>
    rw [List.append_nil]
    exact ⟨d, .refl d rest, fills⟩
  | cons pair pairs ih =>
    -- the names before this one are those that the table has by now
    have new : pair.1 ∉ filled.map Prod.fst := by
      rw [List.map_append] at distinct
      exact fun mem => (List.nodup_append.mp distinct).2.2 _ mem _ List.mem_cons_self rfl
    obtain ⟨d', one, fills'⟩ := reads_pairLine spells fills pair new (pairLines spell pairs ++ rest)
    obtain ⟨d'', steps, fills''⟩ := ih fills' (by simpa using distinct)
    refine ⟨d'', ?_, by simpa using fills''⟩
    rw [pairLines_cons]
    refine .step one (clear_pairLines clear pairs) ?_ steps
    simp only [List.length_append, List.length_cons]
    omega

theorem lineSteps_table (bare : IsBare name) (clear : spaces.Reads rest [] rest)
    (lists : d.Lists name ts) (distinct : (pairs.map Prod.fst).Nodup) :
    ∃ d' t, LineSteps d (tableForm spell name pairs ++ rest) d' rest ∧
      d'.Lists name (ts ++ [t]) ∧ t.Holds pairs := by
  obtain ⟨d', one, fills⟩ := reads_headerLine bare lists (pairLines spell pairs ++ rest)
  obtain ⟨d'', steps, last, lists', -, holds⟩ := lineSteps_pairs spells clear fills distinct
  refine ⟨d'', last, ?_, lists', holds⟩
  simp only [tableForm, List.cons_append, List.append_assoc]
  refine .step one (clear_pairLines clear pairs) ?_ steps
  simp only [List.length_append, List.length_cons]
  omega

theorem lineSteps_tables (bare : IsBare name) {records : List (List (Text × Text))}
    (lists : d.Lists name ts) (distinct : ∀ pairs ∈ records, (pairs.map Prod.fst).Nodup) :
    ∃ d' more, LineSteps d (tablesForm spell name records) d' [] ∧ d'.Lists name (ts ++ more) ∧
      List.Forall₂ (fun pairs t => t.Holds pairs) records more := by
  induction records generalizing d ts with
  | nil =>
    refine ⟨d, [], .refl d [], ?_, .nil⟩
    rw [List.append_nil]
    exact lists
  | cons pairs records ih =>
    obtain ⟨first, later⟩ := List.forall_mem_cons.mp distinct
    have clear :
        spaces.Reads (tablesForm spell name records) [] (tablesForm spell name records) := by
      cases records with
      | nil => rfl
      | cons => exact reads_spaces_none rfl _
    obtain ⟨d', t, steps, lists', holds⟩ := lineSteps_table spells bare clear lists first
    obtain ⟨d'', more, steps', lists'', held⟩ := ih lists' later
    refine ⟨d'', t :: more, steps.trans steps', by simpa using lists'', .cons holds held⟩

theorem parse_tablesForm (bare : IsBare name) {records : List (List (Text × Text))}
    (nonempty : records ≠ []) (distinct : ∀ pairs ∈ records, (pairs.map Prod.fst).Nodup) :
    ∃ root earlier last, parse (tablesForm spell name records) = .ok root ∧
      root.find? name = some (.tables earlier last) ∧
      List.Forall₂ (fun pairs t => t.Holds pairs) records (earlier ++ [last]) := by
  have start : Draft.start.Lists name [] := .start rfl
  obtain ⟨d, ts, steps, lists, held⟩ := lineSteps_tables spells bare start distinct
  obtain ⟨first, more, rfl⟩ := List.exists_cons_of_ne_nil nonempty
  obtain rfl | ⟨earlier, last, rfl⟩ := ts.eq_nil_or_concat'
  · cases held
  · have parsed := parse_of_lineSteps (reads_spaces_none rfl _) (by simp; decide) steps
    exact ⟨d.root, earlier, last, parsed, lists.find?, held⟩

theorem parse_arrayForm (bare : IsBare name) {records : List (List (Text × Text))}
    (distinct : ∀ pairs ∈ records, (pairs.map Prod.fst).Nodup) :
    ∃ root extent items, parse (arrayForm spell name records) = .ok root ∧
      root.find? name = some (.array extent items) ∧
      List.Forall₂ (fun pairs item => ∃ t, item = .inline t ∧ t.Holds pairs) records items := by
  obtain ⟨extent, items, reads, held⟩ := reads_array spells (depthLimit - 3) distinct ['\n']
  rw [listForm_append] at reads
  obtain ⟨root, parsed, found⟩ :=
    parse_value bare (reads_spaces_one rfl _) (reads_value_of_array reads)
  refine ⟨root, extent, items, ?_, found, held⟩
  rw [arrayForm, listForm_append]
  exact parsed

end

end Stencil.Toml
