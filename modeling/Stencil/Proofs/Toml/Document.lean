import Stencil.Toml.Document
import Stencil.Proofs.Toml.Distinct
import Stencil.Proofs.Toml.Yields

/-! What reading a document yields: distinct values, arrays and inline tables by the values inside
them, and a distinct root, line by line. -/

namespace Stencil.Toml

open Reader

theorem yields_scalar {α : Type} (f : α → Scalar) (p : Reader α) :
    (scalar f p).Yields Node.Distinct :=
  .located fun _ a _ _ start stop => .scalar ⟨start, stop⟩ (f a)

theorem yields_asString {α : Type} {P : α → Prop} {p : Reader α} (yields : p.Yields P) :
    (asString p).Yields P :=
  .expecting (.expecting (.within yields))

theorem yields_number : number.Yields Node.Distinct :=
  .orElse (yields_scalar _ _) (.orElse (yields_scalar _ _) (yields_scalar _ _))

theorem yields_atom : atom.Yields Node.Distinct := by
  intro s node rest read
  cases s with
  | nil => cases read
  | cons c s =>
    rw [atom] at read
    split_ifs at read
    · exact yields_scalar _ _ _ _ _ read
    · exact yields_number _ _ _ read
    · exact Yields.expecting (yields_scalar _ _) _ _ _ read
    · exact Yields.expecting (yields_scalar _ _) _ _ _ read
    · exact yields_asString (yields_scalar _ _) _ _ _ read
    · exact yields_asString (yields_scalar _ _) _ _ _ read
    · exact yields_asString (yields_scalar _ _) _ _ _ read
    · exact yields_asString (yields_refuse _) _ _ _ read

theorem yields_array {item : Reader Node} (each : item.Yields Node.Distinct) :
    (array item).Yields Node.Distinct := by
  have one : (arrayItem item).Yields Node.Distinct :=
    .after fun _ => each.bind fun node holds => .after fun _ => yields_accept holds
  have items : (arrayItems item).Yields fun nodes => ∀ node ∈ nodes, node.Distinct := by
    refine (Yields.separated one ',').bind fun nodes holds => ?_
    split_ifs
    · exact .after fun _ => yields_accept holds
    · exact .after fun _ => .after fun _ => yields_accept holds
  refine .located (.after fun _ => items.commit.bind fun nodes holds => .after fun _ => ?_)
  exact yields_accept fun start stop => .array ⟨start, stop⟩ holds

theorem yields_inlineTable {value : Reader Node} (each : value.Yields Node.Distinct) :
    (inlineTable value).Yields Node.Distinct := by
  have one : (inlinePair value).Yields fun pair => pair.2.Distinct := by
    refine .after fun path => .commit (.after fun _ => .after fun _ => ?_)
    exact each.bind fun node holds => .after fun _ => yields_accept holds
  have pairs : (inlinePairs value).Yields fun pairs => ∀ pair ∈ pairs, pair.2.Distinct :=
    (Yields.separated one ',').bind fun pairs holds => .after fun _ => yields_accept holds
  have tables : (judged (Table.ofPairs · (.empty .written none)) (inlinePairs value)).Yields
      Table.Distinct :=
    .judged fun s read rest done t made =>
      (Table.Distinct.empty _ _).ofPairs (pairs s read rest done) made
  refine .located (.after fun _ => tables.commit.bind fun t distinct => .after fun _ => ?_)
  exact yields_accept fun start stop => .inline (distinct.of_entries_eq rfl)

theorem yields_valueOf {array inlineTable : Reader Node} (arrays : array.Yields Node.Distinct)
    (tables : inlineTable.Yields Node.Distinct) :
    (valueOf array inlineTable).Yields Node.Distinct := by
  intro s node rest read
  unfold valueOf at read
  split at read
  · exact arrays _ _ _ read
  · exact tables _ _ _ read
  · exact yields_atom _ _ _ read

theorem yields_value (levels : Nat) : (value levels).Yields Node.Distinct := by
  have none : tooDeep.Yields Node.Distinct := by
    intro s node rest read
    cases read
  induction levels with
  | zero => exact yields_valueOf none none
  | succ levels ih => exact yields_valueOf (yields_array ih) (yields_inlineTable ih)

theorem yields_pair : pair.Yields fun pair => pair.value.Distinct := by
  refine .after fun path => .commit (.after fun _ => .after fun _ => ?_)
  have located : (located (fun _ stop node => Pair.mk path stop node)
      (value (depthLimit - 1))).Yields fun pair => pair.value.Distinct :=
    .located fun s node rest read start stop => yields_value _ s node rest read
  exact located.bind fun pair holds => .after fun _ => yields_accept holds

theorem yields_tableLine {d : Draft} (root : d.root.Distinct) :
    (tableLine d).Yields fun d' => d'.root.Distinct := by
  refine .within fun s d' rest read => ?_
  beta_reduce at read
  split at read
  · exact Yields.judged (fun _ h _ _ d' opened => Draft.distinct_openNext root opened) _ _ _ read
  · exact Yields.judged (fun _ h _ _ d' opened => Draft.distinct_openTable root opened) _ _ _ read
  · cases read

theorem yields_line {d : Draft} (root : d.root.Distinct) :
    (line d).Yields fun d' => d'.root.Distinct := by
  have same : (accept d).Yields fun d' => d'.root.Distinct := yields_accept root
  intro s d' rest read
  cases s with
  | nil => cases read
  | cons c s =>
    rw [line] at read
    split_ifs at read
    · exact Yields.commit (.after fun _ => .after fun _ => same) _ _ _ read
    · exact (yields_tableLine root).commit _ _ _ read
    · exact Yields.after (fun _ => same) _ _ _ read
    · have inserted : (judged (fun p => d.insert p.path p.stop p.value) pair).Yields
          fun d' => d'.root.Distinct := .judged fun s p rest read d' inserted =>
        Draft.distinct_insert (yields_pair s p rest read) root inserted
      exact inserted.commit _ _ _ read

theorem yields_lines {d : Draft} (root : d.root.Distinct) (bound : Text) :
    (lines bound d).Yields fun d' => d'.root.Distinct := by
  induction bound generalizing d with
  | nil => exact yields_accept root
  | cons c bound ih =>
    intro s d' rest read
    rw [lines_cons] at read
    have one : (andThen (line d) fun d => andThen spaces fun _ => accept d).Yields
        fun d' => d'.root.Distinct :=
      (yields_line root).bind fun d' root' => .after fun _ => yields_accept root'
    cases first : andThen (line d) (fun d => andThen spaces fun _ => accept d) s with
    | done next mid =>
      rw [first] at read
      exact ih (one s next mid first) mid d' rest read
    | refused stop =>
      rw [first] at read
      obtain ⟨rfl, -⟩ := Reply.done.inj read
      exact root
    | failed stop => simp [first] at read

theorem yields_document : document.Yields Table.Distinct := by
  have start : Draft.start.root.Distinct := .empty ..
  refine .after fun _ => .after fun _ => ?_
  refine .bind (P := fun d => d.root.Distinct) (fun s => yields_lines start s s) fun d root => ?_
  exact .after fun _ => yields_accept root

theorem distinct_of_parse {t : Text} {root : Table Node} (parsed : parse t = .ok root) :
    root.Distinct := by
  unfold parse at parsed
  cases read : document t with
  | done root' rest =>
    rw [read] at parsed
    obtain rfl := Except.ok.inj parsed
    exact yields_document t root' rest read
  | refused stop => simp [read] at parsed
  | failed stop => simp [read] at parsed

end Stencil.Toml
