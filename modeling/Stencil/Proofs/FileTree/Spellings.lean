import Stencil.Proofs.FileTree.Files
import Stencil.Proofs.Spelling

/-! Spellings of one path lead to one place.  A segment that names nothing only asks for a directory
where the walk stands, so leaving it out keeps every walk that arrives; and two paths with the same
components have the same segments left.  Not every spelling arrives: a file has no `.` in it. -/

namespace Stencil

namespace Path

/-- The second path is the first without some of the segments that name nothing. -/
inductive Thins : List Bytes → List Bytes → Prop
  | nil : Thins [] []
  | keep (segment : Bytes) {rest rest' : List Bytes} (thins : Thins rest rest') :
      Thins (segment :: rest) (segment :: rest')
  | leave {segment : Bytes} (nameless : segment = [] ∨ segment = dot) {rest rest' : List Bytes}
      (thins : Thins rest rest') : Thins (segment :: rest) rest'

variable {rest rest' : List Bytes}

theorem Thins.append_left (front : List Bytes) (thins : Thins rest rest') :
    Thins (front ++ rest) (front ++ rest') := by
  induction front with
  | nil => exact thins
  | cons segment front ih => exact .keep segment ih

theorem thins_components (segments : List Bytes) :
    Thins segments ((segments.filterMap segmentComponent).map Component.bytes) := by
  induction segments with
  | nil => exact .nil
  | cons segment rest ih =>
    rcases segmentComponent_cases segment with ⟨none, nameless⟩ | ⟨c, some, rfl, -⟩
    · rw [List.filterMap_cons_none none]
      exact .leave nameless ih
    · rw [List.filterMap_cons_some some]
      exact .keep c.bytes ih

theorem root_mem_components_iff (p : Path) : .root ∈ p.components ↔ p.isAbsolute = true := by
  have unnamed : ∀ s, segmentComponent s ≠ some .root := by
    intro s
    unfold segmentComponent
    split_ifs <;> simp
  simp [components, unnamed]

theorem filterMap_segments (p : Path) :
    p.segments.filterMap segmentComponent =
      p.components.filter fun c => c ≠ .root ∧ c ≠ .here := by
  have all : ∀ c ∈ p.segments.filterMap segmentComponent, c ≠ .root ∧ c ≠ .here := by
    intro c mem
    obtain ⟨s, -, found⟩ := List.mem_filterMap.mp mem
    unfold segmentComponent at found
    split_ifs at found <;> simp [← Option.some.inj found]
  have kept := List.filter_eq_self.mpr fun c mem => decide_eq_true (all c mem)
  unfold components
  rw [List.filter_append, kept]
  split_ifs <;> simp

end Path

namespace FileTree

variable {t : FileTree} {at_ : Location} {segment : Bytes} {rest rest' : List Bytes}
  {place place' : Place} {p q : Path}

/-- What a walk comes to along fewer segments, if it does not fail along all of them. -/
inductive Walk.Thins : Walk → Walk → Prop
  | failed (fault : FileFault) (w : Walk) : Thins (.ended (.error fault)) w
  | arrived (place : Place) : Thins (.ended (.ok place)) (.ended (.ok place))
  | link (directory : Location) (target : Path) {rest rest' : List Bytes}
      (thins : Path.Thins rest rest') :
      Thins (.link directory target rest) (.link directory target rest')

theorem Walk.Thins.eq_of_arrived {w : Walk} (thins : (Walk.ended (.ok place)).Thins w) :
    w = .ended (.ok place) := by
  cases thins
  rfl

theorem Walk.Thins.of_link {directory : Location} {target : Path} {w : Walk}
    (thins : (Walk.link directory target rest).Thins w) :
    ∃ rest', w = .link directory target rest' ∧ Path.Thins rest rest' := by
  cases thins with
  | link _ _ fewer => exact ⟨_, rfl, fewer⟩

theorem step_of_thins (t : FileTree) (at_ : Location) (segment : Bytes)
    (thins : Path.Thins rest rest') :
    (∃ next, t.step .opening at_ segment rest = .ok next ∧
        t.step .opening at_ segment rest' = .ok next) ∨
      ∃ w w', t.step .opening at_ segment rest = .error w ∧
        t.step .opening at_ segment rest' = .error w' ∧ w.Thins w' := by
  unfold step
  simp only [reduceCtorEq, false_and, or_false, if_false]
  split_ifs
  · exact .inr ⟨_, _, rfl, rfl, .failed _ _⟩
  · exact .inl ⟨_, rfl, rfl⟩
  · exact .inl ⟨_, rfl, rfl⟩
  · exact .inr ⟨_, _, rfl, rfl, .failed _ _⟩
  · cases found : t.at? (at_ ++ [segment]) with
    | none =>
      refine .inr ⟨_, _, rfl, rfl, ?_⟩
      cases thins with
      | nil => exact .arrived _
      | keep | leave => exact .failed _ _
    | some e =>
      cases e with
      | link target => exact .inr ⟨_, _, rfl, rfl, .link _ _ thins⟩
      | directory | file | device => exact .inl ⟨_, rfl, rfl⟩

theorem walk_of_thins (t : FileTree) (at_ : Location) (thins : Path.Thins rest rest') :
    (t.walk .opening at_ rest).Thins (t.walk .opening at_ rest') := by
  induction thins generalizing at_ with
  | nil => exact .arrived _
  | keep segment thins ih =>
    rcases step_of_thins t at_ segment thins with ⟨next, all, some⟩ | ⟨w, w', all, some, ends⟩
    · rw [walk_of_step all, walk_of_step some]
      exact ih next
    · rw [walk_of_ending all, walk_of_ending some]
      exact ends
  | leave nameless thins ih =>
    rcases step_nameless t .opening at_ _ nameless with stays | fails
    · rw [walk_of_step stays]
      exact ih at_
    · rw [walk_of_ending fails]
      exact .failed _ _

/-- Where a path arrives, it arrives without the segments that name nothing. -/
theorem follow_of_thins {links : Nat} (arrives : t.follow .opening links at_ rest = .ok place)
    (thins : Path.Thins rest rest') : t.follow .opening links at_ rest' = .ok place := by
  refine follow_ok_induction
    (motive := fun links at_ rest => ∀ {rest'}, Path.Thins rest rest' →
      t.follow .opening links at_ rest' = .ok place)
    (fun {links at_ _} ends {_} thins => ?_) (fun {links at_ _ _ target _} link ih {_} thins => ?_)
    arrives thins
  · have walks := walk_of_thins t at_ thins
    rw [ends] at walks
    exact follow_of_ended walks.eq_of_arrived links
  · have walks := walk_of_thins t at_ thins
    rw [link] at walks
    obtain ⟨more, linked, fewer⟩ := walks.of_link
    rw [follow_succ_of_link linked]
    exact ih (fewer.append_left target.segments)

theorem trace_same (same : p.components = q.components) (here : t.trace .opening p = .ok place)
    (there : t.trace .opening q = .ok place') : place = place' := by
  have absolute : p.isAbsolute = q.isAbsolute := by
    rw [Bool.eq_iff_iff, ← Path.root_mem_components_iff, ← Path.root_mem_components_iff, same]
  have segments : p.segments.filterMap Path.segmentComponent =
      q.segments.filterMap Path.segmentComponent := by
    rw [Path.filterMap_segments, Path.filterMap_segments, same]
  have start : origin t.workingDirectory p = origin t.workingDirectory q := by
    rw [origin, origin, absolute]
  unfold trace at here there
  split_ifs at here there
  have thin := follow_of_thins here (Path.thins_components p.segments)
  have thin' := follow_of_thins there (Path.thins_components q.segments)
  rw [segments, start, thin'] at thin
  exact (Except.ok.inj thin).symm

theorem location?_same {l l' : Location} (same : p.components = q.components)
    (here : t.location? p = some l) (there : t.location? q = some l') : l = l' :=
  Place.existing.inj
    (trace_same same (location?_eq_some_iff.mp here) (location?_eq_some_iff.mp there))

end FileTree

end Stencil
