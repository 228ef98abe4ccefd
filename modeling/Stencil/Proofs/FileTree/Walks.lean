import Stencil.FileTree.Resolve
import Mathlib.Tactic.SplitIfs

/-! Following a path through one tree.  A step ends a walk in one of three ways; a path that arrives
does so after a walk for each link on its way; and every intent goes where opening goes, or
complains. -/

namespace Stencil.FileTree

variable {t : FileTree} {intent : Intent} {at_ next directory : Location} {segment : Bytes}
  {segments rest : List Bytes} {target p : Path} {ending : Walk} {place : Place}
  {r : Except FileFault Place}

theorem step_of_not_directory (h : t.at? at_ ≠ some .directory) (intent : Intent)
    (segment : Bytes) (rest : List Bytes) :
    t.step intent at_ segment rest = .error (.ended (.error .notDirectory)) := by
  unfold step
  rw [if_pos h]

theorem directory_of_step (h : t.step intent at_ segment rest = .ok next) :
    t.at? at_ = some .directory := by
  refine Decidable.byContradiction fun other => ?_
  rw [step_of_not_directory other] at h
  cases h

theorem step_nameless (t : FileTree) (intent : Intent) (at_ : Location) (rest : List Bytes)
    (nameless : segment = [] ∨ segment = Path.dot) :
    t.step intent at_ segment rest = .ok at_ ∨
      t.step intent at_ segment rest = .error (.ended (.error .notDirectory)) := by
  unfold step
  split_ifs
  · exact .inr rfl
  · exact .inl rfl

/-- How a step ends a walk: with a complaint, where nothing is there, or at a link. -/
inductive Stops (t : FileTree) (at_ : Location) (segment : Bytes) (rest : List Bytes) : Walk → Prop
  | complains {fault : FileFault} (kind : fault ∈ [.notDirectory, .isDirectory, .nameTooLong]) :
      Stops t at_ segment rest (.ended (.error fault))
  | missing (absent : t.at? (at_ ++ [segment]) = none) :
      Stops t at_ segment rest (.ended (FileTree.missing (at_ ++ [segment]) rest))
  | link {target : Path} (here : t.at? (at_ ++ [segment]) = some (.link target)) :
      Stops t at_ segment rest (.link at_ target rest)

theorem stops_of_step (h : t.step intent at_ segment rest = .error ending) :
    Stops t at_ segment rest ending := by
  unfold step at h
  split_ifs at h
  -- no directory, a slash at the end, and a name that is too long
  iterate 3
    obtain rfl := Except.error.inj h
    exact .complains (by simp)
  cases here : t.at? (at_ ++ [segment]) with
  | none =>
    rw [here] at h
    obtain rfl := Except.error.inj h
    exact .missing here
  | some e =>
    rw [here] at h
    cases e with
    | link target =>
      obtain rfl := Except.error.inj h
      exact .link here
    | directory | file | device => cases h

theorem walk_of_step (h : t.step intent at_ segment rest = .ok next) :
    t.walk intent at_ (segment :: rest) = t.walk intent next rest := by
  rw [walk, h]

theorem walk_of_ending (h : t.step intent at_ segment rest = .error ending) :
    t.walk intent at_ (segment :: rest) = ending := by
  rw [walk, h]

theorem follow_of_ended (h : t.walk intent at_ segments = .ended r) (links : Nat) :
    t.follow intent links at_ segments = r := by
  rw [follow, h]

theorem follow_zero_of_link (h : t.walk intent at_ segments = .link directory target rest) :
    t.follow intent 0 at_ segments = .error .linkLoop := by
  rw [follow, h]

theorem follow_succ_of_link (h : t.walk intent at_ segments = .link directory target rest)
    (links : Nat) :
    t.follow intent (links + 1) at_ segments =
      t.follow intent links (origin directory target) (target.segments ++ rest) := by
  rw [follow, h]

theorem walk_induction {motive : Walk → Prop}
    (stands : ∀ at_, motive (.ended (.ok (.existing at_))))
    (stops : ∀ {at_ segment rest ending}, t.step intent at_ segment rest = .error ending →
      motive ending)
    (at_ : Location) (segments : List Bytes) : motive (t.walk intent at_ segments) := by
  induction segments generalizing at_ with
  | nil => exact stands at_
  | cons segment rest ih =>
    cases h : t.step intent at_ segment rest with
    | error ending =>
      rw [walk_of_ending h]
      exact stops h
    | ok next =>
      rw [walk_of_step h]
      exact ih next

theorem follow_induction {motive : Except FileFault Place → Prop}
    (loops : motive (.error .linkLoop))
    (ends : ∀ {at_ segments r}, t.walk intent at_ segments = .ended r → motive r)
    (links : Nat) (at_ : Location) (segments : List Bytes) :
    motive (t.follow intent links at_ segments) := by
  induction links generalizing at_ segments with
  | zero =>
    cases h : t.walk intent at_ segments with
    | ended r =>
      rw [follow_of_ended h]
      exact ends h
    | link directory target rest =>
      rw [follow_zero_of_link h]
      exact loops
  | succ links ih =>
    cases h : t.walk intent at_ segments with
    | ended r =>
      rw [follow_of_ended h]
      exact ends h
    | link directory target rest =>
      rw [follow_succ_of_link h]
      exact ih _ _

/-- A path that arrives does so on its last walk, and after each walk before that a link is
followed. -/
theorem follow_ok_induction {motive : Nat → Location → List Bytes → Prop}
    (ends : ∀ {links at_ segments}, t.walk intent at_ segments = .ended (.ok place) →
      motive links at_ segments)
    (link : ∀ {links at_ segments directory target rest},
      t.walk intent at_ segments = .link directory target rest →
      motive links (origin directory target) (target.segments ++ rest) →
      motive (links + 1) at_ segments)
    {links : Nat} (arrives : t.follow intent links at_ segments = .ok place) : motive links at_ segments := by
  induction links generalizing at_ segments with
  | zero =>
    cases h : t.walk intent at_ segments with
    | ended r =>
      obtain rfl := (follow_of_ended h 0).symm.trans arrives
      exact ends h
    | link directory target rest => cases (follow_zero_of_link h).symm.trans arrives
  | succ links ih =>
    cases h : t.walk intent at_ segments with
    | ended r =>
      obtain rfl := (follow_of_ended h _).symm.trans arrives
      exact ends h
    | link directory target rest =>
      exact link h (ih ((follow_succ_of_link h links).symm.trans arrives))

/-! Every intent follows a path as opening does, or complains on the way -/

theorem step_of_intent (t : FileTree) (intent : Intent) (at_ : Location) (segment : Bytes)
    (rest : List Bytes) :
    (∃ fault, t.step intent at_ segment rest = .error (.ended (.error fault))) ∨
      t.step intent at_ segment rest = t.step .opening at_ segment rest := by
  unfold step
  simp only [reduceCtorEq, false_and, or_false, if_false]
  split_ifs <;> simp_all

theorem walk_of_intent (t : FileTree) (intent : Intent) (at_ : Location) (segments : List Bytes) :
    (∃ fault, t.walk intent at_ segments = .ended (.error fault)) ∨
      t.walk intent at_ segments = t.walk .opening at_ segments := by
  induction segments generalizing at_ with
  | nil => exact .inr rfl
  | cons segment rest ih =>
    rcases step_of_intent t intent at_ segment rest with ⟨fault, complains⟩ | same
    · exact .inl ⟨fault, walk_of_ending complains⟩
    · cases h : t.step .opening at_ segment rest with
      | error ending =>
        rw [walk_of_ending h, walk_of_ending (same.trans h)]
        exact .inr rfl
      | ok next =>
        rw [walk_of_step h, walk_of_step (same.trans h)]
        exact ih next

theorem follow_of_intent (t : FileTree) (intent : Intent) (links : Nat) (at_ : Location)
    (segments : List Bytes) :
    (∃ fault, t.follow intent links at_ segments = .error fault) ∨
      t.follow intent links at_ segments = t.follow .opening links at_ segments := by
  induction links generalizing at_ segments with
  | zero =>
    rcases walk_of_intent t intent at_ segments with ⟨fault, complains⟩ | same
    · exact .inl ⟨fault, follow_of_ended complains 0⟩
    · exact .inr (by rw [follow, follow, same])
  | succ links ih =>
    rcases walk_of_intent t intent at_ segments with ⟨fault, complains⟩ | same
    · exact .inl ⟨fault, follow_of_ended complains _⟩
    · rw [follow, follow, same]
      cases t.walk .opening at_ segments with
      | ended r => exact .inr rfl
      | link directory target rest => exact ih _ _

theorem trace_opening_of_ok (h : t.trace intent p = .ok place) :
    t.trace .opening p = .ok place := by
  unfold trace at h ⊢
  split_ifs at h ⊢
  rcases follow_of_intent t intent linkLimit (origin t.workingDirectory p) p.segments with
    ⟨fault, complains⟩ | same
  · simp [complains] at h
  · exact same.symm.trans h

theorem resolve_opening_of_ok (h : t.resolve intent p = .ok place) :
    t.resolve .opening p = .ok place := by
  unfold resolve at h ⊢
  split_ifs at h ⊢
  exact trace_opening_of_ok h

theorem trace_of_resolve (h : t.resolve intent p = .ok place) :
    t.trace intent p = .ok place := by
  unfold resolve at h
  split_ifs at h
  exact h

theorem length_lt_of_resolve (h : t.resolve intent p = .ok place) :
    p.length < pathLimit := by
  unfold resolve trace at h
  split_ifs at h with long nul
  have clean : 0 ∉ p := by simpa using nul
  simpa [clean] using long

theorem resolve_of_short (short : p.length < pathLimit) (intent : Intent) :
    t.resolve intent p = t.trace intent p := by
  unfold resolve
  rw [if_neg (by simp [short])]

end Stencil.FileTree
