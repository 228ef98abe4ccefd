import Mathlib.Data.List.Induction
import Stencil.FileTree.Edit
import Stencil.Proofs.Plan.Product
import Stencil.Proofs.Spelling

/-! Collisions.  Planning remembers the last job for each destination; what it logs is what comes out
when every job is compared with all jobs before it. -/

namespace Stencil

theorem getElem?_append_singleton_iff {α : Type} {l : List α} {a b : α} {n : Nat} :
    (l ++ [a])[n]? = some b ↔ l[n]? = some b ∨ n = l.length ∧ a = b := by
  rcases Nat.lt_trichotomy n l.length with inside | rfl | outside
  · rw [List.getElem?_append_left inside]
    simp [Nat.ne_of_lt inside]
  · simp
  · have whole : (l ++ [a]).length ≤ n := by simpa using Nat.succ_le_of_lt outside
    rw [List.getElem?_eq_none whole, List.getElem?_eq_none (Nat.le_of_lt outside)]
    simp [Nat.ne_of_gt outside]

namespace Plan

/-- Two jobs for one destination, written as the later one has it. -/
structure Collision where
  earlier : Nat
  later : Nat
  destination : Path
  deriving DecidableEq

def Collision.entry (c : Collision) : LogEntry :=
  ⟨.debug, .planning, collisionMessage c.destination c.earlier c.later⟩

def last? (done : List Job) (destination : Path) : Option Nat :=
  (done.zipIdx.reverse.find? fun entry => entry.1.destination.same destination).map (·.2)

/-- The job with this number, and the last job before it with its destination. -/
def collision? (planned : List Job) (later : Nat) : Option Collision := do
  let job ← planned[later]?
  let earlier ← last? (planned.take later) job.destination
  return ⟨earlier, later, job.destination⟩

/-- Every job from a number on is compared with all jobs before it. -/
def collisionsFrom (start : Nat) (planned : List Job) : List Collision :=
  (List.range' start (planned.length - start)).filterMap (collision? planned)

def collisions (planned : List Job) : List Collision := collisionsFrom 0 planned

/-- The later job has a destination that some earlier one has, in some spelling, and the earlier one
is the last of these. -/
structure Collides (planned : List Job) (c : Collision) : Prop where
  order : c.earlier < c.later
  later : ∃ job, planned[c.later]? = some job ∧ job.destination = c.destination
  earlier : ∃ job, planned[c.earlier]? = some job ∧ Path.Respelled job.destination c.destination
  last : ∀ {k job}, c.earlier < k → k < c.later → planned[k]? = some job →
    ¬ Path.Respelled job.destination c.destination

/-! The scan -/

theorem last?_append_singleton (done : List Job) (job : Job) (destination : Path) :
    last? (done ++ [job]) destination =
      if job.destination.same destination then some done.length else last? done destination := by
  unfold last?
  rw [List.zipIdx_append, List.reverse_append]
  simp only [List.zipIdx_singleton, List.reverse_singleton, List.singleton_append, List.find?_cons]
  split <;> simp_all

theorem last?_eq_some_iff {done : List Job} {destination : Path} {k : Nat} :
    last? done destination = some k ↔
      (∃ job, done[k]? = some job ∧ job.destination.same destination) ∧
        ∀ {k' job}, k < k' → done[k']? = some job → ¬ job.destination.same destination := by
  -- From the back, where the scan begins.
  induction done using List.reverseRecOn with
  | nil => simp [last?]
  | append_singleton done job ih =>
    rw [last?_append_singleton]
    simp only [getElem?_append_singleton_iff]
    split_ifs with same
    · constructor
      · intro here
        obtain rfl := Option.some.inj here
        refine ⟨⟨job, .inr ⟨rfl, rfl⟩, same⟩, ?_⟩
        rintro k' job' lt (found | ⟨rfl, -⟩)
        · exact absurd (List.getElem?_eq_some_iff.mp found).1 (Nat.lt_asymm lt)
        · exact absurd lt (Nat.lt_irrefl _)
      · rintro ⟨⟨job', found | ⟨rfl, -⟩, -⟩, none⟩
        · exact absurd same (none (List.getElem?_eq_some_iff.mp found).1 (.inr ⟨rfl, rfl⟩))
        · rfl
    · rw [ih]
      constructor
      · rintro ⟨⟨job', found, same'⟩, none⟩
        refine ⟨⟨job', .inl found, same'⟩, ?_⟩
        rintro k' job'' lt (found' | ⟨-, rfl⟩)
        · exact none lt found'
        · exact same
      · rintro ⟨⟨job', found | ⟨-, rfl⟩, same'⟩, none⟩
        · exact ⟨⟨job', found, same'⟩, fun lt found' => none lt (.inl found')⟩
        · exact absurd same' same

theorem isSome_last?_iff {done : List Job} {destination : Path} :
    (last? done destination).isSome ↔
      ∃ (k : Nat) (job : Job), done[k]? = some job ∧ job.destination.same destination := by
  rw [last?, Option.isSome_map, List.find?_isSome]
  simp only [List.mem_reverse, Prod.exists, List.mem_zipIdx_iff_getElem?]
  rw [exists_comm]

theorem same_iff_respelled {p q : Path} : p.same q = true ↔ Path.Respelled p q := by
  rw [Path.same, decide_eq_true_iff, Path.components_eq_iff_respelled]

theorem last?_take_eq_some_iff {planned : List Job} {destination : Path} {n k : Nat} :
    last? (planned.take n) destination = some k ↔
      k < n ∧ (∃ job, planned[k]? = some job ∧ Path.Respelled job.destination destination) ∧
        ∀ {k' job}, k < k' → k' < n → planned[k']? = some job →
          ¬ Path.Respelled job.destination destination := by
  simp only [last?_eq_some_iff, getElem?_take_eq_some_iff, same_iff_respelled]
  constructor
  · rintro ⟨⟨job, ⟨lt, found⟩, same⟩, none⟩
    exact ⟨lt, ⟨job, found, same⟩, fun above lt' found' => none above ⟨lt', found'⟩⟩
  · rintro ⟨lt, ⟨job, found, same⟩, none⟩
    exact ⟨⟨job, ⟨lt, found⟩, same⟩, fun above later => none above later.1 later.2⟩

theorem collision?_eq_some_iff {planned : List Job} {later : Nat} {c : Collision} :
    collision? planned later = some c ↔ c.later = later ∧ Collides planned c := by
  simp only [collision?, Option.bind_eq_bind, Option.bind_eq_some_iff, last?_take_eq_some_iff]
  constructor
  · rintro ⟨job, found, earlier, ⟨lt, first, last⟩, made⟩
    obtain rfl := Option.some.inj made
    exact ⟨rfl, lt, ⟨job, found, rfl⟩, first, last⟩
  · rintro ⟨rfl, order, ⟨job, found, same⟩, earlier, last⟩
    rw [← same] at earlier last
    exact ⟨job, found, c.earlier, ⟨order, earlier, last⟩, by rw [same]; rfl⟩

theorem exists_collides_iff {planned : List Job} {later : Nat} :
    (∃ c, c.later = later ∧ Collides planned c) ↔
      ∃ (earlier : Nat) (job job' : Job), earlier < later ∧ planned[earlier]? = some job ∧
        planned[later]? = some job' ∧ Path.Respelled job.destination job'.destination := by
  constructor
  · rintro ⟨c, rfl, order, ⟨job', here, same⟩, ⟨job, found, respelled⟩, -⟩
    exact ⟨c.earlier, job, job', order, found, here, same ▸ respelled⟩
  · rintro ⟨earlier, job, job', order, found, here, respelled⟩
    have some : (last? (planned.take later) job'.destination).isSome :=
      isSome_last?_iff.mpr ⟨earlier, job, getElem?_take_eq_some_iff.mpr ⟨order, found⟩,
        same_iff_respelled.mpr respelled⟩
    obtain ⟨k, latest⟩ := Option.isSome_iff_exists.mp some
    obtain ⟨lt, first, last⟩ := last?_take_eq_some_iff.mp latest
    exact ⟨⟨k, later, job'.destination⟩, rfl, lt, ⟨job', here, rfl⟩, first, last⟩

theorem mem_collisionsFrom_iff {start : Nat} {planned : List Job} {c : Collision} :
    c ∈ collisionsFrom start planned ↔ start ≤ c.later ∧ Collides planned c := by
  simp only [collisionsFrom, List.mem_filterMap, List.mem_range'_1, collision?_eq_some_iff]
  constructor
  · rintro ⟨later, ⟨le, -⟩, rfl, collides⟩
    exact ⟨le, collides⟩
  · rintro ⟨le, collides⟩
    obtain ⟨job, found, -⟩ := collides.later
    have lt := (List.getElem?_eq_some_iff.mp found).1
    exact ⟨c.later, ⟨le, by omega⟩, rfl, collides⟩

theorem pairwise_collisionsFrom (start : Nat) (planned : List Job) :
    (collisionsFrom start planned).Pairwise fun c c' => c.later < c'.later := by
  refine List.Pairwise.filterMap _ ?_ List.pairwise_lt_range'
  intro later later' lt c found c' found'
  rw [(collision?_eq_some_iff.mp found).1, (collision?_eq_some_iff.mp found').1]
  exact lt

theorem collisionsFrom_append_cons (done more : List Job) (new : Job) :
    collisionsFrom done.length (done ++ new :: more) =
      ((last? done new.destination).map fun earlier =>
        ⟨earlier, done.length, new.destination⟩).toList ++
          collisionsFrom (done ++ [new]).length (done ++ new :: more) := by
  have here : collision? (done ++ new :: more) done.length =
      (last? done new.destination).map fun earlier =>
        ⟨earlier, done.length, new.destination⟩ := by
    rw [collision?, List.getElem?_append_right (Nat.le_refl _), Nat.sub_self, List.take_left,
      List.getElem?_cons_zero, Option.bind_eq_bind, Option.bind_some]
    cases last? done new.destination <;> rfl
  have count : (done ++ new :: more).length - done.length = more.length + 1 := by simp
  have count' : (done ++ new :: more).length - (done ++ [new]).length = more.length := by
    simp
    omega
  rw [collisionsFrom, collisionsFrom, count, count', List.range'_succ, List.filterMap_cons, here,
    List.length_append, List.length_singleton]
  cases last? done new.destination <;> rfl

/-! The run -/

/-- What planning remembers of the jobs that are done. -/
def producers (done : List Job) : Producers :=
  done.zipIdx.reverse.map fun entry => (entry.1.destination.components, entry.2)

theorem producers_append_singleton (done : List Job) (new : Job) :
    producers (done ++ [new]) = (new.destination.components, done.length) :: producers done := by
  simp [producers, List.zipIdx_append]

theorem producer?_producers (done : List Job) (destination : Path) :
    producer? (producers done) destination = last? done destination := by
  unfold producer? producers last?
  rw [List.find?_map, Option.map_map]
  simp only [Function.comp_def, Path.same, beq_eq_decide]

theorem run_noteCollision_producers (done : List Job) (destination : Path) (number : Nat)
    (s : Session) :
    (noteCollision (m := Simulation) (producers done) destination number).run s =
      (.ok ⟨⟩, { s with log := s.log ++ (((last? done destination).map fun earlier =>
        ⟨earlier, number, destination⟩).toList).map Collision.entry }) := by
  rw [noteCollision, producer?_producers]
  cases last? done destination with
  | none =>
    simp only [Option.map_none, Option.toList_none, List.map_nil, List.append_nil]
    rfl
  | some earlier => exact Session.run_say ..

/-- What planning still logs when some jobs are done: the collisions of the others, with any job. -/
theorem session_of_jobs {directory : Path} {tasks : List Task} (done : List Job)
    {planned : List Job} {s after : Session}
    (ran : (jobs (m := Simulation) directory (producers done) done.length tasks).run s =
      (.ok planned, after)) :
    after = { s with
      log := s.log ++ (collisionsFrom done.length (done ++ planned)).map Collision.entry } := by
  -- Along the tasks; the jobs that are done are all that the producers know.
  induction tasks generalizing done planned s with
  | nil =>
    obtain ⟨made, rfl⟩ := Prod.mk.inj ran
    obtain rfl := Except.ok.inj made
    simp [collisionsFrom]
  | cons task rest ih =>
    rcases Session.run_bind_cases ran with ⟨failure, -, failed⟩ | ⟨new, placed, placing, ran⟩
    · cases failed
    obtain rfl : s = placed := congrArg Prod.snd ((run_job directory task s).symm.trans placing)
    rw [Session.run_bind_ok (run_noteCollision_producers ..)] at ran
    rcases Session.run_bind_cases ran with ⟨failure, -, failed⟩ | ⟨more, last, later, ran⟩
    · cases failed
    obtain ⟨made, rfl⟩ := Prod.mk.inj ran
    obtain rfl := Except.ok.inj made
    rw [← producers_append_singleton] at later
    have rest := ih (done ++ [new]) (by simpa using later)
    rw [rest, collisionsFrom_append_cons, List.map_append]
    simp [List.append_assoc]

theorem plan_logs_collisions {records : List Record} {templates : List Path} {directory : Path}
    {s after : Session} {planned : List Job}
    (ran : (plan (m := Simulation) records templates directory).run s = (.ok planned, after)) :
    Product records templates directory planned ∧
    after = { s with log := s.log ++ (collisions planned).map Collision.entry } ∧
    (collisions planned).Pairwise (fun c c' => c.later < c'.later) ∧
    (∀ c, c ∈ collisions planned ↔ Collides planned c) ∧
    (∀ later, (∃ c ∈ collisions planned, c.later = later) ↔
      ∃ (earlier : Nat) (job job' : Job), earlier < later ∧ planned[earlier]? = some job ∧
        planned[later]? = some job' ∧ Path.Respelled job.destination job'.destination) ∧
    ∀ p q : Path, Path.Respelled p q ↔ p.components = q.components := by
  have found : ∀ c, c ∈ collisions planned ↔ Collides planned c := fun c =>
    mem_collisionsFrom_iff.trans (and_iff_right (Nat.zero_le _))
  refine ⟨?_, session_of_jobs [] ran, pairwise_collisionsFrom 0 planned, found,
    fun later => ?_, fun _ _ => Path.components_eq_iff_respelled.symm⟩
  · obtain ⟨log, known⟩ := run_plan records templates directory s
    rw [known] at ran
    exact product_of_onTree (Prod.mk.inj ran).1
  · rw [← exists_collides_iff]
    simp only [found, and_comm]

namespace Spelt

/-! Three jobs for one path, each in another spelling, and one between them for another path. -/

def ofName (replacement : Text) : Record := ⟨[(⟨"name".toList, by decide⟩, replacement)]⟩

def records : List Record :=
  [ofName "a".toList, ofName "./a".toList, ofName "../a".toList, ofName "a/".toList]

def template : Path := Path.ofText "@name@".toList

def jobs : List Job :=
  [⟨0, template, Path.ofText "out/a".toList⟩, ⟨1, template, Path.ofText "out/./a".toList⟩,
    ⟨2, template, Path.ofText "out/../a".toList⟩, ⟨3, template, Path.ofText "out/a/".toList⟩]

theorem plan_logs_two_collisions :
    ∃ after, (plan (m := Simulation) records [template] (Path.ofText "out".toList)).run
        ⟨.scratch [], []⟩ = (.ok jobs, after) ∧
      after.log = [⟨.debug, .planning,
          "'out/./a' is produced by job 0 and job 1, keeping the later".toList⟩,
        ⟨.debug, .planning,
          "'out/a/' is produced by job 1 and job 3, keeping the later".toList⟩] ∧
      Collides jobs ⟨1, 3, Path.ofText "out/a/".toList⟩ := by
  have ran : (plan (m := Simulation) records [template] (Path.ofText "out".toList)).run
      ⟨.scratch [], []⟩ = (.ok jobs, _) := Session.run_of_result (by decide +kernel)
  obtain ⟨-, logged, -, found, -⟩ := plan_logs_collisions ran
  have two : collisions jobs = [⟨0, 1, Path.ofText "out/./a".toList⟩,
      ⟨1, 3, Path.ofText "out/a/".toList⟩] := by decide +kernel
  refine ⟨_, ran, ?_, (found _).mp (by rw [two]; simp)⟩
  rw [logged, two]
  decide +kernel

end Spelt

end Plan

end Stencil
