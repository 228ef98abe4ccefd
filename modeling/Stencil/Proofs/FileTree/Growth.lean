import Stencil.Proofs.FileTree.Walks

/-! What a run may do to a tree.  New files appear where nothing was, under new numbers and one name
each; every entry that is there stays, and no directory or link is made.  So a path that leads to
something goes on leading there, and all that growth can change for a path is a vacant end, which a
file may fill, and a missing directory, in whose place a file may be found. -/

namespace Stencil.FileTree

@[simp] theorem at?_nil (t : FileTree) : t.at? [] = some .directory := rfl

theorem ne_nil_of_at?_none {t : FileTree} {at_ : Location} (h : t.at? at_ = none) : at_ ≠ [] := by
  rintro rfl
  simp at h

theorem at?_addFile {t : FileTree} {at_ : Location} (vacant : t.at? at_ = none) (l : Location) :
    (t.addFile at_).at? l = if l = at_ then some (.file t.contents.length) else t.at? l := by
  cases l with
  | nil => simp [(ne_nil_of_at?_none vacant).symm]
  | cons n l =>
    have found : (t.addFile at_).at? (n :: l) =
        ((t.entries.find? fun e => e.1 == n :: l).or
          ([(at_, Entry.file t.contents.length)].find? fun e => e.1 == n :: l)).map (·.2) := by
      simp only [at?, addFile, List.find?_append]
    rw [found]
    by_cases same : n :: l = at_
    · subst same
      have missing : (t.entries.find? fun e => e.1 == n :: l) = none := by simpa [at?] using vacant
      simp [missing]
    · simp [at?, same, Ne.symm same]

@[simp] theorem length_contents_setContent (t : FileTree) (id : Nat) (content : Bytes) :
    (t.setContent id content).contents.length = t.contents.length := by
  simp [setContent]

@[simp] theorem length_contents_addFile (t : FileTree) (at_ : Location) :
    (t.addFile at_).contents.length = t.contents.length + 1 := by
  simp [addFile]

theorem content?_setContent_of_ne (t : FileTree) {id other : Nat} (h : id ≠ other)
    (content : Bytes) : (t.setContent id content).content? other = t.content? other := by
  simp [content?, setContent, h]

theorem content?_setContent_self {t : FileTree} {id : Nat} (h : id < t.contents.length)
    (content : Bytes) : (t.setContent id content).content? id = some content := by
  simp [content?, setContent, h]

theorem content?_addFile_of_ne (t : FileTree) (at_ : Location) {id : Nat}
    (h : id ≠ t.contents.length) : (t.addFile at_).content? id = t.content? id := by
  rcases Nat.lt_or_gt_of_ne h with below | above
  · simp [content?, addFile, List.getElem?_append_left below]
  · have old : t.contents[id]? = none := List.getElem?_eq_none (Nat.le_of_lt above)
    have new : (t.contents ++ [[]])[id]? = none := by
      refine List.getElem?_eq_none ?_
      rw [List.length_append, List.length_singleton]
      omega
    simp [content?, addFile, old, new]

/-- Trees that can differ only in what their files hold. -/
structure SameEntries (t t' : FileTree) : Prop where
  entries : t'.entries = t.entries
  numbers : t'.contents.length = t.contents.length
  workingDirectory : t'.workingDirectory = t.workingDirectory

namespace SameEntries

variable {t t' t'' : FileTree}

theorem refl (t : FileTree) : SameEntries t t := ⟨rfl, rfl, rfl⟩

theorem trans (s : SameEntries t t') (s' : SameEntries t' t'') : SameEntries t t'' where
  entries := s'.entries.trans s.entries
  numbers := s'.numbers.trans s.numbers
  workingDirectory := s'.workingDirectory.trans s.workingDirectory

theorem setContent (t : FileTree) (id : Nat) (content : Bytes) :
    SameEntries t (t.setContent id content) :=
  ⟨rfl, length_contents_setContent .., rfl⟩

theorem at? (s : SameEntries t t') (l : Location) : t'.at? l = t.at? l := by
  cases l with
  | nil => rfl
  | cons n l => simp only [FileTree.at?, s.entries]

theorem eq_of_content? (s : SameEntries t t') (same : ∀ id, t'.content? id = t.content? id) :
    t' = t := by
  have contents : t'.contents = t.contents := List.ext_getElem? same
  obtain ⟨entries, -, workingDirectory⟩ := s
  cases t
  cases t'
  simp only at entries workingDirectory contents
  subst entries workingDirectory contents
  rfl

end SameEntries

/-- The change that a run can make to a tree. -/
structure Grows (t t' : FileTree) : Prop where
  kept : ∀ {at_ e}, t.at? at_ = some e → t'.at? at_ = some e
  made : ∀ {at_ e}, t.at? at_ = none → t'.at? at_ = some e →
    ∃ id, e = .file id ∧ t.contents.length ≤ id
  oneName : ∀ {l l' id}, t'.at? l = some (.file id) → t'.at? l' = some (.file id) →
    l = l' ∨ t.at? l = some (.file id) ∧ t.at? l' = some (.file id)
  numbers : t.contents.length ≤ t'.contents.length
  workingDirectory : t'.workingDirectory = t.workingDirectory

namespace Grows

variable {t t' t'' : FileTree}

theorem refl (t : FileTree) : Grows t t where
  kept h := h
  made hn hs := by simp [hn] at hs
  oneName here here' := .inr ⟨here, here'⟩
  numbers := Nat.le_refl _
  workingDirectory := rfl

theorem trans (g : Grows t t') (g' : Grows t' t'') : Grows t t'' where
  kept h := g'.kept (g.kept h)
  made {at_ e} absent present := by
    cases between : t'.at? at_ with
    | none =>
      obtain ⟨id, rfl, new⟩ := g'.made between present
      exact ⟨id, rfl, Nat.le_trans g.numbers new⟩
    | some e' =>
      obtain rfl : e' = e := Option.some.inj ((g'.kept between).symm.trans present)
      exact g.made absent between
  oneName here here' := by
    rcases g'.oneName here here' with same | ⟨between, between'⟩
    · exact .inl same
    · exact g.oneName between between'
  numbers := Nat.le_trans g.numbers g'.numbers
  workingDirectory := g'.workingDirectory.trans g.workingDirectory

theorem of_sameEntries (s : SameEntries t t') : Grows t t' where
  kept h := (s.at? _).trans h
  made absent present := by simp [s.at?, absent] at present
  oneName here here' := .inr ⟨(s.at? _).symm.trans here, (s.at? _).symm.trans here'⟩
  numbers := Nat.le_of_eq s.numbers.symm
  workingDirectory := s.workingDirectory

theorem setContent (t : FileTree) (id : Nat) (content : Bytes) :
    Grows t (t.setContent id content) :=
  .of_sameEntries (.setContent ..)

theorem addFile {at_ : Location} (vacant : t.at? at_ = none) : Grows t (t.addFile at_) where
  kept {l e} h := by
    have other : l ≠ at_ := by
      rintro rfl
      simp [vacant] at h
    rw [at?_addFile vacant, if_neg other, h]
  made {l e} absent present := by
    rw [at?_addFile vacant] at present
    split_ifs at present with same
    · exact ⟨_, (Option.some.inj present).symm, Nat.le_refl _⟩
    · simp [absent] at present
  oneName {l l' id} here here' := by
    rw [at?_addFile vacant] at here here'
    split_ifs at here here' with same same' same'
    · exact .inl (same.trans same'.symm)
    · obtain rfl := Entry.file.inj (Option.some.inj here)
      exact absurd (lt_of_at?_file here') (Nat.lt_irrefl _)
    · obtain rfl := Entry.file.inj (Option.some.inj here')
      exact absurd (lt_of_at?_file here) (Nat.lt_irrefl _)
    · exact .inr ⟨here, here'⟩
  numbers := by simp
  workingDirectory := rfl

theorem directory_iff (g : Grows t t') (at_ : Location) :
    t'.at? at_ = some .directory ↔ t.at? at_ = some .directory := by
  constructor
  · intro present
    cases before : t.at? at_ with
    | none =>
      obtain ⟨id, he, -⟩ := g.made before present
      cases he
    | some e => exact (g.kept before).symm.trans present
  · exact g.kept

theorem file_of_lt (g : Grows t t') {at_ : Location} {id : Nat} (old : id < t.contents.length)
    (present : t'.at? at_ = some (.file id)) : t.at? at_ = some (.file id) := by
  cases before : t.at? at_ with
  | none =>
    obtain ⟨id', he, new⟩ := g.made before present
    cases he
    exact absurd old (Nat.not_lt.mpr new)
  | some e => exact (g.kept before).symm.trans present

end Grows

/-- What growth makes of the end of a path. -/
inductive Develops (t t' : FileTree) : Except FileFault Place → Except FileFault Place → Prop
  | same (r : Except FileFault Place) : Develops t t' r r
  | filled {at_ : Location} {id : Nat} (absent : t.at? at_ = none)
      (present : t'.at? at_ = some (.file id)) :
      Develops t t' (.ok (.vacant at_)) (.ok (.existing at_))
  | blocked : Develops t t' (.error .notFound) (.error .notDirectory)

namespace Develops

variable {t t' : FileTree} {r r' : Except FileFault Place}

theorem existing {at_ : Location} (d : Develops t t' (.ok (.existing at_)) r') :
    r' = .ok (.existing at_) := by
  cases d with
  | same => rfl

theorem existing_after {at_ : Location} (d : Develops t t' r (.ok (.existing at_))) :
    r = .ok (.existing at_) ∨
      r = .ok (.vacant at_) ∧ t.at? at_ = none ∧ ∃ id, t'.at? at_ = some (.file id) := by
  cases d with
  | same => exact .inl rfl
  | filled absent present => exact .inr ⟨rfl, absent, _, present⟩

theorem vacant {at_ : Location} (d : Develops t t' (.ok (.vacant at_)) r') :
    r' = .ok (.vacant at_) ∨ r' = .ok (.existing at_) ∧ ∃ id, t'.at? at_ = some (.file id) := by
  cases d with
  | same => exact .inl rfl
  | filled absent present => exact .inr ⟨rfl, _, present⟩

theorem vacant_after {at_ : Location} (d : Develops t t' r (.ok (.vacant at_))) :
    r = .ok (.vacant at_) := by
  cases d with
  | same => rfl

end Develops

theorem askedLength_of_grows {t t' : FileTree} (g : Grows t t') (at_ : Location)
    (rest : List Bytes) : t'.askedLength at_ rest = t.askedLength at_ rest := by
  unfold askedLength
  cases before : t.at? at_ with
  | some e => rw [g.kept before]
  | none =>
    cases after : t'.at? at_ with
    | none => rfl
    | some e =>
      obtain ⟨id, rfl, -⟩ := g.made before after
      rfl

/-- One segment in both trees: the same, but where the segment names a new file. -/
theorem step_of_grows {t t' : FileTree} (g : Grows t t') (intent : Intent) (at_ : Location)
    (segment : Bytes) (rest : List Bytes) :
    t'.step intent at_ segment rest = t.step intent at_ segment rest ∨
      ∃ l id, t.at? l = none ∧ t'.at? l = some (.file id) ∧
        t'.step intent at_ segment rest = .ok l ∧
        t.step intent at_ segment rest = .error (.ended (missing l rest)) := by
  by_cases dir : t.at? at_ = some .directory
  case neg =>
    have dir' := mt (g.directory_iff at_).mp dir
    exact .inl ((step_of_not_directory dir' ..).trans (step_of_not_directory dir ..).symm)
  unfold step
  rw [if_neg (not_not_intro dir), if_neg (not_not_intro (g.kept dir)), askedLength_of_grows g]
  split_ifs <;> try exact .inl rfl
  cases before : t.at? (at_ ++ [segment]) with
  | some e =>
    rw [g.kept before]
    exact .inl rfl
  | none =>
    cases after : t'.at? (at_ ++ [segment]) with
    | none => exact .inl rfl
    | some e =>
      obtain ⟨id, rfl, -⟩ := g.made before after
      exact .inr ⟨_, id, before, after, rfl, rfl⟩

theorem walk_of_grows {t t' : FileTree} (g : Grows t t') (intent : Intent) (at_ : Location)
    (segments : List Bytes) :
    t'.walk intent at_ segments = t.walk intent at_ segments ∨
      ∃ r r', t.walk intent at_ segments = .ended r ∧ t'.walk intent at_ segments = .ended r' ∧
        Develops t t' r r' := by
  induction segments generalizing at_ with
  | nil => exact .inl rfl
  | cons segment rest ih =>
    rcases step_of_grows g intent at_ segment rest with same | ⟨l, id, absent, present, next, ends⟩
    · cases h : t.step intent at_ segment rest with
      | error ending =>
        rw [walk_of_ending h, walk_of_ending (same.trans h)]
        exact .inl rfl
      | ok next =>
        rw [walk_of_step h, walk_of_step (same.trans h)]
        exact ih next
    · rw [walk_of_ending ends, walk_of_step next]
      cases rest with
      | nil => exact .inr ⟨_, _, rfl, rfl, .filled absent present⟩
      | cons s rest =>
        -- the walk goes on from the new file, which is no directory
        have file : t'.at? l ≠ some .directory := by simp [present]
        rw [walk_of_ending (step_of_not_directory file ..)]
        exact .inr ⟨_, _, rfl, rfl, .blocked⟩

theorem follow_of_grows {t t' : FileTree} (g : Grows t t') (intent : Intent) (links : Nat)
    (at_ : Location) (segments : List Bytes) :
    Develops t t' (t.follow intent links at_ segments) (t'.follow intent links at_ segments) := by
  induction links generalizing at_ segments with
  | zero =>
    rcases walk_of_grows g intent at_ segments with same | ⟨r, r', before, after, d⟩
    · cases before : t.walk intent at_ segments with
      | ended r =>
        rw [follow_of_ended before, follow_of_ended (same.trans before)]
        exact .same r
      | link directory target rest =>
        rw [follow_zero_of_link before, follow_zero_of_link (same.trans before)]
        exact .same _
    · rw [follow_of_ended before, follow_of_ended after]
      exact d
  | succ links ih =>
    rcases walk_of_grows g intent at_ segments with same | ⟨r, r', before, after, d⟩
    · cases before : t.walk intent at_ segments with
      | ended r =>
        rw [follow_of_ended before, follow_of_ended (same.trans before)]
        exact .same r
      | link directory target rest =>
        rw [follow_succ_of_link before, follow_succ_of_link (same.trans before)]
        exact ih _ _
    · rw [follow_of_ended before, follow_of_ended after]
      exact d

theorem trace_of_grows {t t' : FileTree} (g : Grows t t') (intent : Intent) (p : Path) :
    Develops t t' (t.trace intent p) (t'.trace intent p) := by
  rw [trace, trace]
  split_ifs
  · exact .same _
  · exact .same _
  · rw [g.workingDirectory]
    exact follow_of_grows g intent _ _ _

theorem resolve_of_grows {t t' : FileTree} (g : Grows t t') (intent : Intent) (p : Path) :
    Develops t t' (t.resolve intent p) (t'.resolve intent p) := by
  rw [resolve, resolve]
  split_ifs
  · exact .same _
  · exact trace_of_grows g intent p

end Stencil.FileTree
