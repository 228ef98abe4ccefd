import Stencil.Proofs.FileTree.Files

/-! Creating.  A place to create is found as a place to open is, but for a slash at the end.  What is
created is a new file, an old file that has been emptied, or a device, and the path leads to it from
then on. -/

namespace Stencil.FileTree

variable {t t' : FileTree} {p : Path}

theorem at?_of_step_vacant {intent : Intent} {at_ l : Location} {segment : Bytes}
    {rest : List Bytes}
    (h : t.step intent at_ segment rest = .error (.ended (.ok (.vacant l)))) : t.at? l = none := by
  cases rest with
  | nil =>
    cases stops_of_step h with
    | missing absent => exact absent
  | cons next rest => cases stops_of_step h

theorem at?_of_walk_vacant {intent : Intent} {at_ l : Location} {segments : List Bytes}
    (h : t.walk intent at_ segments = .ended (.ok (.vacant l))) : t.at? l = none := by
  refine walk_induction (motive := fun w => w = .ended (.ok (.vacant l)) → t.at? l = none)
    (fun _ stands => by simp at stands) (fun stops same => ?_) at_ segments h
  exact at?_of_step_vacant (same ▸ stops)

theorem at?_of_follow_vacant {intent : Intent} {links : Nat} {at_ l : Location}
    {segments : List Bytes} (h : t.follow intent links at_ segments = .ok (.vacant l)) :
    t.at? l = none := by
  refine follow_induction (motive := fun r => r = .ok (.vacant l) → t.at? l = none)
    (fun loops => by simp at loops) (fun ends same => ?_) links at_ segments h
  exact at?_of_walk_vacant (same ▸ ends)

theorem at?_of_resolve_vacant {intent : Intent} {l : Location}
    (h : t.resolve intent p = .ok (.vacant l)) : t.at? l = none := by
  unfold resolve trace at h
  split_ifs at h
  exact at?_of_follow_vacant h

/-- What creating does: the entry that is opened, and the tree after it. -/
inductive Creates (t : FileTree) (p : Path) : Entry → FileTree → Prop
  | new {l : Location} (place : t.resolve .opening p = .ok (.vacant l)) (vacant : t.at? l = none) :
      Creates t p (.file t.contents.length) (t.addFile l)
  | emptied {l : Location} {id : Nat} (place : t.resolve .opening p = .ok (.existing l))
      (here : t.at? l = some (.file id)) : Creates t p (.file id) (t.setContent id [])
  | device {l : Location} {d : Device} (place : t.resolve .opening p = .ok (.existing l))
      (here : t.at? l = some (.device d)) : Creates t p (.device d) t

theorem creates_of_create {e : Entry} (h : t.create p = .ok (e, t')) : Creates t p e t' := by
  unfold create at h
  cases hr : t.resolve .creating p with
  | error fault => simp [hr] at h
  | ok place =>
    have opening := resolve_opening_of_ok hr
    cases place with
    | vacant l =>
      simp only [hr, Except.ok.injEq, Prod.mk.injEq] at h
      obtain ⟨rfl, rfl⟩ := h
      exact .new opening (at?_of_resolve_vacant hr)
    | existing l =>
      cases here : t.at? l with
      | none => simp [hr, here] at h
      | some e' =>
        cases e' with
        | directory => simp [hr, here] at h
        | link target => simp [hr, here] at h
        | file id =>
          simp only [hr, here, Except.ok.injEq, Prod.mk.injEq] at h
          obtain ⟨rfl, rfl⟩ := h
          exact .emptied opening here
        | device d =>
          simp only [hr, here, Except.ok.injEq, Prod.mk.injEq] at h
          obtain ⟨rfl, rfl⟩ := h
          exact .device opening here

namespace Creates

variable {e : Entry}

theorem grows (c : Creates t p e t') : Grows t t' := by
  cases c with
  | new place vacant => exact .addFile vacant
  | emptied place here => exact .setContent ..
  | device place here => exact .refl t

theorem openEntry (c : Creates t p e t') : t'.openEntry p = .ok e := by
  have g := c.grows
  cases c with
  | @new l place vacant =>
    have filled : (t.addFile l).at? l = some (.file t.contents.length) := by
      rw [at?_addFile vacant, if_pos rfl]
    rcases (place ▸ resolve_of_grows g .opening p).vacant with still | ⟨existing, -⟩
    · have absent := at?_of_resolve_vacant still
      simp [filled] at absent
    · exact openEntry_eq_ok_iff.mpr ⟨l, existing, filled⟩
  | @emptied l id place here =>
    have existing := (place ▸ resolve_of_grows g .opening p).existing
    exact openEntry_eq_ok_iff.mpr ⟨l, existing, g.kept here⟩
  | @device l d place here => exact openEntry_eq_ok_iff.mpr ⟨l, place, here⟩

theorem length_lt (c : Creates t p e t') : p.length < pathLimit := by
  cases c with
  | new place => exact length_lt_of_resolve place
  | emptied place => exact length_lt_of_resolve place
  | device place => exact length_lt_of_resolve place

theorem file_or_device (c : Creates t p e t') : (∃ id, e = .file id) ∨ ∃ d, e = .device d := by
  cases c with
  | new place vacant => exact .inl ⟨_, rfl⟩
  | emptied place here => exact .inl ⟨_, rfl⟩
  | device place here => exact .inr ⟨_, rfl⟩

theorem lt_of_file {id : Nat} (c : Creates t p (.file id) t') : id < t'.contents.length := by
  cases c with
  | new place vacant => simp
  | emptied place here => simpa using lt_of_at?_file here

theorem content?_of_ne (c : Creates t p e t') {id : Nat} (other : e ≠ .file id) :
    t'.content? id = t.content? id := by
  cases c with
  | new place vacant =>
    exact content?_addFile_of_ne _ _ fun h => other (by rw [h])
  | emptied place here =>
    exact content?_setContent_of_ne _ (fun h => other (by rw [h])) _
  | device place here => rfl

theorem content? (c : Creates t p e t') (id : Nat) :
    t'.content? id = if e = .file id then some [] else t.content? id := by
  split_ifs with sent
  · subst sent
    cases c with
    | new place vacant => simp [FileTree.content?, addFile]
    | emptied place here => exact content?_setContent_self (lt_of_at?_file here) _
  · exact c.content?_of_ne sent

theorem location?_of_new (c : Creates t p e t') {l : Location} {e' : Entry}
    (absent : t.at? l = none) (present : t'.at? l = some e') : t'.location? p = some l := by
  obtain ⟨l', real, -⟩ := location?_of_openEntry c.openEntry
  rw [location?_eq_some_iff] at real
  cases c with
  | @new l'' place vacant =>
    rw [at?_addFile vacant] at present
    split_ifs at present with same
    · subst same
      have g : Grows t (t.addFile l) := .addFile vacant
      have d := trace_of_resolve place ▸ trace_of_grows g .opening p
      rcases d.vacant with still | ⟨existing, -⟩
      · simp [still] at real
      · exact location?_eq_some_iff.mpr existing
    · simp [absent] at present
  | emptied place here => simp [absent] at present
  | device place here => simp [absent] at present

theorem openEntry_of_samePlace {q : Path} {source : Entry} (c : Creates t p e t')
    (same : t.SamePlace q p) (found : t.openEntry q = .ok source) : source = e := by
  obtain ⟨l, real, here⟩ := location?_of_openEntry found
  have leads : t.trace .opening p = .ok (.existing l) :=
    location?_eq_some_iff.mp (same.2.symm.trans real)
  cases c with
  | new place vacant => simp [trace_of_resolve place] at leads
  | emptied place here' =>
    obtain rfl : _ = l := by simpa [trace_of_resolve place] using leads
    exact Option.some.inj (here.symm.trans here')
  | device place here' =>
    obtain rfl : _ = l := by simpa [trace_of_resolve place] using leads
    exact Option.some.inj (here.symm.trans here')

theorem read_setContent {id : Nat} (c : Creates t p (.file id) t') (content : Bytes) :
    (t'.setContent id content).read p = .ok content := by
  refine read_eq_ok_iff.mpr ⟨.file id, (Grows.setContent ..).openEntry c.openEntry, ?_⟩
  rw [readEntry, content?_setContent_self c.lt_of_file]
  rfl

theorem read_of_ne {q : Path} {bytes : Bytes} {id : Nat} (c : Creates t p (.file id) t')
    (read : t.read q = .ok bytes) (other : t.file? q ≠ some id) (content : Bytes) :
    t'.read q = .ok bytes ∧ (t'.setContent id content).read q = .ok bytes := by
  have kept : ∀ id', t.file? q = some id' → t'.content? id' = t.content? id' := by
    rintro id' leads
    refine c.content?_of_ne fun same => other ?_
    rw [leads, Entry.file.inj same]
  refine ⟨c.grows.read read kept, (c.grows.trans (.setContent ..)).read read fun id' leads => ?_⟩
  have different : id ≠ id' := by
    rintro rfl
    exact other leads
  rw [content?_setContent_of_ne _ different, kept id' leads]

end Creates

end Stencil.FileTree
