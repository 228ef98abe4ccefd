import Stencil.Proofs.FileTree.Alike
import Stencil.Proofs.Generation.Alone

/-! What a finished run has made of a tree, told from the set of its jobs.  If no two destinations
are one file and none is a template, each job has written its own file, and nothing of the tree tells
which job came first: all that is left open is the numbers of the new files. -/

namespace Stencil

namespace FileTree

variable {t after after' : FileTree} {p q : Path}

theorem SameFile.symm (same : t.SameFile p q) : t.SameFile q p :=
  ⟨same.2 ▸ same.1, same.2.symm⟩

/-- The place where a path ends, whether anything is there or not. -/
def end? (t : FileTree) (p : Path) : Option Location :=
  match t.trace .opening p with
  | .ok (.existing l) => some l
  | .ok (.vacant l) => some l
  | .error _ => none

theorem Grows.end? (g : t.Grows after) {l : Location} (real : after.location? p = some l) :
    t.end? p = some l := by
  rw [location?_eq_some_iff] at real
  unfold FileTree.end?
  rcases (real ▸ trace_of_grows g .opening p).existing_after with same | ⟨vacant, -⟩
  · rw [same]
  · rw [vacant]

theorem Grows.location?_unique (g : t.Grows after) (g' : t.Grows after') {l l' : Location}
    (real : after.location? p = some l) (real' : after'.location? p = some l') : l = l' :=
  Option.some.inj ((g.end? real).symm.trans (g'.end? real'))

theorem Grows.sameFile_of_other (g : t.Grows after) (g' : t.Grows after') {e e' : Entry}
    (found : after.openEntry p = .ok e) (found' : after.openEntry q = .ok e')
    (same : after'.SameFile p q) : after.SameFile p q := by
  obtain ⟨id, leads⟩ := Option.isSome_iff_exists.mp same.1
  obtain ⟨l, other, there⟩ := file?_eq_some_iff.mp leads
  obtain ⟨l', other', there'⟩ := file?_eq_some_iff.mp (same.2.symm.trans leads)
  obtain ⟨k, real, here⟩ := location?_of_openEntry found
  obtain ⟨k', real', here'⟩ := location?_of_openEntry found'
  obtain rfl := g.location?_unique g' real other
  obtain rfl := g.location?_unique g' real' other'
  rcases g'.oneName there there' with rfl | ⟨old, old'⟩
  · obtain ⟨id', file⟩ : ∃ id', after.at? k = some (.file id') := by
      cases before : t.at? k with
      | none =>
        obtain ⟨id', rfl, -⟩ := g.made before here
        exact ⟨id', here⟩
      | some e₀ =>
        obtain rfl := Option.some.inj ((g'.kept before).symm.trans there)
        exact ⟨id, g.kept before⟩
    exact .of_file? (file?_eq_some_iff.mpr ⟨k, real, file⟩) (file?_eq_some_iff.mpr ⟨k, real', file⟩)
  · exact .of_file? (file?_eq_some_iff.mpr ⟨k, real, g.kept old⟩)
      (file?_eq_some_iff.mpr ⟨k', real', g.kept old'⟩)

end FileTree

/-- What a job does, without the place of its record in a list. -/
structure Deed where
  template : Path
  record : Record
  destination : Path
  deriving DecidableEq

def Job.deed (records : List Record) (job : Job) : Deed :=
  ⟨job.template, records[job.record]?.getD .empty, job.destination⟩

/-- What a finished run has made of a tree, whatever the order of its jobs. -/
structure Outcome (t : FileTree) (deeds : List Deed) (after : FileTree) : Prop where
  grows : t.Grows after
  new : ∀ {l e}, t.at? l = none → after.at? l = some e →
    ∃ deed ∈ deeds, after.location? deed.destination = some l
  opens : ∀ {deed}, deed ∈ deeds → ∃ e, after.openEntry deed.destination = .ok e
  written : ∀ {deed id}, deed ∈ deeds → after.file? deed.destination = some id →
    ∃ bytes text, t.read deed.template = .ok bytes ∧ Utf8.decode bytes = some text ∧
      after.content? id = some (Utf8.encode (deed.record.apply text))
  untouched : ∀ {id}, (∀ deed ∈ deeds, after.file? deed.destination ≠ some id) →
    after.content? id = t.content? id

namespace Outcome

variable {t after after' : FileTree} {deeds deeds' : List Deed}

theorem perm (o : Outcome t deeds after) (reordered : deeds.Perm deeds') :
    Outcome t deeds' after where
  grows := o.grows
  new absent present := by
    obtain ⟨deed, mem, leads⟩ := o.new absent present
    exact ⟨deed, reordered.mem_iff.mp mem, leads⟩
  opens mem := o.opens (reordered.mem_iff.mpr mem)
  written mem leads := o.written (reordered.mem_iff.mpr mem) leads
  untouched none := o.untouched fun deed mem => none deed (reordered.mem_iff.mp mem)

theorem filled (o : Outcome t deeds after) (o' : Outcome t deeds after') {l : Location} {e : Entry}
    (absent : t.at? l = none) (present : after.at? l = some e) :
    ∃ deed ∈ deeds, ∃ id id', after.at? l = some (.file id) ∧ after'.at? l = some (.file id') ∧
      after.file? deed.destination = some id ∧ after'.file? deed.destination = some id' := by
  obtain ⟨deed, mem, real⟩ := o.new absent present
  obtain ⟨id, rfl, -⟩ := o.grows.made absent present
  obtain ⟨e', found⟩ := o'.opens mem
  obtain ⟨l', real', here⟩ := FileTree.location?_of_openEntry found
  obtain rfl := o.grows.location?_unique o'.grows real real'
  obtain ⟨id', rfl, -⟩ := o'.grows.made absent here
  exact ⟨deed, mem, id, id', present, here, FileTree.file?_eq_some_iff.mpr ⟨l, real, present⟩,
    FileTree.file?_eq_some_iff.mpr ⟨l, real', here⟩⟩

theorem content?_eq (o : Outcome t deeds after) (o' : Outcome t deeds after') {deed : Deed}
    (mem : deed ∈ deeds) {id id' : Nat} (leads : after.file? deed.destination = some id)
    (leads' : after'.file? deed.destination = some id') :
    after'.content? id' = after.content? id := by
  obtain ⟨bytes, text, read, decoded, content⟩ := o.written mem leads
  obtain ⟨bytes', text', read', decoded', content'⟩ := o'.written mem leads'
  obtain rfl : bytes = bytes' := Except.ok.inj (read.symm.trans read')
  obtain rfl : text = text' := Option.some.inj (decoded.symm.trans decoded')
  rw [content, content']

theorem content?_old (o : Outcome t deeds after) (o' : Outcome t deeds after') {id : Nat}
    (old : id < t.contents.length) : after'.content? id = after.content? id := by
  have leads_iff : ∀ deed : Deed,
      after'.file? deed.destination = some id ↔ after.file? deed.destination = some id := by
    intro deed
    constructor
    · exact fun leads => o.grows.file? (o'.grows.file?_of_lt old leads)
    · exact fun leads => o'.grows.file? (o.grows.file?_of_lt old leads)
  by_cases sent : ∃ deed ∈ deeds, after.file? deed.destination = some id
  · obtain ⟨deed, mem, leads⟩ := sent
    exact o.content?_eq o' mem leads ((leads_iff deed).mpr leads)
  · have unsent : ∀ deed ∈ deeds, after.file? deed.destination ≠ some id :=
      fun deed mem leads => sent ⟨deed, mem, leads⟩
    rw [o.untouched unsent, o'.untouched fun deed mem => mt (leads_iff deed).mp (unsent deed mem)]

theorem look (o : Outcome t deeds after) (o' : Outcome t deeds after') (l : Location) :
    after'.look l = after.look l := by
  unfold FileTree.look
  cases before : t.at? l with
  | some e =>
    rw [o.grows.kept before, o'.grows.kept before]
    cases e with
    | file id => simp [FileTree.sight, o.content?_old o' (FileTree.lt_of_at?_file before)]
    | directory => rfl
    | link target => rfl
    | device d => rfl
  | none =>
    cases here : after.at? l with
    | none =>
      cases here' : after'.at? l with
      | none => rfl
      | some e =>
        obtain ⟨deed, -, id, id', -, present, -⟩ := o'.filled o before here'
        simp [here] at present
    | some e =>
      obtain ⟨deed, mem, id, id', present, present', leads, leads'⟩ := o.filled o' before here
      rw [← here, present, present']
      simp [FileTree.sight, o.content?_eq o' mem leads leads']

theorem oneFile (o : Outcome t deeds after) (o' : Outcome t deeds after') {l l' : Location}
    (same : after.OneFile l l') : after'.OneFile l l' := by
  obtain ⟨id, here, here'⟩ := same
  rcases o.grows.oneName here here' with rfl | ⟨old, old'⟩
  · have sights := o.look o' l
    rw [FileTree.look_eq_file_iff.mpr ⟨id, here, rfl⟩] at sights
    obtain ⟨id', there, -⟩ := FileTree.look_eq_file_iff.mp sights
    exact ⟨id', there, there⟩
  · exact ⟨id, o'.grows.kept old, o'.grows.kept old'⟩

theorem alike (o : Outcome t deeds after) (o' : Outcome t deeds after') : after.Alike after' where
  workingDirectory := o'.grows.workingDirectory.trans o.grows.workingDirectory.symm
  look := o.look o'
  oneFile := ⟨o'.oneFile o, o.oneFile o'⟩

end Outcome

namespace Job

variable {records : List Record} {jobs : List Job} {t after : FileTree}

theorem outcome_of_ok (ran : expandAll records jobs t = (.ok (), after))
    (output : SparesOutput after jobs) (templates : SparesTemplates after jobs) :
    Outcome t (jobs.map (deed records)) after where
  grows := grows_of_run ran
  new absent present := by
    obtain ⟨job, mem, leads⟩ := location?_of_new_of_run ran absent present
    exact ⟨job.deed records, List.mem_map_of_mem mem, leads⟩
  opens {deed} mem := by
    obtain ⟨job, listed, rfl⟩ := List.mem_map.mp mem
    rcases opens_of_ok ran listed with ⟨id, opens⟩ | ⟨d, opens⟩
    · exact ⟨_, opens⟩
    · exact ⟨_, opens⟩
  written {deed id} mem leads := by
    obtain ⟨job, listed, rfl⟩ := List.mem_map.mp mem
    obtain ⟨before, later, rfl⟩ := List.append_of_mem listed
    have apart := List.pairwise_cons.mp (List.pairwise_append.mp output).2.1
    refine written_of_ok ran (fun other sent => templates other sent job listed) leads ?_
    exact fun other last sent => apart.1 other last (.of_file? leads sent)
  untouched {id} unsent :=
    content?_of_run ran fun job mem => unsent (job.deed records) (List.mem_map_of_mem mem)

end Job

end Stencil
