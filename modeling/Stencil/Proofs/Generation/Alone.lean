import Stencil.Proofs.Generation.LastWriter
import Stencil.Proofs.Generation.Replay

/-! Jobs that have no part in one another.  If no two destinations are one file and none is a
template, every job of a finished run would go through on the first tree alone; and jobs that go
through alone go through one after another.  What the other jobs do to the tree neither opens a way
for a job nor blocks it. -/

namespace Stencil

namespace FileTree

variable {t t' : FileTree} {p : Path} {content : Bytes}

/-- A content can be put where a path leads. -/
def Accepts (t : FileTree) (p : Path) (content : Bytes) : Prop :=
  ∃ sink opened, t.create p = .ok (sink, opened) ∧ (opened.writeEntry sink content).1 = .ok ()

theorem accepts_iff :
    t.Accepts p content ↔
      (∃ l, t.resolve .creating p = .ok (.vacant l)) ∨
      ∃ l e, t.resolve .creating p = .ok (.existing l) ∧ t.at? l = some e ∧
        ((∃ id, e = .file id) ∨ ∃ d, e = .device d) ∧ (t.writeEntry e content).1 = .ok () := by
  constructor
  · rintro ⟨sink, opened, made, written⟩
    cases place : t.resolve .creating p with
    | error fault => simp [create, place] at made
    | ok found =>
      cases found with
      | vacant l => exact .inl ⟨l, rfl⟩
      | existing l =>
        have opening := resolve_opening_of_ok place
        have c := creates_of_create made
        refine .inr ⟨l, sink, rfl, ?_, c.file_or_device, (fst_writeEntry ..).trans written⟩
        cases c with
        | new vacant => simp [opening] at vacant
        | emptied there here =>
          obtain rfl : l = _ := by simpa [opening] using there
          exact here
        | device there here =>
          obtain rfl : l = _ := by simpa [opening] using there
          exact here
  · rintro (⟨l, place⟩ | ⟨l, e, place, here, kind, written⟩)
    · exact ⟨.file t.contents.length, t.addFile l, by simp [create, place], rfl⟩
    · exact ⟨e, _, create_of_existing place here kind, (fst_writeEntry ..).trans written⟩

theorem Grows.accepts (g : t.Grows t') (takes : t.Accepts p content) : t'.Accepts p content := by
  rw [accepts_iff] at takes ⊢
  rcases takes with ⟨l, place⟩ | ⟨l, e, place, here, kind, written⟩
  · rcases (place ▸ resolve_of_grows g .creating p).vacant with still | ⟨filled, id, present⟩
    · exact .inl ⟨l, still⟩
    · exact .inr ⟨l, .file id, filled, present, .inl ⟨id, rfl⟩, rfl⟩
  · exact .inr ⟨l, e, (place ▸ resolve_of_grows g .creating p).existing, g.kept here, kind,
      (fst_writeEntry ..).trans written⟩

theorem Grows.accepts_before (g : t.Grows t') (old : ¬ t.LeadsToNew t' p)
    (takes : t'.Accepts p content) : t.Accepts p content := by
  rw [accepts_iff] at takes ⊢
  rcases takes with ⟨l, place⟩ | ⟨l, e, place, here, kind, written⟩
  · exact .inl ⟨l, (place ▸ resolve_of_grows g .creating p).vacant_after⟩
  · have real : t'.location? p = some l :=
      location?_eq_some_iff.mpr (trace_of_resolve (resolve_opening_of_ok place))
    cases before : t.at? l with
    | none =>
      obtain ⟨id, rfl, -⟩ := g.made before here
      exact absurd ⟨l, id, real, here, before⟩ old
    | some e' =>
      obtain rfl : e' = e := Option.some.inj ((g.kept before).symm.trans here)
      rcases (place ▸ resolve_of_grows g .creating p).existing_after with same | ⟨-, absent, -⟩
      · exact .inr ⟨l, e', same, before, kind, (fst_writeEntry ..).trans written⟩
      · simp [before] at absent

theorem Grows.sameFile_before (g : t.Grows t') {q : Path} {e : Entry}
    (found : t.openEntry q = .ok e) (same : t'.SameFile p q) : t.SameFile p q := by
  obtain ⟨id, leads⟩ := Option.isSome_iff_exists.mp same.1
  obtain rfl := openEntry_of_file? (g.openEntry found) (same.2.symm.trans leads)
  have led := file?_of_openEntry found
  obtain ⟨l, -, here⟩ := file?_eq_some_iff.mp led
  exact .of_file? (g.file?_of_lt (lt_of_at?_file here) leads) led

end FileTree

namespace Expansion

variable {t opened : FileTree} {template destination : Path} {record : Record}
  {source sink : Entry}

theorem readEntry_of_creates (unsent : ¬ t.SameFile destination template)
    (found : t.openEntry template = .ok source) (made : t.Creates destination sink opened) :
    opened.readEntry source = t.readEntry source := by
  refine FileTree.readEntry_congr fun id file => made.content?_of_ne fun sent => ?_
  subst file sent
  have same : opened.SameFile destination template :=
    .of_file? (FileTree.file?_of_openEntry made.openEntry)
      (FileTree.file?_of_openEntry (made.grows.openEntry found))
  exact unsent (made.grows.sameFile_before found same)

theorem succeeds_iff (unsent : ¬ t.SameFile destination template) :
    (onTree t template record destination).1 = .ok () ↔
      ¬ t.SameRealPath template destination ∧ ∃ bytes text, t.read template = .ok bytes ∧
        Utf8.decode bytes = some text ∧
        t.Accepts destination (Utf8.encode (record.apply text)) := by
  constructor
  · intro h
    obtain ⟨source, sink, opened, bytes, text, apart, found, made, read, decoded, written⟩ :=
      onTree_eq_ok_iff.mp (Prod.ext h rfl)
    have reads := readEntry_of_creates unsent found (FileTree.creates_of_create made)
    refine ⟨apart, bytes, text, ?_, decoded, sink, opened, made, congrArg Prod.fst written⟩
    exact FileTree.read_eq_ok_iff.mpr ⟨source, found, reads.symm.trans read⟩
  · rintro ⟨apart, bytes, text, read, decoded, sink, opened, made, written⟩
    obtain ⟨source, found, holds⟩ := FileTree.read_eq_ok_iff.mp read
    have reads := readEntry_of_creates unsent found (FileTree.creates_of_create made)
    have done := onTree_eq_ok_iff.mpr ⟨source, sink, opened, bytes, text, apart, found, made,
      reads.trans holds, decoded, Prod.ext written rfl⟩
    exact congrArg Prod.fst done

end Expansion

namespace Job

variable {records : List Record} {jobs : List Job} {job : Job} {t between after : FileTree}

theorem succeeds_before (g : t.Grows between) (rereads : between.RereadsIn t job.template)
    (unsent : ¬ between.SameFile job.destination job.template)
    (old : ¬ t.LeadsToNew between job.destination)
    (done : (job.expand records between).1 = .ok ()) : (job.expand records t).1 = .ok () := by
  obtain ⟨apart, bytes, text, read, decoded, takes⟩ := (Expansion.succeeds_iff unsent).mp done
  refine (Expansion.succeeds_iff (mt g.sameFile unsent)).mpr ?_
  exact ⟨mt g.sameRealPath apart, bytes, text, rereads bytes read, decoded, g.accepts_before old takes⟩

theorem succeeds_after (g : t.Grows between) (rereads : t.RereadsIn between job.template)
    (unsent : ¬ t.SameFile job.destination job.template)
    (alone : (job.expand records t).1 = .ok ()) : (job.expand records between).1 = .ok () := by
  obtain ⟨apart, bytes, text, read, decoded, takes⟩ := (Expansion.succeeds_iff unsent).mp alone
  obtain ⟨source, found, -⟩ := FileTree.read_eq_ok_iff.mp read
  refine (Expansion.succeeds_iff fun same => unsent (g.sameFile_before found same)).mpr ?_
  exact ⟨g.not_sameRealPath_of_openEntry found apart, bytes, text, rereads bytes read, decoded,
    g.accepts takes⟩

def SparesTemplates (t : FileTree) (jobs : List Job) : Prop :=
  ∀ job ∈ jobs, ∀ other ∈ jobs, ¬ t.SameFile job.destination other.template

def SparesOutput (t : FileTree) (jobs : List Job) : Prop :=
  jobs.Pairwise fun job other => ¬ t.SameFile job.destination other.destination

theorem alone_of_ok (ran : expandAll records jobs t = (.ok (), after))
    (output : SparesOutput after jobs) (templates : SparesTemplates after jobs) :
    ∀ job ∈ jobs, (job.expand records t).1 = .ok () := by
  intro job mem
  obtain ⟨before, later, rfl⟩ := List.append_of_mem mem
  obtain ⟨start, first, rest⟩ := expandAll_append_of_ok ran
  obtain ⟨made, expanded, last⟩ := expandAll_cons_of_ok rest
  have grew : t.Grows start := grows_of_run first
  have grows : start.Grows after := grows_of_run rest
  refine succeeds_before grew ?_ ?_ ?_ (congrArg Prod.fst expanded)
  · intro bytes read
    refine read_before first (fun other listed same => ?_) read
    exact templates other (List.mem_append_left _ listed) job mem (grows.sameFile same)
  · exact fun same => templates job mem job mem (grows.sameFile same)
  · -- the new file would be that of an earlier destination
    rintro ⟨l, id, real, here, absent⟩
    obtain ⟨other, listed, leads⟩ := location?_of_new_of_run first absent here
    have same : start.SameFile other.destination job.destination :=
      .of_file? (FileTree.file?_eq_some_iff.mpr ⟨l, leads, here⟩)
        (FileTree.file?_eq_some_iff.mpr ⟨l, real, here⟩)
    exact (List.pairwise_append.mp output).2.2 other listed job List.mem_cons_self
      (grows.sameFile same)

/-- What jobs that spare the templates leave of a tree: it has grown, and the templates read as they
did. -/
structure Spared (t : FileTree) (jobs : List Job) (between : FileTree) : Prop where
  grows : t.Grows between
  rereads : ∀ job ∈ jobs, t.RereadsIn between job.template

theorem Spared.expand (records : List Record) (spared : Spared t jobs between)
    (templates : ∀ other ∈ jobs, ¬ t.SameFile job.destination other.template) :
    Spared t jobs (job.expand records between).2 := by
  have effect := effect_expand records job between
  have grows := spared.grows.trans effect.grows
  refine ⟨grows, fun other mem bytes read => ?_⟩
  obtain ⟨source, found, -⟩ := FileTree.read_eq_ok_iff.mp read
  obtain ⟨source', found', holds⟩ := FileTree.read_eq_ok_iff.mp (spared.rereads other mem bytes read)
  obtain rfl : source = source' :=
    Except.ok.inj ((spared.grows.openEntry found).symm.trans found')
  refine FileTree.read_eq_ok_iff.mpr ⟨source, grows.openEntry found, ?_⟩
  rw [← holds]
  refine FileTree.readEntry_congr fun id file => effect.content? fun leads => ?_
  subst file
  have same : (job.expand records between).2.SameFile job.destination other.template :=
    .of_file? leads (FileTree.file?_of_openEntry (grows.openEntry found))
  exact templates other mem (grows.sameFile_before found same)

theorem expandAll_of_alone (templates : SparesTemplates t jobs)
    (alone : ∀ job ∈ jobs, (job.expand records t).1 = .ok ()) {rest : List Job}
    (listed : ∀ job ∈ rest, job ∈ jobs) (spared : Spared t jobs between) :
    (expandAll records rest between).1 = .ok () := by
  induction rest generalizing between with
  | nil => rfl
  | cons job rest ih =>
    have mem := listed job List.mem_cons_self
    have done : (job.expand records between).1 = .ok () :=
      succeeds_after spared.grows (spared.rereads job mem) (templates job mem job mem)
        (alone job mem)
    have next := ih (fun other later => listed other (List.mem_cons_of_mem job later))
      (spared.expand records (templates job mem))
    rw [expandAll, show job.expand records between = (.ok (), _) from Prod.ext done rfl]
    exact next

end Job

end Stencil
