import Stencil.Proofs.FileTree.Growth
import Mathlib.Data.List.Pairwise

/-! The file that a path leads to.  Two paths lead to the same file when they lead to one number,
through whatever links and under whatever names.  Where a path leads, it goes on leading while the
tree grows; growth gives no path an old file either. -/

namespace Stencil

def Entry.isFile : Entry → Bool
  | .file _ => true
  | _ => false

namespace FileTree

/-- The number of the regular file that a path leads to. -/
def file? (t : FileTree) (p : Path) : Option Nat :=
  match (t.location? p).bind t.at? with
  | some (.file id) => some id
  | _ => none

def SameFile (t : FileTree) (p q : Path) : Prop := (t.file? p).isSome ∧ t.file? p = t.file? q

instance (t : FileTree) (p q : Path) : Decidable (t.SameFile p q) :=
  inferInstanceAs (Decidable (_ ∧ _))

def SamePlace (t : FileTree) (p q : Path) : Prop :=
  (t.location? p).isSome ∧ t.location? p = t.location? q

/-- Two paths with one real path.  They lead to one place, but not all paths to one place have a
real path that can be asked for. -/
def SameRealPath (t : FileTree) (p q : Path) : Prop :=
  (t.realPath? p).isSome ∧ t.realPath? p = t.realPath? q

instance (t : FileTree) (p q : Path) : Decidable (t.SameRealPath p q) :=
  inferInstanceAs (Decidable (_ ∧ _))

def NoHardLinks (t : FileTree) : Prop :=
  ∀ {l l' id}, t.at? l = some (.file id) → t.at? l' = some (.file id) → l = l'

def SingleName (t : FileTree) (id : Nat) : Prop :=
  ∀ {l l'}, t.at? l = some (.file id) → t.at? l' = some (.file id) → l = l'

def read (t : FileTree) (p : Path) : Except FileFault Bytes := (t.openEntry p).bind t.readEntry

/-- The path leads to a file where there was nothing before. -/
def LeadsToNew (t t' : FileTree) (p : Path) : Prop :=
  ∃ l id, t'.location? p = some l ∧ t'.at? l = some (.file id) ∧ t.at? l = none

variable {t t' : FileTree} {p : Path}

theorem mem_entries_of_at? {at_ : Location} {e : Entry} (h : t.at? at_ = some e)
    (inner : e ≠ .directory) : (at_, e) ∈ t.entries := by
  cases at_ with
  | nil =>
    rw [at?_nil] at h
    exact absurd (Option.some.inj h).symm inner
  | cons n at_ =>
    obtain ⟨found, lookup, rfl⟩ := Option.map_eq_some_iff.mp h
    have same : found.1 = n :: at_ := by simpa using List.find?_some lookup
    rw [← same]
    exact List.mem_of_find?_eq_some lookup

theorem noHardLinks_of_pairwise {t : FileTree}
    (h : t.entries.Pairwise fun e f => e.2.isFile → e.2 ≠ f.2) : t.NoHardLinks := by
  intro l l' id here here'
  have mem := mem_entries_of_at? here (by simp)
  have mem' := mem_entries_of_at? here' (by simp)
  have symmetric : Std.Symm fun e f : Location × Entry => e.2.isFile → e.2 ≠ f.2 := by
    refine ⟨fun e f apart file same => ?_⟩
    exact apart (same ▸ file) same.symm
  refine Decidable.byContradiction fun different => ?_
  have distinct : (l, Entry.file id) ≠ (l', Entry.file id) := fun same =>
    different (congrArg Prod.fst same)
  exact h.forall mem mem' distinct rfl rfl

theorem file?_eq_some_iff {id : Nat} :
    t.file? p = some id ↔ ∃ l, t.location? p = some l ∧ t.at? l = some (.file id) := by
  unfold file?
  constructor
  · intro h
    split at h
    · next found =>
      obtain ⟨l, real, here⟩ := Option.bind_eq_some_iff.mp found
      obtain rfl := Option.some.inj h
      exact ⟨l, real, here⟩
    · cases h
  · rintro ⟨l, real, here⟩
    simp [real, here]

theorem SameFile.of_file? {p q : Path} {id : Nat} (hp : t.file? p = some id)
    (hq : t.file? q = some id) : t.SameFile p q :=
  ⟨by simp [hp], hp.trans hq.symm⟩

theorem SamePlace.of_location? {p q : Path} {l : Location} (hp : t.location? p = some l)
    (hq : t.location? q = some l) : t.SamePlace p q :=
  ⟨by simp [hp], hp.trans hq.symm⟩

theorem SingleName.samePlace {id : Nat} (single : t.SingleName id) {p q : Path}
    (hp : t.file? p = some id) (hq : t.file? q = some id) : t.SamePlace p q := by
  obtain ⟨l, real, here⟩ := file?_eq_some_iff.mp hp
  obtain ⟨l', real', here'⟩ := file?_eq_some_iff.mp hq
  obtain rfl : l = l' := single here here'
  exact .of_location? real real'

theorem NoHardLinks.samePlace (single : t.NoHardLinks) {p q : Path} {id : Nat}
    (hp : t.file? p = some id) (hq : t.file? q = some id) : t.SamePlace p q :=
  SingleName.samePlace single hp hq

theorem singleName_of_entries {id : Nat} {l : Location}
    (only : ∀ e ∈ t.entries, e.2 = .file id → e.1 = l) : t.SingleName id := by
  intro l₁ l₂ here here'
  have first := only _ (mem_entries_of_at? here (by simp)) rfl
  have second := only _ (mem_entries_of_at? here' (by simp)) rfl
  exact first.trans second.symm

theorem arrival?_eq_some_iff {intent : Intent} {l : Location} :
    t.arrival? intent p = some l ↔ t.trace intent p = .ok (.existing l) := by
  unfold arrival?
  split
  · next found => simp [found]
  · next missing =>
    simp only [reduceCtorEq, false_iff]
    exact fun found => missing l found

theorem location?_eq_some_iff {l : Location} :
    t.location? p = some l ↔ t.trace .opening p = .ok (.existing l) :=
  arrival?_eq_some_iff

theorem location?_of_realPath? {l : Location} (h : t.realPath? p = some l) :
    t.location? p = some l :=
  location?_eq_some_iff.mpr (trace_opening_of_ok (arrival?_eq_some_iff.mp h))

theorem SameRealPath.of_realPath? {p q : Path} {l : Location} (hp : t.realPath? p = some l)
    (hq : t.realPath? q = some l) : t.SameRealPath p q :=
  ⟨by simp [hp], hp.trans hq.symm⟩

/-- Paths to one place have one real path, once each of them has a real path at all. -/
theorem sameRealPath_iff {p q : Path} :
    t.SameRealPath p q ↔
      t.SamePlace p q ∧ (t.realPath? p).isSome ∧ (t.realPath? q).isSome := by
  constructor
  · rintro ⟨named, same⟩
    obtain ⟨l, real⟩ := Option.isSome_iff_exists.mp named
    have real' := same.symm.trans real
    refine ⟨.of_location? (location?_of_realPath? real) (location?_of_realPath? real'), named, ?_⟩
    rw [real']
    rfl
  · rintro ⟨same, named, named'⟩
    obtain ⟨l, real⟩ := Option.isSome_iff_exists.mp named
    obtain ⟨l', real'⟩ := Option.isSome_iff_exists.mp named'
    have here := same.2.symm.trans (location?_of_realPath? real)
    obtain rfl := Option.some.inj ((location?_of_realPath? real').symm.trans here)
    exact .of_realPath? real real'

theorem openEntry_eq_ok_iff {e : Entry} :
    t.openEntry p = .ok e ↔
      ∃ l, t.resolve .opening p = .ok (.existing l) ∧ t.at? l = some e := by
  unfold openEntry
  cases h : t.resolve .opening p with
  | error fault => simp
  | ok place =>
    cases place with
    | vacant l => simp
    | existing l => cases he : t.at? l <;> simp [he]

theorem location?_of_openEntry {e : Entry} (h : t.openEntry p = .ok e) :
    ∃ l, t.location? p = some l ∧ t.at? l = some e := by
  obtain ⟨l, found, here⟩ := openEntry_eq_ok_iff.mp h
  exact ⟨l, location?_eq_some_iff.mpr (trace_of_resolve found), here⟩

theorem file?_of_openEntry {id : Nat} (h : t.openEntry p = .ok (.file id)) :
    t.file? p = some id :=
  file?_eq_some_iff.mpr (location?_of_openEntry h)

theorem openEntry_of_short {id : Nat} (leads : t.file? p = some id) (short : p.length < pathLimit) :
    t.openEntry p = .ok (.file id) := by
  obtain ⟨l, real, here⟩ := file?_eq_some_iff.mp leads
  refine openEntry_eq_ok_iff.mpr ⟨l, ?_, here⟩
  rw [resolve_of_short short]
  exact location?_eq_some_iff.mp real

theorem openEntry_of_file? {e : Entry} {id : Nat} (h : t.openEntry p = .ok e)
    (leads : t.file? p = some id) : e = .file id := by
  obtain ⟨l, real, here⟩ := location?_of_openEntry h
  obtain ⟨l', real', here'⟩ := file?_eq_some_iff.mp leads
  obtain rfl := Option.some.inj (real.symm.trans real')
  exact Option.some.inj (here.symm.trans here')

theorem read_eq_ok_iff {bytes : Bytes} :
    t.read p = .ok bytes ↔ ∃ e, t.openEntry p = .ok e ∧ t.readEntry e = .ok bytes := by
  unfold read
  cases t.openEntry p with
  | error fault => simp [Except.bind]
  | ok e => simp [Except.bind]

theorem readEntry_congr {e : Entry} (same : ∀ id, e = .file id → t'.content? id = t.content? id) :
    t'.readEntry e = t.readEntry e := by
  cases e with
  | file id => simp [readEntry, same id rfl]
  | directory => rfl
  | link target => rfl
  | device d => cases d <;> rfl

namespace Grows

theorem arrival? (g : Grows t t') {intent : Intent} {l : Location}
    (h : t.arrival? intent p = some l) : t'.arrival? intent p = some l := by
  rw [arrival?_eq_some_iff] at h ⊢
  exact (h ▸ trace_of_grows g intent p).existing

theorem arrival?_before (g : Grows t t') {intent : Intent} {l : Location}
    (h : t'.arrival? intent p = some l) :
    t.arrival? intent p = some l ∨ t.at? l = none ∧ ∃ id, t'.at? l = some (.file id) := by
  rw [arrival?_eq_some_iff] at h ⊢
  rcases (h ▸ trace_of_grows g intent p).existing_after with before | ⟨-, absent, present⟩
  · exact .inl before
  · exact .inr ⟨absent, present⟩

theorem location? (g : Grows t t') {l : Location} (h : t.location? p = some l) :
    t'.location? p = some l :=
  g.arrival? h

theorem location?_before (g : Grows t t') {l : Location} (h : t'.location? p = some l) :
    t.location? p = some l ∨ t.at? l = none ∧ ∃ id, t'.at? l = some (.file id) :=
  g.arrival?_before h

theorem sameRealPath (g : Grows t t') {q : Path} (same : t.SameRealPath p q) :
    t'.SameRealPath p q := by
  obtain ⟨l, real⟩ := Option.isSome_iff_exists.mp same.1
  exact .of_realPath? (g.arrival? real) (g.arrival? (same.2.symm.trans real))

theorem leadsToNew_of_sameRealPath (g : Grows t t') {q : Path} (same : t'.SameRealPath p q)
    (apart : ¬ t.SameRealPath p q) : t.LeadsToNew t' p := by
  obtain ⟨l, real⟩ := Option.isSome_iff_exists.mp same.1
  have real' := same.2.symm.trans real
  have leads := location?_of_realPath? real
  rcases g.arrival?_before real with before | ⟨absent, id, present⟩
  · rcases g.arrival?_before real' with before' | ⟨absent, id, present⟩
    · exact absurd (.of_realPath? before before') apart
    · exact ⟨l, id, leads, present, absent⟩
  · exact ⟨l, id, leads, present, absent⟩

theorem not_sameRealPath_of_openEntry (g : Grows t t') {q : Path} {e : Entry}
    (found : t.openEntry p = .ok e) (apart : ¬ t.SameRealPath p q) : ¬ t'.SameRealPath p q := by
  intro same
  obtain ⟨l, id, real, -, absent⟩ := g.leadsToNew_of_sameRealPath same apart
  obtain ⟨l', real', here⟩ := location?_of_openEntry found
  obtain rfl := Option.some.inj ((g.location? real').symm.trans real)
  simp [absent] at here

theorem file? (g : Grows t t') {id : Nat} (h : t.file? p = some id) : t'.file? p = some id := by
  obtain ⟨l, real, here⟩ := file?_eq_some_iff.mp h
  exact file?_eq_some_iff.mpr ⟨l, g.location? real, g.kept here⟩

theorem file?_of_lt (g : Grows t t') {id : Nat} (old : id < t.contents.length)
    (h : t'.file? p = some id) : t.file? p = some id := by
  obtain ⟨l, real, here⟩ := file?_eq_some_iff.mp h
  have before := g.file_of_lt old here
  rcases g.location?_before real with led | ⟨absent, -⟩
  · exact file?_eq_some_iff.mpr ⟨l, led, before⟩
  · simp [before] at absent

theorem sameFile (g : Grows t t') {q : Path} (same : t.SameFile p q) : t'.SameFile p q := by
  obtain ⟨id, leads⟩ := Option.isSome_iff_exists.mp same.1
  exact .of_file? (g.file? leads) (g.file? (same.2.symm.trans leads))

theorem openEntry (g : Grows t t') {e : Entry} (h : t.openEntry p = .ok e) :
    t'.openEntry p = .ok e := by
  obtain ⟨l, found, here⟩ := openEntry_eq_ok_iff.mp h
  have still := (found ▸ resolve_of_grows g .opening p).existing
  exact openEntry_eq_ok_iff.mpr ⟨l, still, g.kept here⟩

theorem read (g : Grows t t') {bytes : Bytes} (read : t.read p = .ok bytes)
    (kept : ∀ id, t.file? p = some id → t'.content? id = t.content? id) :
    t'.read p = .ok bytes := by
  obtain ⟨e, found, holds⟩ := read_eq_ok_iff.mp read
  refine read_eq_ok_iff.mpr ⟨e, g.openEntry found, ?_⟩
  rw [← holds]
  refine readEntry_congr fun id own => kept id ?_
  subst own
  exact file?_of_openEntry found

theorem openEntry_before (g : Grows t t') {e : Entry} (h : t'.openEntry p = .ok e) :
    t.openEntry p = .ok e ∨
      ∃ l id, e = .file id ∧ t'.location? p = some l ∧ t.at? l = none ∧
        t'.at? l = some (.file id) := by
  obtain ⟨l, found, here⟩ := openEntry_eq_ok_iff.mp h
  cases before : t.at? l with
  | none =>
    obtain ⟨id, rfl, -⟩ := g.made before here
    exact .inr ⟨l, id, rfl, location?_eq_some_iff.mpr (trace_of_resolve found), before, here⟩
  | some e' =>
    obtain rfl : e' = e := Option.some.inj ((g.kept before).symm.trans here)
    rcases (found ▸ resolve_of_grows g .opening p).existing_after with same | ⟨-, absent, -⟩
    · exact .inl (openEntry_eq_ok_iff.mpr ⟨l, same, before⟩)
    · simp [before] at absent

end Grows

theorem SameEntries.writeEntry (t : FileTree) (e : Entry) (content : Bytes) :
    SameEntries t (t.writeEntry e content).2 := by
  cases e with
  | directory => exact .refl t
  | file id => exact .setContent ..
  | link target => exact .refl t
  | device d => cases d <;> exact .refl t

theorem content?_writeEntry_of_ne (t : FileTree) {e : Entry} {id : Nat} (other : e ≠ .file id)
    (content : Bytes) : (t.writeEntry e content).2.content? id = t.content? id := by
  cases e with
  | directory => rfl
  | file id' => exact content?_setContent_of_ne t (fun same => other (by rw [same])) content
  | link target => rfl
  | device d => cases d <;> rfl

theorem Grows.writeEntry (t : FileTree) (e : Entry) (content : Bytes) :
    Grows t (t.writeEntry e content).2 :=
  .of_sameEntries (.writeEntry ..)

end FileTree

end Stencil
