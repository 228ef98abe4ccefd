import Stencil.Proofs.Expansion.Streaming
import Stencil.Proofs.FileTree.Creation
import Stencil.Proofs.Path
import Stencil.Proofs.Session

/-! One expansion, with its guard, as a function of trees, and what it can do to a tree however it ends: nothing,
or create the destination and give it some content. -/

namespace Stencil

namespace Output

theorem name_of_path {template directory destination : Path} {record : Record}
    (h : path template record directory = .ok destination) :
    ∃ n, name template record = .ok n ∧ destination = directory.join (Path.ofText n) := by
  obtain ⟨n, named, rfl⟩ := map_eq_ok_iff.mp h
  exact ⟨n, named, rfl⟩

theorem run_guard (template destination : Path) (s : Session) :
    (guard (m := Simulation) template destination).run s =
      (if s.tree.SameRealPath template destination then
          .error (.file .writeOutput destination (.overwrites template))
        else .ok ⟨⟩, s) := by
  unfold guard
  simp only [Session.run_bind, Session.run_lift]
  change (if s.tree.SameRealPath template destination then
    throw (.file .writeOutput destination (.overwrites template)) else
    pure ⟨⟩ : Run Simulation PUnit).run s = _
  split_ifs <;> rfl

end Output

namespace Expansion

def onTree (t : FileTree) (template : Path) (record : Record) (destination : Path) :
    Except Failure Unit × FileTree :=
  if t.SameRealPath template destination then
    (.error (.file .writeOutput destination (.overwrites template)), t)
  else
    match t.openEntry template, t.create destination with
    | .error fault, _ => (.error (.file .readTemplate template fault), t)
    | .ok _, .error fault => (.error (.file .writeOutput destination fault), t)
    | .ok source, .ok (sink, opened) =>
      match opened.readEntry source with
      | .error fault => (.error (.file .readTemplate template fault), opened)
      | .ok bytes =>
        let expanded := content record bytes
        let written := opened.writeEntry sink expanded.1
        (outcome template destination (lines record bytes.lines).1 expanded.2 written.1, written.2)

theorem run_into (template : Path) (record : Record) (destination : Path) (s : Session) :
    (into (m := Simulation) template record destination).run s =
      ((onTree s.tree template record destination).1,
        { s with tree := (onTree s.tree template record destination).2 }) := by
  unfold into onTree
  simp only [Session.run_bind, Output.run_guard, Session.run_orFail, Session.run_lift]
  split_ifs
  · rfl
  simp only [FileSystem.openSource, Session.openSource]
  cases s.tree.openEntry template with
  | error fault => rfl
  | ok source =>
    simp only [Except.mapError, FileSystem.openSink, Session.openSink]
    cases s.tree.create destination with
    | error fault => rfl
    | ok made =>
      obtain ⟨sink, opened⟩ := made
      simp only [FileSystem.readAll, Session.readAll]
      cases opened.readEntry source <;> rfl

theorem run_toDirectory {template directory destination : Path} {record : Record}
    (path : Output.path template record directory = .ok destination) (s : Session) :
    (toDirectory (m := Simulation) template record directory).run s =
      ((onTree s.tree template record destination).1.map fun _ => destination,
        { s with tree := (onTree s.tree template record destination).2 }) := by
  unfold toDirectory
  rw [path]
  simp only [Session.run_bind, run_into]
  cases (onTree s.tree template record destination).1 <;> rfl

variable {t after : FileTree} {template destination : Path} {record : Record}

inductive Effect (t : FileTree) (template destination : Path) : FileTree → Prop
  | untouched : Effect t template destination t
  | opened {source sink : Entry} {opened : FileTree} (apart : ¬ t.SameRealPath template destination)
      (found : t.openEntry template = .ok source) (made : t.Creates destination sink opened) :
      Effect t template destination opened
  | written {source sink : Entry} {opened : FileTree} (content : Bytes)
      (apart : ¬ t.SameRealPath template destination) (found : t.openEntry template = .ok source)
      (made : t.Creates destination sink opened) :
      Effect t template destination (opened.writeEntry sink content).2

theorem effect_onTree (t : FileTree) (template : Path) (record : Record) (destination : Path) :
    Effect t template destination (onTree t template record destination).2 := by
  unfold onTree
  split_ifs with clash
  · exact .untouched
  cases source : t.openEntry template with
  | error fault => exact .untouched
  | ok e =>
    cases made : t.create destination with
    | error fault => exact .untouched
    | ok pair =>
      obtain ⟨sink, opened⟩ := pair
      have creates := FileTree.creates_of_create made
      cases read : opened.readEntry e with
      | error fault =>
        simp only [read]
        exact .opened clash source creates
      | ok bytes =>
        simp only [read]
        exact .written _ clash source creates

namespace Effect

theorem grows (e : Effect t template destination after) : t.Grows after := by
  cases e with
  | untouched => exact .refl t
  | opened apart found made => exact made.grows
  | written content apart found made => exact made.grows.trans (.writeEntry ..)

theorem content? (e : Effect t template destination after) {id : Nat}
    (other : after.file? destination ≠ some id) : after.content? id = t.content? id := by
  cases e with
  | untouched => rfl
  | opened apart found made =>
    refine made.content?_of_ne ?_
    rintro rfl
    exact other (FileTree.file?_of_openEntry made.openEntry)
  | @written source sink opened content apart found made =>
    have elsewhere : sink ≠ .file id := by
      rintro rfl
      have g := FileTree.Grows.writeEntry opened (.file id) content
      exact other (FileTree.file?_of_openEntry (g.openEntry made.openEntry))
    rw [FileTree.content?_writeEntry_of_ne opened elsewhere]
    exact made.content?_of_ne elsewhere

theorem location?_of_new (e : Effect t template destination after) {l : Location} {entry : Entry}
    (absent : t.at? l = none) (present : after.at? l = some entry) :
    after.location? destination = some l := by
  cases e with
  | untouched => simp [absent] at present
  | opened apart found made => exact made.location?_of_new absent present
  | written content apart found made =>
    rw [(FileTree.SameEntries.writeEntry ..).at?] at present
    exact (FileTree.Grows.writeEntry ..).location? (made.location?_of_new absent present)

theorem opens_of_ne (e : Effect t template destination after) (changed : after ≠ t) :
    ¬ t.SameRealPath template destination ∧ (∃ source, t.openEntry template = .ok source) ∧
      ∃ sink opened, t.Creates destination sink opened := by
  cases e with
  | untouched => exact absurd rfl changed
  | opened apart found made => exact ⟨apart, ⟨_, found⟩, _, _, made⟩
  | written content apart found made => exact ⟨apart, ⟨_, found⟩, _, _, made⟩

theorem sent_of_content?_ne (e : Effect t template destination after) {id : Nat}
    (old : id < t.contents.length) (changed : after.content? id ≠ t.content? id) :
    t.file? destination = some id ∧ ¬ t.SameRealPath template destination := by
  have leads : after.file? destination = some id :=
    Decidable.byContradiction fun other => changed (e.content? other)
  have different : after ≠ t := by
    rintro rfl
    exact changed rfl
  exact ⟨e.grows.file?_of_lt old leads, (e.opens_of_ne different).1⟩

end Effect

theorem outcome_eq_ok_iff {pieces : List Bytes} {reading : Option FileFault}
    {writing : Except FileFault Unit} :
    outcome template destination pieces reading writing = .ok () ↔
      reading = none ∧ writing = .ok () := by
  cases writing with
  | ok u => cases reading <;> simp [outcome]
  | error fault =>
    cases reading with
    | none => simp [outcome]
    | some fault' =>
      simp only [outcome]
      split_ifs <;> simp

theorem onTree_eq_ok_iff :
    onTree t template record destination = (.ok (), after) ↔
      ∃ source sink opened bytes text, ¬ t.SameRealPath template destination ∧
        t.openEntry template = .ok source ∧ t.create destination = .ok (sink, opened) ∧
        opened.readEntry source = .ok bytes ∧ Utf8.decode bytes = some text ∧
        opened.writeEntry sink (Utf8.encode (record.apply text)) = (.ok (), after) := by
  constructor
  · intro h
    unfold onTree at h
    split_ifs at h with clash
    · simp at h
    cases found : t.openEntry template with
    | error fault => simp [found] at h
    | ok source =>
      cases made : t.create destination with
      | error fault => simp [found, made] at h
      | ok pair =>
        obtain ⟨sink, opened⟩ := pair
        cases read : opened.readEntry source with
        | error fault => simp [found, made, read] at h
        | ok bytes =>
          simp only [found, made, read, Prod.mk.injEq] at h
          obtain ⟨result, last⟩ := h
          obtain ⟨whole, written⟩ := outcome_eq_ok_iff.mp result
          obtain ⟨text, decoded⟩ := decode_of_content whole
          rw [content_of_decode record decoded] at written last
          exact ⟨source, sink, opened, bytes, text, clash, rfl, rfl, read, decoded,
            Prod.ext written last⟩
  · rintro ⟨source, sink, opened, bytes, text, apart, found, made, read, decoded, written⟩
    have expanded := content_of_decode record decoded
    unfold onTree
    rw [if_neg apart, found, made]
    simp only [read, expanded, written]
    rfl

theorem onTree_of_other {bytes : Bytes} {id : Nat} {opened : FileTree} (record : Record)
    (read : t.read template = .ok bytes) (created : t.create destination = .ok (.file id, opened))
    (other : t.file? template ≠ some id) :
    onTree t template record destination =
      (outcome template destination (lines record bytes.lines).1 (content record bytes).2 (.ok ()),
        opened.setContent id (content record bytes).1) := by
  have creates := FileTree.creates_of_create created
  obtain ⟨source, found, -⟩ := FileTree.read_eq_ok_iff.mp read
  obtain ⟨source', found', holds⟩ :=
    FileTree.read_eq_ok_iff.mp (creates.read_of_ne read other []).1
  obtain rfl : source = source' :=
    Except.ok.inj ((creates.grows.openEntry found).symm.trans found')
  have apart : ¬ t.SameRealPath template destination := by
    intro same
    obtain rfl := creates.openEntry_of_samePlace (FileTree.sameRealPath_iff.mp same).1 found
    exact other (FileTree.file?_of_openEntry found)
  unfold onTree
  rw [if_neg apart, found, created]
  simp only [holds]
  rfl

/-- What a finished expansion has done: it has read a text and put all of it, rewritten, into what
it created. -/
inductive Completed (t : FileTree) (template : Path) (record : Record) (destination : Path) :
    FileTree → Prop
  | intro {source sink : Entry} {opened : FileTree} {bytes : Bytes} {text : Text}
      (found : t.openEntry template = .ok source) (made : t.Creates destination sink opened)
      (read : opened.readEntry source = .ok bytes) (decoded : Utf8.decode bytes = some text) :
      Completed t template record destination
        (opened.writeEntry sink (Utf8.encode (record.apply text))).2

theorem completed_of_ok (h : onTree t template record destination = (.ok (), after)) :
    Completed t template record destination after := by
  obtain ⟨source, sink, opened, bytes, text, -, found, made, read, decoded, written⟩ :=
    onTree_eq_ok_iff.mp h
  obtain rfl := (Prod.ext_iff.mp written).2
  exact .intro found (FileTree.creates_of_create made) read decoded

namespace Completed

theorem grows (c : Completed t template record destination after) : t.Grows after := by
  cases c with
  | intro found made read decoded => exact made.grows.trans (.writeEntry ..)

theorem openEntry (c : Completed t template record destination after) :
    ∃ sink, after.openEntry destination = .ok sink ∧
      ((∃ id, sink = .file id) ∨ ∃ d, sink = .device d) := by
  cases c with
  | intro found made read decoded =>
    exact ⟨_, (FileTree.Grows.writeEntry ..).openEntry made.openEntry, made.file_or_device⟩

theorem content? (c : Completed t template record destination after) {id : Nat}
    (leads : after.file? destination = some id) (apart : after.file? template ≠ some id) :
    ∃ bytes text, t.read template = .ok bytes ∧ Utf8.decode bytes = some text ∧
      after.content? id = some (Utf8.encode (record.apply text)) := by
  have g := c.grows
  cases c with
  | @intro source sink opened bytes text found made read decoded =>
    obtain rfl : sink = .file id :=
      FileTree.openEntry_of_file? ((FileTree.Grows.writeEntry ..).openEntry made.openEntry) leads
    refine ⟨bytes, text, FileTree.read_eq_ok_iff.mpr ⟨source, found, ?_⟩, decoded, ?_⟩
    · rw [← FileTree.readEntry_congr fun other hs => ?_, read]
      -- the template is another file, which creating the destination leaves alone
      refine made.content?_of_ne fun same => apart ?_
      obtain rfl := Entry.file.inj same
      subst hs
      exact FileTree.file?_of_openEntry (g.openEntry found)
    · exact FileTree.content?_setContent_self made.lt_of_file _

end Completed

end Expansion

end Stencil
