import Stencil.FileTree.Edit
import Stencil.Proofs.CommandLine.Reports
import Stencil.Proofs.CommandLine.Words

/-! What a command line encodes.  The descriptors and the templates of a run may be given in any
spelling and mixed in any way, as long as each list keeps its order; the directory and the flag for a
dry run are given once if at all.  Reading gets back what was encoded, and the program then does the
run that is meant. -/

namespace Stencil.CommandLine

/-! ### The values of parts -/

def Part.value? (slot : Slot) : Part → Option Path
  | value slot' path => if slot' = slot then some path else none
  | _ => none

def Part.template? : Part → Option Path
  | template path => some path
  | _ => none

def values (slot : Slot) (parts : List Part) : List Path := parts.filterMap (Part.value? slot)

def templates (parts : List Part) : List Path := parts.filterMap Part.template?

def times (s : Switch) (parts : List Part) : Nat := parts.count (.switch s)

theorem times_switch (s : Switch) (parts : List Part) :
    times s (.switch s :: parts) = 1 + times s parts := by
  rw [times, List.count_cons_self, Nat.add_comm]
  rfl

theorem toList_append_eq {α : Type} {a b : Option α} {more : List α}
    (same : a.toList ++ more = b.toList) : more = [] ∧ a = b ∨ a = none ∧ more = b.toList := by
  cases a with
  | none => exact .inr ⟨rfl, same⟩
  | some x =>
    cases b with
    | none => cases same
    | some y =>
      obtain ⟨rfl, rest⟩ := List.cons.inj same
      exact .inl ⟨rest, rfl⟩

theorem perform_eq {parts : List Part} (plain : ∀ part ∈ parts, part.Plain) {o : Options}
    {directory : Option Path} {dryRun : Bool}
    (one : o.directory.toList ++ values .directory parts = directory.toList)
    (once : o.dryRun.toNat + times .dryRun parts = dryRun.toNat) :
    perform parts o =
      .going ⟨o.descriptors ++ values .types parts, o.templates ++ templates parts, directory, dryRun,
        (o.louder (times .verbose parts)).verbosity, o.formatHelp⟩ := by
  induction parts generalizing o with
  | nil =>
    have named : o.directory = directory := by
      rcases toList_append_eq one with ⟨-, same⟩ | ⟨vacant, nothing⟩
      · exact same
      · rw [vacant, Option.toList_eq_nil_iff.mp nothing.symm]
    have dry : o.dryRun = dryRun := by
      cases given : o.dryRun <;> cases dryRun <;> simp_all [times]
    subst named dry
    simp [perform, values, templates, times]
  | cons part parts ih =>
    rw [List.forall_mem_cons] at plain
    rw [perform]
    cases part with
    | template path =>
      have set : (Part.template path).set o = .going { o with templates := o.templates ++ [path] } :=
        if_neg plain.1.ne_nil
      have rest := ih plain.2 (o := { o with templates := o.templates ++ [path] }) one once
      rw [set, Progress.andThen, rest, List.append_assoc]
      rfl
    | value slot path =>
      cases slot with
      | types =>
        have set : (Part.value .types path).set o =
            .going { o with descriptors := o.descriptors ++ [path] } := if_neg plain.1.ne_nil
        have rest := ih plain.2 (o := { o with descriptors := o.descriptors ++ [path] }) one once
        rw [set, Progress.andThen, rest, List.append_assoc]
        rfl
      | directory =>
        have unset : o.directory = none := by
          rcases toList_append_eq one with ⟨absent, -⟩ | ⟨vacant, -⟩
          · cases absent
          · exact vacant
        have set : (Part.value .directory path).set o = .going { o with directory := some path } := by
          simp only [Part.set, fill, if_neg plain.1.ne_nil, unset]
        rw [unset] at one
        rw [set, Progress.andThen, ih plain.2 (o := { o with directory := some path }) one once]
        rfl
    | switch s =>
      cases s with
      | verbose =>
        have rest := ih plain.2 (o := o.louder 1) one once
        rw [Options.louder_louder, ← times_switch] at rest
        exact rest
      | dryRun =>
        rw [times_switch] at once
        have unset : o.dryRun = false := by
          have bound := dryRun.toNat_le
          exact Bool.toNat_eq_zero.mp (by omega)
        have set : (Part.switch .dryRun).set o = .going { o with dryRun := true } := by
          simp [Part.set, Switch.flag, raise, unset]
        rw [unset, Bool.toNat_false, Nat.zero_add] at once
        rw [set, Progress.andThen, ih plain.2 (o := { o with dryRun := true }) one once]
        rfl

/-! ### Whole command lines -/

/-- The end of the options is marked, or goes without saying. -/
def marked : Option (List Path) → List Bytes
  | none => []
  | some templates => [dash, dash] :: templates

structure Wording where
  words : List Word
  /-- The templates behind the mark, if there is one. -/
  trailing : Option (List Path)

namespace Wording

def arguments (w : Wording) : List Bytes := w.words.flatMap Word.arguments ++ marked w.trailing

def parts (w : Wording) : List Part := w.words.flatMap Word.parts

/-- A wording that gives a run its lists, its directory and whether it is a dry run. -/
structure Encodes (w : Wording) (descriptors templates : List Path) (directory : Option Path)
    (dryRun : Bool) : Prop where
  descriptors_eq : values .types w.parts = descriptors
  templates_eq : CommandLine.templates w.parts ++ w.trailing.getD [] = templates
  directory_eq : values .directory w.parts = directory.toList
  dryRun_eq : times .dryRun w.parts = dryRun.toNat

end Wording

theorem trailing_eq (o : Options) {templates : List Path} (plain : ∀ path ∈ templates, Plain path) :
    trailing templates o = .run { o with templates := o.templates ++ templates } := by
  induction templates generalizing o with
  | nil => rw [trailing, List.append_nil]
  | cons path templates ih =>
    rw [List.forall_mem_cons] at plain
    have added : addTemplate path o = .going { o with templates := o.templates ++ [path] } :=
      if_neg plain.1.ne_nil
    rw [trailing, added]
    simp only
    rw [ih _ plain.2]
    simp

theorem plain_of_values {parts : List Part}
    (plain : ∀ slot, ∀ path ∈ values slot parts, Plain path)
    (plain' : ∀ path ∈ templates parts, Plain path) : ∀ part ∈ parts, part.Plain := by
  intro part mem
  cases part with
  | template path => exact plain' path (List.mem_filterMap.mpr ⟨_, mem, rfl⟩)
  | value slot path => exact plain slot path (List.mem_filterMap.mpr ⟨_, mem, if_pos rfl⟩)
  | switch s => trivial

theorem request_marked (o : Options) {trailing : Option (List Path)}
    (plain : ∀ path ∈ trailing.getD [], Plain path) :
    request (marked trailing) (.going o) =
      .run { o with templates := o.templates ++ trailing.getD [] } := by
  cases trailing with
  | none => simp [marked, request]
  | some templates =>
    rw [← trailing_eq o plain]
    rfl

variable {w : Wording} {descriptors templates : List Path} {directory : Option Path} {dryRun : Bool}

theorem read_arguments (encodes : w.Encodes descriptors templates directory dryRun)
    (plain : ∀ path ∈ descriptors ++ (templates ++ directory.toList), Plain path) :
    read w.arguments = .run ⟨descriptors, templates, directory, dryRun,
      Options.saturated (times .verbose w.parts), false⟩ := by
  obtain ⟨rfl, rfl, directory_eq, dryRun_eq⟩ := encodes
  rw [← directory_eq] at plain
  simp only [List.forall_mem_append] at plain
  obtain ⟨plainTypes, ⟨plainTemplates, plainTrailing⟩, plainDirectory⟩ := plain
  have sound : ∀ part ∈ w.parts, part.Plain :=
    plain_of_values (fun slot => by cases slot <;> assumption) plainTemplates
  have performed := perform_eq sound (o := Options.none) directory_eq
    ((Nat.zero_add _).trans dryRun_eq)
  have said : read w.arguments = request (marked w.trailing) (perform w.parts .none) :=
    request_words _ _ w.words sound
  rw [said, performed, request_marked _ plainTrailing]
  simp [Options.none, Options.louder]

/-! ### The run that is meant -/

theorem run_arguments (encodes : w.Encodes descriptors templates directory dryRun)
    (plain : ∀ path ∈ descriptors ++ (templates ++ directory.toList), Plain path)
    (tree : FileTree) :
    read w.arguments = .run ⟨descriptors, templates, directory, dryRun,
      Options.saturated (times .verbose w.parts), false⟩ ∧
    let settings : Settings :=
      ⟨descriptors, templates, directory.getD tree.workingDirectory.path⟩
    let threshold := Level.ofCount (times .verbose w.parts)
    run w.arguments tree =
      if dryRun then
        reported threshold listing ((preview (m := Simulation) settings).run (.onTree tree))
      else
        reported threshold (fun _ => []) ((generate (m := Simulation) settings).run (.onTree tree)) := by
  have asked := read_arguments encodes plain
  refine ⟨asked, ?_⟩
  rw [run_of_read asked rfl, reported_execute, Options.threshold, ofCount_saturated]
  rfl

namespace Mixed

/-! Two descriptors, a directory and three templates, in as many spellings as there are options. -/

def path (text : String) : Path := Path.ofText text.toList

def wording : Wording where
  words := [.template (path "x@t@.c"),
    .option .types (path "a.toml") (.attached [.dryRun, .verbose]),
    .option .directory (path "out") .longEquals, .template (path "y"),
    .option .types (path "b.toml") (.equals [.verbose]), .longFlag .verbose]
  trailing := some [path "z"]

def arguments : List Bytes :=
  ["x@t@.c", "-nvfa.toml", "--dir=out", "y", "-vf=b.toml", "--verbose", "--", "z"].map path

def tree : FileTree :=
  ((FileTree.scratch []).writeFile (path "a.toml")
    (path "types_list = [\x7b t = 'd' \x7d]")).writeFile (path "b.toml")
      (path "types_list = [\x7b t = 'z' \x7d]")

theorem run_arguments_mixed :
    wording.arguments = arguments ∧
    wording.Encodes [path "a.toml", path "b.toml"] [path "x@t@.c", path "y", path "z"]
      (some (path "out")) true ∧
    (run arguments tree).1.exit = 0 ∧
    (run arguments tree).1.stdout =
      "out/xd.c\nout/y\nout/z\nout/xz.c\nout/y\nout/z\n".toList := by
  have written : wording.arguments = arguments := by decide
  have encodes : wording.Encodes [path "a.toml", path "b.toml"]
      [path "x@t@.c", path "y", path "z"] (some (path "out")) true := by
    constructor <;> decide
  have plain : ∀ p ∈ [path "a.toml", path "b.toml"] ++
      ([path "x@t@.c", path "y", path "z"] ++ (some (path "out")).toList), Plain p := by decide
  obtain ⟨-, ran⟩ := run_arguments encodes plain tree
  rw [written] at ran
  refine ⟨written, encodes, ?_, ?_⟩
  · rw [ran]
    decide +kernel
  · rw [ran]
    decide +kernel

end Mixed

end Stencil.CommandLine
