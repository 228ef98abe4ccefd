import Mathlib.Logic.Relation
import Stencil.FileTree.Edit
import Stencil.Proofs.CommandLine.Reports
import Stencil.Proofs.CommandLine.Words

/-! Verbosity.  No step of the reading looks at the count of the verbosity flag, so raising it earlier
or later comes to the same, and a run does not know it at all: it only decides which entries of the log
are shown.  A more talkative run therefore says what a quieter one says, and more entries between. -/

namespace Stencil.CommandLine

/-! ### Reading with the verbosity raised -/

def Request.louder (k : Nat) : Request → Request
  | run o => .run (o.louder k)
  | help => .help
  | rejected => .rejected

def Progress.louder (k : Nat) : Progress → Progress
  | going o => .going (o.louder k)
  | awaiting slot o => .awaiting slot (o.louder k)
  | decided r => .decided (r.louder k)

@[simp] theorem Request.louder_zero (r : Request) : r.louder 0 = r := by
  cases r <;> simp [louder]

theorem Request.louder_louder (j k : Nat) (r : Request) :
    (r.louder j).louder k = r.louder (j + k) := by
  cases r <;> simp [louder, Options.louder_louder]

/-- A step that does not look at the verbosity. -/
def Indifferent (f : Options → Progress) : Prop := ∀ k o, f (o.louder k) = (f o).louder k

theorem indifferent_fill (slot : Slot) (value : Bytes) : Indifferent (fill slot value) := by
  intro k o
  cases slot with
  | types =>
    simp only [fill]
    split <;> rfl
  | directory =>
    simp only [fill, Options.louder]
    split
    · rfl
    · cases o.directory <;> rfl

theorem indifferent_addTemplate (value : Bytes) : Indifferent (addTemplate value) := by
  intro k o
  simp only [addTemplate]
  split <;> rfl

theorem indifferent_raise (f : Flag) : Indifferent (raise f) := by
  intro k o
  cases f with
  | verbose => simp only [raise, Progress.louder, Options.louder_louder, Nat.add_comm]
  | dryRun =>
    obtain ⟨-, -, -, dryRun, -, -⟩ := o
    cases dryRun <;> rfl
  | formatHelp =>
    obtain ⟨-, -, -, -, -, formatHelp⟩ := o
    cases formatHelp <;> rfl
  | help => rfl

theorem indifferent_cluster (letters : Bytes) : Indifferent (cluster letters) := by
  intro k o
  induction letters generalizing o with
  | nil => rfl
  | cons b rest ih =>
    simp only [cluster]
    cases short? b with
    | none => rfl
    | some name =>
      cases name with
      | slot slot =>
        simp only
        split
        · rfl
        · exact indifferent_fill slot _ k o
      | flag f =>
        simp only [indifferent_raise f k o]
        cases raise f o with
        | going o' => exact ih o'
        | awaiting slot o' => rfl
        | decided r => rfl

theorem indifferent_longOption (text : Bytes) : Indifferent (longOption text) := by
  intro k o
  simp only [longOption]
  split
  · rfl
  · rfl
  · exact indifferent_fill _ _ k o
  · exact indifferent_raise _ k o
  · rfl

theorem indifferent_argument (a : Bytes) : Indifferent (argument a) := by
  intro k o
  unfold argument
  split
  · exact indifferent_addTemplate _ k o
  · exact indifferent_addTemplate _ k o
  · split
    · exact indifferent_addTemplate _ k o
    · split
      · exact indifferent_longOption _ k o
      · exact indifferent_cluster _ k o

theorem trailing_louder (k : Nat) (templates : List Bytes) (o : Options) :
    trailing templates (o.louder k) = (trailing templates o).louder k := by
  induction templates generalizing o with
  | nil => rfl
  | cons value rest ih =>
    simp only [trailing, indifferent_addTemplate value k o]
    cases addTemplate value o with
    | going o' => exact ih o'
    | awaiting slot o' => rfl
    | decided r => rfl

theorem request_louder (k : Nat) (arguments : List Bytes) (p : Progress) :
    request arguments (p.louder k) = (request arguments p).louder k := by
  induction arguments generalizing p with
  | nil => cases p <;> rfl
  | cons value rest ih =>
    cases p with
    | decided r => rfl
    | awaiting slot o =>
      simp only [Progress.louder, request]
      split
      · rfl
      · rw [indifferent_fill slot value k o]
        exact ih _
    | going o =>
      simp only [Progress.louder, request]
      split
      · exact trailing_louder k rest o
      · rw [indifferent_argument value k o]
        exact ih _

/-! ### Where the flag may be put in -/

def AwaitsValue (a : Bytes) : Prop :=
  ∃ slot path spelling, (Word.option slot path spelling).arguments = [a, path]

/-- The flag for verbosity is put in, so often and in some spelling, before the end of the options and
not where the value of an option stands. -/
inductive Raised : List Bytes → List Bytes → Prop
  | intro {before after : List Bytes} {w : Word} {k : Nat}
      (only : w.parts = List.replicate k (.switch .verbose)) (early : [dash, dash] ∉ before)
      (free : ∀ a, [a] <:+ before → ¬ AwaitsValue a) :
      Raised (before ++ after) (before ++ (w.arguments ++ after))

theorem AwaitsValue.head?_eq {a : Bytes} (awaits : AwaitsValue a) : a.head? = some dash := by
  obtain ⟨slot, path, spelling, same⟩ := awaits
  cases spelling <;> simp [Word.arguments] at same <;> simp [← same]

theorem mem_shortNames {b : UInt8} {name : Name} (found : short? b = some name) :
    ∃ c : Char, (c, name) ∈ shortNames ∧ c.toNat = b.toNat := by
  obtain ⟨⟨c, name'⟩, here, rfl⟩ := Option.map_eq_some_iff.mp found
  exact ⟨c, List.mem_of_find?_eq_some here, by simpa using List.find?_some here⟩

theorem eq_letter {b : UInt8} {slot : Slot} (found : short? b = some (.slot slot)) :
    b = slot.letter := by
  obtain ⟨c, mem, same⟩ := mem_shortNames found
  cases slot with
  | types =>
    obtain rfl : c = 'f' := by simpa [shortNames] using mem
    exact UInt8.toNat_inj.mp same.symm
  | directory =>
    obtain rfl : c = 'd' := by simpa [shortNames] using mem
    exact UInt8.toNat_inj.mp same.symm

theorem exists_switch {b : UInt8} {f : Flag} (found : short? b = some (.flag f)) :
    (∃ s : Switch, b = s.letter ∧ f = s.flag) ∨ f = .help := by
  obtain ⟨c, mem, same⟩ := mem_shortNames found
  cases f with
  | dryRun =>
    obtain rfl : c = 'n' := by simpa [shortNames] using mem
    exact .inl ⟨.dryRun, UInt8.toNat_inj.mp same.symm, rfl⟩
  | verbose =>
    obtain rfl : c = 'v' := by simpa [shortNames] using mem
    exact .inl ⟨.verbose, UInt8.toNat_inj.mp same.symm, rfl⟩
  | formatHelp => simp [shortNames] at mem
  | help => exact .inr rfl

theorem eq_longName {name : Bytes} {slot : Slot} (found : long? name = some (.slot slot)) :
    name = slot.longName := by
  obtain ⟨⟨text, name'⟩, here, rfl⟩ := Option.map_eq_some_iff.mp found
  have mem := List.mem_of_find?_eq_some here
  have named := List.find?_some here
  have spelt : Path.ofText text = name := eq_of_beq named
  cases slot with
  | types =>
    obtain rfl : text = "types".toList := by simpa [longNames] using mem
    exact spelt.symm
  | directory =>
    obtain rfl : text = "dir".toList := by simpa [longNames] using mem
    exact spelt.symm

theorem fill_ne_awaiting (slot slot' : Slot) (value : Bytes) (o o' : Options) :
    fill slot value o ≠ .awaiting slot' o' := by
  rcases set_cases (.value slot value) o with ⟨o'', set⟩ | set <;>
    simp [show fill slot value o = _ from set]

theorem addTemplate_ne_awaiting (slot : Slot) (value : Bytes) (o o' : Options) :
    addTemplate value o ≠ .awaiting slot o' := by
  rcases set_cases (.template value) o with ⟨o'', set⟩ | set <;>
    simp [show addTemplate value o = _ from set]

theorem raise_cases (f : Flag) (o : Options) :
    (∃ o', raise f o = .going o') ∨ ∃ r, raise f o = .decided r := by
  cases f with
  | help => exact .inr ⟨_, rfl⟩
  | verbose => exact .inl ⟨_, rfl⟩
  | dryRun =>
    simp only [raise]
    split <;> simp
  | formatHelp =>
    simp only [raise]
    split <;> simp

theorem letters_of_awaiting {cs : Bytes} {slot : Slot} {o o' : Options}
    (awaits : cluster cs o = .awaiting slot o') :
    ∃ before, cs = letters before ++ [slot.letter] := by
  induction cs generalizing o with
  | nil => cases awaits
  | cons b rest ih =>
    rw [cluster] at awaits
    cases found : short? b with
    | none => simp [found] at awaits
    | some name =>
      cases name with
      | slot slot' =>
        simp only [found] at awaits
        split at awaits
        · next last =>
          obtain ⟨rfl, -⟩ := Progress.awaiting.inj awaits
          exact ⟨[], by rw [last, eq_letter found]; rfl⟩
        · exact absurd awaits (fill_ne_awaiting _ _ _ _ _)
      | flag f =>
        simp only [found] at awaits
        rcases raise_cases f o with ⟨o'', raised⟩ | ⟨r, raised⟩
        · rw [raised] at awaits
          obtain ⟨before, rfl⟩ := ih awaits
          rcases exists_switch found with ⟨s, rfl, rfl⟩ | rfl
          · exact ⟨s :: before, rfl⟩
          · cases raised
        · simp [raised] at awaits

theorem longName_of_awaiting {text : Bytes} {slot : Slot} {o o' : Options}
    (awaits : longOption text o = .awaiting slot o') : text = slot.longName := by
  simp only [longOption] at awaits
  split at awaits
  · cases awaits
  · next slot' known whole =>
    obtain ⟨rfl, -⟩ := Progress.awaiting.inj awaits
    rw [← eq_longName known, ← List.append_nil (List.takeWhile _ _), ← whole,
      List.takeWhile_append_dropWhile]
  · exact absurd awaits (fill_ne_awaiting _ _ _ _ _)
  · next f _ _ =>
    rcases raise_cases f o with ⟨o'', raised⟩ | ⟨r, raised⟩ <;> simp [raised] at awaits
  · cases awaits

theorem awaitsValue_of_awaiting {a : Bytes} {slot : Slot} {o o' : Options}
    (awaits : argument a o = .awaiting slot o') : AwaitsValue a := by
  unfold argument at awaits
  split at awaits
  · exact absurd awaits (addTemplate_ne_awaiting _ _ _ _)
  · exact absurd awaits (addTemplate_ne_awaiting _ _ _ _)
  · next b c rest =>
    split_ifs at awaits with template long
    · exact absurd awaits (addTemplate_ne_awaiting _ _ _ _)
    · obtain rfl := Decidable.not_not.mp template
      rw [long, longName_of_awaiting awaits]
      exact ⟨slot, [], .long, rfl⟩
    · obtain rfl := Decidable.not_not.mp template
      obtain ⟨before, same⟩ := letters_of_awaiting awaits
      rw [same]
      exact ⟨slot, [], .short before, rfl⟩

/-! ### What the flag changes -/

theorem perform_replicate_verbose (k : Nat) (o : Options) :
    perform (List.replicate k (.switch .verbose)) o = .going (o.louder k) := by
  induction k generalizing o with
  | zero => rw [Options.louder_zero]; rfl
  | succ k ih =>
    rw [List.replicate_succ, Nat.add_comm, ← Options.louder_louder]
    exact ih (o.louder 1)

theorem request_verbose {w : Word} {k : Nat} (only : w.parts = List.replicate k (.switch .verbose))
    (rest : List Bytes) (o : Options) :
    request (w.arguments ++ rest) (.going o) = (request rest (.going o)).louder k := by
  have plain : ∀ part ∈ w.parts, part.Plain := by
    rw [only]
    intro part mem
    rw [List.eq_of_mem_replicate mem]
    trivial
  rw [request_word rest o w plain, only, perform_replicate_verbose]
  exact request_louder k rest (.going o)

/-- The arguments before the flag are read as they were.  Either they decide alone, or the rest is read
with the verbosity raised. -/
theorem request_insert {w : Word} {k : Nat} (only : w.parts = List.replicate k (.switch .verbose))
    (after : List Bytes) {before : List Bytes} (early : [dash, dash] ∉ before)
    (free : ∀ a, [a] <:+ before → ¬ AwaitsValue a) (p : Progress)
    (ready : before = [] → ∀ slot o, p ≠ .awaiting slot o) :
    ∃ j, request (before ++ (w.arguments ++ after)) p = (request (before ++ after) p).louder j := by
  induction before generalizing p with
  | nil =>
    cases p with
    | decided r => exact ⟨0, by simp⟩
    | awaiting slot o => exact absurd rfl (ready rfl slot o)
    | going o => exact ⟨k, request_verbose only after o⟩
  | cons value before ih =>
    rw [List.mem_cons, not_or] at early
    have rest := ih early.2 fun a last => free a (last.trans (List.suffix_cons value before))
    cases p with
    | decided r => exact ⟨0, by simp⟩
    | awaiting slot o =>
      simp only [List.cons_append, request]
      split
      · exact ⟨0, rfl⟩
      · exact rest _ fun _ slot' o' => fill_ne_awaiting slot slot' value o o'
    | going o =>
      simp only [List.cons_append, request, if_neg (Ne.symm early.1)]
      refine rest _ ?_
      rintro rfl slot o' awaits
      exact free value (List.suffix_refl _) (awaitsValue_of_awaiting awaits)

theorem read_of_raised {arguments arguments' : List Bytes}
    (raised : Relation.ReflTransGen Raised arguments arguments') :
    ∃ k, read arguments' = (read arguments).louder k := by
  induction raised with
  | refl => exact ⟨0, (Request.louder_zero _).symm⟩
  | tail _ once ih =>
    obtain ⟨j, ih⟩ := ih
    obtain ⟨only, early, free⟩ := once
    obtain ⟨k, read_eq⟩ := request_insert only _ early free (.going .none) fun _ _ _ => nofun
    refine ⟨j + k, ?_⟩
    rw [← Request.louder_louder, ← ih]
    exact read_eq

/-! ### What a more talkative run says -/

/-- Two runs that differ in what they show of the log: of the entries that the louder one shows, the
quieter one shows those that pass its threshold.  What follows them is the same, and it is nothing
or the failure that ended the run. -/
structure SaysMore (quiet loud : Outcome × FileTree) : Prop where
  exit_eq : loud.1.exit = quiet.1.exit
  stdout_eq : loud.1.stdout = quiet.1.stdout
  tree_eq : loud.2 = quiet.2
  stderr_eq : ∃ (entries : List LogEntry) (threshold : Level) (last : Text),
    loud.1.stderr = entries.flatMap LogEntry.render ++ last ∧
    quiet.1.stderr = (entries.filter (LogEntry.shownAt threshold)).flatMap LogEntry.render ++ last ∧
    (quiet.1.exit = 0 ∧ last = [] ∨
      ∃ failure : Failure, quiet.1.exit = 1 ∧ last = "Error: ".toList ++ failure.report ++ ['\n'])

theorem filter_shownAt {quiet loud : Level} (le : quiet.rank ≤ loud.rank) (log : List LogEntry) :
    (log.filter (LogEntry.shownAt loud)).filter (LogEntry.shownAt quiet) =
      log.filter (LogEntry.shownAt quiet) := by
  rw [List.filter_filter]
  refine List.filter_congr fun e _ => ?_
  have passes : e.shownAt quiet = true → e.shownAt loud = true := by
    simp only [LogEntry.shownAt, decide_eq_true_eq]
    exact fun shown => Nat.le_trans shown le
  cases shown : e.shownAt quiet with
  | false => rfl
  | true => rw [passes shown]; rfl

theorem saysMore_reported {quiet loud : Level} (le : quiet.rank ≤ loud.rank)
    (finished : Except Failure Text × Session) :
    SaysMore (reported quiet id finished) (reported loud id finished) := by
  obtain ⟨result, s⟩ := finished
  refine ⟨rfl, rfl, rfl, s.log.filter (LogEntry.shownAt loud), quiet, (ending (result.map id)).stderr,
    rfl, ?_, ?_⟩
  · rw [filter_shownAt le]
    rfl
  · cases result with
    | ok text => exact .inl ⟨rfl, rfl⟩
    | error failure => exact .inr ⟨failure, rfl, rfl⟩

theorem rank_threshold_le (k : Nat) (o : Options) :
    o.threshold.rank ≤ (o.louder k).threshold.rank := by
  have bound := o.verbosity.toNat_lt
  simp only [Options.threshold, Level.rank_ofCount, Options.louder, Options.toNat_saturated]
  omega

theorem saysMore_text (text : Text) {arguments arguments' : List Bytes}
    (asked : (read arguments).immediate = .error ⟨0, text, []⟩)
    (asked' : (read arguments').immediate = .error ⟨0, text, []⟩) (tree : FileTree) :
    SaysMore (run arguments tree) (run arguments' tree) := by
  simp only [run, asked, asked']
  exact ⟨rfl, rfl, rfl, [], .warn, [], rfl, rfl, .inl ⟨rfl, rfl⟩⟩

theorem run_raised {arguments arguments' : List Bytes} (accepted : read arguments ≠ .rejected)
    (raised : Relation.ReflTransGen Raised arguments arguments') (tree : FileTree) :
    read arguments' ≠ .rejected ∧ SaysMore (run arguments tree) (run arguments' tree) := by
  obtain ⟨k, read_eq⟩ := read_of_raised raised
  cases asked : read arguments with
  | rejected => exact absurd asked accepted
  | help =>
    rw [asked, Request.louder] at read_eq
    exact ⟨by simp [read_eq],
      saysMore_text help (congrArg _ asked) (congrArg Request.immediate read_eq) tree⟩
  | run o =>
    rw [asked, Request.louder] at read_eq
    refine ⟨by simp [read_eq], ?_⟩
    cases helped : o.formatHelp with
    | true =>
      have text := (congrArg Request.immediate asked).trans (if_pos helped)
      have text' := (congrArg Request.immediate read_eq).trans (if_pos helped)
      exact saysMore_text formatHelp text text' tree
    | false =>
      rw [run_of_read asked helped, run_of_read read_eq helped]
      exact saysMore_reported (rank_threshold_le k o) _

namespace Crowded

/-! A run with one flag, and with so many more that the counter is full. -/

def path (text : String) : Path := Path.ofText text.toList

def arguments : List Bytes := ["-vf", "types.toml", "a@t@"].map path

def crowd : Word := .flags .verbose (List.replicate 299 .verbose)

def crowded : List Bytes := crowd.arguments ++ (arguments ++ [path "--verbose"])

def tree : FileTree :=
  ((FileTree.scratch []).writeFile (path "types.toml")
    (path "types_list = [\x7b t = 'd' \x7d]")).writeFile (path "a@t@") (path "@t@")

theorem run_raised_crowded :
    read arguments = .run ⟨[path "types.toml"], [path "a@t@"], none, false, 1, false⟩ ∧
    read crowded = .run ⟨[path "types.toml"], [path "a@t@"], none, false, 255, false⟩ ∧
    Relation.ReflTransGen Raised arguments crowded ∧
    SaysMore (run arguments tree) (run crowded tree) := by
  have asked : read arguments =
      .run ⟨[path "types.toml"], [path "a@t@"], none, false, 1, false⟩ := by decide +kernel
  have asked' : read crowded =
      .run ⟨[path "types.toml"], [path "a@t@"], none, false, 255, false⟩ := by decide +kernel
  have last : Raised (arguments ++ []) (arguments ++ ((Word.longFlag .verbose).arguments ++ [])) := by
    refine .intro (k := 1) rfl (by decide) ?_
    rintro a ⟨before, same⟩ awaits
    have ends : some a = some (path "a@t@") := by
      simpa [arguments] using congrArg List.getLast? same
    rw [Option.some.inj ends] at awaits
    exact absurd awaits.head?_eq (by decide)
  have first : Raised ([] ++ (arguments ++ [path "--verbose"])) crowded := by
    have only : crowd.parts = List.replicate 300 (.switch .verbose) := by decide +kernel
    exact .intro only List.not_mem_nil fun a none_before => by simp at none_before
  have raised : Relation.ReflTransGen Raised arguments crowded := .tail (.single last) first
  exact ⟨asked, asked', raised, (run_raised (by simp [asked]) raised tree).2⟩

end Crowded

end Stencil.CommandLine
