import Stencil.CommandLine.Arguments

/-! The words of a command line: templates, options with their values, and flags, each in all of its
spellings.  A word is one argument, or two where the value of an option is one of its own.  Whatever
has been read before, a word does to the options what its parts say, one after another. -/

namespace Stencil.CommandLine

/-! ### Words and what they say -/

inductive Switch where
  | dryRun
  | verbose
  deriving DecidableEq

namespace Switch

def flag : Switch → Flag
  | dryRun => .dryRun
  | verbose => .verbose

def letter : Switch → UInt8
  | dryRun => 110
  | verbose => 118

def longName : Switch → Bytes
  | dryRun => Path.ofText "dry-run".toList
  | verbose => Path.ofText "verbose".toList

end Switch

namespace Slot

def letter : Slot → UInt8
  | types => 102
  | directory => 100

def longName : Slot → Bytes
  | types => Path.ofText "types".toList
  | directory => Path.ofText "dir".toList

end Slot

inductive Part where
  | template (path : Path)
  | value (slot : Slot) (path : Path)
  | switch (s : Switch)
  deriving DecidableEq

/-- How an option stands with its value.  Behind the dash of a short name there may be flags. -/
inductive Spelling where
  /-- `-f X` -/
  | short (before : List Switch)
  /-- `-fX` -/
  | attached (before : List Switch)
  /-- `-f=X` -/
  | equals (before : List Switch)
  /-- `--types X` -/
  | long
  /-- `--types=X` -/
  | longEquals

def Spelling.before : Spelling → List Switch
  | short before => before
  | attached before => before
  | equals before => before
  | long => []
  | longEquals => []

inductive Word where
  | template (path : Path)
  | option (slot : Slot) (path : Path) (spelling : Spelling)
  /-- Flags that share a dash. -/
  | flags (first : Switch) (more : List Switch)
  | longFlag (s : Switch)

def letters (switches : List Switch) : Bytes := switches.map Switch.letter

namespace Word

def arguments : Word → List Bytes
  | template path => [path]
  | option slot path (.short before) => [dash :: (letters before ++ [slot.letter]), path]
  | option slot path (.attached before) => [dash :: (letters before ++ slot.letter :: path)]
  | option slot path (.equals before) =>
    [dash :: (letters before ++ slot.letter :: equalsSign :: path)]
  | option slot path .long => [dash :: dash :: slot.longName, path]
  | option slot path .longEquals => [dash :: dash :: (slot.longName ++ equalsSign :: path)]
  | flags first more => [dash :: letters (first :: more)]
  | longFlag s => [dash :: dash :: s.longName]

def parts : Word → List Part
  | template path => [.template path]
  | option slot path spelling => spelling.before.map .switch ++ [.value slot path]
  | flags first more => (first :: more).map .switch
  | longFlag s => [.switch s]

end Word

/-- Not empty, and nothing that begins like an option or like what stands before a value. -/
def Plain (value : Bytes) : Prop := ∃ b rest, value = b :: rest ∧ b ≠ dash ∧ b ≠ equalsSign

theorem plain_cons_iff {b : UInt8} {rest : Bytes} :
    Plain (b :: rest) ↔ b ≠ dash ∧ b ≠ equalsSign := by
  constructor
  · rintro ⟨_, _, same, other, other'⟩
    obtain ⟨rfl, rfl⟩ := List.cons.inj same
    exact ⟨other, other'⟩
  · rintro ⟨other, other'⟩
    exact ⟨b, rest, rfl, other, other'⟩

theorem Plain.ne_nil {value : Bytes} (plain : Plain value) : value ≠ [] := by
  obtain ⟨b, rest, rfl, -⟩ := plain
  exact List.cons_ne_nil b rest

instance : DecidablePred Plain
  | [] => .isFalse fun plain => plain.ne_nil rfl
  | _ :: _ => decidable_of_iff' _ plain_cons_iff

def Part.Plain : Part → Prop
  | template path => CommandLine.Plain path
  | value _ path => CommandLine.Plain path
  | switch _ => True

/-! ### What the parts do -/

def Progress.andThen (p : Progress) (f : Options → Progress) : Progress :=
  match p with
  | .going o => f o
  | progress => progress

def Part.set : Part → Options → Progress
  | template path => addTemplate path
  | value slot path => fill slot path
  | switch s => raise s.flag

def perform : List Part → Options → Progress
  | [], o => .going o
  | part :: parts, o => (part.set o).andThen (perform parts)

theorem perform_append (first rest : List Part) (o : Options) :
    perform (first ++ rest) o = (perform first o).andThen (perform rest) := by
  induction first generalizing o with
  | nil => rfl
  | cons part first ih =>
    rw [List.cons_append, perform, perform]
    cases part.set o with
    | going o' => exact ih o'
    | awaiting slot o' => rfl
    | decided r => rfl

theorem set_cases (part : Part) (o : Options) :
    (∃ o', part.set o = .going o') ∨ part.set o = .decided .rejected := by
  cases part with
  | template path =>
    simp only [Part.set, addTemplate]
    split <;> simp
  | value slot path =>
    simp only [Part.set, fill]
    split
    · simp
    · split <;> simp
  | switch s =>
    cases s with
    | dryRun =>
      simp only [Part.set, Switch.flag, raise]
      split <;> simp
    | verbose => exact .inl ⟨_, rfl⟩

theorem perform_cases (parts : List Part) (o : Options) :
    (∃ o', perform parts o = .going o') ∨ perform parts o = .decided .rejected := by
  induction parts generalizing o with
  | nil => exact .inl ⟨o, rfl⟩
  | cons part parts ih =>
    rw [perform]
    rcases set_cases part o with ⟨o', set⟩ | set
    · rw [set]
      exact ih o'
    · exact .inr (by rw [set]; rfl)

theorem Progress.andThen_going (p : Progress) : p.andThen .going = p := by
  cases p <;> rfl

theorem perform_singleton (part : Part) (o : Options) : perform [part] o = part.set o :=
  (part.set o).andThen_going

/-! ### How words are read -/

theorem short?_switch (s : Switch) : short? s.letter = some (.flag s.flag) := by
  cases s <;> decide

theorem short?_slot (slot : Slot) : short? slot.letter = some (.slot slot) := by
  cases slot <;> decide

theorem long?_slot (slot : Slot) : long? slot.longName = some (.slot slot) := by
  cases slot <;> decide

theorem equalsSign_notMem_slot (slot : Slot) : equalsSign ∉ slot.longName := by
  cases slot <;> decide

theorem cluster_letters (switches : List Switch) (rest : Bytes) (o : Options) :
    cluster (letters switches ++ rest) o =
      (perform (switches.map .switch) o).andThen (cluster rest) := by
  induction switches generalizing o with
  | nil => rfl
  | cons s switches ih =>
    have known := short?_switch s
    rw [letters, List.map_cons, List.cons_append, cluster, known, List.map_cons, perform]
    simp only [Part.set]
    cases raise s.flag o with
    | going o' => exact ih o'
    | awaiting slot o' => rfl
    | decided r => rfl

theorem cluster_nil (o : Options) : cluster [] o = .going o := rfl

theorem cluster_slot (slot : Slot) (o : Options) :
    cluster [slot.letter] o = .awaiting slot o := by
  simp [cluster, short?_slot]

theorem cluster_slot_value (slot : Slot) {value : Bytes} (some : value ≠ []) (o : Options) :
    cluster (slot.letter :: value) o = fill slot (attached value) o := by
  simp [cluster, short?_slot, some]

theorem attached_of_plain {value : Bytes} (plain : Plain value) : attached value = value := by
  obtain ⟨b, rest, rfl, -, other⟩ := plain
  exact if_neg other

/-! A name holds no equals sign, so a long option is cut where its value begins. -/

theorem ne_equalsSign {name : Bytes} (clear : equalsSign ∉ name) :
    ∀ b ∈ name, (b != equalsSign) = true := by
  intro b mem
  rw [bne_iff_ne]
  rintro rfl
  exact clear mem

theorem takeWhile_name {name : Bytes} (clear : equalsSign ∉ name) (value : Bytes) :
    (name ++ equalsSign :: value).takeWhile (· != equalsSign) = name := by
  rw [List.takeWhile_append_of_pos (ne_equalsSign clear)]
  simp

theorem dropWhile_name {name : Bytes} (clear : equalsSign ∉ name) (value : Bytes) :
    (name ++ equalsSign :: value).dropWhile (· != equalsSign) = equalsSign :: value := by
  rw [List.dropWhile_append_of_pos (ne_equalsSign clear)]
  simp

theorem longOption_slot_value (slot : Slot) (value : Bytes) (o : Options) :
    longOption (slot.longName ++ equalsSign :: value) o = fill slot value o := by
  have clear := equalsSign_notMem_slot slot
  simp only [longOption, takeWhile_name clear, dropWhile_name clear, long?_slot]

theorem longOption_slot (slot : Slot) (o : Options) :
    longOption slot.longName o = .awaiting slot o := by
  cases slot <;> rfl

theorem longOption_switch (s : Switch) (o : Options) :
    longOption s.longName o = raise s.flag o := by
  cases s <;> rfl

/-! ### How arguments are read -/

variable (rest : List Bytes) (o : Options)

@[simp] theorem request_decided (arguments : List Bytes) (r : Request) :
    request arguments (.decided r) = r := by
  cases arguments <;> rfl

theorem request_plain {path : Bytes} (plain : Plain path) :
    request (path :: rest) (.going o) = request rest (addTemplate path o) := by
  obtain ⟨b, more, rfl, other, -⟩ := plain
  cases more with
  | nil => simp [request, argument]
  | cons c more => simp [request, argument, other]

theorem request_awaited {value : Bytes} (plain : Plain value) (slot : Slot) :
    request (value :: rest) (.awaiting slot o) = request rest (fill slot value o) := by
  obtain ⟨b, more, rfl, other, -⟩ := plain
  cases more with
  | nil => simp [request, isOption]
  | cons c more => simp [request, isOption, other]

theorem request_cluster {b : UInt8} (letter : b ≠ dash) (more : Bytes) :
    request ((dash :: b :: more) :: rest) (.going o) = request rest (cluster (b :: more) o) := by
  simp [request, argument, letter]

theorem request_long {name : Bytes} (some : name ≠ []) :
    request ((dash :: dash :: name) :: rest) (.going o) = request rest (longOption name o) := by
  simp [request, argument, some]

theorem request_short (before : List Switch) (slot : Slot) (value : Bytes) :
    request ((dash :: (letters before ++ slot.letter :: value)) :: rest) (.going o) =
      request rest ((perform (before.map .switch) o).andThen (cluster (slot.letter :: value))) := by
  rw [← cluster_letters]
  cases before with
  | nil => exact request_cluster rest o (by cases slot <;> decide) value
  | cons s before => exact request_cluster rest o (by cases s <;> decide) _

theorem request_option (slot : Slot) {path : Path} (plain : Plain path) (spelling : Spelling) :
    request ((Word.option slot path spelling).arguments ++ rest) (.going o) =
      request rest ((perform (spelling.before.map .switch) o).andThen (fill slot path)) := by
  have some := plain.ne_nil
  cases spelling with
  | short before =>
    rw [Word.arguments, List.cons_append, request_short, Spelling.before]
    rcases perform_cases (before.map .switch) o with ⟨o', going⟩ | rejected
    · simp only [going, Progress.andThen, cluster_slot]
      exact request_awaited rest o' plain slot
    · simp only [rejected, Progress.andThen, request_decided]
  | attached before =>
    have read := funext (cluster_slot_value slot some)
    rw [attached_of_plain plain] at read
    rw [Word.arguments, List.singleton_append, request_short, Spelling.before, read]
  | equals before =>
    have read := funext (cluster_slot_value slot (List.cons_ne_nil equalsSign path))
    rw [Word.arguments, List.singleton_append, request_short, Spelling.before, read]
    rfl
  | long =>
    have named : slot.longName ≠ [] := by cases slot <;> decide
    rw [Word.arguments, List.cons_append, request_long _ _ named, longOption_slot]
    exact request_awaited rest o plain slot
  | longEquals =>
    have named : slot.longName ++ equalsSign :: path ≠ [] := by simp
    rw [Word.arguments, List.singleton_append, request_long _ _ named, longOption_slot_value]
    rfl

theorem request_word (w : Word) (plain : ∀ part ∈ w.parts, part.Plain) :
    request (w.arguments ++ rest) (.going o) = request rest (perform w.parts o) := by
  cases w with
  | template path =>
    have plain : Plain path := plain _ List.mem_cons_self
    rw [Word.parts, perform_singleton]
    exact request_plain rest o plain
  | option slot path spelling =>
    have plain : Plain path := plain (.value slot path) (by simp [Word.parts])
    rw [Word.parts, perform_append, funext (perform_singleton (.value slot path))]
    exact request_option rest o slot plain spelling
  | flags first more =>
    have letter : first.letter ≠ dash := by cases first <;> decide
    have read := cluster_letters (first :: more) [] o
    rw [List.append_nil, funext cluster_nil, Progress.andThen_going] at read
    rw [Word.parts, ← read]
    exact request_cluster rest o letter (letters more)
  | longFlag s =>
    have named : s.longName ≠ [] := by cases s <;> decide
    rw [Word.arguments, Word.parts, perform_singleton, List.singleton_append,
      request_long rest o named, longOption_switch]
    rfl

theorem request_words (words : List Word) (plain : ∀ part ∈ words.flatMap Word.parts, part.Plain) :
    request (words.flatMap Word.arguments ++ rest) (.going o) =
      request rest (perform (words.flatMap Word.parts) o) := by
  induction words generalizing o with
  | nil => rfl
  | cons w words ih =>
    rw [List.flatMap_cons, List.forall_mem_append] at plain
    rw [List.flatMap_cons, List.append_assoc, request_word _ _ w plain.1, List.flatMap_cons,
      perform_append]
    rcases perform_cases w.parts o with ⟨o', going⟩ | rejected
    · rw [going]
      exact ih o' plain.2
    · rw [rejected, request_decided]
      exact (request_decided rest .rejected).symm

end Stencil.CommandLine
