import Stencil.FileTree.Edit
import Stencil.Proofs.Generation.OnTree

/-! The plan as a product.  Job `i * T + j` is that of record `i` and template `j`, where there are
`T` templates.  There is a plan exactly when every record and template make a job; else the first
pair that makes none says why.  A run takes as its records those of all descriptors, in order. -/

namespace Stencil

theorem getElem?_flatMap_of_length {α β : Type} {f : α → List β} {n : Nat} {xs : List α}
    (lengths : ∀ x ∈ xs, (f x).length = n) {i j : Nat} {x : α} (row : xs[i]? = some x) (lt : j < n) :
    (xs.flatMap f)[i * n + j]? = (f x)[j]? := by
  induction xs generalizing i with
  | nil => simp at row
  | cons y xs ih =>
    obtain ⟨first, rest⟩ := List.forall_mem_cons.mp lengths
    rw [List.flatMap_cons]
    cases i with
    | zero =>
      obtain rfl : y = x := by simpa using row
      rw [Nat.zero_mul, Nat.zero_add, List.getElem?_append_left (first.symm ▸ lt)]
    | succ i =>
      have behind : (i + 1) * n + j = (f y).length + (i * n + j) := by
        rw [first, Nat.succ_mul]
        omega
      rw [behind, List.getElem?_append_right (Nat.le_add_right ..), Nat.add_sub_cancel_left]
      exact ih rest (by simpa using row)

namespace Plan

variable {t : FileTree} {directory template : Path} {record : Record}

/-- A record and a template make a job: the template has a file name, and the destination does not
have the template's real path. -/
structure Admits (t : FileTree) (directory : Path) (record : Record) (template : Path) : Prop where
  named : template.fileName?.isSome
  apart : ∀ {destination}, Output.path template record directory = .ok destination →
    ¬ t.SameRealPath template destination

inductive Refuses (t : FileTree) (directory : Path) (record : Record) (template : Path) :
    Failure → Prop
  | nameless (nameless : template.fileName? = none) :
    Refuses t directory record template (.namelessTemplate template)
  | overwrites {destination : Path} (path : Output.path template record directory = .ok destination)
    (same : t.SameRealPath template destination) :
    Refuses t directory record template (.file .writeOutput destination (.overwrites template))

theorem path_of_nameless (nameless : template.fileName? = none) :
    Output.path template record directory = .error (.namelessTemplate template) := by
  rw [Output.path, Output.name, nameless]
  rfl

theorem exists_path_of_named (named : template.fileName?.isSome) :
    ∃ destination, Output.path template record directory = .ok destination := by
  obtain ⟨n, found⟩ := Option.isSome_iff_exists.mp named
  rw [Output.path, Output.name, found]
  exact ⟨_, rfl⟩

theorem exists_place_iff {task : Task} :
    (∃ new, place t directory task = .ok new) ↔ Admits t directory task.record task.template := by
  simp only [place_eq_ok_iff]
  constructor
  · rintro ⟨new, does, apart⟩
    refine ⟨?_, fun {destination} path => ?_⟩
    · refine Option.isSome_iff_ne_none.mpr fun nameless => ?_
      cases (path_of_nameless nameless).symm.trans does.destination
    · obtain rfl := Except.ok.inj (path.symm.trans does.destination)
      rw [← does.template]
      exact apart
  · rintro ⟨named, apart⟩
    obtain ⟨destination, path⟩ := exists_path_of_named named
    exact ⟨⟨task.index, task.template, destination⟩, ⟨rfl, rfl, path⟩, apart path⟩

theorem place_eq_error_iff {task : Task} {failure : Failure} :
    place t directory task = .error failure ↔
      Refuses t directory task.record task.template failure := by
  constructor
  · intro failed
    cases named : task.template.fileName? with
    | none =>
      rw [place, path_of_nameless named] at failed
      obtain rfl := Except.error.inj failed
      exact .nameless named
    | some n =>
      obtain ⟨destination, path⟩ : ∃ destination,
          Output.path task.template task.record directory = .ok destination :=
        exists_path_of_named (Option.isSome_iff_exists.mpr ⟨n, named⟩)
      simp only [place, path] at failed
      split_ifs at failed with same
      obtain rfl := Except.error.inj failed
      exact .overwrites path same
  · rintro (nameless | ⟨path, same⟩)
    · rw [place, path_of_nameless nameless]
    · simp only [place, path, if_pos same]

/-! Tasks by number -/

section Numbers

variable {records : List Record} {templates : List Path}

theorem getElem?_tasks {i j : Nat} (row : records[i]? = some record)
    (column : templates[j]? = some template) :
    (tasks records templates)[i * templates.length + j]? = some ⟨i, record, template⟩ := by
  have entry : records.zipIdx[i]? = some (record, i) := by simp [row]
  have inside : j < templates.length := (List.getElem?_eq_some_iff.mp column).1
  rw [tasks, getElem?_flatMap_of_length (fun _ _ => List.length_map ..) entry inside]
  simp [column]

theorem number_of_getElem?_tasks {n : Nat} {task : Task}
    (found : (tasks records templates)[n]? = some task) :
    ∃ j, records[task.index]? = some task.record ∧ templates[j]? = some task.template ∧
      n = task.index * templates.length + j := by
  have bound : n < records.length * templates.length := by
    rw [← length_tasks]
    exact (List.getElem?_eq_some_iff.mp found).1
  have some : 0 < templates.length := Nat.pos_of_mul_pos_left (Nat.zero_lt_of_lt bound)
  have rows : n / templates.length < records.length := Nat.div_lt_of_lt_mul (by rwa [Nat.mul_comm])
  have columns : n % templates.length < templates.length := Nat.mod_lt n some
  have row := List.getElem?_eq_getElem rows
  have column := List.getElem?_eq_getElem columns
  have number : n / templates.length * templates.length + n % templates.length = n :=
    Nat.div_add_mod' ..
  have same := getElem?_tasks row column
  rw [number, found] at same
  obtain rfl := Option.some.inj same
  exact ⟨_, row, column, number.symm⟩

theorem number_lt_iff {i j i' j' n : Nat} (inside : j < n) (inside' : j' < n) :
    i' * n + j' < i * n + j ↔ i' < i ∨ i' = i ∧ j' < j := by
  rcases Nat.lt_trichotomy i' i with above | rfl | below
  · have rows := Nat.mul_le_mul_right n (Nat.succ_le_of_lt above)
    rw [Nat.succ_mul] at rows
    omega
  · omega
  · have rows := Nat.mul_le_mul_right n (Nat.succ_le_of_lt below)
    rw [Nat.succ_mul] at rows
    omega

end Numbers

/-- What has been planned is a job for each record and template, row by row. -/
structure Product (records : List Record) (templates : List Path) (directory : Path)
    (planned : List Job) : Prop where
  length : planned.length = records.length * templates.length
  jobs : ∀ {i j record template}, records[i]? = some record → templates[j]? = some template →
    ∃ destination, Output.path template record directory = .ok destination ∧
      planned[i * templates.length + j]? = some ⟨i, template, destination⟩

inductive FirstRefused (t : FileTree) (directory : Path) (records : List Record)
    (templates : List Path) (failure : Failure) : Prop
  | intro {i j : Nat} {record : Record} {template : Path} (row : records[i]? = some record)
    (column : templates[j]? = some template) (refused : Refuses t directory record template failure)
    (before : ∀ {i' j' record' template'}, records[i']? = some record' →
      templates[j']? = some template' → i' < i ∨ i' = i ∧ j' < j →
      Admits t directory record' template')

section Outcome

variable {records : List Record} {templates : List Path}

theorem onTree_cons (task : Task) (rest : List Task) :
    onTree t directory (task :: rest) =
      (place t directory task).bind fun new => (onTree t directory rest).map (new :: ·) := by
  rw [onTree]
  cases place t directory task <;> rfl

theorem exists_onTree_iff :
    (∃ planned, onTree t directory (tasks records templates) = .ok planned) ↔
      ∀ record ∈ records, ∀ template ∈ templates, Admits t directory record template := by
  rw [exists_eq_ok_iff_forall (f := onTree t directory) (fun _ => exists_place_iff) ⟨[], rfl⟩
    onTree_cons]
  constructor
  · intro admitted record listed template listed'
    obtain ⟨i, row⟩ := List.mem_iff_getElem?.mp listed
    exact admitted ⟨i, record, template⟩ (mem_tasks_iff.mpr ⟨row, listed'⟩)
  · intro admitted task mem
    obtain ⟨row, listed⟩ := mem_tasks_iff.mp mem
    exact admitted task.record (List.mem_of_getElem? row) task.template listed

theorem product_of_onTree {planned : List Job}
    (h : onTree t directory (tasks records templates) = .ok planned) :
    Product records templates directory planned := by
  have each := does_of_onTree h
  refine ⟨each.length_eq.symm.trans (length_tasks ..), fun {i j record template} row column => ?_⟩
  obtain ⟨⟨_, _, destination⟩, found, rfl, rfl, path⟩ :=
    exists_of_getElem?_left each (getElem?_tasks row column)
  exact ⟨destination, path, found⟩

theorem onTree_eq_error_iff {failure : Failure} :
    onTree t directory (tasks records templates) = .error failure ↔
      FirstRefused t directory records templates failure := by
  -- The first task that fails, by number; numbers compare as rows and then columns do.
  rw [eq_error_iff_split (f := onTree t directory) (fun _ => exists_place_iff) ⟨[], rfl⟩
    onTree_cons, exists_split_iff_getElem?]
  constructor
  · rintro ⟨n, task, found, admitted, refused⟩
    obtain ⟨j, row, column, rfl⟩ := number_of_getElem?_tasks found
    refine .intro row column (place_eq_error_iff.mp refused) ?_
    intro i' j' record' template' row' column' earlier
    have inside := (List.getElem?_eq_some_iff.mp column).1
    have inside' := (List.getElem?_eq_some_iff.mp column').1
    have lt := (number_lt_iff inside inside').mpr earlier
    exact admitted _ lt _ (getElem?_tasks row' column')
  · rintro ⟨row, column, refused, before⟩
    refine ⟨_, _, getElem?_tasks row column, fun n lt task found => ?_,
      place_eq_error_iff.mpr refused⟩
    obtain ⟨j', row', column', rfl⟩ := number_of_getElem?_tasks found
    have inside := (List.getElem?_eq_some_iff.mp column).1
    have inside' := (List.getElem?_eq_some_iff.mp column').1
    exact before row' column' ((number_lt_iff inside inside').mp lt)

end Outcome

end Plan

namespace Descriptor

theorem allOnTree_eq_error_iff {t : FileTree} {paths : List Path} {failure : Failure} :
    allOnTree t paths = .error failure ↔ ∃ before path after, paths = before ++ path :: after ∧
      (∀ earlier ∈ before, ∃ own, onTree t earlier = .ok own) ∧ onTree t path = .error failure :=
  eq_error_iff_split (f := allOnTree t) (fun _ => Iff.rfl) ⟨[], rfl⟩ fun path paths => by
    rw [allOnTree]
    cases onTree t path <;> rfl

def Loads (s : Session) (path : Path) (own : List Record) : Prop :=
  ((loadDescriptor (m := Simulation) path).run s).1 = .ok own

theorem result_loadDescriptor (path : Path) (s : Session) :
    ((loadDescriptor (m := Simulation) path).run s).1 = onTree s.tree path := by
  obtain ⟨log, loaded⟩ := run_loadDescriptor path s
  rw [loaded]

theorem loads_iff {s : Session} {path : Path} {own : List Record} :
    Loads s path own ↔ onTree s.tree path = .ok own := by
  rw [Loads, result_loadDescriptor]

end Descriptor

theorem Settings.run_of_loaded {settings : Settings} {s : Session} {records : List Record}
    (loaded : Descriptor.allOnTree s.tree settings.descriptors = .ok records) :
    (∃ log, (preview (m := Simulation) settings).run s =
      (plan (m := Simulation) records settings.templates settings.destination).run
        ⟨s.tree, log⟩) ∧
    ∃ log, (generate (m := Simulation) settings).run s =
      (plan (m := Simulation) records settings.templates settings.destination >>= fun jobs =>
        expandJobs (m := Simulation) records jobs >>= fun _ => pure jobs).run ⟨s.tree, log⟩ := by
  obtain ⟨log, ran⟩ := Descriptor.run_loadRecords settings.descriptors s
  rw [loaded] at ran
  obtain ⟨log', noted⟩ := run_noteNothing records settings.templates { s with log }
  constructor
  · exact ⟨log, Session.run_bind_ok ran _⟩
  · exact ⟨log', (Session.run_bind_ok ran _).trans (Session.run_bind_ok noted _)⟩

theorem Settings.run_of_unloaded {settings : Settings} {s : Session} {failure : Failure}
    (unloaded : Descriptor.allOnTree s.tree settings.descriptors = .error failure) :
    (∃ log, (preview (m := Simulation) settings).run s = (.error failure, ⟨s.tree, log⟩)) ∧
      ∃ log, (generate (m := Simulation) settings).run s = (.error failure, ⟨s.tree, log⟩) := by
  obtain ⟨log, ran⟩ := Descriptor.run_loadRecords settings.descriptors s
  rw [unloaded] at ran
  exact ⟨⟨log, Session.run_bind_error ran _⟩, log, Session.run_bind_error ran _⟩

theorem plan_is_product :
    (∀ (records : List Record) (templates : List Path) (directory : Path) (s : Session),
      ((∃ planned, ((plan (m := Simulation) records templates directory).run s).1 = .ok planned) ↔
        ∀ record ∈ records, ∀ template ∈ templates,
          Plan.Admits s.tree directory record template) ∧
      (∀ planned, ((plan (m := Simulation) records templates directory).run s).1 = .ok planned →
        Plan.Product records templates directory planned) ∧
      ∀ failure, ((plan (m := Simulation) records templates directory).run s).1 = .error failure ↔
        Plan.FirstRefused s.tree directory records templates failure) ∧
    ∀ (settings : Settings) (s : Session),
      (∀ each, List.Forall₂ (Descriptor.Loads s) settings.descriptors each →
        (∃ log, (preview (m := Simulation) settings).run s =
          (plan (m := Simulation) each.flatten settings.templates settings.destination).run
            ⟨s.tree, log⟩) ∧
        ∃ log, (generate (m := Simulation) settings).run s =
          (plan (m := Simulation) each.flatten settings.templates settings.destination >>=
            fun jobs => expandJobs (m := Simulation) each.flatten jobs >>= fun _ => pure jobs).run
              ⟨s.tree, log⟩) ∧
      ∀ before path after failure, settings.descriptors = before ++ path :: after →
        (∀ earlier ∈ before, ∃ own, Descriptor.Loads s earlier own) →
        ((loadDescriptor (m := Simulation) path).run s).1 = .error failure →
        (∃ log, (preview (m := Simulation) settings).run s = (.error failure, ⟨s.tree, log⟩)) ∧
          ∃ log, (generate (m := Simulation) settings).run s =
            (.error failure, ⟨s.tree, log⟩) := by
  constructor
  · intro records templates directory s
    obtain ⟨log, ran⟩ := Plan.run_plan records templates directory s
    rw [ran]
    exact ⟨Plan.exists_onTree_iff, fun _ => Plan.product_of_onTree,
      fun _ => Plan.onTree_eq_error_iff⟩
  · intro settings s
    constructor
    · intro each loaded
      refine Settings.run_of_loaded (Descriptor.allOnTree_eq_ok_iff.mpr ⟨each, ?_, rfl⟩)
      exact loaded.imp fun _ _ => Descriptor.loads_iff.mp
    · intro before path after failure split loaded failed
      refine Settings.run_of_unloaded (Descriptor.allOnTree_eq_error_iff.mpr ?_)
      refine ⟨before, path, after, split, fun earlier mem => ?_, ?_⟩
      · obtain ⟨own, loads⟩ := loaded earlier mem
        exact ⟨own, Descriptor.loads_iff.mp loads⟩
      · rwa [Descriptor.result_loadDescriptor] at failed

namespace Products

/-! Two descriptors, a third one that lists no types, and two templates; the second template has a
name that no record changes. -/

def types : Path := Path.ofText "types.toml".toList

def more : Path := Path.ofText "more.toml".toList

def other : Path := Path.ofText "other.toml".toList

def header : Path := Path.ofText "src/t_@t@.h".toList

def plain : Path := Path.ofText "plain.c".toList

def out : Path := Path.ofText "out".toList

def tree : FileTree :=
  ((((FileTree.scratch []).writeFile types (Utf8.encode
    "[[types_list]]\nt = 'd'\n[[types_list]]\nt = 'z'\n".toList)).writeFile more
      (Utf8.encode "[[types_list]]\nt = 'i'\n".toList)).writeFile other
        (Utf8.encode "t = 'i'\n".toList)).writeFile plain (Utf8.encode "@t@".toList)

def ofType (replacement : Text) : Record := ⟨[(⟨"t".toList, by decide⟩, replacement)]⟩

def each : List (List Record) :=
  [[ofType "d".toList, ofType "z".toList], [ofType "i".toList]]

def jobs : List Job :=
  [⟨0, header, Path.ofText "out/t_d.h".toList⟩, ⟨0, plain, Path.ofText "out/plain.c".toList⟩,
    ⟨1, header, Path.ofText "out/t_z.h".toList⟩, ⟨1, plain, Path.ofText "out/plain.c".toList⟩,
    ⟨2, header, Path.ofText "out/t_i.h".toList⟩, ⟨2, plain, Path.ofText "out/plain.c".toList⟩]

theorem plan_is_product_of_two_descriptors :
    (Plan.Product each.flatten [header, plain] out jobs ∧
      ∃ log, (preview (m := Simulation) ⟨[types, more], [header, plain], out⟩).run ⟨tree, []⟩ =
        (plan (m := Simulation) each.flatten [header, plain] out).run ⟨tree, log⟩) ∧
    Plan.FirstRefused tree Path.dot each.flatten [header, plain]
      (.file .writeOutput (Path.ofText "./plain.c".toList) (.overwrites plain)) ∧
    ∃ log, (generate (m := Simulation) ⟨[types, other, header], [header, plain], out⟩).run
      ⟨tree, []⟩ = (.error (.configuration other), ⟨tree, log⟩) := by
  have loadsTypes : Descriptor.Loads ⟨tree, []⟩ types [ofType "d".toList, ofType "z".toList] := by
    unfold Descriptor.Loads
    decide +kernel
  have loadsMore : Descriptor.Loads ⟨tree, []⟩ more [ofType "i".toList] := by
    unfold Descriptor.Loads
    decide +kernel
  refine ⟨?_, ?_, ?_⟩
  · obtain ⟨-, product, -⟩ := plan_is_product.1 each.flatten [header, plain] out ⟨tree, []⟩
    obtain ⟨previews, -⟩ := (plan_is_product.2 ⟨[types, more], [header, plain], out⟩ ⟨tree, []⟩).1
      each (.cons loadsTypes (.cons loadsMore .nil))
    exact ⟨product jobs (by decide +kernel), previews⟩
  · obtain ⟨-, -, refused⟩ := plan_is_product.1 each.flatten [header, plain] Path.dot ⟨tree, []⟩
    exact (refused _).mp (by decide +kernel)
  · have before : ∀ earlier ∈ [types], ∃ own, Descriptor.Loads ⟨tree, []⟩ earlier own := by
      intro earlier mem
      obtain rfl := List.mem_singleton.mp mem
      exact ⟨_, loadsTypes⟩
    exact ((plan_is_product.2 ⟨[types, other, header], [header, plain], out⟩ ⟨tree, []⟩).2
      [types] other [header] _ rfl before (by decide +kernel)).2

end Products

end Stencil
