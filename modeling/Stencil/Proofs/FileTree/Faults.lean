import Stencil.Proofs.FileTree.Walks

/-! What files complain of.  To follow a path, to create and to write fail in many ways, but the
refusal to overwrite a template is not one of them: only the guard gives that. -/

namespace Stencil

def FileFault.isRefusal : FileFault → Bool
  | .overwrites _ => true
  | _ => false

namespace FileTree

variable {t : FileTree} {intent : Intent} {at_ : Location} {segments rest : List Bytes}
  {p : Path} {fault : FileFault}

theorem not_isRefusal_of_missing (h : missing at_ rest = .error fault) :
    fault.isRefusal = false := by
  cases rest with
  | nil => simp [missing] at h
  | cons segment rest =>
    obtain rfl := Except.error.inj h
    rfl

theorem not_isRefusal_of_step {segment : Bytes}
    (h : t.step intent at_ segment rest = .error (.ended (.error fault))) :
    fault.isRefusal = false := by
  generalize ended : Walk.ended (.error fault) = ending at h
  cases stops_of_step h with
  | complains kind =>
    obtain rfl := Except.error.inj (Walk.ended.inj ended)
    revert kind
    cases fault <;> simp [FileFault.isRefusal]
  | missing absent => exact not_isRefusal_of_missing (Walk.ended.inj ended).symm
  | link here => cases ended

theorem not_isRefusal_of_walk (h : t.walk intent at_ segments = .ended (.error fault)) :
    fault.isRefusal = false := by
  refine walk_induction (motive := fun w => w = .ended (.error fault) → fault.isRefusal = false)
    (fun _ stands => by simp at stands) (fun stops same => ?_) at_ segments h
  exact not_isRefusal_of_step (same ▸ stops)

theorem not_isRefusal_of_follow {links : Nat}
    (h : t.follow intent links at_ segments = .error fault) : fault.isRefusal = false := by
  refine follow_induction (motive := fun r => r = .error fault → fault.isRefusal = false)
    (fun loops => ?_) (fun ends same => ?_) links at_ segments h
  · obtain rfl := Except.error.inj loops
    rfl
  · exact not_isRefusal_of_walk (same ▸ ends)

theorem not_isRefusal_of_resolve (h : t.resolve intent p = .error fault) :
    fault.isRefusal = false := by
  unfold resolve trace at h
  split_ifs at h
  -- a long path, a path with a NUL byte, and the empty path
  iterate 3
    obtain rfl := Except.error.inj h
    rfl
  exact not_isRefusal_of_follow h

theorem not_isRefusal_of_create (h : t.create p = .error fault) : fault.isRefusal = false := by
  unfold create at h
  cases found : t.resolve .creating p with
  | error fault' =>
    rw [found] at h
    obtain rfl := Except.error.inj h
    exact not_isRefusal_of_resolve found
  | ok place =>
    cases place with
    | vacant l => simp [found] at h
    | existing l =>
      cases here : t.at? l with
      | none =>
        obtain rfl : .notFound = fault := by simpa [found, here] using h
        rfl
      | some e =>
        cases e with
        | directory =>
          obtain rfl : .isDirectory = fault := by simpa [found, here] using h
          rfl
        | link target =>
          obtain rfl : .linkLoop = fault := by simpa [found, here] using h
          rfl
        | file id => simp [found, here] at h
        | device d => simp [found, here] at h

theorem not_isRefusal_of_writeEntry {e : Entry} {content : Bytes}
    (h : (t.writeEntry e content).1 = .error fault) : fault.isRefusal = false := by
  cases e with
  | file id => simp [writeEntry] at h
  | directory =>
    obtain rfl := Except.error.inj h
    rfl
  | link target =>
    obtain rfl := Except.error.inj h
    rfl
  | device d =>
    cases d with
    | null => simp [writeEntry] at h
    | full =>
      simp only [writeEntry] at h
      split_ifs at h
      obtain rfl := Except.error.inj h
      rfl

end FileTree

end Stencil
