import Stencil.Proofs.Expansion.OnTree
import Stencil.Proofs.FileTree.Faults

/-! How an expansion fails.  It blames its template or its destination, and nothing else.  Only the
guard refuses, and then nothing has been opened yet. -/

namespace Stencil.Expansion

variable {t after : FileTree} {template destination : Path} {record : Record} {failure : Failure}

/-- The failure is that the template could not be read or that the destination could not be
written. -/
def Blames (failure : Failure) (template destination : Path) : Prop :=
  ∃ fault, failure = .file .readTemplate template fault ∨
    failure = .file .writeOutput destination fault

inductive Fails (t : FileTree) (template destination : Path) : Failure → FileTree → Prop
  | refused (same : t.SameRealPath template destination) :
      Fails t template destination (.file .writeOutput destination (.overwrites template)) t
  | reading (fault : FileFault) (after : FileTree) :
      Fails t template destination (.file .readTemplate template fault) after
  | writing {fault : FileFault} (own : fault.isRefusal = false) (after : FileTree) :
      Fails t template destination (.file .writeOutput destination fault) after

theorem outcome_eq_error {pieces : List Bytes} {reading : Option FileFault}
    {writing : Except FileFault Unit}
    (h : outcome template destination pieces reading writing = .error failure) :
    (∃ fault, failure = .file .readTemplate template fault) ∨
      ∃ fault, writing = .error fault ∧ failure = .file .writeOutput destination fault := by
  cases writing with
  | ok u =>
    cases reading with
    | none => cases h
    | some fault => exact .inl ⟨fault, (Except.error.inj h).symm⟩
  | error fault =>
    cases reading with
    | none => exact .inr ⟨fault, rfl, (Except.error.inj h).symm⟩
    | some fault' =>
      simp only [outcome] at h
      split_ifs at h
      · exact .inr ⟨fault, rfl, (Except.error.inj h).symm⟩
      · exact .inl ⟨fault', (Except.error.inj h).symm⟩

theorem fails_of_error (h : onTree t template record destination = (.error failure, after)) :
    Fails t template destination failure after := by
  unfold onTree at h
  split_ifs at h with clash
  · simp only [Prod.mk.injEq, Except.error.injEq] at h
    obtain ⟨rfl, rfl⟩ := h
    exact .refused clash
  cases found : t.openEntry template with
  | error fault =>
    simp only [found, Prod.mk.injEq, Except.error.injEq] at h
    obtain ⟨rfl, rfl⟩ := h
    exact .reading fault t
  | ok source =>
    cases made : t.create destination with
    | error fault =>
      simp only [found, made, Prod.mk.injEq, Except.error.injEq] at h
      obtain ⟨rfl, rfl⟩ := h
      exact .writing (FileTree.not_isRefusal_of_create made) t
    | ok pair =>
      obtain ⟨sink, opened⟩ := pair
      cases read : opened.readEntry source with
      | error fault =>
        simp only [found, made, read, Prod.mk.injEq, Except.error.injEq] at h
        obtain ⟨rfl, rfl⟩ := h
        exact .reading fault opened
      | ok bytes =>
        simp only [found, made, read, Prod.mk.injEq] at h
        obtain ⟨result, rfl⟩ := h
        rcases outcome_eq_error result with ⟨fault, rfl⟩ | ⟨fault, faulty, rfl⟩
        · exact .reading fault _
        · exact .writing (FileTree.not_isRefusal_of_writeEntry faulty) _

namespace Fails

theorem blames (f : Fails t template destination failure after) :
    Blames failure template destination := by
  cases f with
  | refused same => exact ⟨_, .inr rfl⟩
  | reading fault => exact ⟨fault, .inl rfl⟩
  | writing own => exact ⟨_, .inr rfl⟩

theorem of_refusal {template' destination' : Path}
    (f : Fails t template destination (.file .writeOutput destination' (.overwrites template'))
      after) :
    template' = template ∧ destination' = destination ∧ t.SameRealPath template destination ∧
      after = t := by
  cases f with
  | refused same => exact ⟨rfl, rfl, same, rfl⟩
  | writing own => cases own

end Fails

end Stencil.Expansion
