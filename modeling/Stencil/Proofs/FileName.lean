import Mathlib.Data.List.Induction
import Stencil.Expansion
import Stencil.Proofs.Spelling

/-! The file name of a path, read off its end.  Behind the last name only slashes and `.` may stand; in
front of it anything that a slash closes.  Every path ends in a name, ends in `..`, or has no component
but the root or a `.` in front. -/

namespace Stencil

namespace Path

/-- What may stand behind the last component of a path. -/
inductive Trails : Path → Prop
  | nil : Trails []
  | separator {p : Path} (more : Trails p) : Trails (slash :: p)
  | here {p : Path} (more : Trails p) : Trails (slash :: (dot ++ p))

/-- The last component of a path, as it is written. -/
def EndsIn (s : Bytes) (p : Path) : Prop :=
  ∃ lead trail, Opens lead ∧ Trails trail ∧ p = lead ++ s ++ trail

/-- A path of slashes and `.` only, or an empty one. -/
def Bare (p : Path) : Prop := Trails p ∨ ∃ trail, Trails trail ∧ p = dot ++ trail

variable {p trail : Path} {s : Bytes} {n : Name}

theorem Trails.append {more : Path} (trails : Trails trail) (also : Trails more) :
    Trails (trail ++ more) := by
  induction trails with
  | nil => exact also
  | separator _ ih => exact .separator ih
  | here _ ih => exact .here ih

theorem EndsIn.append (ends : EndsIn s p) (trails : Trails trail) : EndsIn s (p ++ trail) := by
  obtain ⟨lead, behind, opens, also, rfl⟩ := ends
  exact ⟨lead, behind ++ trail, opens, also.append trails, by simp only [List.append_assoc]⟩

theorem Bare.append (bare : Bare p) (trails : Trails trail) : Bare (p ++ trail) := by
  rcases bare with only | ⟨behind, also, rfl⟩
  · exact .inl (only.append trails)
  · exact .inr ⟨behind ++ trail, also.append trails, List.append_assoc ..⟩

theorem components_append_of_trails (nonempty : p ≠ []) (trails : Trails trail) :
    components (p ++ trail) = p.components := by
  induction trails generalizing p with
  | nil => rw [List.append_nil]
  | @separator q _ ih =>
    have front : p ++ slash :: q = p ++ [slash] ++ q := by simp
    rw [front, ih (by simp), components_append_slash_nil nonempty]
  | @here q _ ih =>
    have front : p ++ slash :: (dot ++ q) = p ++ slash :: dot ++ q := by simp
    have skipped : (segments dot).filterMap segmentComponent = [] := rfl
    rw [front, ih (by simp), components_append_slash, skipped, List.append_nil,
      components_append_slash_nil nonempty]

theorem getLast?_components_of_endsIn {c : Component} (clear : slash ∉ s)
    (component : segmentComponent s = some c) (ends : EndsIn s p) :
    p.components.getLast? = some c := by
  obtain ⟨lead, trail, opens, trails, rfl⟩ := ends
  have nonempty : lead ++ s ≠ [] := by
    intro none
    obtain ⟨-, rfl⟩ := List.append_eq_nil_iff.mp none
    simp [segmentComponent] at component
  rw [components_append_of_trails nonempty trails, components_append_of_opens opens clear component,
    List.getLast?_concat]

theorem components_of_bare (bare : Bare p) :
    p.components = [] ∨ p.components = [.root] ∨ p.components = [.here] := by
  rcases bare with trails | ⟨trail, trails, rfl⟩
  · cases trails with
    | nil => exact .inl rfl
    | @separator q more =>
      exact .inr (.inl (components_append_of_trails (p := [slash]) (List.cons_ne_nil _ _) more))
    | @here q more =>
      exact .inr (.inl (components_append_of_trails (p := slash :: dot) (List.cons_ne_nil _ _) more))
  · exact .inr (.inr (components_append_of_trails (p := dot) (List.cons_ne_nil _ _) trails))

theorem bare_or_endsIn (p : Path) :
    Bare p ∨ ∃ s c, slash ∉ s ∧ segmentComponent s = some c ∧ EndsIn s p := by
  cases pieces : p.segments with
  | nil => exact absurd pieces (segments_ne_nil p)
  | cons first rest =>
    have clear : ∀ s ∈ first :: rest, slash ∉ s := fun s mem =>
      slash_notMem_of_mem_segments (pieces ▸ mem)
    rw [show p = first ++ rest.flatMap (slash :: ·) from eq_append_of_splitAt pieces]
    clear pieces
    -- From the back: a segment that is no component belongs to what trails.
    induction rest using List.reverseRecOn with
    | nil =>
      rw [List.flatMap_nil, List.append_nil]
      rcases segmentComponent_cases first with ⟨-, rfl | rfl⟩ | ⟨c, component, -⟩
      · exact .inl (.inl .nil)
      · exact .inl (.inr ⟨[], .nil, rfl⟩)
      · refine .inr ⟨first, c, clear first List.mem_cons_self, component, [], [], .inl rfl, .nil, ?_⟩
        rw [List.nil_append, List.append_nil]
    | append_singleton rest s ih =>
      have before := ih fun other mem => clear other (by
        rw [← List.cons_append]
        exact List.mem_append_left _ mem)
      rw [List.flatMap_append, List.flatMap_singleton, ← List.append_assoc]
      rcases segmentComponent_cases s with ⟨-, skipped⟩ | ⟨c, component, -⟩
      · have trails : Trails (slash :: s) := by
          rcases skipped with rfl | rfl
          · exact .separator .nil
          · exact .here .nil
        rcases before with bare | ⟨s', c, clear', component, ends⟩
        · exact .inl (bare.append trails)
        · exact .inr ⟨s', c, clear', component, ends.append trails⟩
      · refine .inr ⟨s, c, clear s (by simp), component, first ++ rest.flatMap (slash :: ·) ++ [slash],
          [], .inr List.getLast?_concat, .nil, ?_⟩
        simp

theorem fileName?_of_endsIn (name : IsName n) (ends : EndsIn n p) : p.fileName? = some n := by
  rw [fileName?, getLast?_components_of_endsIn name.2.1 (segmentComponent_of_isName name) ends]

theorem fileName?_of_endsIn_dotDot (ends : EndsIn dotDot p) : p.fileName? = none := by
  rw [fileName?, getLast?_components_of_endsIn (by decide) rfl ends]

theorem fileName?_of_bare (bare : Bare p) : p.fileName? = none := by
  rcases components_of_bare bare with none | root | here
  · rw [fileName?, none]
    rfl
  · rw [fileName?, root]
    rfl
  · rw [fileName?, here]
    rfl

theorem ending_cases (p : Path) : (∃ n, IsName n ∧ EndsIn n p) ∨ EndsIn dotDot p ∨ Bare p := by
  rcases bare_or_endsIn p with bare | ⟨s, c, clear, component, ends⟩
  · exact .inr (.inr bare)
  · unfold segmentComponent at component
    split_ifs at component with skipped up
    · subst up
      exact .inr (.inl ends)
    · rw [not_or] at skipped
      exact .inl ⟨s, ⟨skipped.1, clear, skipped.2, up⟩, ends⟩

theorem fileName?_eq_none_iff : p.fileName? = none ↔ EndsIn dotDot p ∨ Bare p := by
  constructor
  · intro none
    refine (ending_cases p).resolve_left ?_
    rintro ⟨n, name, ends⟩
    simp [fileName?_of_endsIn name ends] at none
  · rintro (ends | bare)
    · exact fileName?_of_endsIn_dotDot ends
    · exact fileName?_of_bare bare

end Path

namespace Output

open Stencil.Path (IsName EndsIn Bare dotDot)

theorem name_eq_error_iff {template : Path} {record : Record} {failure : Failure} :
    name template record = .error failure ↔
      template.fileName? = none ∧ failure = .namelessTemplate template := by
  unfold name
  cases template.fileName? with
  | none => simp [eq_comm]
  | some n => simp

/-- Only the name that a template's path ends in tells where its output goes. -/
theorem name_of_last_component (template : Path) (record : Record) :
    (∀ n, IsName n → EndsIn n template →
      name template record = .ok (record.apply (Utf8.decodeLossy n))) ∧
    (∀ failure, name template record = .error failure ↔
      failure = .namelessTemplate template ∧ (EndsIn dotDot template ∨ Bare template)) ∧
    ((EndsIn dotDot template ∨ Bare template) ↔ ¬ ∃ n, IsName n ∧ EndsIn n template) := by
  refine ⟨fun n isName ends => ?_, fun failure => ?_, fun nameless => ?_, fun none => ?_⟩
  · rw [name, Path.fileName?_of_endsIn isName ends]
    rfl
  · rw [name_eq_error_iff, Path.fileName?_eq_none_iff, and_comm]
  · rintro ⟨n, isName, ends⟩
    have missing := Path.fileName?_eq_none_iff.mpr nameless
    simp [Path.fileName?_of_endsIn isName ends] at missing
  · exact (Path.ending_cases template).resolve_left none

theorem name_of_last_component_lossy :
    let record : Record := ⟨[(⟨"x".toList, by decide⟩, "1".toList)]⟩
    let n : Name := Path.ofText "n".toList ++ 0xFF :: Path.ofText "@x@".toList
    let template := Path.ofText "/a@x@/..//".toList ++ n ++ Path.ofText "//./".toList
    (IsName n ∧ EndsIn n template ∧ name template record = .ok "n\uFFFD1".toList) ∧
      EndsIn dotDot (Path.ofText "a/../.".toList) ∧
      name (Path.ofText "a/../.".toList) record =
        .error (.namelessTemplate (Path.ofText "a/../.".toList)) := by
  intro record n template
  have isName : IsName n := by decide
  have ends : EndsIn n template :=
    ⟨_, _, .inr (by decide), .separator (.here (.separator .nil)), rfl⟩
  have climbs : EndsIn dotDot (Path.ofText "a/../.".toList) :=
    ⟨Path.ofText "a/".toList, _, .inr (by decide), .here .nil, rfl⟩
  have named := (name_of_last_component template record).1 n isName ends
  have nameless := (name_of_last_component (Path.ofText "a/../.".toList) record).2.1
  exact ⟨⟨isName, ends, named.trans (by decide)⟩, climbs, (nameless _).mpr ⟨rfl, .inl climbs⟩⟩

end Output

end Stencil
