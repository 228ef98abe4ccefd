import Mathlib.Tactic.SplitIfs
import Stencil.Text.Basic

/-! The lines of a displayed text, and the line feeds among its breaks.  Every line is closed by its last
character; a break further inside can only be a carriage return whose line feed comes next. -/

namespace Stencil.Text

variable {front rest part : Text} {c : Char}

/-- Every break in a text, but one that nothing follows, is a line feed or has one right behind it. -/
def LineFed (front rest : Text) : Prop :=
  ∀ before c after, front = before ++ c :: after → endsDisplayLine c = true → after ++ rest ≠ [] →
    c = '\n' ∨ c = '\r' ∧ (after ++ rest).head? = some '\n'

theorem lineFed_nil (rest : Text) : LineFed [] rest := by
  intro before c after split
  simp at split

theorem lineFed_cons_iff :
    LineFed (c :: front) rest ↔
      (endsDisplayLine c = true → front ++ rest ≠ [] →
        c = '\n' ∨ c = '\r' ∧ (front ++ rest).head? = some '\n') ∧ LineFed front rest := by
  constructor
  · intro fed
    exact ⟨fed [] c front rfl, fun before c' after split =>
      fed (c :: before) c' after (congrArg (c :: ·) split)⟩
  · rintro ⟨first, later⟩ before c' after split
    cases before with
    | nil =>
      obtain ⟨rfl, rfl⟩ := List.cons.inj split
      exact first
    | cons b before =>
      obtain ⟨-, split⟩ := List.cons.inj split
      exact later before c' after split

instance : (front rest : Text) → Decidable (LineFed front rest)
  | [], rest => .isTrue (lineFed_nil rest)
  | _ :: front, rest =>
    have : Decidable (LineFed front rest) := instDecidableLineFed front rest
    decidable_of_iff' _ lineFed_cons_iff

theorem lineFed_append_iff :
    LineFed (front ++ part) rest ↔ LineFed front (part ++ rest) ∧ LineFed part rest := by
  induction front with
  | nil => simp [lineFed_nil]
  | cons c front ih => rw [List.cons_append, lineFed_cons_iff, lineFed_cons_iff, ih, and_assoc,
      List.append_assoc]

/-- A line is what stands before its last character, and that; lines with something behind them are
closed. -/
inductive Displays : Text → List Text → Prop
  | nil : Displays [] []
  | line (inner : Text) {last : Char} {rest : Text} {lines : List Text} (clear : '\n' ∉ inner)
      (inside : LineFed inner (last :: rest))
      (closed : rest ≠ [] → endsDisplayLine last = true ∧ (last = '\r' → rest.head? ≠ some '\n'))
      (more : Displays rest lines) :
      Displays (inner ++ last :: rest) ((inner ++ [last]) :: lines)

theorem Displays.consPiece {lines : List Text} (displays : Displays rest lines)
    (open_ : endsDisplayLine c = false) : Displays (c :: rest) (consPiece c lines) := by
  have other : '\n' ≠ c := by
    rintro rfl
    simp [endsDisplayLine] at open_
  cases displays with
  | nil => exact .line [] (by simp) (lineFed_nil _) (fun more => absurd rfl more) .nil
  | line _ clear inside closed more =>
    refine .line (c :: _) (by simp [other, clear]) ?_ closed more
    exact lineFed_cons_iff.mpr ⟨fun ends => by simp [open_] at ends, inside⟩

theorem displays_displayLines (t : Text) : Displays t (displayLines t) := by
  fun_induction displayLines t with
  | case1 => exact .nil
  | case2 rest ih =>
    refine .line ['\r'] (by decide) (lineFed_cons_iff.mpr ⟨?_, lineFed_nil _⟩)
      (fun _ => ⟨rfl, fun same => by simp at same⟩) ih
    exact fun _ _ => .inr ⟨rfl, rfl⟩
  | case3 c rest alone ends ih =>
    refine .line [] (by simp) (lineFed_nil _) (fun _ => ⟨ends, ?_⟩) ih
    rintro rfl feed
    obtain ⟨rest, rfl⟩ := List.head?_eq_some_iff.mp feed
    exact alone rest rfl rfl
  | case4 c rest alone open_ ih => exact ih.consPiece (by simpa using open_)

theorem Displays.flatten_eq {t : Text} {lines : List Text} (displays : Displays t lines) :
    lines.flatten = t := by
  induction displays with
  | nil => rfl
  | line _ clear inside closed more ih => simp [ih]

theorem Displays.eq_nil_iff {t : Text} {lines : List Text} (displays : Displays t lines) :
    lines = [] ↔ t = [] := by
  cases displays <;> simp

end Stencil.Text
