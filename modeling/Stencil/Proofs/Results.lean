import Mathlib.Data.List.Forall2

/-! Results that may be errors: when a sequence of two steps succeeds, and when a step that is
repeated along a list does. -/

namespace Stencil

variable {ε α β γ : Type}

theorem map_eq_ok_iff {f : α → β} {x : Except ε α} {b : β} :
    x.map f = .ok b ↔ ∃ a, x = .ok a ∧ f a = b := by
  cases x <;> simp [Except.map]

theorem map_eq_error_iff {f : α → β} {x : Except ε α} {e : ε} :
    x.map f = .error e ↔ x = .error e := by
  cases x <;> simp [Except.map]

theorem exists_map_eq_ok_iff {f : α → β} {x : Except ε α} :
    (∃ b, x.map f = .ok b) ↔ ∃ a, x = .ok a := by
  cases x <;> simp [Except.map]

theorem bind_eq_ok_iff {f : α → Except ε β} {x : Except ε α} {b : β} :
    (x >>= f) = .ok b ↔ ∃ a, x = .ok a ∧ f a = .ok b := by
  cases x <;> simp [bind, Except.bind]

theorem eq_ok_iff_forall₂ {f : List α → Except ε (List β)} {g : α → Except ε β}
    (nil : f [] = .ok [])
    (cons : ∀ x xs, f (x :: xs) = (g x).bind fun y => (f xs).map (y :: ·)) {xs : List α}
    {ys : List β} :
    f xs = .ok ys ↔ List.Forall₂ (fun x y => g x = .ok y) xs ys := by
  induction xs generalizing ys with
  | nil =>
    rw [nil, List.forall₂_nil_left_iff]
    exact ⟨fun same => (Except.ok.inj same).symm, fun same => congrArg _ same.symm⟩
  | cons x xs ih =>
    rw [cons, List.forall₂_cons_left_iff]
    cases first : g x with
    | error e => simp [Except.bind]
    | ok y =>
      simp only [Except.bind, map_eq_ok_iff, ih, Except.ok.injEq]
      constructor
      · rintro ⟨more, each, rfl⟩
        exact ⟨y, more, rfl, each, rfl⟩
      · rintro ⟨y', more, rfl, each, rfl⟩
        exact ⟨more, each, rfl⟩

section Counted

/-! A function that goes over a list, counts its items and stops at the first error -/

variable {f : Nat → List α → Except ε γ} {g : Nat → α → Except ε β} {h : β → γ → γ} {P : α → Prop}
  (passes : ∀ n x, (∃ y, g n x = .ok y) ↔ P x) (nil : ∀ n, ∃ c, f n [] = .ok c)
  (cons : ∀ n x xs, f n (x :: xs) = (g n x).bind fun y => (f (n + 1) xs).map (h y))
include passes nil cons

theorem exists_eq_ok_iff_counted {n : Nat} {l : List α} :
    (∃ c, f n l = .ok c) ↔ ∀ x ∈ l, P x := by
  induction l generalizing n with
  | nil => simpa using nil n
  | cons x l ih =>
    rw [cons, List.forall_mem_cons, ← passes n, ← ih]
    cases g n x with
    | error e => simp [Except.bind]
    | ok y =>
      simp only [Except.bind, exists_map_eq_ok_iff]
      exact ⟨fun rest => ⟨⟨y, rfl⟩, rest⟩, And.right⟩

theorem eq_error_iff_counted {n : Nat} {l : List α} {e : ε} :
    f n l = .error e ↔ ∃ before x after, l = before ++ x :: after ∧ (∀ y ∈ before, P y) ∧
      g (n + before.length) x = .error e := by
  induction l generalizing n with
  | nil =>
    obtain ⟨c, none⟩ := nil n
    simp [none]
  | cons x l ih =>
    have next : ∀ before : List α, n + (x :: before).length = n + 1 + before.length :=
      fun before => by rw [List.length_cons]; omega
    rw [cons]
    cases first : g n x with
    | error e' =>
      constructor
      · intro same
        obtain rfl := Except.error.inj same
        exact ⟨[], x, l, rfl, by simp, first⟩
      · rintro ⟨before, x', after, split, passed, failed⟩
        cases before with
        | nil =>
          obtain ⟨rfl, rfl⟩ := List.cons.inj split
          exact congrArg _ (Except.error.inj (first.symm.trans failed))
        | cons b before =>
          obtain ⟨rfl, -⟩ := List.cons.inj split
          obtain ⟨z, passing⟩ := (passes n x).mpr (passed x List.mem_cons_self)
          cases first.symm.trans passing
    | ok y =>
      simp only [Except.bind, map_eq_error_iff, ih]
      constructor
      · rintro ⟨before, x', after, rfl, passed, failed⟩
        refine ⟨x :: before, x', after, rfl, List.forall_mem_cons.mpr ⟨?_, passed⟩, ?_⟩
        · exact (passes n x).mp ⟨y, first⟩
        · rw [next]
          exact failed
      · rintro ⟨before, x', after, split, passed, failed⟩
        cases before with
        | nil =>
          obtain ⟨rfl, rfl⟩ := List.cons.inj split
          cases first.symm.trans failed
        | cons b before =>
          obtain ⟨rfl, rfl⟩ := List.cons.inj split
          rw [next] at failed
          exact ⟨before, x', after, rfl, (List.forall_mem_cons.mp passed).2, failed⟩

end Counted

section Uncounted

/-! The same without a count -/

variable {f : List α → Except ε γ} {g : α → Except ε β} {h : β → γ → γ} {P : α → Prop}
  (passes : ∀ x, (∃ y, g x = .ok y) ↔ P x) (nil : ∃ c, f [] = .ok c)
  (cons : ∀ x xs, f (x :: xs) = (g x).bind fun y => (f xs).map (h y))
include passes nil cons

theorem exists_eq_ok_iff_forall {l : List α} : (∃ c, f l = .ok c) ↔ ∀ x ∈ l, P x :=
  exists_eq_ok_iff_counted (f := fun _ => f) (g := fun _ => g) (fun _ => passes) (fun _ => nil)
    (fun _ => cons) (n := 0)

theorem eq_error_iff_split {l : List α} {e : ε} :
    f l = .error e ↔ ∃ before x after, l = before ++ x :: after ∧ (∀ y ∈ before, P y) ∧
      g x = .error e :=
  eq_error_iff_counted (f := fun _ => f) (g := fun _ => g) (fun _ => passes) (fun _ => nil)
    (fun _ => cons) (n := 0)

end Uncounted

theorem getElem?_take_eq_some_iff {l : List α} {a : α} {n k : Nat} :
    (l.take n)[k]? = some a ↔ k < n ∧ l[k]? = some a := by
  rw [List.getElem?_take]
  split_ifs with lt <;> simp [lt]

theorem exists_split_iff_getElem? {P Q : α → Prop} {xs : List α} :
    (∃ before x after, xs = before ++ x :: after ∧ (∀ y ∈ before, P y) ∧ Q x) ↔
      ∃ (n : Nat) (x : α), xs[n]? = some x ∧ (∀ k < n, ∀ y, xs[k]? = some y → P y) ∧ Q x := by
  constructor
  · rintro ⟨before, x, after, rfl, passed, here⟩
    refine ⟨before.length, x, by simp, fun k lt y found => passed y ?_, here⟩
    rw [List.getElem?_append_left lt] at found
    exact List.mem_of_getElem? found
  · rintro ⟨n, x, found, passed, here⟩
    obtain ⟨inside, rfl⟩ := List.getElem?_eq_some_iff.mp found
    refine ⟨xs.take n, xs[n], xs.drop (n + 1), ?_, fun y mem => ?_, here⟩
    · rw [← List.drop_eq_getElem_cons inside, List.take_append_drop]
    · obtain ⟨k, there⟩ := List.mem_iff_getElem?.mp mem
      obtain ⟨lt, there⟩ := getElem?_take_eq_some_iff.mp there
      exact passed k lt y there

theorem exists_last_split {P : α → Prop} [DecidablePred P] {xs : List α} {x : α}
    (mem : x ∈ xs) (here : P x) :
    ∃ before last later, xs = before ++ last :: later ∧ P last ∧ ∀ y ∈ later, ¬ P y := by
  have some : (xs.reverse.find? P).isSome :=
    List.find?_isSome.mpr ⟨x, List.mem_reverse.mpr mem, decide_eq_true here⟩
  obtain ⟨last, found⟩ := Option.isSome_iff_exists.mp some
  obtain ⟨kind, later, before, split, none⟩ := List.find?_eq_some_iff_append.mp found
  refine ⟨before.reverse, last, later.reverse, ?_, of_decide_eq_true kind, fun y mem => ?_⟩
  · rw [← List.reverse_reverse xs, split]
    simp
  · simpa using none y (List.mem_reverse.mp mem)

theorem exists_of_getElem?_left {R : α → β → Prop} {xs : List α} {ys : List β}
    (each : List.Forall₂ R xs ys) {n : Nat} {x : α} (found : xs[n]? = some x) :
    ∃ y, ys[n]? = some y ∧ R x y := by
  induction each generalizing n with
  | nil => simp at found
  | cons first rest ih =>
    cases n with
    | zero =>
      obtain rfl := Option.some.inj found
      exact ⟨_, rfl, first⟩
    | succ n =>
      obtain ⟨y, there, related⟩ := ih (by simpa using found)
      exact ⟨y, by simpa using there, related⟩

theorem exists_of_mem_right {R : α → β → Prop} {xs : List α} {ys : List β}
    (each : List.Forall₂ R xs ys) {y : β} (mem : y ∈ ys) : ∃ x ∈ xs, R x y := by
  induction each with
  | nil => cases mem
  | cons first rest ih =>
    rcases List.mem_cons.mp mem with rfl | later
    · exact ⟨_, List.mem_cons_self, first⟩
    · obtain ⟨x, listed, related⟩ := ih later
      exact ⟨x, List.mem_cons_of_mem _ listed, related⟩

theorem forall₂_map_of_forall₂ {γ : Type} {R : α → β → Prop} {S : β → γ → Prop} {f : α → γ}
    {xs : List α} {ys : List β} (made : List.Forall₂ R xs ys)
    (each : ∀ x ∈ xs, ∀ y, R x y → S y (f x)) : List.Forall₂ S ys (xs.map f) := by
  induction made with
  | nil => exact .nil
  | cons first rest ih =>
    obtain ⟨here, later⟩ := List.forall_mem_cons.mp each
    exact .cons (here _ first) (ih later)

end Stencil
