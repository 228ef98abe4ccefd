import Stencil.Proofs.Substitution.Lookup
import Stencil.Proofs.Substitution.Tokens

/-! Tokens between literals, all of them replaced at once.  The pairs of a record go over a text one
after another, and what one of them writes could make a token for the next.  It cannot where the
replacements hold no delimiter and every literal between two tokens holds a character that no key
has: then the pairs so far have filled the slots of their keys and touched nothing else. -/

namespace Stencil

open Placeholder (delimiter)

/-- A token of a text, whose name need not be a key, and the literal behind it. -/
structure Slot where
  name : Text
  literal : Text

namespace Slot

def token (slot : Slot) : Text := delimiter :: (slot.name ++ [delimiter])

def Clear (slot : Slot) : Prop := delimiter ∉ slot.name ∧ delimiter ∉ slot.literal

/-- The literal has a character that is in none of the keys. -/
def ForeignTo (keys : List Text) (slot : Slot) : Prop :=
  ∃ c ∈ slot.literal, ∀ key ∈ keys, c ∉ key

instance : DecidablePred Clear := fun _ => inferInstanceAs (Decidable (_ ∧ _))

-- goes over the literal, where the instance search may go over all characters there are
instance (keys : List Text) : DecidablePred (ForeignTo keys) := fun slot =>
  List.decidableBEx (fun c => ∀ key ∈ keys, c ∉ key) slot.literal

theorem ForeignTo.of_perm {keys keys' : List Text} {slot : Slot} (foreign : slot.ForeignTo keys)
    (perm : keys'.Perm keys) : slot.ForeignTo keys' := by
  obtain ⟨c, mem, other⟩ := foreign
  exact ⟨c, mem, fun key listed => other key (perm.mem_iff.mp listed)⟩

theorem token_append (slot : Slot) (t : Text) :
    slot.token ++ t = delimiter :: (slot.name ++ delimiter :: t) := by
  simp [token]

end Slot

/-- A text with tokens in it: `L0 @k1@ L1 @k2@ … @kn@ Ln`. -/
structure Slotted where
  lead : Text
  slots : List Slot

namespace Slotted

def text (x : Slotted) : Text :=
  x.lead ++ x.slots.flatMap fun slot => slot.token ++ slot.literal

/-- The slots with the replacements of their names; a name without one keeps its token. -/
def fill (value? : Text → Option Text) (slots : List Slot) : Text :=
  slots.flatMap fun slot => (value? slot.name).getD slot.token ++ slot.literal

def filled (value? : Text → Option Text) (x : Slotted) : Text := x.lead ++ fill value? x.slots

/-- The literals and the names hold no delimiter, and every literal between two tokens is foreign to
the keys. -/
structure Apart (keys : List Text) (x : Slotted) : Prop where
  lead : delimiter ∉ x.lead
  clear : ∀ slot ∈ x.slots, slot.Clear
  foreign : ∀ slot ∈ x.slots.dropLast, slot.ForeignTo keys

theorem Apart.of_perm {x : Slotted} {keys keys' : List Text} (apart : x.Apart keys)
    (perm : keys'.Perm keys) : x.Apart keys' where
  lead := apart.lead
  clear := apart.clear
  foreign slot mem := (apart.foreign slot mem).of_perm perm

theorem fill_cons (value? : Text → Option Text) (slot : Slot) (slots : List Slot) :
    fill value? (slot :: slots) =
      (value? slot.name).getD slot.token ++ (slot.literal ++ fill value? slots) := by
  simp [fill]

section

variable {keys : List Text} {slots : List Slot} {done : List (Placeholder × Text)}

theorem not_token_prefix_fill {p : Placeholder} (listed : p.key ∈ keys) {slot : Slot}
    (clear : slot.Clear) (foreign : slot ∈ (slot :: slots).dropLast → slot.ForeignTo keys)
    (value? : Text → Option Text) :
    ¬ p.token <+: delimiter :: (slot.literal ++ fill value? slots) := by
  cases slots with
  | nil =>
    rw [show fill value? [] = [] from rfl, List.append_nil]
    exact p.not_token_prefix_last clear.2
  | cons next slots =>
    obtain ⟨c, mem, other⟩ := foreign List.mem_cons_self
    exact p.not_token_prefix_of_foreign clear.2 mem (other p.key listed) _

theorem replaceAll_fill {p : Placeholder} (value : Text) (listed : p.key ∈ keys)
    (plain : ∀ pair ∈ done, delimiter ∉ pair.2) (clear : ∀ slot ∈ slots, slot.Clear)
    (foreign : ∀ slot ∈ slots.dropLast, slot.ForeignTo keys) :
    p.replaceAll value (fill (Record.mk done).get? slots) =
      fill (Record.mk (done ++ [(p, value)])).get? slots := by
  induction slots with
  | nil => rfl
  | cons slot slots ih =>
    obtain ⟨here, later⟩ := List.forall_mem_cons.mp clear
    have rest := ih later fun other mem => foreign other (dropLast_subset_cons slots mem)
    have literal := p.replaceAll_append_of_clear value here.2 (fill (Record.mk done).get? slots)
    rw [rest] at literal
    rw [fill_cons, fill_cons, Record.get?_append, Record.get?_singleton]
    cases known : (Record.mk done).get? slot.name with
    | some filled =>
      obtain ⟨pair, mem, -, rfl⟩ := Record.mem_of_get? known
      rw [Option.getD_some, p.replaceAll_append_of_clear value (plain pair mem), literal]
      rfl
    | none =>
      rw [Option.getD_none, slot.token_append, Option.none_or]
      by_cases same : p.key = slot.name
      · rw [← same, p.replaceAll_segment_of_eq, literal, if_pos rfl, Option.getD_some]
      · have closed := not_token_prefix_fill listed here (foreign slot) (Record.mk done).get?
        rw [p.replaceAll_segment_of_ne value here.1 (Ne.symm same),
          p.replaceAll_delimiter_append value here.2 closed, rest, if_neg same,
          Option.getD_none, slot.token_append]

/-- What is left of a record goes over a text in which the pairs `done` have filled their slots. -/
theorem applyPairs_fill {pairs : List (Placeholder × Text)} {lead : Text}
    (clear_lead : delimiter ∉ lead) (listed : ∀ pair ∈ pairs, pair.1.key ∈ keys)
    (plain : ∀ pair ∈ done ++ pairs, delimiter ∉ pair.2) (clear : ∀ slot ∈ slots, slot.Clear)
    (foreign : ∀ slot ∈ slots.dropLast, slot.ForeignTo keys) :
    Record.applyPairs pairs (lead ++ fill (Record.mk done).get? slots) =
      lead ++ fill (Record.mk (done ++ pairs)).get? slots := by
  induction pairs generalizing done with
  | nil => rw [List.append_nil]; rfl
  | cons pair pairs ih =>
    obtain ⟨p, value⟩ := pair
    obtain ⟨here, later⟩ := List.forall_mem_cons.mp listed
    have regroup : done ++ (p, value) :: pairs = done ++ [(p, value)] ++ pairs := by simp
    have step := replaceAll_fill value here
      (fun pair mem => plain pair (List.mem_append_left _ mem)) clear foreign
    rw [Record.applyPairs, p.replaceAll_append_of_clear value clear_lead, step, regroup]
    exact ih later (regroup ▸ plain)

end

theorem apply_text {r : Record} (plain : ∀ pair ∈ r.pairs, delimiter ∉ pair.2) {x : Slotted}
    (apart : x.Apart r.keys) : r.apply x.text = x.filled r.get? := by
  have listed : ∀ pair ∈ r.pairs, pair.1.key ∈ r.keys := fun pair mem => List.mem_map_of_mem mem
  have begun : x.text = x.lead ++ fill (Record.mk []).get? x.slots := rfl
  rw [begun]
  exact applyPairs_fill apart.lead listed plain apart.clear apart.foreign

/-- A record fills all slots at once, each with the replacement of its name, so its pairs can stand in
any order. -/
theorem apply_slotted {r : Record} (plain : ∀ pair ∈ r.pairs, delimiter ∉ pair.2) {x : Slotted}
    (apart : x.Apart r.keys) :
    r.apply x.text = x.filled r.get? ∧
      (r.keys.Nodup → ∀ r' : Record, r'.pairs.Perm r.pairs →
        r'.apply x.text = r.apply x.text) := by
  refine ⟨apply_text plain apart, fun distinct r' perm => ?_⟩
  have plain' : ∀ pair ∈ r'.pairs, delimiter ∉ pair.2 := fun pair mem =>
    plain pair (perm.mem_iff.mp mem)
  have same : r'.get? = r.get? := funext (Record.get?_of_perm distinct perm)
  rw [apply_text plain apart, apply_text plain' (apart.of_perm (Record.keys_perm perm)), same]

theorem apply_slotted_reversed :
    let r : Record := ⟨[(⟨"a".toList, by decide⟩, "b".toList), (⟨"b".toList, by decide⟩, [])]⟩
    let x : Slotted := ⟨"a".toList, [⟨"a".toList, "-b".toList⟩, ⟨"c".toList, " ".toList⟩,
      ⟨"b".toList, "a".toList⟩]⟩
    (∀ pair ∈ r.pairs, delimiter ∉ pair.2) ∧ x.Apart r.keys ∧ r.keys.Nodup ∧
      x.text = "a@a@-b@c@ @b@a".toList ∧ r.apply x.text = "ab-b@c@ a".toList ∧
      (Record.mk r.pairs.reverse).apply x.text = r.apply x.text := by
  intro r x
  have plain : ∀ pair ∈ r.pairs, delimiter ∉ pair.2 := by decide
  have apart : x.Apart r.keys := ⟨by decide, by decide, by decide⟩
  have distinct : r.keys.Nodup := by decide
  have law := apply_slotted plain apart
  exact ⟨plain, apart, distinct, rfl, law.1, law.2 distinct _ (List.reverse_perm r.pairs)⟩

/-- A literal made of the characters of a key can be taken for one, and then the order matters. -/
example :
    let a : Placeholder × Text := (⟨"a".toList, by decide⟩, "y".toList)
    let b : Placeholder × Text := (⟨"b".toList, by decide⟩, "x".toList)
    (Record.mk [a, b]).apply "@a@b@a@".toList = "yby".toList ∧
      (Record.mk [b, a]).apply "@a@b@a@".toList = "@axa@".toList := by
  decide

end Slotted

end Stencil
