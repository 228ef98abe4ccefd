import Stencil.Proofs.Descriptor.Verdict
import Stencil.Proofs.Text.OneLine

/-! The lines of a message.  A key may be any text, and the reasons for which a key is refused show it
in two ways: a key with a line break is written escaped, but one that holds the delimiter, which is
looked for first, is written as it stands, and so is a key whose value is no string. -/

namespace Stencil

open Text (OneLine oneLine_append_iff oneLine_cons_iff)

namespace KeyFault

/-- The only fault whose message holds a key as it stands. -/
inductive ShowsRaw (key : Text) : KeyFault → Prop
  | delimiter : ShowsRaw key (.containsDelimiter key)

theorem oneLine_containsDelimiter_iff {key : Text} :
    OneLine (message (.containsDelimiter key)) ↔ OneLine key := by
  have before : OneLine "key '".toList := by decide +kernel
  have behind : OneLine "' contains the delimiter '@'".toList := by decide +kernel
  unfold message
  rw [oneLine_append_iff, oneLine_append_iff]
  exact ⟨fun shown => shown.1.2, fun plain => ⟨⟨before, plain⟩, behind⟩⟩

theorem oneLine_containsLineBreak (key : Text) : OneLine (message (.containsLineBreak key)) := by
  have before : OneLine "key '".toList := by decide +kernel
  have behind : OneLine "' contains a line break".toList := by decide +kernel
  unfold message
  rw [oneLine_append_iff, oneLine_append_iff]
  exact ⟨⟨before, Text.oneLine_escaped key⟩, behind⟩

theorem oneLine_message_iff {fault : KeyFault} :
    OneLine fault.message ↔ ∀ key, fault.ShowsRaw key → OneLine key := by
  cases fault with
  | empty => exact iff_of_true (by decide +kernel) nofun
  | containsDelimiter key =>
    rw [oneLine_containsDelimiter_iff]
    constructor
    · rintro plain _ ⟨⟩
      exact plain
    · exact fun each => each key .delimiter
  | containsLineBreak key => exact iff_of_true (oneLine_containsLineBreak key) nofun

end KeyFault

namespace LoadFault

/-- The faults that are found in one element of the list. -/
inductive OfElement : LoadFault → Prop
  | entry (index : Nat) : OfElement (.invalidEntry index)
  | value (index : Nat) (key : Text) : OfElement (.invalidValue index key)
  | key (index : Nat) (fault : KeyFault) : OfElement (.invalidKey index fault)

/-- The faults whose message holds a key as it stands. -/
inductive ShowsRaw (key : Text) : LoadFault → Prop
  | value (index : Nat) : ShowsRaw key (.invalidValue index key)
  | key (index : Nat) {fault : KeyFault} (raw : fault.ShowsRaw key) :
      ShowsRaw key (.invalidKey index fault)

theorem oneLine_entry (index : Nat) : OneLine (entry index) := by
  have number : OneLine (Text.decimal index) := Text.oneLine_toDigits (by decide) index
  have before : OneLine "types_list[".toList := by decide +kernel
  unfold entry
  rw [oneLine_append_iff, oneLine_append_iff]
  exact ⟨⟨before, number⟩, by decide⟩

theorem oneLine_invalidEntry (index : Nat) : OneLine (message (.invalidEntry index)) := by
  have behind : OneLine " is not a table".toList := by decide +kernel
  exact oneLine_append_iff.mpr ⟨oneLine_entry index, behind⟩

theorem oneLine_invalidValue_iff {index : Nat} {key : Text} :
    OneLine (message (.invalidValue index key)) ↔ OneLine key := by
  have behind : OneLine " is not a string".toList := by decide +kernel
  unfold message
  rw [oneLine_append_iff, oneLine_append_iff, oneLine_cons_iff]
  exact ⟨fun shown => shown.1.2.2,
    fun plain => ⟨⟨oneLine_entry index, by decide, plain⟩, behind⟩⟩

theorem oneLine_invalidKey_iff {index : Nat} {fault : KeyFault} :
    OneLine (message (.invalidKey index fault)) ↔ OneLine fault.message := by
  have between : OneLine ": ".toList := by decide +kernel
  unfold message
  rw [oneLine_append_iff, oneLine_append_iff]
  exact ⟨fun shown => shown.2, fun plain => ⟨⟨oneLine_entry index, between⟩, plain⟩⟩

theorem OfElement.oneLine_message_iff {fault : LoadFault} (element : fault.OfElement) :
    OneLine fault.message ↔ ∀ key, fault.ShowsRaw key → OneLine key := by
  cases element with
  | entry index => exact iff_of_true (oneLine_invalidEntry index) nofun
  | value index key =>
    rw [oneLine_invalidValue_iff]
    constructor
    · rintro plain _ ⟨⟩
      exact plain
    · exact fun each => each key (.value index)
  | key index fault =>
    rw [oneLine_invalidKey_iff, KeyFault.oneLine_message_iff]
    constructor
    · rintro each key ⟨⟩
      exact each key ‹_›
    · exact fun each key raw => each key (.key index raw)

end LoadFault

theorem Failure.oneLine_load_iff {path : Path} (plain : 10 ∉ path ∧ 13 ∉ path) {fault : LoadFault} :
    OneLine (load path fault).message ↔ OneLine fault.message := by
  have before : OneLine "failed to load descriptor '".toList := by decide +kernel
  have between : OneLine "': ".toList := by decide +kernel
  have shown := Path.oneLine_display plain
  unfold message
  rw [oneLine_append_iff, oneLine_append_iff, oneLine_append_iff]
  exact ⟨fun whole => whole.2, fun plain => ⟨⟨⟨before, shown⟩, between⟩, plain⟩⟩

namespace Descriptor

open Toml (Value)

theorem exists_flaw_of_parse {text : Text} {path : Path} {fault : LoadFault}
    (failed : parse text path = .error (.load path fault)) (element : fault.OfElement) :
    ∃ before value after, Toml.lookup text listKey = .ok (some (.array (before ++ value :: after))) ∧
      (∀ other ∈ before, Value.IsRecord other) ∧ Flaw before.length value fault := by
  cases found : Toml.lookup text listKey with
  | error error =>
    simp only [parse, found, Except.error.injEq, Failure.load.injEq, true_and] at failed
    subst failed
    cases element
  | ok binding =>
    have verdict := (parse_eq_iff found).mp failed
    cases verdict with
    | notAList other => cases element
    | @flawed before after value fault sound flaw =>
      exact ⟨before, value, after, rfl, sound, flaw⟩

/-- A fault found in an element is told on one line, unless it shows a key with a line break. -/
theorem failure_oneLine_iff {text : Text} {path : Path} {fault : LoadFault}
    (failed : parse text path = .error (.load path fault)) (element : fault.OfElement)
    (plain : 10 ∉ path ∧ 13 ∉ path) :
    (∃ before value after,
      Toml.lookup text listKey = .ok (some (.array (before ++ value :: after))) ∧
      (∀ other ∈ before, Value.IsRecord other) ∧ Flaw before.length value fault) ∧
    (OneLine (Failure.load path fault).message ↔ ∀ key, fault.ShowsRaw key → OneLine key) := by
  refine ⟨exists_flaw_of_parse failed element, ?_⟩
  rw [Failure.oneLine_load_iff plain]
  exact element.oneLine_message_iff

namespace Broken

/-! Keys with a line break: under a string, under a number, and beside the delimiter. -/

def path : Path := Path.ofText "types.toml".toList

def key : Text := "a\nb".toList

def marked : Text := "a@\nb".toList

def plainText : Text := "types_list = [\x7b \"a\\nb\" = 'x' \x7d]\n".toList

def numberText : Text := "types_list = [\x7b \"a\\nb\" = 1 \x7d]\n".toList

def markedText : Text := "types_list = [\x7b \"a@\\nb\" = 'x' \x7d]\n".toList

theorem failure_oneLine_of_string :
    parse plainText path = .error (.load path (.invalidKey 0 (.containsLineBreak key))) ∧
      OneLine (Failure.load path (.invalidKey 0 (.containsLineBreak key))).message := by
  have failed : parse plainText path =
      .error (.load path (.invalidKey 0 (.containsLineBreak key))) := by decide +kernel
  have told := (failure_oneLine_iff failed (.key 0 _) (by decide +kernel)).2
  refine ⟨failed, told.mpr fun _ raw => ?_⟩
  cases raw with
  | key _ raw => nomatch raw

theorem failure_two_lines :
    ¬ (∀ text path fault, 10 ∉ path ∧ 13 ∉ path → LoadFault.OfElement fault →
      parse text path = .error (.load path fault) → OneLine (Failure.load path fault).message) ∧
    (parse numberText path = .error (.load path (.invalidValue 0 key)) ∧
      ¬ OneLine (Failure.load path (.invalidValue 0 key)).message) ∧
    parse markedText path = .error (.load path (.invalidKey 0 (.containsDelimiter marked))) ∧
      ¬ OneLine (Failure.load path (.invalidKey 0 (.containsDelimiter marked))).message := by
  have plain : 10 ∉ path ∧ 13 ∉ path := by decide +kernel
  have number : parse numberText path = .error (.load path (.invalidValue 0 key)) := by
    decide +kernel
  have mark : parse markedText path =
      .error (.load path (.invalidKey 0 (.containsDelimiter marked))) := by decide +kernel
  have first : ¬ OneLine (Failure.load path (.invalidValue 0 key)).message := by decide +kernel
  have second : ¬ OneLine
      (Failure.load path (.invalidKey 0 (.containsDelimiter marked))).message := by decide +kernel
  exact ⟨fun each => first (each _ _ _ plain (.value 0 key) number), ⟨number, first⟩, mark, second⟩

end Broken

end Descriptor

end Stencil
