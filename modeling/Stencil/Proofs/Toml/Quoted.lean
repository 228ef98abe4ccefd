import Stencil.Toml.Nesting
import Stencil.Toml.Strings
import Stencil.Proofs.Toml.Reads
import Mathlib.Data.List.TakeWhile

/-! Basic strings written and read back.  Every character can be written in one way or another: as
itself, by a letter, or by its number in hexadecimal digits; whichever way is chosen for each, the
reader comes back with the text. -/

namespace Stencil.Toml

open Reader

/-- The escapes of a single letter, each with the character that it stands for. -/
def escapeLetters : List (Char × Char) :=
  [('b', '\x08'), ('t', '\t'), ('n', '\n'), ('f', '\x0c'), ('r', '\r'), ('"', '"'), ('\\', '\\')]

/-- The ways of writing a character in a basic string. -/
inductive Spells (c : Char) : Text → Prop
  | plain (basic : isBasicChar c = true) : Spells c [c]
  | letter {l : Char} (known : (l, c) ∈ escapeLetters) : Spells c ['\\', l]
  | short {digits : Text} (count : digits.length = 4) (hex : digits.all isHexDigit)
      (number : positional 16 digits = c.toNat) : Spells c ('\\' :: 'u' :: digits)
  | long {digits : Text} (count : digits.length = 8) (hex : digits.all isHexDigit)
      (number : positional 16 digits = c.toNat) : Spells c ('\\' :: 'U' :: digits)

def quote (spell : Char → Text) (t : Text) : Text := Text.quoted '"' '"' (t.flatMap spell)

variable {c : Char} {s rest : Text}

theorem isScalar_toNat (c : Char) : isScalar c.toNat = true := by
  have valid : c.toNat < 0xD800 ∨ 0xDFFF < c.toNat ∧ c.toNat < 0x110000 := c.valid
  simpa [isScalar] using valid

theorem reads_codePoint {count : Nat} {digits : Text} (length : digits.length = count)
    (hex : digits.all isHexDigit) (number : positional 16 digits = c.toNat) (s : Text) :
    (codePoint count).Reads (digits ++ s) c s := by
  have taken : ((digits ++ s).take count).takeWhile isHexDigit = digits := by
    rw [List.take_left' length]
    exact List.takeWhile_eq_self_iff.mpr (List.all_eq_true.mp hex)
  have dropped : (digits ++ s).drop count = s := List.drop_left' length
  simp only [Reads, codePoint, taken, dropped, length, number, isScalar_toNat]
  simp

theorem Spells.plain_or_escape {body : Text} (spells : Spells c body) :
    (isBasicChar c = true ∧ body = [c]) ∨
      ∃ tail, body = '\\' :: tail ∧ ∀ s, escape.Reads ('\\' :: (tail ++ s)) c s := by
  cases spells with
  | plain basic => exact .inl ⟨basic, rfl⟩
  | letter known =>
    refine .inr ⟨_, rfl, fun s => ?_⟩
    simp only [escapeLetters, List.mem_cons, Prod.mk.injEq, List.not_mem_nil, or_false] at known
    rcases known with ⟨rfl, rfl⟩ | ⟨rfl, rfl⟩ | ⟨rfl, rfl⟩ | ⟨rfl, rfl⟩ | ⟨rfl, rfl⟩ | ⟨rfl, rfl⟩ |
      ⟨rfl, rfl⟩ <;> rfl
  | short count hex number =>
    refine .inr ⟨_, rfl, fun s => .bind (reads_exactly '\\' _) ?_⟩
    exact (reads_codePoint count hex number s).commit.within
  | long count hex number =>
    refine .inr ⟨_, rfl, fun s => .bind (reads_exactly '\\' _) ?_⟩
    exact (reads_codePoint count hex number s).commit.within

theorem reads_basicPiece_of_basic (basic : isBasicChar c = true) (s : Text) :
    basicPiece.Reads (c :: s) (c :: s.takeWhile isBasicChar) (s.dropWhile isBasicChar) := by
  refine .orElse ?_
  simp [Reads, run1, basic]

theorem reads_basicPiece_of_escape {tail : Text}
    (reads : escape.Reads ('\\' :: tail) c rest) : basicPiece.Reads ('\\' :: tail) [c] rest :=
  .orElse_of_refuses ⟨_, rfl⟩ (.bind reads (reads_accept ..))

theorem repeats_basicPiece_cons (basic : isBasicChar c = true) {pieces : List Text}
    (repeats : Repeats basicPiece s pieces rest) :
    ∃ pieces', Repeats basicPiece (c :: s) pieces' rest ∧
      pieces'.flatten = c :: pieces.flatten := by
  have first := reads_basicPiece_of_basic basic s
  by_cases alone : s.takeWhile isBasicChar = []
  · have left : s.dropWhile isBasicChar = s := by
      have whole := List.takeWhile_append_dropWhile (p := isBasicChar) (l := s)
      rwa [alone, List.nil_append] at whole
    rw [alone, left] at first
    exact ⟨[c] :: pieces, .step first (Nat.lt_succ_self _) repeats, rfl⟩
  · -- here the run reaches into what follows, and takes the first piece there with it
    have run : basicPiece.Reads s (s.takeWhile isBasicChar) (s.dropWhile isBasicChar) :=
      .orElse (by simp [Reads, run1, alone])
    cases repeats with
    | stop refuses =>
      obtain ⟨stop, refused⟩ := refuses
      simp [Reads, refused] at run
    | @step _ mid _ piece pieces next takes more =>
      obtain ⟨rfl, rfl⟩ := Reply.done.inj (run.symm.trans next)
      exact ⟨_, .step first (Nat.lt_succ_of_lt takes) more, rfl⟩

theorem repeats_basicPiece {spell : Char → Text} (spells : ∀ c, Spells c (spell c)) (t s : Text) :
    ∃ pieces, Repeats basicPiece (t.flatMap spell ++ '"' :: s) pieces ('"' :: s) ∧
      pieces.flatten = t := by
  induction t with
  | nil => exact ⟨[], .stop ⟨_, rfl⟩, rfl⟩
  | cons c t ih =>
    obtain ⟨pieces, repeats, whole⟩ := ih
    rw [List.flatMap_cons, List.append_assoc]
    rcases (spells c).plain_or_escape with ⟨basic, plain⟩ | ⟨tail, escaped, reads⟩
    · rw [plain]
      obtain ⟨pieces', repeats', whole'⟩ := repeats_basicPiece_cons basic repeats
      exact ⟨pieces', repeats', by rw [whole', whole]⟩
    · rw [escaped]
      refine ⟨[c] :: pieces, .step (reads_basicPiece_of_escape (reads _)) ?_ repeats, ?_⟩
      · simp only [List.length_cons, List.length_append]
        omega
      · rw [List.flatten_cons, whole]
        rfl

theorem quote_append (spell : Char → Text) (t s : Text) :
    quote spell t ++ s = '"' :: (t.flatMap spell ++ '"' :: s) := by
  simp [quote, Text.quoted]

section

variable {spell : Char → Text}

theorem reads_basicString (spells : ∀ c, Spells c (spell c)) (t s : Text) :
    basicString.Reads (quote spell t ++ s) t s := by
  obtain ⟨pieces, repeats, rfl⟩ := repeats_basicPiece spells t s
  rw [quote_append]
  refine .bind (reads_exactly '"' _) (.bind repeats.reads_many ?_)
  exact .bind (reads_exactly '"' s).commit.within (reads_accept ..)

/-- No written text begins with three quotation marks, unless one follows it. -/
theorem refuses_multiline (spells : ∀ c, Spells c (spell c)) (t : Text)
    (other : s.head? ≠ some '"') : multilineBasicString.Refuses (quote spell t ++ s) := by
  refine .complaining (.bind (refuses_literal ?_))
  rw [quote_append]
  cases t with
  | nil =>
    cases s with
    | nil => rfl
    | cons d s =>
      have different : d ≠ '"' := fun same => other (by rw [same]; rfl)
      simp [delimiter, List.isPrefixOf, Ne.symm different]
  | cons c t =>
    rcases (spells c).plain_or_escape with ⟨basic, plain⟩ | ⟨tail, escaped, -⟩
    · have different : c ≠ '"' := by
        rintro rfl
        cases basic
      simp [delimiter, List.isPrefixOf, plain, Ne.symm different]
    · simp [delimiter, List.isPrefixOf, escaped]

theorem reads_string (spells : ∀ c, Spells c (spell c)) (t s : Text) (other : s.head? ≠ some '"') :
    string.Reads (quote spell t ++ s) t s :=
  .orElse_of_refuses (refuses_multiline spells t other) (.orElse (reads_basicString spells t s))

end

/-! Messages write the names of keys in basic strings too, by letters where there are letters and by
four digits elsewhere. -/

/-- The escape of a character that needs one, by its number. -/
def EscapedAs (n : Nat) (body : Text) : Prop :=
  (∃ entry ∈ escapeLetters, entry.2 = Char.ofNat n ∧ body = ['\\', entry.1]) ∨
    body.take 2 = ['\\', 'u'] ∧ (body.drop 2).length = 4 ∧ (body.drop 2).all isHexDigit ∧
      positional 16 (body.drop 2) = n

instance (n : Nat) (body : Text) : Decidable (EscapedAs n body) :=
  inferInstanceAs (Decidable (_ ∨ _))

theorem escapedAs_escape :
    ∀ n < 128, Key.needsEscape (Char.ofNat n) → EscapedAs n (Key.escape (Char.ofNat n)) := by
  decide +kernel

theorem spells_escape_of_needsEscape (special : Key.needsEscape c) : Spells c (Key.escape c) := by
  have ascii : c.toNat < 128 := by
    simp only [Key.needsEscape, Key.isControl, Bool.or_eq_true, decide_eq_true_eq,
      beq_iff_eq] at special
    rcases special with (control | rfl) | rfl
    · omega
    · decide
    · decide
  have escaped := escapedAs_escape c.toNat ascii
  rw [Char.ofNat_toNat] at escaped
  rcases escaped special with ⟨⟨l, d⟩, known, same, body⟩ | ⟨start, count, hex, number⟩
  · obtain rfl : d = c := same.trans (Char.ofNat_toNat c)
    rw [body]
    exact .letter known
  · have body := List.take_append_drop 2 (Key.escape c)
    rw [start] at body
    rw [← body]
    exact .short count hex number

theorem escape_of_not_needsEscape (plain : ¬ Key.needsEscape c) : Key.escape c = [c] := by
  unfold Key.escape
  split
  iterate 7 exact absurd (by decide) plain
  exact if_neg plain

theorem isBasicChar_of_not_needsEscape (plain : ¬ Key.needsEscape c) : isBasicChar c = true := by
  simp only [Key.needsEscape, Key.isControl, Bool.or_eq_true, decide_eq_true_eq, beq_iff_eq,
    not_or] at plain
  obtain ⟨⟨visible, mark⟩, backslash⟩ := plain
  simp only [isBasicChar, isPlain, isCommentChar]
  simp [mark, backslash]
  omega

theorem spells_escape (c : Char) : Spells c (Key.escape c) := by
  by_cases special : Key.needsEscape c
  · exact spells_escape_of_needsEscape special
  · rw [escape_of_not_needsEscape special]
    exact .plain (isBasicChar_of_not_needsEscape special)

end Stencil.Toml
