import Stencil.Descriptor
import Stencil.Proofs.Text.DisplayLines
import Stencil.Proofs.Text.Position
import Stencil.Report

/-! Two ways to name a place.  The message counts line feeds, and the report counts the lines of the
text as it is displayed.  They name one line and column exactly when every break before the place is
a line feed or goes with one, and the place is not behind a line feed at the end of the text. -/

namespace Stencil

namespace Text

variable {m n : Nat} {s s' : Text}

theorem decimal_inj (same : decimal m = decimal n) : m = n := by
  have read : ∀ k, Nat.ofDigitChars 10 (decimal k) 0 = k := fun k =>
    Nat.ofDigitChars_toDigits (by decide) (by decide)
  rw [← read m, same, read n]

theorem takeWhile_decimal_append (n : Nat) (stops : ∀ c ∈ s.head?, c.isDigit = false) :
    (decimal n ++ s).takeWhile Char.isDigit = decimal n := by
  have digits : ∀ c ∈ decimal n, c.isDigit = true := fun c mem =>
    Nat.isDigit_of_mem_toDigits (by decide) (by decide) mem
  rw [List.takeWhile_append_of_pos digits]
  cases s with
  | nil => rw [List.takeWhile_nil, List.append_nil]
  | cons c s => rw [List.takeWhile_cons_of_neg (by simp [stops c rfl]), List.append_nil]

theorem decimal_append_inj (stops : ∀ c ∈ s.head?, c.isDigit = false)
    (stops' : ∀ c ∈ s'.head?, c.isDigit = false) (same : decimal m ++ s = decimal n ++ s') :
    m = n ∧ s = s' := by
  have digits : decimal m = decimal n := by
    rw [← takeWhile_decimal_append m stops, same, takeWhile_decimal_append n stops']
  refine ⟨decimal_inj digits, ?_⟩
  rw [digits] at same
  exact List.append_cancel_left same

end Text

namespace Report

open Text (LineFed Displays endPosition)

variable {front rest line : Text} {lines below : List Text}

/-! Where the report finds a place -/

theorem charactersBefore_of_isPrefix (begins : front <+: line) :
    charactersBefore line (Utf8.size front) = front.length := by
  obtain ⟨rest, rfl⟩ := begins
  induction front with
  | nil => cases rest <;> rfl
  | cons c front ih =>
    have positive := c.utf8Size_pos
    have more : c.utf8Size + Utf8.size front ≠ 0 := by omega
    rw [Utf8.size_cons, List.cons_append, charactersBefore, if_neg more, Nat.add_sub_cancel_left, ih,
      List.length_cons, Nat.add_comm]

theorem lineOf?_cons (more : below ≠ []) (line : Text) (index offset : Nat) :
    lineOf? (line :: below) index offset =
      if offset < Utf8.size line then some (index, offset)
      else lineOf? below (index + 1) (offset - Utf8.size line) := by
  obtain ⟨next, below, rfl⟩ := List.exists_cons_of_ne_nil more
  simp [lineOf?]

theorem lineOf?_succ (lines : List Text) (index offset : Nat) :
    lineOf? lines (index + 1) offset =
      (lineOf? lines index offset).map fun found => (found.1 + 1, found.2) := by
  fun_induction lineOf? lines index offset <;> simp_all [lineOf?]

theorem isSome_lineOf?_iff (lines : List Text) (index offset : Nat) :
    (lineOf? lines index offset).isSome ↔ lines ≠ [] ∧ offset ≤ Utf8.size lines.flatten := by
  fun_induction lineOf? lines index offset with
  | case1 => simp
  | case2 line index offset within => simp [within]
  | case3 line index offset beyond => simpa using beyond
  | case4 line lines index offset _ within =>
    simp
    omega
  | case5 line lines index offset more beyond ih =>
    have listed : lines ≠ [] := more
    have fits : offset - Utf8.size line ≤ Utf8.size lines.flatten ↔
        offset ≤ Utf8.size (line :: lines).flatten := by
      rw [List.flatten_cons, Utf8.size_append]
      omega
    simp only [ih, fits, listed, ne_eq, not_false_eq_true, reduceCtorEq]

theorem place?_first (begins : front <+: line) (inside : front = line → below = []) :
    place? (line :: below) (Utf8.size front) = some ⟨0, front.length⟩ := by
  have here : lineOf? (line :: below) 0 (Utf8.size front) = some (0, Utf8.size front) := by
    obtain ⟨more, rfl⟩ := begins
    have least : Utf8.size front ≤ Utf8.size (front ++ more) := by
      rw [Utf8.size_append]
      omega
    cases below with
    | nil => rw [lineOf?, if_pos least]
    | cons next below =>
      cases more with
      | nil => simp at inside
      | cons c more =>
        rw [lineOf?_cons (List.cons_ne_nil next below),
          if_pos (Utf8.size_lt_of_append_cons front c more)]
  rw [place?, here, Option.map_some]
  simp [charactersBefore_of_isPrefix begins]

theorem place?_later (more : below ≠ []) (offset : Nat) :
    place? (line :: below) (Utf8.size line + offset) =
      (place? below offset).map fun place => ⟨place.line + 1, place.column⟩ := by
  have passed : lineOf? (line :: below) 0 (Utf8.size line + offset) =
      (lineOf? below 0 offset).map fun found => (found.1 + 1, found.2) := by
    rw [← lineOf?_succ, lineOf?_cons more, if_neg (by omega), Nat.add_sub_cancel_left]
  rw [place?, place?, passed, Option.map_map, Option.map_map]
  rfl

/-! Both counts of one place -/

/-- What it takes for both counts to come to one line and column. -/
structure Concurs (front rest : Text) : Prop where
  nonempty : front ++ rest ≠ []
  lineFed : LineFed front rest
  open_ : rest = [] → front.getLast? ≠ some '\n'

theorem concurs_iff : Concurs front rest ↔
    front ++ rest ≠ [] ∧ LineFed front rest ∧ (rest = [] → front.getLast? ≠ some '\n') :=
  ⟨fun h => ⟨h.nonempty, h.lineFed, h.open_⟩, fun ⟨nonempty, lineFed, open_⟩ =>
    ⟨nonempty, lineFed, open_⟩⟩

instance (front rest : Text) : Decidable (Concurs front rest) := decidable_of_iff' _ concurs_iff

/-- The place of the report beside the end of the text in front of it. -/
inductive Compared (front rest : Text) (place : Place) : Prop
  | same (concurs : Concurs front rest)
      (position : endPosition front = (place.line + 1, place.column + 1))
  | above (differs : ¬ Concurs front rest) (line : (endPosition front).1 < place.line + 1)
  | before (differs : ¬ Concurs front rest) (fed : '\n' ∈ front)
      (column : (endPosition front).2 < place.column + 1)

theorem Compared.concurs_iff {place : Place} (compared : Compared front rest place) :
    endPosition front = (place.line + 1, place.column + 1) ↔ Concurs front rest := by
  cases compared with
  | same concurs position => simp [concurs, position]
  | above differs line =>
    refine iff_of_false (fun same => ?_) differs
    simp [same] at line
  | before differs fed column =>
    refine iff_of_false (fun same => ?_) differs
    simp [same] at column

variable {inner : Text} {last : Char}

theorem compared_first (clear : '\n' ∉ inner) (inside : LineFed inner (last :: below.flatten))
    (whole : front ++ rest = inner ++ last :: below.flatten)
    (begins : front <+: inner ∨ front = inner ++ [last] ∧ rest = []) :
    Compared front rest ⟨0, front.length⟩ := by
  have nonempty : front ++ rest ≠ [] := by simp [whole]
  have same : '\n' ∉ front → Concurs front rest → Compared front rest ⟨0, front.length⟩ := by
    intro open_ concurs
    refine .same concurs ?_
    have ends := Text.endPosition_append_of_clear [] open_
    rw [List.nil_append] at ends
    rw [ends, Nat.add_comm front.length]
    rfl
  rcases begins with ⟨part, rfl⟩ | ⟨rfl, rfl⟩
  · rw [List.append_assoc] at whole
    obtain rfl := List.append_cancel_left whole
    have open_ : '\n' ∉ front := fun mem => clear (List.mem_append_left part mem)
    exact same open_ ⟨nonempty, (Text.lineFed_append_iff.mp inside).1, fun none => by simp at none⟩
  · have final : below.flatten = [] := by simpa using whole
    rw [final] at inside
    by_cases fed : last = '\n'
    · -- the message starts a line behind the last line feed, and the report has none there
      subst fed
      refine .before (fun concurs => concurs.open_ rfl List.getLast?_concat) (by simp) ?_
      rw [endPosition, Text.lastLine_append_lineFeed]
      simp [Text.lastLine]
    · have open_ : '\n' ∉ inner ++ [last] := by simp [clear, Ne.symm fed]
      refine same open_ ⟨nonempty, ?_, fun _ ends => fed ?_⟩
      · refine Text.lineFed_append_iff.mpr ⟨inside, Text.lineFed_cons_iff.mpr ⟨?_, ?_⟩⟩
        · exact fun _ more => absurd rfl more
        · exact Text.lineFed_nil _
      · rw [List.getLast?_concat] at ends
        exact Option.some.inj ends

theorem concurs_behind_lineFeed_iff (inside : LineFed inner ('\n' :: (front ++ rest)))
    (more : front ++ rest ≠ []) : Concurs (inner ++ '\n' :: front) rest ↔ Concurs front rest := by
  have final : rest = [] → (inner ++ '\n' :: front).getLast? = front.getLast? := by
    rintro rfl
    rw [List.append_nil] at more
    obtain ⟨c, front, rfl⟩ := List.exists_cons_of_ne_nil more
    rw [List.getLast?_append, List.getLast?_cons_cons, List.getLast?_cons]
    rfl
  constructor
  · rintro ⟨-, fed, open_⟩
    have later := (Text.lineFed_cons_iff.mp (Text.lineFed_append_iff.mp fed).2).2
    exact ⟨more, later, fun none => final none ▸ open_ none⟩
  · rintro ⟨-, fed, open_⟩
    refine ⟨by simp, Text.lineFed_append_iff.mpr ⟨inside, ?_⟩, fun none => ?_⟩
    · exact Text.lineFed_cons_iff.mpr ⟨fun _ _ => .inl rfl, fed⟩
    · rw [final none]
      exact open_ none

theorem not_concurs_behind_stray (inner : Text) (stray : last ≠ '\n')
    (ends : Text.endsDisplayLine last = true)
    (alone : last = '\r' → (front ++ rest).head? ≠ some '\n') (more : front ++ rest ≠ []) :
    ¬ Concurs (inner ++ last :: front) rest := by
  rintro ⟨-, fed, -⟩
  have here := (Text.lineFed_cons_iff.mp (Text.lineFed_append_iff.mp fed).2).1
  rcases here ends more with feed | ⟨carriage, feed⟩
  · exact stray feed
  · exact alone carriage feed

theorem compared_later {place : Place} (clear : '\n' ∉ inner)
    (inside : LineFed inner (last :: (front ++ rest))) (more : front ++ rest ≠ [])
    (closed : Text.endsDisplayLine last = true ∧
      (last = '\r' → (front ++ rest).head? ≠ some '\n'))
    (compared : Compared front rest place) :
    Compared (inner ++ last :: front) rest ⟨place.line + 1, place.column⟩ := by
  have lines : (endPosition (inner ++ last :: front)).1 =
      (endPosition front).1 + (if last = '\n' then 1 else 0) := by
    rw [endPosition, endPosition, List.count_append, List.count_cons,
      List.count_eq_zero_of_not_mem clear]
    simp only [beq_iff_eq]
    omega
  -- A line feed is counted by both.  Any other break is counted by the report alone, which is then a
  -- line ahead, if its column was not ahead already.
  by_cases feed : last = '\n'
  · subst feed
    have columns : (endPosition (inner ++ '\n' :: front)).2 = (endPosition front).2 := by
      rw [endPosition, Text.lastLine_append_lineFeed]
      rfl
    rw [if_pos rfl] at lines
    have iff := concurs_behind_lineFeed_iff inside more
    cases compared with
    | same concurs position =>
      refine .same (iff.mpr concurs) (Prod.ext ?_ ?_)
      · rw [lines, position]
      · rw [columns, position]
    | above differs line => exact .above (mt iff.mp differs) (by simp only; omega)
    | before differs fed column =>
      exact .before (mt iff.mp differs) (by simp) (by simp only; omega)
  · have differs := not_concurs_behind_stray inner feed closed.1 closed.2 more
    rw [if_neg feed, Nat.add_zero] at lines
    cases compared with
    | same concurs position =>
      refine .above differs ?_
      rw [lines, position]
      exact Nat.lt_succ_self _
    | above _ line => exact .above differs (by simp only; omega)
    | before _ fed column =>
      refine .before differs (by simp [fed]) ?_
      obtain ⟨s, part, rfl⟩ := List.append_of_mem fed
      have columns : (endPosition (inner ++ last :: (s ++ '\n' :: part))).2 =
          (endPosition (s ++ '\n' :: part)).2 := by
        have front : inner ++ last :: (s ++ '\n' :: part) = (inner ++ last :: s) ++ '\n' :: part := by
          simp
        rw [front, endPosition, endPosition, Text.lastLine_append_lineFeed,
          Text.lastLine_append_lineFeed]
      rw [columns]
      exact column

theorem exists_place (displays : Displays (front ++ rest) lines) (nonempty : front ++ rest ≠ []) :
    ∃ place, place? lines (Utf8.size front) = some place ∧ Compared front rest place := by
  generalize whole : front ++ rest = t at displays nonempty
  -- Along the lines: the place is in the first of them, or the first is behind it.
  induction displays generalizing front with
  | nil => exact absurd rfl nonempty
  | @line inner last behind lines clear inside closed more ih =>
    have flat := more.flatten_eq
    have first : front <+: inner ∨ front = inner ++ [last] ∧ rest = [] →
        ∃ place, place? ((inner ++ [last]) :: lines) (Utf8.size front) = some place ∧
          Compared front rest place := by
      intro begins
      refine ⟨_, place?_first ?_ ?_, compared_first clear (flat ▸ inside) (flat ▸ whole) begins⟩
      · rcases begins with within | ⟨rfl, -⟩
        · exact within.trans (List.prefix_append _ _)
        · exact List.prefix_rfl
      · rintro rfl
        rcases begins with within | ⟨-, rfl⟩
        · exact absurd within.length_le (by simp)
        · rw [more.eq_nil_iff]
          simpa using whole.symm
    rcases List.append_eq_append_iff.mp whole with ⟨part, rfl, behindFront⟩ | ⟨part, rfl, split⟩
    · exact first (.inl (List.prefix_append _ _))
    · cases part with
      | nil => exact first (.inl (by simp))
      | cons c front' =>
        obtain ⟨rfl, rfl⟩ := List.cons.inj split
        by_cases final : front' ++ rest = []
        · obtain ⟨rfl, rfl⟩ := List.append_eq_nil_iff.mp final
          exact first (.inr ⟨rfl, rfl⟩)
        · obtain ⟨place, found, compared⟩ := ih rfl final
          refine ⟨_, ?_, compared_later clear inside final (closed final) compared⟩
          have size : Utf8.size (inner ++ last :: front') =
              Utf8.size (inner ++ [last]) + Utf8.size front' := by
            rw [← Utf8.size_append, List.append_assoc, List.singleton_append]
          rw [size, place?_later (mt more.eq_nil_iff.mp final), found]
          rfl

/-! What is printed -/

/-- A report whose heading names a line and column. -/
def Heads (path : Path) (report : Text) (position : Nat × Nat) : Prop :=
  ∃ indent below, report = "Error: invalid descriptor '".toList ++ path.display ++ "'\n".toList ++
    (List.replicate indent ' ' ++ ("╭─[".toList ++ path.display ++ ':' :: (Text.decimal position.1 ++
      ':' :: (Text.decimal position.2 ++ ']' :: below))))

/-- A message about a fault that ends with a line and column. -/
def Tells (path : Path) (fault message : Text) (position : Nat × Nat) : Prop :=
  message = "failed to load descriptor '".toList ++ path.display ++ "': ".toList ++ fault ++
    " at line ".toList ++ (Text.decimal position.1 ++ (", column ".toList ++ Text.decimal position.2))

variable {path : Path} {report fault message text : Text} {position position' : Nat × Nat}

theorem Tells.unique (tells : Tells path fault message position)
    (tells' : Tells path fault message position') : position = position' := by
  have same := List.append_cancel_left (tells.symm.trans tells')
  obtain ⟨line, column⟩ := Text.decimal_append_inj (by simp) (by simp) same
  exact Prod.ext line (Text.decimal_inj (List.append_cancel_left column))

theorem dropWhile_margin (indent : Nat) (t : Text) :
    (List.replicate indent ' ' ++ '╭' :: t).dropWhile (· == ' ') = '╭' :: t := by
  rw [List.dropWhile_append_of_pos (by simp), List.dropWhile_cons_of_neg (by decide)]

theorem Heads.unique (heads : Heads path report position) (heads' : Heads path report position') :
    position = position' := by
  obtain ⟨indent, below, rfl⟩ := heads
  obtain ⟨indent', below', same⟩ := heads'
  have margins := congrArg (List.dropWhile (· == ' ')) (List.append_cancel_left same)
  have heading := (dropWhile_margin indent _).symm.trans (margins.trans (dropWhile_margin indent' _))
  have places := List.append_cancel_left
    (show "╭─[".toList ++ (path.display ++ _) = "╭─[".toList ++ (path.display ++ _) from heading)
  have numbers := (List.cons.inj (List.append_cancel_left places)).2
  obtain ⟨line, columns⟩ := Text.decimal_append_inj (by simp) (by simp) numbers
  obtain ⟨column, -⟩ := Text.decimal_append_inj (by simp) (by simp) (List.cons.inj columns).2
  exact Prod.ext line column

theorem message_syntaxError (path : Path) (error : Toml.ParseError) (text : Text) {start stop : Nat}
    (spanned : error.span = some (start, stop)) :
    Tells path error.message (Failure.load path (.syntaxError error text)).message
      (Text.lineColumn text start) := by
  have message : LoadFault.message (.syntaxError error text) = error.message ++ " at line ".toList ++
      Text.decimal (Text.lineColumn text start).1 ++ ", column ".toList ++
        Text.decimal (Text.lineColumn text start).2 := by
    unfold LoadFault.message
    simp only [spanned]
  unfold Tells Failure.message
  simp only [message, List.append_assoc]

theorem report_syntaxError (path : Path) (error : Toml.ParseError) (text : Text)
    {span : Nat × Nat} (spanned : error.span = some span) :
    (Failure.load path (.syntaxError error text)).report = render path text span error.message := by
  rw [Failure.report, spanned, Option.getD_some]

theorem isSome_placeAfter?_iff (lines : List Text) (offset : Nat) :
    (placeAfter? lines offset).isSome ↔ lines ≠ [] ∧ offset ≤ Utf8.size lines.flatten := by
  rw [placeAfter?, Option.isSome_map, isSome_lineOf?_iff]

theorem exists_ends?_iff (lines : List Text) (start stop : Nat) (place : Place) :
    (∃ last, ends? lines start stop = some (place, last)) ↔
      place? lines start = some place ∧ (start < stop → stop ≤ Utf8.size lines.flatten + 1) := by
  unfold ends?
  cases found : place? lines start with
  | none => simp
  | some first =>
    have some_line : lines ≠ [] := by
      rintro rfl
      simp [place?, lineOf?] at found
    by_cases empty : stop ≤ start
    · simp [empty, Nat.not_lt.mpr empty]
    · have reaches := isSome_placeAfter?_iff lines (stop - 1)
      simp only [if_neg empty, Option.map_eq_some_iff, Prod.mk.injEq, Option.some.injEq]
      constructor
      · rintro ⟨last, after, ends, rfl, rfl⟩
        have within := (reaches.mp (Option.isSome_of_eq_some ends)).2
        exact ⟨rfl, fun _ => by omega⟩
      · rintro ⟨rfl, within⟩
        have bound : stop - 1 ≤ Utf8.size lines.flatten := by omega
        obtain ⟨last, ends⟩ := Option.isSome_iff_exists.mp (reaches.mpr ⟨some_line, bound⟩)
        exact ⟨last, last, ends, rfl, rfl⟩

theorem heads_render_of_ends (path : Path) (fault : Text) {start stop : Nat} {place last : Place}
    (ends : ends? text.displayLines start stop = some (place, last)) :
    Heads path (render path text (start, stop) fault) (place.line + 1, place.column + 1) := by
  refine ⟨(Text.decimal (last.line + 1)).length + 2, ?below, ?printed⟩
  case printed =>
    unfold render
    simp only [ends]
    unfold body
    simp only [List.flatMap_cons, List.cons_append, List.append_assoc, List.nil_append]
    rfl

theorem not_heads_render {start stop : Nat} (missing : ends? text.displayLines start stop = none) :
    ¬ Heads path (render path text (start, stop) fault) position := by
  rintro ⟨indent, below, same⟩
  unfold render at same
  simp only [missing] at same
  have lengths := congrArg List.length same
  simp at lengths

/-- The message names the place where the span starts.  The report names the same one exactly if both
counts of it agree and the text holds the end of the span, or ends one byte before it. -/
theorem same_place_iff (path : Path) {error : Toml.ParseError} (front rest : Text) {stop : Nat}
    (spanned : error.span = some (Utf8.size front, stop)) :
    let text := front ++ rest
    let failure := Failure.load path (.syntaxError error text)
    Tells path error.message failure.message (Text.lineColumn text (Utf8.size front)) ∧
      ((∃ position, Tells path error.message failure.message position ∧
          Heads path failure.report position) ↔
        Concurs front rest ∧ (Utf8.size front < stop → stop ≤ Utf8.size text + 1)) := by
  intro text failure
  have told : Tells path error.message failure.message (endPosition front) := by
    rw [← Text.lineColumn_of_isPrefix (List.prefix_append front rest)]
    exact message_syntaxError path error text spanned
  have displays := Text.displays_displayLines text
  have drawn := exists_ends?_iff (Text.displayLines text) (Utf8.size front) stop
  rw [displays.flatten_eq] at drawn
  refine ⟨message_syntaxError path error text spanned, ?_⟩
  rw [report_syntaxError path error text spanned]
  constructor
  · rintro ⟨position, tells, heads⟩
    obtain rfl := tells.unique told
    cases ends : ends? (Text.displayLines text) (Utf8.size front) stop with
    | none => exact absurd heads (not_heads_render ends)
    | some found =>
      obtain ⟨place, last⟩ := found
      obtain ⟨here, within⟩ := (drawn place).mp ⟨last, ends⟩
      have nonempty : text ≠ [] := by
        intro empty
        rw [displays.eq_nil_iff.mpr empty] at here
        cases here
      obtain ⟨place', found', compared⟩ := exists_place displays nonempty
      obtain rfl := Option.some.inj (here.symm.trans found')
      exact ⟨compared.concurs_iff.mp (heads.unique (heads_render_of_ends _ _ ends)), within⟩
  · rintro ⟨concurs, within⟩
    obtain ⟨place, found, compared⟩ := exists_place displays concurs.nonempty
    obtain ⟨last, ends⟩ := (drawn place).mpr ⟨found, within⟩
    have heads := heads_render_of_ends path error.message ends
    exact ⟨_, told, compared.concurs_iff.mpr concurs ▸ heads⟩

theorem same_place_of_multibyte_comment :
    let path := Path.ofText "types.toml".toList
    let text := "# é\r\ntypes_list = [\n  { t = }\n]\n".toList
    let error : Toml.ParseError := ⟨"invalid string\nexpected `\"`, `'`".toList, some (29, 30)⟩
    let failure := Failure.load path (.syntaxError error text)
    Descriptor.parse text path = .error failure ∧
      Tells path error.message failure.message (3, 9) ∧ Heads path failure.report (3, 9) := by
  intro path text error failure
  let front := "# é\r\ntypes_list = [\n  \x7b t = ".toList
  have spanned : error.span = some (Utf8.size front, 30) := by decide
  let rest := "\x7d\n]\n".toList
  have concurs : Concurs front rest := by decide
  obtain ⟨told, same⟩ := same_place_iff path front rest spanned
  obtain ⟨position, tells, heads⟩ := same.mpr ⟨concurs, fun _ => by decide⟩
  obtain rfl := told.unique tells
  have place : Text.lineColumn text (Utf8.size front) = (3, 9) := by decide
  rw [← place]
  exact ⟨by decide +kernel, told, heads⟩

/-- The same pair behind a line separator: it is still in the third line of the descriptor, and the
report puts it in the fourth. -/
theorem other_place_behind_separator :
    let path := Path.ofText "types.toml".toList
    let text := "# a\u2028b\ntypes_list = [\n  { t = }\n]\n".toList
    let error : Toml.ParseError := ⟨"invalid string\nexpected `\"`, `'`".toList, some (31, 32)⟩
    let failure := Failure.load path (.syntaxError error text)
    Descriptor.parse text path = .error failure ∧ Text.IsBoundary text 31 ∧
      Tells path error.message failure.message (3, 9) ∧ Heads path failure.report (4, 9) ∧
      ¬ ∃ position, Tells path error.message failure.message position ∧
        Heads path failure.report position := by
  intro path text error failure
  have place : Text.lineColumn text 31 = (3, 9) := by decide
  have told : Tells path error.message failure.message (3, 9) :=
    place ▸ message_syntaxError path error text rfl
  have ends : ends? (Text.displayLines text) 31 32 = some (⟨3, 8⟩, ⟨3, 9⟩) := by decide
  have headed : Heads path failure.report (4, 9) := by
    have drawn := heads_render_of_ends path error.message ends
    rwa [← report_syntaxError path error text rfl] at drawn
  have boundary : Text.IsBoundary text 31 :=
    ⟨"# a\u2028b\ntypes_list = [\n  \x7b t = ".toList, by decide, by decide⟩
  have apart : ¬ ∃ position, Tells path error.message failure.message position ∧
      Heads path failure.report position := by
    rintro ⟨position, tells, heads⟩
    exact absurd ((told.unique tells).trans (headed.unique heads).symm) (by decide)
  exact ⟨by decide +kernel, boundary, told, headed, apart⟩

end Report

end Stencil
