import Stencil.Proofs.FileTree.Creation

/-! Creating what is there already.  No entry is made then: a file is emptied, a device is left as
it is, and only contents can come to differ.  Whatever a path has created, it opens again in every
tree grown from that one. -/

namespace Stencil.FileTree

variable {t t' t'' : FileTree} {p : Path} {e : Entry}

section Slashes

variable {at_ l : Location} {segments rest : List Bytes}

/-- The last segment of a path that ends in a slash is empty. -/
def EndsInSlash (segments : List Bytes) : Prop := segments.getLast? = some []

theorem EndsInSlash.cons (slash : EndsInSlash rest) (segment : Bytes) :
    EndsInSlash (segment :: rest) := by
  rw [EndsInSlash, List.getLast?_cons, slash]
  rfl

theorem EndsInSlash.append (slash : EndsInSlash rest) (segments : List Bytes) :
    EndsInSlash (segments ++ rest) := by
  rw [EndsInSlash, List.getLast?_append, slash]
  rfl

theorem endsInSlash_of_all (more : rest ≠ []) (empty : rest.all (· == [])) : EndsInSlash rest := by
  rw [EndsInSlash, List.getLast?_eq_some_getLast more]
  have last := List.all_eq_true.mp empty _ (List.getLast_mem more)
  rw [eq_of_beq last]

/-- What a walk along a path that ends in a slash can come to. -/
inductive Walk.AtSlash (t : FileTree) : Walk → Prop
  | failed (fault : FileFault) : AtSlash t (.ended (.error fault))
  | arrived {l : Location} (directory : t.at? l = some .directory) :
      AtSlash t (.ended (.ok (.existing l)))
  | link (directory : Location) (target : Path) {rest : List Bytes} (slash : EndsInSlash rest) :
      AtSlash t (.link directory target rest)

theorem atSlash_of_stops {segment : Bytes} {ending : Walk} (slash : EndsInSlash rest)
    (stops : Stops t at_ segment rest ending) : ending.AtSlash t := by
  cases stops with
  | complains => exact .failed _
  | link => exact .link _ _ slash
  | missing =>
    cases rest with
    | nil => cases slash
    | cons next rest => exact .failed _

theorem atSlash_walk (t : FileTree) (at_ : Location) (slash : EndsInSlash segments) :
    (t.walk .opening at_ segments).AtSlash t := by
  induction segments generalizing at_ with
  | nil => cases slash
  | cons segment rest ih =>
    cases rest with
    | nil =>
      obtain rfl : segment = [] := by simpa [EndsInSlash] using slash
      rcases step_nameless t .opening at_ [] (.inl rfl) with stays | fails
      · rw [walk_of_step stays]
        exact .arrived (directory_of_step stays)
      · rw [walk_of_ending fails]
        exact .failed _
    | cons next rest =>
      have slash : EndsInSlash (next :: rest) := by simpa [EndsInSlash] using slash
      cases h : t.step .opening at_ segment (next :: rest) with
      | error ending =>
        rw [walk_of_ending h]
        exact atSlash_of_stops slash (stops_of_step h)
      | ok at_ =>
        rw [walk_of_step h]
        exact ih at_ slash

theorem directory_of_follow_slash {links : Nat}
    (arrives : t.follow .opening links at_ segments = .ok (.existing l))
    (slash : EndsInSlash segments) : t.at? l = some .directory := by
  refine follow_ok_induction
    (motive := fun _ _ segments => EndsInSlash segments → t.at? l = some .directory)
    (fun {_ at_ _} ends slash => ?_) (fun {_ at_ _ _ target _} link ih slash => ?_) arrives slash
  · have walks := atSlash_walk t at_ slash
    rw [ends] at walks
    cases walks with
    | arrived directory => exact directory
  · have walks := atSlash_walk t at_ slash
    rw [link] at walks
    cases walks with
    | link _ _ slash => exact ih (slash.append target.segments)

/-- The only thing that creating has against a path is a slash at its end. -/
theorem walk_creating (t : FileTree) (at_ : Location) (bare : ¬ EndsInSlash segments) :
    t.walk .creating at_ segments = t.walk .opening at_ segments := by
  induction segments generalizing at_ with
  | nil => rfl
  | cons segment rest ih =>
    have same : t.step .creating at_ segment rest = t.step .opening at_ segment rest := by
      have more : ¬ (rest ≠ [] ∧ rest.all (· == [])) := fun ⟨more, empty⟩ =>
        bare ((endsInSlash_of_all more empty).cons segment)
      unfold step
      simp only [reduceCtorEq, false_and, or_false, true_and, if_neg more, if_false]
    rw [walk, walk, same]
    cases t.step .opening at_ segment rest with
    | error ending => rfl
    | ok next => exact ih next fun slash => bare (slash.cons segment)

theorem follow_creating {links : Nat} (other : t.at? l ≠ some .directory)
    (arrives : t.follow .opening links at_ segments = .ok (.existing l)) :
    t.follow .creating links at_ segments = .ok (.existing l) := by
  refine follow_ok_induction
    (motive := fun links at_ segments => t.follow .opening links at_ segments = .ok (.existing l) →
      t.follow .creating links at_ segments = .ok (.existing l))
    (fun {links at_ _} ends arrives => ?_) (fun {links at_ _ _ _ _} link ih arrives => ?_)
    arrives arrives
  · have same := walk_creating t at_ (mt (directory_of_follow_slash arrives) other)
    exact follow_of_ended (same.trans ends) links
  · have same := walk_creating t at_ (mt (directory_of_follow_slash arrives) other)
    rw [follow_succ_of_link (same.trans link)]
    exact ih ((follow_succ_of_link link links).symm.trans arrives)

theorem resolve_creating_of_opening (other : t.at? l ≠ some .directory)
    (place : t.resolve .opening p = .ok (.existing l)) :
    t.resolve .creating p = .ok (.existing l) := by
  unfold resolve trace at place ⊢
  split_ifs at place ⊢
  exact follow_creating other place

end Slashes

/-- What opening an entry for writing leaves of its content: nothing. -/
def emptied (t : FileTree) : Entry → FileTree
  | .file id => t.setContent id []
  | _ => t

theorem SameEntries.emptied (t : FileTree) (e : Entry) : SameEntries t (t.emptied e) := by
  cases e with
  | file id => exact .setContent ..
  | directory => exact .refl t
  | link target => exact .refl t
  | device d => exact .refl t

theorem create_of_existing {l : Location} (place : t.resolve .creating p = .ok (.existing l))
    (here : t.at? l = some e) (kind : (∃ id, e = .file id) ∨ ∃ d, e = .device d) :
    t.create p = .ok (e, t.emptied e) := by
  unfold create
  rcases kind with ⟨id, rfl⟩ | ⟨d, rfl⟩
  · simp [place, here, emptied]
  · simp [place, here, emptied]

theorem create_of_short {id : Nat} (leads : t.file? p = some id) (short : p.length < pathLimit) :
    t.create p = .ok (.file id, t.setContent id []) := by
  obtain ⟨l, opening, here⟩ := openEntry_eq_ok_iff.mp (openEntry_of_short leads short)
  have place := resolve_creating_of_opening (by simp [here]) opening
  exact create_of_existing place here (.inl ⟨id, rfl⟩)

theorem resolve_creating_of_create (made : t.create p = .ok (e, t')) :
    ∃ l, t'.resolve .creating p = .ok (.existing l) ∧ t'.at? l = some e := by
  have c := creates_of_create made
  obtain ⟨l, opening, here⟩ := openEntry_eq_ok_iff.mp c.openEntry
  have other : t'.at? l ≠ some .directory := by
    rcases c.file_or_device with ⟨id, rfl⟩ | ⟨d, rfl⟩ <;> simp [here]
  exact ⟨l, resolve_creating_of_opening other opening, here⟩

theorem create_of_grows (made : t.create p = .ok (e, t')) (g : Grows t' t'') :
    t''.create p = .ok (e, t''.emptied e) := by
  obtain ⟨l, place, here⟩ := resolve_creating_of_create made
  have still := (place ▸ resolve_of_grows g .creating p).existing
  exact create_of_existing still (g.kept here) (creates_of_create made).file_or_device

theorem fst_writeEntry (t t' : FileTree) (e : Entry) (content : Bytes) :
    (t'.writeEntry e content).1 = (t.writeEntry e content).1 := by
  cases e with
  | directory => rfl
  | file id => rfl
  | link target => rfl
  | device d => cases d <;> rfl

theorem Creates.content?_writeEntry (c : Creates t p e t') (content : Bytes) (id : Nat) :
    (t'.writeEntry e content).2.content? id =
      if e = .file id then some content else t.content? id := by
  split_ifs with sent
  · subst sent
    exact content?_setContent_self c.lt_of_file content
  · rw [content?_writeEntry_of_ne t' sent, c.content?_of_ne sent]

end Stencil.FileTree
