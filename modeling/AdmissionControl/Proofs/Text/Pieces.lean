import AdmissionControl.Text.Split

namespace AdmissionControl.Text

section Split

variable {p : Char → Bool} {c : Char} {cs piece : List Char}

-- The text starts with this piece, which goes on to the first separator or to the end.
def Begins (p : Char → Bool) (cs piece : List Char) : Prop :=
  ∃ rest, cs = piece ++ rest ∧ (∀ c ∈ piece, p c = false) ∧ ∀ c ∈ rest.head?, p c = true

-- The piece stands like that behind some separator.
def Resumes (p : Char → Bool) (cs piece : List Char) : Prop :=
  ∃ before separator after, cs = before ++ separator :: after ∧ p separator = true ∧
    Begins p after piece

theorem begins_nil_iff : Begins p [] piece ↔ piece = [] := by
  constructor
  · rintro ⟨rest, hnil, -, -⟩
    exact (List.append_eq_nil_iff.mp hnil.symm).1
  · rintro rfl
    exact ⟨[], rfl, nofun, nofun⟩

theorem begins_cons_of_separator (hc : p c = true) : Begins p (c :: cs) piece ↔ piece = [] := by
  constructor
  · rintro ⟨rest, hcs, hpiece, -⟩
    cases piece with
    | nil => rfl
    | cons first piece =>
        obtain ⟨rfl, -⟩ := List.cons.inj hcs
        rw [hpiece c List.mem_cons_self] at hc
        cases hc
  · rintro rfl
    refine ⟨c :: cs, rfl, nofun, fun other hother => ?_⟩
    obtain rfl := Option.some.inj hother
    exact hc

theorem begins_cons_of_not_separator (hc : p c = false) :
    Begins p (c :: cs) piece ↔ ∃ later, piece = c :: later ∧ Begins p cs later := by
  constructor
  · rintro ⟨rest, hcs, hpiece, hrest⟩
    cases piece with
    | nil =>
        have hhead := hrest c (by rw [show rest = c :: cs from hcs.symm]; rfl)
        rw [hc] at hhead
        cases hhead
    | cons first later =>
        obtain ⟨rfl, rfl⟩ := List.cons.inj hcs
        exact ⟨later, rfl, rest, rfl, (List.forall_mem_cons.mp hpiece).2, hrest⟩
  · rintro ⟨later, rfl, rest, rfl, hlater, hrest⟩
    exact ⟨rest, rfl, List.forall_mem_cons.mpr ⟨hc, hlater⟩, hrest⟩

theorem not_resumes_nil : ¬Resumes p [] piece := by
  rintro ⟨before, separator, after, hnil, -⟩
  simp at hnil

theorem resumes_cons_iff :
    Resumes p (c :: cs) piece ↔ (p c = true ∧ Begins p cs piece) ∨ Resumes p cs piece := by
  constructor
  · rintro ⟨before, separator, after, hcs, hseparator, hbegins⟩
    cases before with
    | nil =>
        obtain ⟨rfl, rfl⟩ := List.cons.inj hcs
        exact Or.inl ⟨hseparator, hbegins⟩
    | cons first before =>
        obtain ⟨rfl, rfl⟩ := List.cons.inj hcs
        exact Or.inr ⟨before, separator, after, rfl, hseparator, hbegins⟩
  · rintro (⟨hc, hbegins⟩ | ⟨before, separator, after, rfl, hseparator, hbegins⟩)
    · exact ⟨[], c, cs, rfl, hc, hbegins⟩
    · exact ⟨c :: before, separator, after, rfl, hseparator, hbegins⟩

-- The first piece is the one that the text begins with, and each of the others resumes it.
theorem exists_splitBy (p : Char → Bool) (cs : List Char) :
    ∃ first others, splitBy p cs = first :: others ∧
      (∀ piece, Begins p cs piece ↔ piece = first) ∧
      ∀ piece, Resumes p cs piece ↔ piece ∈ others := by
  induction cs with
  | nil =>
      refine ⟨[], [], rfl, fun piece => begins_nil_iff, fun piece => ?_⟩
      exact iff_of_false not_resumes_nil List.not_mem_nil
  | cons c cs ih =>
      obtain ⟨first, others, hsplit, hfirst, hothers⟩ := ih
      cases hc : p c with
      | true =>
          refine ⟨[], first :: others, ?_, fun piece => begins_cons_of_separator hc,
            fun piece => ?_⟩
          · rw [splitBy, if_pos hc, hsplit]
          · rw [resumes_cons_iff, hfirst, hothers, List.mem_cons, and_iff_right hc]
      | false =>
          have hnot : ¬p c = true := by simp [hc]
          refine ⟨c :: first, others, ?_, fun piece => ?_, fun piece => ?_⟩
          · rw [splitBy, if_neg hnot, hsplit]
          · simp only [begins_cons_of_not_separator hc, hfirst, exists_eq_right]
          · rw [resumes_cons_iff, hothers, or_iff_right fun h => hnot h.1]

theorem mem_splitBy_iff : piece ∈ splitBy p cs ↔ Begins p cs piece ∨ Resumes p cs piece := by
  obtain ⟨first, others, hsplit, hfirst, hothers⟩ := exists_splitBy p cs
  rw [hsplit, List.mem_cons, hfirst, hothers]

theorem splitBy_of_solid (hpiece : ∀ c ∈ piece, p c = false) : splitBy p piece = [piece] := by
  induction piece with
  | nil => rfl
  | cons c piece ih =>
      obtain ⟨hc, hrest⟩ := List.forall_mem_cons.mp hpiece
      rw [splitBy, if_neg (by simp [hc]), ih hrest]

theorem splitBy_append_cons (hpiece : ∀ c ∈ piece, p c = false) {separator : Char}
    (hseparator : p separator = true) (rest : List Char) :
    splitBy p (piece ++ separator :: rest) = piece :: splitBy p rest := by
  induction piece with
  | nil => rw [List.nil_append, splitBy, if_pos hseparator]
  | cons c piece ih =>
      obtain ⟨hc, hlater⟩ := List.forall_mem_cons.mp hpiece
      rw [List.cons_append, splitBy, if_neg (by simp [hc]), ih hlater]

-- No piece holds a separator.
theorem solid_of_mem_splitBy (h : piece ∈ splitBy p cs) : ∀ c ∈ piece, p c = false := by
  rcases mem_splitBy_iff.mp h with ⟨rest, -, hsolid, -⟩ | ⟨_, _, _, -, -, rest, -, hsolid, -⟩
  · exact hsolid
  · exact hsolid

end Split

theorem splitOnChar_eq_splitOn (separator : Char) (cs : List Char) :
    splitOnChar separator cs = cs.splitOn separator := by
  unfold splitOnChar
  induction cs with
  | nil => rfl
  | cons c cs ih =>
      rw [List.splitOn_cons_eq_if_modifyHead, splitBy, ih]
      split
      · rfl
      · cases hpieces : cs.splitOn separator with
        | nil => exact absurd hpieces (List.splitOn_ne_nil _ _)
        | cons piece pieces => rfl

theorem notMem_of_mem_splitOnChar {separator : Char} {cs piece : List Char}
    (h : piece ∈ splitOnChar separator cs) : separator ∉ piece := by
  intro hmem
  have hsolid := solid_of_mem_splitBy h separator hmem
  rw [beq_self_eq_true] at hsolid
  cases hsolid

-- The pieces are those that hold no separator and give the text when they are joined by it.
theorem splitOnChar_eq_iff {separator : Char} {cs : List Char} {pieces : List (List Char)} :
    splitOnChar separator cs = pieces ↔
      pieces ≠ [] ∧ (∀ piece ∈ pieces, separator ∉ piece) ∧
        [separator].intercalate pieces = cs := by
  constructor
  · rintro rfl
    refine ⟨?_, fun piece hpiece => notMem_of_mem_splitOnChar hpiece, ?_⟩
    · rw [splitOnChar_eq_splitOn]
      exact List.splitOn_ne_nil _ _
    · rw [splitOnChar_eq_splitOn]
      exact List.intercalate_splitOn _
  · rintro ⟨hnonempty, hpieces, rfl⟩
    rw [splitOnChar_eq_splitOn]
    exact List.splitOn_intercalate _ hpieces hnonempty

theorem not_separator_of_notMem {separator : Char} {cs : List Char} (h : separator ∉ cs) :
    ∀ c ∈ cs, (c == separator) = false :=
  fun _ hc => beq_false_of_ne fun he => h (he ▸ hc)

theorem splitOnChar_of_notMem {separator : Char} {cs : List Char} (h : separator ∉ cs) :
    splitOnChar separator cs = [cs] :=
  splitBy_of_solid (not_separator_of_notMem h)

theorem splitOnChar_append_cons {separator : Char} {cs : List Char} (h : separator ∉ cs)
    (rest : List Char) :
    splitOnChar separator (cs ++ separator :: rest) = cs :: splitOnChar separator rest :=
  splitBy_append_cons (not_separator_of_notMem h) (beq_self_eq_true separator) rest

theorem eq_or_mem_of_mem_intercalate {separator c : Char} {pieces : List (List Char)}
    (hc : c ∈ [separator].intercalate pieces) : c = separator ∨ ∃ piece ∈ pieces, c ∈ piece := by
  induction pieces with
  | nil => cases hc
  | cons piece pieces ih =>
      cases pieces with
      | nil =>
          rw [List.intercalate_singleton] at hc
          exact Or.inr ⟨piece, List.mem_singleton_self piece, hc⟩
      | cons next rest =>
          rw [List.intercalate_cons_cons, List.append_assoc] at hc
          rcases List.mem_append.mp hc with hc | hc
          · exact Or.inr ⟨piece, List.mem_cons_self .., hc⟩
          · rcases List.mem_cons.mp hc with rfl | hc
            · exact Or.inl rfl
            · rcases ih hc with he | ⟨other, hother, hc⟩
              · exact Or.inl he
              · exact Or.inr ⟨other, List.mem_cons_of_mem _ hother, hc⟩

theorem mapM_eq_some_iff {α β : Type} {f : α → Option β} {xs : List α} {ys : List β} :
    xs.mapM f = some ys ↔ xs.map f = ys.map some := by
  induction xs generalizing ys with
  | nil => cases ys <;> simp
  | cons x xs ih =>
      simp only [List.mapM_cons, Option.pure_def, Option.bind_eq_bind, Option.bind_eq_some_iff,
        Option.some.injEq, ih, List.map_cons]
      constructor
      · rintro ⟨y, hy, ys', hys, rfl⟩
        rw [hy, hys]
        rfl
      · intro h
        cases ys with
        | nil => cases h
        | cons y ys =>
            obtain ⟨hy, hys⟩ := List.cons.inj h
            exact ⟨y, hy, ys, hys, rfl⟩

-- The cut is made at the first occurrence.
theorem cutAt?_eq_some_iff {separator : Char} {cs before after : List Char} :
    cutAt? separator cs = some (before, after) ↔
      cs = before ++ separator :: after ∧ separator ∉ before := by
  induction cs generalizing before with
  | nil => simp [cutAt?]
  | cons c cs ih =>
      by_cases hc : c = separator
      · subst hc
        cases before with
        | nil => simp [cutAt?]
        | cons first rest =>
            simp only [cutAt?, if_true, Option.some.injEq, Prod.mk.injEq, List.nil_eq,
              List.cons_ne_nil, false_and, List.cons_append, List.cons.injEq, List.mem_cons,
              not_or, false_iff]
            rintro ⟨⟨rfl, -⟩, hne, -⟩
            exact hne rfl
      · cases before with
        | nil => simp [cutAt?, hc]
        | cons first rest =>
            have hcut := @ih rest
            simp only [cutAt?, if_neg hc, Option.map_eq_some_iff, Prod.mk.injEq, Prod.exists,
              List.cons.injEq, List.cons_append, List.mem_cons, not_or]
            constructor
            · rintro ⟨_, _, hrest, ⟨rfl, rfl⟩, rfl⟩
              obtain ⟨hcs, hnot⟩ := hcut.mp hrest
              exact ⟨⟨rfl, hcs⟩, Ne.symm hc, hnot⟩
            · rintro ⟨⟨rfl, hcs⟩, -, hnot⟩
              exact ⟨rest, after, hcut.mpr ⟨hcs, hnot⟩, ⟨rfl, rfl⟩, rfl⟩

variable {first second : Char} {cs before after : List Char}

theorem eq_of_cutAtPair? (h : cutAtPair? first second cs = some (before, after)) :
    cs = before ++ first :: second :: after := by
  induction cs generalizing before with
  | nil => cases h
  | cons c cs ih =>
      rw [cutAtPair?] at h
      split at h
      · rename_i hpair
        obtain ⟨rfl, hhead⟩ := hpair
        obtain ⟨rest, rfl⟩ := List.head?_eq_some_iff.mp hhead
        cases h
        rfl
      · obtain ⟨⟨inner, rest⟩, hcut, he⟩ := Option.map_eq_some_iff.mp h
        cases he
        rw [ih hcut]
        rfl

-- What stands before the pair may neither hold it nor end in its first character.
theorem cutAtPair?_append (hnone : cutAtPair? first second before = none)
    (hlast : before.getLast? ≠ some first) (after : List Char) :
    cutAtPair? first second (before ++ first :: second :: after) = some (before, after) := by
  induction before with
  | nil => simp [cutAtPair?]
  | cons c before ih =>
      rw [cutAtPair?] at hnone
      split at hnone
      · cases hnone
      · rename_i hpair
        have hrest := Option.map_eq_none_iff.mp hnone
        rw [List.cons_append, cutAtPair?]
        cases before with
        | nil =>
            have hfirst : c ≠ first := fun he => hlast (by rw [he]; rfl)
            simp [hfirst, cutAtPair?]
        | cons next rest =>
            rw [List.getLast?_cons_cons] at hlast
            rw [if_neg (by simpa using hpair), ih hrest hlast]
            rfl

theorem cutAtPair?_of_notMem (h : first ∉ cs) : cutAtPair? first second cs = none := by
  induction cs with
  | nil => rfl
  | cons c cs ih =>
      obtain ⟨hne, hrest⟩ := List.ne_and_not_mem_of_not_mem_cons h
      rw [cutAtPair?, if_neg fun hpair => hne hpair.1.symm, ih hrest]
      rfl

-- A single separator makes no pair.
theorem cutAtPair?_append_cons (h : first ∉ before) (hhead : after.head? ≠ some second)
    (hnone : cutAtPair? first second after = none) :
    cutAtPair? first second (before ++ first :: after) = none := by
  induction before with
  | nil => simp [cutAtPair?, hhead, hnone]
  | cons c before ih =>
      obtain ⟨hne, hrest⟩ := List.ne_and_not_mem_of_not_mem_cons h
      rw [List.cons_append, cutAtPair?, if_neg fun hpair => hne hpair.1.symm, ih hrest]
      rfl

end AdmissionControl.Text
