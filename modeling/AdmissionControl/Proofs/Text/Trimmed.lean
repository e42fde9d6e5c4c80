import AdmissionControl.Text.Blank
import Mathlib.Data.List.TakeWhile

namespace AdmissionControl.Text

-- The text has only blanks around the core, and the core has none at either end.
structure Trimmed (cs core : List Char) : Prop where
  around : ∃ lead trail, cs = lead ++ core ++ trail ∧ ∀ c ∈ lead ++ trail, isBlank c = true
  first : ∀ c ∈ core.head?, isBlank c = false
  last : ∀ c ∈ core.getLast?, isBlank c = false

theorem dropBlanks_append {lead rest : List Char} (hlead : ∀ c ∈ lead, isBlank c = true)
    (hrest : ∀ c ∈ rest.head?, isBlank c = false) : dropBlanks (lead ++ rest) = rest := by
  rw [dropBlanks, List.dropWhile_append_of_pos hlead]
  cases rest with
  | nil => rfl
  | cons c rest => rw [List.dropWhile_cons, hrest c rfl, if_neg Bool.false_ne_true]

theorem exists_dropBlanks (cs : List Char) :
    ∃ lead, cs = lead ++ dropBlanks cs ∧ (∀ c ∈ lead, isBlank c = true) ∧
      ∀ c ∈ (dropBlanks cs).head?, isBlank c = false := by
  refine ⟨cs.takeWhile isBlank, List.takeWhile_append_dropWhile.symm,
    fun c hc => List.mem_takeWhile_imp hc, fun c hc => ?_⟩
  have hnot := List.head?_dropWhile_not isBlank cs
  rw [show cs.dropWhile isBlank = dropBlanks cs from rfl, Option.mem_def.mp hc] at hnot
  simpa using hnot

theorem trimmed_trimChars (cs : List Char) : Trimmed cs (trimChars cs) := by
  obtain ⟨lead, hcs, hlead, hfirst⟩ := exists_dropBlanks cs
  obtain ⟨trail, hrev, htrail, hlast⟩ := exists_dropBlanks (dropBlanks cs).reverse
  have hcore : dropBlanks cs = trimChars cs ++ trail.reverse := by
    rw [trimChars, ← List.reverse_append, ← hrev, List.reverse_reverse]
  refine ⟨⟨lead, trail.reverse, by rw [List.append_assoc, ← hcore, ← hcs], fun c hc => ?_⟩,
    fun c hc => hfirst c ?_, fun c hc => hlast c ?_⟩
  · rcases List.mem_append.mp hc with hc | hc
    · exact hlead c hc
    · exact htrail c (List.mem_reverse.mp hc)
  · rw [hcore, List.head?_append, Option.mem_def.mp hc]
    rfl
  · rwa [trimChars, List.getLast?_reverse] at hc

-- There is only one such core.
theorem Trimmed.eq_trimChars {cs core : List Char} (h : Trimmed cs core) : core = trimChars cs := by
  obtain ⟨⟨lead, trail, rfl, hblank⟩, hfirst, hlast⟩ := h
  have hlead : ∀ c ∈ lead, isBlank c = true := fun c hc => hblank c (List.mem_append_left _ hc)
  have htrail : ∀ c ∈ trail.reverse, isBlank c = true := fun c hc =>
    hblank c (List.mem_append_right _ (List.mem_reverse.mp hc))
  cases core with
  | nil =>
      have hall : ∀ c ∈ lead ++ [] ++ trail, isBlank c = true := by simpa using hblank
      have hnone : dropBlanks (lead ++ [] ++ trail) = [] := List.dropWhile_eq_nil_iff.mpr hall
      rw [trimChars, hnone]
      rfl
  | cons c core =>
      have hstart : dropBlanks (lead ++ (c :: core ++ trail)) = c :: core ++ trail :=
        dropBlanks_append hlead (by simpa using hfirst)
      have hend : dropBlanks (trail.reverse ++ (c :: core).reverse) = (c :: core).reverse :=
        dropBlanks_append htrail (by rwa [List.head?_reverse])
      rw [trimChars, List.append_assoc, hstart, List.reverse_append, hend, List.reverse_reverse]

theorem trimChars_eq_nil_iff {cs : List Char} : trimChars cs = [] ↔ ∀ c ∈ cs, isBlank c = true := by
  constructor
  · intro h
    obtain ⟨lead, trail, hcs, hblank⟩ := (trimmed_trimChars cs).around
    rw [h, List.append_nil] at hcs
    rwa [hcs]
  · intro h
    have htrimmed : Trimmed cs [] := ⟨⟨cs, [], by simp, by simpa using h⟩, nofun, nofun⟩
    exact htrimmed.eq_trimChars.symm

-- What a text has between the blanks at either end, which is not nothing.
structure Core (text core : String) : Prop where
  trimmed : Trimmed text.toList core.toList
  nonempty : core ≠ ""

variable {text core : String}

theorem Core.trim_eq (h : Core text core) : trim text = core := by
  rw [trim, ← h.trimmed.eq_trimChars, String.ofList_toList]

theorem core_trim (h : trim text ≠ "") : Core text (trim text) := by
  refine ⟨?_, h⟩
  rw [trim, String.toList_ofList]
  exact trimmed_trimChars text.toList

theorem nonBlank?_eq_some_iff : nonBlank? text = some core ↔ Core text core := by
  simp only [nonBlank?, Option.ite_none_left_eq_some, Option.some.injEq, String.isEmpty_iff]
  constructor
  · rintro ⟨hnonempty, rfl⟩
    exact core_trim hnonempty
  · intro h
    rw [h.trim_eq]
    exact ⟨h.nonempty, rfl⟩

theorem Core.unique {other : String} (h : Core text core) (h' : Core text other) : core = other :=
  h.trim_eq.symm.trans h'.trim_eq

theorem nonBlank?_eq_none_iff : nonBlank? text = none ↔ ∀ c ∈ text.toList, isBlank c = true := by
  rw [← trimChars_eq_nil_iff, nonBlank?, trim, ← String.ofList_eq_empty_iff, ← String.isEmpty_iff]
  simp

end AdmissionControl.Text
