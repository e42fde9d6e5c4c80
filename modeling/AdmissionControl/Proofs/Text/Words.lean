import AdmissionControl.Proofs.Text.Pieces

namespace AdmissionControl.Text

-- A word has no blanks in it, and none but blanks beside it.
structure Word (cs word : List Char) : Prop where
  nonempty : word ≠ []
  solid : ∀ c ∈ word, isBlank c = false
  around : ∃ before after, cs = before ++ word ++ after ∧
    (∀ c ∈ before.getLast?, isBlank c = true) ∧ ∀ c ∈ after.head?, isBlank c = true

variable {cs word : List Char}

theorem word_iff :
    Word cs word ↔ word ≠ [] ∧ (Begins isBlank cs word ∨ Resumes isBlank cs word) := by
  constructor
  · intro h
    obtain ⟨before, after, rfl, hbefore, hafter⟩ := h.around
    refine ⟨h.nonempty, ?_⟩
    rcases List.eq_nil_or_concat before with rfl | ⟨front, separator, rfl⟩
    · exact Or.inl ⟨after, rfl, h.solid, hafter⟩
    · refine Or.inr ⟨front, separator, word ++ after, by simp, ?_, after, rfl, h.solid, hafter⟩
      exact hbefore separator (by simp)
  · rintro ⟨hword, ⟨after, rfl, hsolid, hafter⟩ |
      ⟨front, separator, _, rfl, hseparator, after, rfl, hsolid, hafter⟩⟩
    · exact ⟨hword, hsolid, [], after, rfl, nofun, hafter⟩
    · refine ⟨hword, hsolid, front ++ [separator], after, by simp, fun c hc => ?_, hafter⟩
      obtain rfl : separator = c := by simpa using hc
      exact hseparator

theorem mem_words_iff : word ∈ words cs ↔ Word cs word := by
  rw [word_iff, ← mem_splitBy_iff, words, List.mem_filter, and_comm]
  simp

-- Words come back from the text that they are joined to.
theorem words_intercalate {pieces : List (List Char)}
    (hpieces : ∀ piece ∈ pieces, piece ≠ [] ∧ ∀ c ∈ piece, isBlank c = false) :
    words ([' '].intercalate pieces) = pieces := by
  induction pieces with
  | nil => rfl
  | cons piece pieces ih =>
      obtain ⟨⟨hpiece, hsolid⟩, hrest⟩ := List.forall_mem_cons.mp hpieces
      have hkept : (!piece.isEmpty) = true := by simpa using hpiece
      cases pieces with
      | nil =>
          rw [List.intercalate_singleton, words, splitBy_of_solid hsolid]
          exact List.filter_eq_self.mpr fun other hother => List.mem_singleton.mp hother ▸ hkept
      | cons next others =>
          have hjoined := ih hrest
          rw [words] at hjoined ⊢
          rw [List.intercalate_cons_cons, List.append_assoc, List.singleton_append,
            splitBy_append_cons hsolid (by decide), List.filter_cons, if_pos hkept, hjoined]

end AdmissionControl.Text
