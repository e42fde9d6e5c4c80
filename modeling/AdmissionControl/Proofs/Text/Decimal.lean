import AdmissionControl.Text.Digits
import Mathlib.Data.List.Induction
import Mathlib.Data.Nat.Digits.Defs

namespace AdmissionControl.Text

-- The number that a run of decimal digits stands for, by the places that they are in.
structure Decimal (cs : List Char) (n : Nat) : Prop where
  nonempty : cs ≠ []
  digits : ∀ c ∈ cs, '0' ≤ c ∧ c ≤ '9'
  value : n = Nat.ofDigits 10 (cs.reverse.map fun c => c.toNat - '0'.toNat)

theorem digitValue?_eq_some_iff {c : Char} {d : Nat} :
    digitValue? 10 c = some d ↔ ('0' ≤ c ∧ c ≤ '9') ∧ d = c.toNat - '0'.toNat := by
  have hle {a b : Char} : a ≤ b ↔ a.toNat ≤ b.toNat := UInt32.le_iff_toNat_le
  have hzero : '0'.toNat = 48 := rfl
  have hnine : '9'.toNat = 57 := rfl
  by_cases hdigit : '0' ≤ c ∧ c ≤ '9'
  · have hsmall : c.toNat - '0'.toNat < 10 := by
      have hrange := hdigit
      rw [hle, hle] at hrange
      omega
    have hvalue : digitValue? 10 c = some (c.toNat - '0'.toNat) := by
      simp only [digitValue?, if_pos hdigit]
      exact Option.filter_eq_some_iff.mpr ⟨rfl, decide_eq_true hsmall⟩
    rw [hvalue, Option.some.injEq]
    exact ⟨fun h => ⟨hdigit, h.symm⟩, fun h => h.2.symm⟩
  · simp only [digitValue?, if_neg hdigit, Option.filter_eq_some_iff, decide_eq_true_eq]
    constructor
    · rintro ⟨hletter, hsmall⟩
      split at hletter
      · have hd := Option.some.inj hletter
        omega
      · split at hletter
        · have hd := Option.some.inj hletter
          omega
        · cases hletter
    · rintro ⟨hrange, -⟩
      exact absurd hrange hdigit

theorem foldlM_digits_eq_some_iff {cs : List Char} {n : Nat} :
    cs.foldlM (fun total c => (digitValue? 10 c).map (total * 10 + ·)) 0 = some n ↔
      (∀ c ∈ cs, '0' ≤ c ∧ c ≤ '9') ∧
        n = Nat.ofDigits 10 (cs.reverse.map fun c => c.toNat - '0'.toNat) := by
  induction cs using List.reverseRecOn generalizing n with
  | nil => simp [eq_comm]
  | append_singleton cs c ih =>
      rw [List.foldlM_append]
      simp only [Option.bind_eq_bind, Option.bind_eq_some_iff, List.foldlM_cons, List.foldlM_nil,
        Option.pure_def, Option.map_eq_some_iff, Option.some.injEq, ih, digitValue?_eq_some_iff,
        List.reverse_append, List.reverse_singleton, List.singleton_append, List.map_cons,
        Nat.ofDigits_cons, List.mem_append, List.mem_singleton]
      constructor
      · rintro ⟨total, ⟨hdigits, rfl⟩, _, ⟨d, ⟨hdigit, rfl⟩, rfl⟩, rfl⟩
        refine ⟨fun c' hc' => ?_, by omega⟩
        rcases hc' with hc' | rfl
        · exact hdigits c' hc'
        · exact hdigit
      · rintro ⟨hdigits, rfl⟩
        exact ⟨_, ⟨fun c' hc' => hdigits c' (Or.inl hc'), rfl⟩, _,
          ⟨_, ⟨hdigits c (Or.inr rfl), rfl⟩, rfl⟩, by omega⟩

theorem natOfDigits?_eq_some_iff {cs : List Char} {n : Nat} :
    natOfDigits? 10 cs = some n ↔ Decimal cs n := by
  rw [natOfDigits?, Option.ite_none_left_eq_some, foldlM_digits_eq_some_iff, List.isEmpty_iff]
  exact ⟨fun ⟨hne, hdigits, hvalue⟩ => ⟨hne, hdigits, hvalue⟩,
    fun ⟨hne, hdigits, hvalue⟩ => ⟨hne, hdigits, hvalue⟩⟩

-- A plus sign may stand before the digits, but only one.
theorem natOfSigned?_eq_some_iff {cs : List Char} {n : Nat} :
    natOfSigned? cs = some n ↔ ∃ digits, Decimal digits n ∧ (cs = digits ∨ cs = '+' :: digits) := by
  by_cases hplus : ∃ digits, cs = '+' :: digits
  · obtain ⟨digits, rfl⟩ := hplus
    rw [natOfSigned?, natOfDigits?_eq_some_iff]
    constructor
    · exact fun h => ⟨digits, h, Or.inr rfl⟩
    · rintro ⟨all, h, rfl | hcons⟩
      · have hrange := h.digits '+' (List.mem_cons_self ..)
        exact absurd hrange (by decide)
      · rwa [(List.cons.inj hcons).2]
  · have hnone : natOfSigned? cs = natOfDigits? 10 cs := by
      rw [natOfSigned?]
      exact fun digits hcs => hplus ⟨digits, hcs⟩
    rw [hnone, natOfDigits?_eq_some_iff]
    constructor
    · exact fun h => ⟨cs, h, Or.inl rfl⟩
    · rintro ⟨digits, h, rfl | hcs⟩
      · exact h
      · exact absurd ⟨digits, hcs⟩ hplus

end AdmissionControl.Text
