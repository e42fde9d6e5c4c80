import AdmissionControl.Text.Digits
import Mathlib.Data.List.Induction

namespace AdmissionControl.Text

-- The digits of a number in a base, of which the letters may be of either case, after any
-- number of zeros.
def Numeral (base : Nat) (cs : List Char) (n : Nat) : Prop :=
  ∃ zeros, cs.map Char.toLower = List.replicate zeros '0' ++ Nat.toDigits base n

-- Beyond ASCII there are no digits, and no letter is lowered.
theorem digitValue?_of_wide {c : Char} (hc : 128 ≤ c.toNat) (base : Nat) :
    digitValue? base c = none ∧ c.toLower = c := by
  have hnot {last : Char} (hlast : last.toNat < 128) : ¬c ≤ last := by
    intro hle
    have h : c.toNat ≤ last.toNat := UInt32.le_iff_toNat_le.mp hle
    omega
  constructor
  · unfold digitValue?
    simp only [hnot (show '9'.toNat < 128 by decide), hnot (show 'f'.toNat < 128 by decide),
      hnot (show 'F'.toNat < 128 by decide), and_false, if_false]
    rfl
  · unfold Char.toLower
    rw [dif_neg]
    exact fun h => hnot (show 'Z'.toNat < 128 by decide) h.2

theorem digitValue?_sixteen_of_ascii : ∀ code < 128, ∀ d < 16,
    (digitValue? 16 (Char.ofNat code) = some d ↔ (Char.ofNat code).toLower = d.digitChar) := by
  decide +kernel

theorem digitValue?_eq_some_iff_toLower {base : Nat} (hbase : base ≤ 16) {c : Char} {d : Nat} :
    digitValue? base c = some d ↔ d < base ∧ c.toLower = d.digitChar := by
  have hfilter : digitValue? base c = (digitValue? 16 c).filter (· < base) := by
    simp only [digitValue?, Option.filter_filter]
    congr 1
    funext n
    by_cases h : n < base
    · simp [h, Nat.lt_of_lt_of_le h hbase]
    · simp [h]
  rw [hfilter, Option.filter_eq_some_iff, decide_eq_true_eq, and_comm, and_congr_right_iff]
  intro hd
  have hsmall : d < 16 := by omega
  by_cases hc : c.toNat < 128
  · have h := digitValue?_sixteen_of_ascii c.toNat hc d hsmall
    rwa [Char.ofNat_toNat] at h
  · obtain ⟨hnone, hlower⟩ := digitValue?_of_wide (Nat.le_of_not_lt hc) 16
    have hascii : ∀ d < 16, (Nat.digitChar d).toNat < 128 := by decide
    rw [hnone, hlower]
    constructor
    · intro h
      cases h
    · intro h
      rw [h] at hc
      exact absurd (hascii d hsmall) hc

theorem eq_digitChar_of_ascii : ∀ code < 128, ∀ d < 10,
    (Char.ofNat code).toLower = d.digitChar → Char.ofNat code = d.digitChar := by
  decide +kernel

-- Case matters only to the digits from ten on.
theorem eq_digitChar_of_toLower {c : Char} {d : Nat} (hd : d < 10)
    (h : c.toLower = d.digitChar) : c = d.digitChar := by
  by_cases hc : c.toNat < 128
  · have hascii := eq_digitChar_of_ascii c.toNat hc d hd
    rw [Char.ofNat_toNat] at hascii
    exact hascii h
  · rwa [(digitValue?_of_wide (Nat.le_of_not_lt hc) 10).2] at h

theorem range_of_ascii_digit : ∀ code < 128, ∀ d < 16,
    (Char.ofNat code).toLower = d.digitChar → 48 ≤ code ∧ code ≤ 102 ∧ code ≠ 58 := by
  decide +kernel

-- All digits are visible characters, and none is a point or a colon.
theorem range_of_digit {c : Char} {d : Nat} (hd : d < 16) (h : c.toLower = d.digitChar) :
    48 ≤ c.toNat ∧ c.toNat ≤ 102 ∧ c.toNat ≠ 58 := by
  by_cases hc : c.toNat < 128
  · refine range_of_ascii_digit c.toNat hc d hd ?_
    rwa [Char.ofNat_toNat]
  · have hascii : ∀ d < 16, (Nat.digitChar d).toNat < 128 := by decide
    rw [(digitValue?_of_wide (Nat.le_of_not_lt hc) 16).2] at h
    rw [h] at hc
    exact absurd (hascii d hd) hc

theorem exists_digit_of_mem_toDigits {base : Nat} (hbase : 1 < base) {n : Nat} {c : Char}
    (hc : c ∈ Nat.toDigits base n) : ∃ d < base, c = d.digitChar := by
  induction n using Nat.base_induction base hbase with
  | single m hm =>
      rw [Nat.toDigits_of_lt_base hm] at hc
      exact ⟨m, hm, List.mem_singleton.mp hc⟩
  | digit m k hk hm ih =>
      rw [← Nat.toDigits_append_toDigits hbase hm hk, Nat.toDigits_of_lt_base hk] at hc
      rcases List.mem_append.mp hc with hc | hc
      · exact ih hc
      · exact ⟨k, hk, List.mem_singleton.mp hc⟩

theorem map_toLower_toDigits {base : Nat} (hbase : 1 < base) (hdigits : base ≤ 16) (n : Nat) :
    (Nat.toDigits base n).map Char.toLower = Nat.toDigits base n := by
  rw [List.map_congr_left (g := id), List.map_id]
  intro c hc
  obtain ⟨d, hd, rfl⟩ := exists_digit_of_mem_toDigits hbase hc
  have hfixed : ∀ d < 16, (Nat.digitChar d).toLower = d.digitChar := by decide
  exact hfixed d (by omega)

theorem numeral_toDigits {base : Nat} (hbase : 1 < base) (hdigits : base ≤ 16) (n : Nat) :
    Numeral base (Nat.toDigits base n) n :=
  ⟨0, map_toLower_toDigits hbase hdigits n⟩

theorem head?_toDigits_ne_zero {base : Nat} (hbase : 1 < base) {n : Nat} (hn : n ≠ 0) :
    (Nat.toDigits base n).head? ≠ some '0' := by
  induction n using Nat.base_induction base hbase with
  | single m hm => simpa [Nat.toDigits_of_lt_base hm] using hn
  | digit m k hk hm ih =>
      rw [← Nat.toDigits_append_toDigits hbase hm hk]
      simpa [List.head?_append] using ih (by omega)

theorem Numeral.exists_digit {base : Nat} (hbase : 1 < base) {cs : List Char} {n : Nat}
    (h : Numeral base cs n) {c : Char} (hc : c ∈ cs) : ∃ d < base, c.toLower = d.digitChar := by
  obtain ⟨zeros, hlower⟩ := h
  have hmem : c.toLower ∈ List.replicate zeros '0' ++ Nat.toDigits base n := by
    rw [← hlower]
    exact List.mem_map_of_mem hc
  rcases List.mem_append.mp hmem with hzero | hdigit
  · exact ⟨0, by omega, (List.mem_replicate.mp hzero).2⟩
  · exact exists_digit_of_mem_toDigits hbase hdigit

theorem Numeral.ne_nil {base : Nat} {cs : List Char} {n : Nat} (h : Numeral base cs n) :
    cs ≠ [] := by
  rintro rfl
  obtain ⟨zeros, hlower⟩ := h
  have hnil := (List.append_eq_nil_iff.mp hlower.symm).2
  exact Nat.toDigits_ne_nil hnil

-- In base ten there is only one way to write a number once it has no needless zeros.
theorem numeral_ten_iff {cs : List Char} {n : Nat} (hhead : cs.length = 1 ∨ cs.head? ≠ some '0') :
    Numeral 10 cs n ↔ cs = Nat.toDigits 10 n := by
  constructor
  · intro h
    have hsame : cs.map Char.toLower = cs := by
      rw [List.map_congr_left (g := id), List.map_id]
      intro c hc
      obtain ⟨d, hd, hlower⟩ := h.exists_digit (by decide) hc
      rw [hlower, id, ← eq_digitChar_of_toLower hd hlower]
    obtain ⟨zeros, hcs⟩ := h
    rw [hsame] at hcs
    cases zeros with
    | zero => exact hcs
    | succ zeros =>
        have hpos := Nat.length_toDigits_pos (b := 10) (n := n)
        rw [List.replicate_succ] at hcs
        rcases hhead with hlength | hhead
        · rw [hcs] at hlength
          simp only [List.cons_append, List.length_cons, List.length_append] at hlength
          omega
        · rw [hcs] at hhead
          exact absurd rfl hhead
  · rintro rfl
    exact numeral_toDigits (by decide) (by decide) n

section

variable {base : Nat} (hbase : 1 < base) (hdigits : base ≤ 16)

include hbase hdigits

theorem numeral_singleton_iff {c : Char} {n : Nat} :
    Numeral base [c] n ↔ digitValue? base c = some n := by
  rw [digitValue?_eq_some_iff_toLower hdigits]
  constructor
  · rintro ⟨zeros, h⟩
    have hlength := congrArg List.length h
    simp only [List.map_cons, List.map_nil, List.length_cons, List.length_nil, List.length_append,
      List.length_replicate] at hlength
    have hpos := Nat.length_toDigits_pos (b := base) (n := n)
    obtain rfl : zeros = 0 := by omega
    have hsmall : n < base := by
      rw [← Nat.pow_one base, ← Nat.length_toDigits_le_iff hbase Nat.one_pos]
      omega
    rw [Nat.toDigits_of_lt_base hsmall] at h
    exact ⟨hsmall, (List.cons.inj h).1⟩
  · rintro ⟨hsmall, hlower⟩
    refine ⟨0, ?_⟩
    rw [Nat.toDigits_of_lt_base hsmall, List.map_singleton, hlower]
    rfl

-- A digit more is one place more, unless all before it are zeros.
theorem numeral_append_singleton_iff {cs : List Char} (hcs : cs ≠ []) {c : Char} {n : Nat} :
    Numeral base (cs ++ [c]) n ↔
      Numeral base cs (n / base) ∧ digitValue? base c = some (n % base) := by
  have hlast : n % base < base := Nat.mod_lt n (by omega)
  rw [digitValue?_eq_some_iff_toLower hdigits]
  by_cases hsmall : n < base
  · rw [Nat.div_eq_of_lt hsmall, Nat.mod_eq_of_lt hsmall]
    unfold Numeral
    rw [Nat.toDigits_of_lt_base hsmall, Nat.toDigits_zero, List.map_append]
    constructor
    · rintro ⟨zeros, h⟩
      obtain ⟨hfront, hc⟩ := List.append_inj' h rfl
      cases zeros with
      | zero => exact absurd (List.map_eq_nil_iff.mp hfront) hcs
      | succ zeros =>
          exact ⟨⟨zeros, hfront.trans List.replicate_succ'⟩, hsmall, (List.cons.inj hc).1⟩
    · rintro ⟨⟨zeros, hfront⟩, -, hc⟩
      refine ⟨zeros + 1, ?_⟩
      rw [hfront, ← List.replicate_succ', List.map_singleton, hc]
  · unfold Numeral
    rw [Nat.toDigits_of_base_le hbase (Nat.le_of_not_lt hsmall), List.map_append]
    constructor
    · rintro ⟨zeros, h⟩
      rw [← List.append_assoc] at h
      obtain ⟨hfront, hc⟩ := List.append_inj' h rfl
      exact ⟨⟨zeros, hfront⟩, hlast, (List.cons.inj hc).1⟩
    · rintro ⟨⟨zeros, hfront⟩, -, hc⟩
      refine ⟨zeros, ?_⟩
      rw [hfront, List.append_assoc, List.map_singleton, hc]

theorem natOfDigits?_eq_some_iff_numeral {cs : List Char} {n : Nat} :
    natOfDigits? base cs = some n ↔ Numeral base cs n := by
  by_cases hcs : cs = []
  · subst hcs
    constructor
    · intro h
      cases h
    · rintro ⟨zeros, h⟩
      have hpos := Nat.length_toDigits_pos (b := base) (n := n)
      have hlength := congrArg List.length h
      simp only [List.map_nil, List.length_nil, List.length_append,
        List.length_replicate] at hlength
      omega
  · rw [natOfDigits?, if_neg (by simpa using hcs)]
    induction cs using List.reverseRecOn generalizing n with
    | nil => exact absurd rfl hcs
    | append_singleton cs c ih =>
        rw [List.foldlM_append]
        simp only [Option.bind_eq_bind, Option.bind_eq_some_iff, List.foldlM_cons, List.foldlM_nil,
          Option.pure_def, Option.map_eq_some_iff, Option.some.injEq]
        by_cases hfront : cs = []
        · subst hfront
          rw [List.nil_append, numeral_singleton_iff hbase hdigits]
          simp
        · rw [numeral_append_singleton_iff hbase hdigits hfront]
          simp only [ih hfront]
          constructor
          · rintro ⟨total, htotal, _, ⟨d, hd, rfl⟩, rfl⟩
            have hsmall := ((digitValue?_eq_some_iff_toLower hdigits).mp hd).1
            rw [Nat.mul_comm, Nat.mul_add_div (by omega), Nat.div_eq_of_lt hsmall,
              Nat.mul_add_mod, Nat.mod_eq_of_lt hsmall]
            exact ⟨htotal, hd⟩
          · rintro ⟨htotal, hd⟩
            exact ⟨n / base, htotal, _, ⟨n % base, hd, rfl⟩, Nat.div_add_mod' n base⟩

end

end AdmissionControl.Text
