import AdmissionControl.Net.Literal
import AdmissionControl.Proofs.Text.Numerals
import AdmissionControl.Proofs.Text.Pieces

namespace AdmissionControl.Net

open Text

-- Four octets in decimal without needless zeros, with points between them.
structure Quad (cs : List Char) (octets : List Nat) : Prop where
  length : octets.length = 4
  small : ∀ octet ∈ octets, octet < 256
  text : ['.'].intercalate (octets.map (Nat.toDigits 10)) = cs

-- At most four hexadecimal digits of either case. Zeros may lead.
structure Group (cs : List Char) (group : Nat) : Prop where
  short : cs.length ≤ 4
  numeral : Numeral 16 cs group

-- Groups with colons between them. The last may be a quad, which stands for two groups, where
-- one may be embedded.
inductive Run (embeds : Bool) : List Char → List Nat → Prop where
  | group {cs : List Char} {group : Nat} (h : Group cs group) : Run embeds cs [group]
  | quad {cs : List Char} {a b c d : Nat} (hembeds : embeds = true) (h : Quad cs [a, b, c, d]) :
      Run embeds cs [a * 256 + b, c * 256 + d]
  | cons {cs rest : List Char} {group : Nat} {groups : List Nat} (h : Group cs group)
      (hrest : Run embeds rest groups) : Run embeds (cs ++ ':' :: rest) (group :: groups)

-- What stands on one side of a gap.
inductive Side (embeds : Bool) : List Char → List Nat → Prop where
  | empty : Side embeds [] []
  | run {cs : List Char} {groups : List Nat} (h : Run embeds cs groups) : Side embeds cs groups

-- Eight groups, all of them written, or at least one of them a zero left out in one gap.
inductive Eight : List Char → List Nat → Prop where
  | full {cs : List Char} {groups : List Nat} (h : Run true cs groups)
      (hlength : groups.length = 8) : Eight cs groups
  | gap {before after : List Char} {head tail : List Nat} (hbefore : Side false before head)
      (hafter : Side true after tail) (hroom : head.length + tail.length ≤ 7) :
      Eight (before ++ ':' :: ':' :: after)
        (head ++ List.replicate (8 - (head.length + tail.length)) 0 ++ tail)

-- The texts that are literals of an address.
inductive Spells : List Char → Address → Prop where
  | v4 {cs : List Char} {octets : List Nat} (h : Quad cs octets) :
      Spells cs (.v4 (Address.ofOctets octets))
  | v6 {cs : List Char} {groups : List Nat} (h : Eight cs groups) :
      Spells cs (.v6 (Address.ofGroups groups))

variable {cs : List Char}

section Quad

variable {octets : List Nat}

theorem octet?_eq_some_iff {n : Nat} :
    Literal.octet? false cs = some n ↔ n < 256 ∧ Nat.toDigits 10 n = cs := by
  simp only [Literal.octet?, Option.bind_eq_bind, Option.bind_eq_some_iff, Bool.false_eq_true,
    false_or, Option.ite_none_right_eq_some, Option.some.injEq,
    natOfDigits?_eq_some_iff_numeral (show 1 < 10 by decide) (by decide)]
  constructor
  · rintro ⟨_, hnumeral, ⟨-, hsmall, hhead⟩, rfl⟩
    exact ⟨hsmall, ((numeral_ten_iff hhead).mp hnumeral).symm⟩
  · rintro ⟨hsmall, rfl⟩
    have hshort : (Nat.toDigits 10 n).length ≤ 3 :=
      (Nat.length_toDigits_le_iff (by decide) (by decide)).mpr (by omega)
    have hhead : (Nat.toDigits 10 n).length = 1 ∨ (Nat.toDigits 10 n).head? ≠ some '0' := by
      by_cases hn : n = 0
      · rw [hn]
        exact Or.inl rfl
      · exact Or.inr (head?_toDigits_ne_zero (by decide) hn)
    exact ⟨n, (numeral_ten_iff hhead).mpr rfl, ⟨hshort, hsmall, hhead⟩, rfl⟩

theorem map_octet?_eq_iff {pieces : List (List Char)} :
    pieces.map (Literal.octet? false) = octets.map some ↔
      (∀ octet ∈ octets, octet < 256) ∧ octets.map (Nat.toDigits 10) = pieces := by
  induction pieces generalizing octets with
  | nil =>
      cases octets with
      | nil => simp
      | cons octet octets => simp
  | cons piece pieces ih =>
      cases octets with
      | nil => simp
      | cons octet octets =>
          simp only [List.map_cons, List.cons.injEq, octet?_eq_some_iff, ih, List.forall_mem_cons]
          tauto

theorem point_notMem_toDigits (n : Nat) : '.' ∉ Nat.toDigits 10 n := by
  intro hc
  obtain ⟨d, hd, he⟩ := exists_digit_of_mem_toDigits (by decide) hc
  have hpoint : ∀ d < 10, '.' ≠ Nat.digitChar d := by decide
  exact hpoint d hd he

theorem quad?_eq_some_iff : Literal.quad? false cs = some octets ↔ Quad cs octets := by
  simp only [Literal.quad?, Option.bind_eq_bind, Option.bind_eq_some_iff, mapM_eq_some_iff,
    map_octet?_eq_iff, Option.ite_none_right_eq_some, Option.some.injEq]
  constructor
  · rintro ⟨_, ⟨hsmall, hpieces⟩, hlength, rfl⟩
    obtain ⟨-, -, htext⟩ := splitOnChar_eq_iff.mp hpieces.symm
    exact ⟨hlength, hsmall, htext⟩
  · intro h
    refine ⟨octets, ⟨h.small, Eq.symm (splitOnChar_eq_iff.mpr ⟨?_, ?_, h.text⟩)⟩, h.length, rfl⟩
    · intro hnil
      have hlength := h.length
      rw [List.map_eq_nil_iff.mp hnil] at hlength
      cases hlength
    · intro piece hpiece
      obtain ⟨octet, -, rfl⟩ := List.mem_map.mp hpiece
      exact point_notMem_toDigits octet

theorem Quad.eq_four (h : Quad cs octets) : ∃ a b c d, octets = [a, b, c, d] := by
  match octets, h.length with
  | [a, b, c, d], _ => exact ⟨a, b, c, d, rfl⟩

theorem Quad.point_mem (h : Quad cs octets) : '.' ∈ cs := by
  obtain ⟨a, b, c, d, rfl⟩ := h.eq_four
  rw [← h.text, List.map_cons, List.map_cons, List.intercalate_cons_cons]
  simp

theorem Quad.eq_point_or_digit (h : Quad cs octets) {c : Char} (hc : c ∈ cs) :
    c = '.' ∨ ∃ d < 10, c = Nat.digitChar d := by
  rw [← h.text] at hc
  rcases eq_or_mem_of_mem_intercalate hc with rfl | ⟨piece, hpiece, hc⟩
  · exact Or.inl rfl
  · obtain ⟨octet, -, rfl⟩ := List.mem_map.mp hpiece
    exact Or.inr (exists_digit_of_mem_toDigits (by decide) hc)

theorem Quad.colon_notMem (h : Quad cs octets) : ':' ∉ cs := by
  intro hc
  have hcolon : ∀ d < 10, ':' ≠ Nat.digitChar d := by decide
  rcases h.eq_point_or_digit hc with he | ⟨d, hd, he⟩
  · cases he
  · exact hcolon d hd he

end Quad

section Group

variable {group : Nat}

theorem group?_eq_some_iff : Literal.group? cs = some group ↔ Group cs group := by
  simp only [Literal.group?, Option.bind_eq_bind, Option.bind_eq_some_iff,
    Option.ite_none_right_eq_some, Option.some.injEq,
    natOfDigits?_eq_some_iff_numeral (show 1 < 16 by decide) (by decide)]
  constructor
  · rintro ⟨_, hnumeral, hshort, rfl⟩
    exact ⟨hshort, hnumeral⟩
  · intro h
    exact ⟨group, h.numeral, h.short, rfl⟩

theorem Group.range (h : Group cs group) {c : Char} (hc : c ∈ cs) :
    48 ≤ c.toNat ∧ c.toNat ≤ 102 ∧ c.toNat ≠ 58 := by
  obtain ⟨d, hd, hlower⟩ := h.numeral.exists_digit (by decide) hc
  exact range_of_digit hd hlower

theorem Group.colon_notMem (h : Group cs group) : ':' ∉ cs := fun hc => (h.range hc).2.2 rfl

theorem Group.point_notMem (h : Group cs group) : '.' ∉ cs := by
  intro hc
  have hrange := (h.range hc).1
  exact absurd hrange (by decide)

theorem Group.not_quad (h : Group cs group) {octets : List Nat} : ¬Quad cs octets :=
  fun hquad => h.point_notMem hquad.point_mem

end Group

section Run

variable {embeds : Bool} {groups : List Nat}

theorem run_of_groupRun? {pieces : List (List Char)} (hpieces : pieces ≠ [])
    (h : Literal.groupRun? false embeds pieces = some groups) :
    Run embeds ([':'].intercalate pieces) groups := by
  induction pieces generalizing groups with
  | nil => exact absurd rfl hpieces
  | cons piece pieces ih =>
      cases pieces with
      | nil =>
          rw [List.intercalate_singleton]
          rw [Literal.groupRun?] at h
          cases hgroup : Literal.group? piece with
          | some group =>
              rw [hgroup] at h
              cases h
              exact .group (group?_eq_some_iff.mp hgroup)
          | none =>
              rw [hgroup] at h
              simp only [Option.ite_none_right_eq_some, Option.map_eq_some_iff] at h
              obtain ⟨hembeds, octets, hquad, rfl⟩ := h
              have hquad := quad?_eq_some_iff.mp hquad
              obtain ⟨a, b, c, d, rfl⟩ := hquad.eq_four
              exact .quad hembeds hquad
      | cons next rest =>
          simp only [Literal.groupRun?, Option.pure_def, Option.bind_eq_bind,
            Option.bind_eq_some_iff, Option.some.injEq] at h
          obtain ⟨group, hgroup, others, hothers, rfl⟩ := h
          rw [List.intercalate_cons_cons, List.append_assoc]
          exact .cons (group?_eq_some_iff.mp hgroup) (ih (List.cons_ne_nil _ _) hothers)

theorem groupRun?_of_run (h : Run embeds cs groups) :
    Literal.groupRun? false embeds (splitOnChar ':' cs) = some groups := by
  induction h with
  | group h =>
      rw [splitOnChar_of_notMem h.colon_notMem, Literal.groupRun?, group?_eq_some_iff.mpr h]
  | @quad cs a b c d hembeds h =>
      have hgroup : Literal.group? cs = none := by
        rw [Option.eq_none_iff_forall_ne_some]
        exact fun group hgroup => (group?_eq_some_iff.mp hgroup).not_quad h
      rw [splitOnChar_of_notMem h.colon_notMem, Literal.groupRun?, hgroup, hembeds,
        quad?_eq_some_iff.mpr h]
      rfl
  | @cons cs rest group groups h hrest ih =>
      rw [splitOnChar_append_cons h.colon_notMem]
      cases hpieces : splitOnChar ':' rest with
      | nil => exact absurd hpieces (splitOnChar_eq_iff.mp rfl).1
      | cons piece pieces =>
          rw [hpieces] at ih
          simp only [Literal.groupRun?, group?_eq_some_iff.mpr h, ih]
          rfl

theorem groupRun?_eq_some_iff :
    Literal.groupRun? false embeds (splitOnChar ':' cs) = some groups ↔ Run embeds cs groups := by
  constructor
  · intro h
    obtain ⟨hnonempty, -, htext⟩ := splitOnChar_eq_iff.mp (rfl : splitOnChar ':' cs = _)
    have hrun := run_of_groupRun? hnonempty h
    rwa [htext] at hrun
  · exact groupRun?_of_run

theorem Run.ne_nil (h : Run embeds cs groups) : cs ≠ [] := by
  cases h with
  | group h => exact h.numeral.ne_nil
  | quad hembeds h => exact List.ne_nil_of_mem h.point_mem
  | cons h hrest => simp

theorem groupsOf?_eq_some_iff :
    Literal.groupsOf? false embeds cs = some groups ↔ Side embeds cs groups := by
  unfold Literal.groupsOf?
  by_cases hcs : cs = []
  · subst hcs
    simp only [List.isEmpty_nil, if_true, Option.some.injEq]
    constructor
    · rintro rfl
      exact .empty
    · intro h
      cases h with
      | empty => rfl
      | run h => exact absurd rfl h.ne_nil
  · rw [if_neg (by simpa using hcs), groupRun?_eq_some_iff]
    constructor
    · exact .run
    · intro h
      cases h with
      | empty => exact absurd rfl hcs
      | run h => exact h

-- In a run a colon stands between groups only, and never beside another.
structure Spaced (cs : List Char) : Prop where
  single : cutAtPair? ':' ':' cs = none
  first : cs.head? ≠ some ':'
  last : cs.getLast? ≠ some ':'

theorem spaced_of_notMem (h : ':' ∉ cs) : Spaced cs where
  single := cutAtPair?_of_notMem h
  first hhead := h (List.mem_of_mem_head? hhead)
  last hlast := h (List.mem_of_mem_getLast? hlast)

theorem Run.spaced (h : Run embeds cs groups) : Spaced cs := by
  induction h with
  | group h => exact spaced_of_notMem h.colon_notMem
  | quad hembeds h => exact spaced_of_notMem h.colon_notMem
  | @cons cs rest group groups h hrest ih =>
      refine ⟨cutAtPair?_append_cons h.colon_notMem ih.first ih.single, ?_, ?_⟩
      · obtain ⟨c, others, rfl⟩ := List.exists_cons_of_ne_nil h.numeral.ne_nil
        intro hhead
        exact h.colon_notMem (List.mem_of_mem_head? hhead)
      · obtain ⟨c, others, rfl⟩ := List.exists_cons_of_ne_nil hrest.ne_nil
        simpa [List.getLast?_append, List.getLast?_cons] using ih.last

theorem Side.spaced (h : Side embeds cs groups) : Spaced cs := by
  cases h with
  | empty => exact spaced_of_notMem List.not_mem_nil
  | run h => exact h.spaced

-- Without a colon there is one group, or the two of a quad.
theorem Run.length_le_of_notMem (h : Run embeds cs groups) (hcolon : ':' ∉ cs) :
    groups.length ≤ 2 := by
  cases h with
  | group h => simp
  | quad hembeds h => exact Nat.le_refl _
  | cons h hrest => exact absurd (List.mem_append_right _ (List.mem_cons_self ..)) hcolon

end Run

section Eight

variable {groups : List Nat}

theorem v6?_eq_some_iff : Literal.v6? strict cs = some groups ↔ Eight cs groups := by
  constructor
  · intro h
    unfold Literal.v6? at h
    cases hcut : cutAtPair? ':' ':' cs with
    | none =>
        rw [hcut] at h
        simp only [strict, Option.bind_eq_bind, Option.bind_eq_some_iff,
          Option.ite_none_right_eq_some, Option.some.injEq] at h
        obtain ⟨_, hgroups, hlength, rfl⟩ := h
        cases groupsOf?_eq_some_iff.mp hgroups with
        | empty => cases hlength
        | run hrun => exact .full hrun hlength
    | some sides =>
        obtain ⟨before, after⟩ := sides
        rw [hcut] at h
        simp only [strict, Option.bind_eq_bind, Option.bind_eq_some_iff, Bool.false_eq_true,
          if_false, Option.ite_none_right_eq_some, Option.some.injEq] at h
        obtain ⟨head, hhead, tail, htail, ⟨-, hroom⟩, rfl⟩ := h
        rw [eq_of_cutAtPair? hcut]
        exact .gap (groupsOf?_eq_some_iff.mp hhead) (groupsOf?_eq_some_iff.mp htail) hroom
  · intro h
    unfold Literal.v6?
    cases h with
    | full h hlength =>
        have hgroups := groupsOf?_eq_some_iff.mpr (.run h)
        rw [h.spaced.single]
        simp [strict, hgroups, hlength]
    | gap hbefore hafter hroom =>
        have hhead := groupsOf?_eq_some_iff.mpr hbefore
        have htail := groupsOf?_eq_some_iff.mpr hafter
        have hsmall := Nat.le_trans (Nat.le_add_right ..) hroom
        rw [cutAtPair?_append hbefore.spaced.single hbefore.spaced.last]
        simp [strict, hhead, htail, hroom, Nat.lt_succ_of_le hsmall]

theorem Eight.colon_mem (h : Eight cs groups) : ':' ∈ cs := by
  cases h with
  | full h hlength =>
      by_contra hcolon
      have hle := h.length_le_of_notMem hcolon
      omega
  | gap hbefore hafter hroom => simp

end Eight

variable {address : Address}

-- The literals that are read are those of the grammar, each with its address.
theorem ofChars?_eq_some_iff :
    Address.ofChars? strict cs = some address ↔ Spells cs address := by
  unfold Address.ofChars?
  constructor
  · intro h
    cases hquad : Literal.quad? strict.leadingZeros cs with
    | some octets =>
        rw [hquad] at h
        cases h
        exact .v4 (quad?_eq_some_iff.mp hquad)
    | none =>
        rw [hquad] at h
        obtain ⟨groups, hgroups, rfl⟩ := Option.map_eq_some_iff.mp h
        exact .v6 (v6?_eq_some_iff.mp hgroups)
  · intro h
    cases h with
    | v4 h =>
        rw [show Literal.quad? strict.leadingZeros cs = _ from quad?_eq_some_iff.mpr h]
    | v6 h =>
        have hquad : Literal.quad? strict.leadingZeros cs = none := by
          rw [Option.eq_none_iff_forall_ne_some]
          intro octets hoctets
          exact (quad?_eq_some_iff.mp hoctets).colon_notMem h.colon_mem
        rw [hquad, v6?_eq_some_iff.mpr h]
        rfl

theorem Spells.unique {other : Address} (h : Spells cs address) (h' : Spells cs other) :
    address = other := by
  have hread := ofChars?_eq_some_iff.mpr h
  rw [ofChars?_eq_some_iff.mpr h'] at hread
  exact (Option.some.inj hread).symm

section Written

-- What a literal is written with: points, colons and hexadecimal digits all lie between the point
-- and the last of the letters, and none of them is the slash.
def Written (c : Char) : Prop := 46 ≤ c.toNat ∧ c.toNat ≤ 102 ∧ c.toNat ≠ 47

instance : DecidablePred Written := fun _ => inferInstanceAs (Decidable (_ ∧ _ ∧ _))

variable {groups : List Nat}

theorem Quad.written {octets : List Nat} (h : Quad cs octets) : ∀ c ∈ cs, Written c := by
  intro c hc
  rcases h.eq_point_or_digit hc with rfl | ⟨d, hd, rfl⟩
  · decide
  · have hdigit : ∀ d < 10, Written (Nat.digitChar d) := by decide
    exact hdigit d hd

theorem Group.written {group : Nat} (h : Group cs group) : ∀ c ∈ cs, Written c := by
  intro c hc
  have hrange := h.range hc
  unfold Written
  omega

theorem Run.written {embeds : Bool} (h : Run embeds cs groups) : ∀ c ∈ cs, Written c := by
  induction h with
  | group h => exact h.written
  | quad hembeds h => exact h.written
  | cons h hrest ih =>
      intro c hc
      rcases List.mem_append.mp hc with hc | hc
      · exact h.written c hc
      · rcases List.mem_cons.mp hc with rfl | hc
        · decide
        · exact ih c hc

theorem Side.written {embeds : Bool} (h : Side embeds cs groups) : ∀ c ∈ cs, Written c := by
  cases h with
  | empty => exact fun c hc => absurd hc List.not_mem_nil
  | run h => exact h.written

theorem Eight.written (h : Eight cs groups) : ∀ c ∈ cs, Written c := by
  cases h with
  | full h hlength => exact h.written
  | gap hbefore hafter hroom =>
      intro c hc
      simp only [List.mem_append, List.mem_cons] at hc
      rcases hc with hc | rfl | rfl | hc
      · exact hbefore.written c hc
      · decide
      · decide
      · exact hafter.written c hc

theorem Spells.written (h : Spells cs address) : ∀ c ∈ cs, Written c := by
  cases h with
  | v4 h => exact h.written
  | v6 h => exact h.written

theorem Spells.slash_notMem (h : Spells cs address) : '/' ∉ cs :=
  fun hslash => (h.written '/' hslash).2.2 rfl

end Written

end AdmissionControl.Net
