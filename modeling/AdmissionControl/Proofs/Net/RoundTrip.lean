import AdmissionControl.Net.AddressText
import AdmissionControl.Proofs.Net.Spelling
import Mathlib.Algebra.Group.Nat.Defs
import Mathlib.Data.List.TakeWhile

namespace AdmissionControl.Net

open Text

section Parts

variable {base : Nat}

theorem length_partsOf (base count n : Nat) : (Address.partsOf base count n).length = count := by
  induction count generalizing n with
  | zero => rfl
  | succ count ih => rw [Address.partsOf, List.length_append, ih, List.length_singleton]

theorem lt_of_mem_partsOf (hbase : 0 < base) {count n part : Nat}
    (h : part ∈ Address.partsOf base count n) : part < base := by
  induction count generalizing n with
  | zero => cases h
  | succ count ih =>
      rw [Address.partsOf] at h
      rcases List.mem_append.mp h with h | h
      · exact ih h
      · rw [List.mem_singleton.mp h]
        exact Nat.mod_lt n hbase

theorem ofParts_append_singleton (base : Nat) (parts : List Nat) (part : Nat) :
    Address.ofParts base (parts ++ [part]) = Address.ofParts base parts * base + part := by
  unfold Address.ofParts
  rw [List.foldl_append]
  rfl

theorem ofParts_partsOf (base count n : Nat) :
    Address.ofParts base (Address.partsOf base count n) = n % base ^ count := by
  induction count generalizing n with
  | zero => rw [Nat.pow_zero, Nat.mod_one]; rfl
  | succ count ih =>
      rw [Address.partsOf, ofParts_append_singleton, ih, Nat.pow_succ', Nat.mod_mul]
      rw [Nat.mul_comm, Nat.add_comm]

theorem ofOctets_octets (bits : BitVec 32) :
    Address.ofOctets (Address.octets bits) = bits := by
  have hsmall : bits.toNat < 256 ^ 4 := by
    have hlt := bits.isLt
    omega
  unfold Address.ofOctets Address.octets
  rw [ofParts_partsOf, Nat.mod_eq_of_lt hsmall, BitVec.ofNat_toNat, BitVec.setWidth_eq]

theorem ofGroups_groups (bits : BitVec 128) :
    Address.ofGroups (Address.groups bits) = bits := by
  have hsmall : bits.toNat < 65536 ^ 8 := by
    have hlt := bits.isLt
    omega
  unfold Address.ofGroups Address.groups
  rw [ofParts_partsOf, Nat.mod_eq_of_lt hsmall, BitVec.ofNat_toNat, BitVec.setWidth_eq]

theorem length_groups (bits : BitVec 128) : (Address.groups bits).length = 8 := by
  unfold Address.groups
  rw [length_partsOf]

theorem lt_of_mem_groups {bits : BitVec 128} {group : Nat} (h : group ∈ Address.groups bits) :
    group < 65536 := by
  unfold Address.groups at h
  exact lt_of_mem_partsOf (by decide) h

end Parts

theorem quad_quadText (bits : BitVec 32) :
    Quad (Address.quadText (Address.octets bits)) (Address.octets bits) where
  length := length_partsOf 256 4 bits.toNat
  small octet h := lt_of_mem_partsOf (by decide) h
  text := by
    unfold Address.quadText
    rw [String.toList_intercalate, List.map_map]
    congr 1
    apply List.map_congr_left
    intro octet hoctet
    simp

theorem group_hexDigits {n : Nat} (hn : n < 65536) : Group (hexDigits n) n where
  short := (Nat.length_toDigits_le_iff (by decide) (by decide)).mpr hn
  numeral := numeral_toDigits (by decide) (by decide) n

theorem groupText_eq (groups : List Nat) :
    Address.groupText groups = [':'].intercalate (groups.map hexDigits) := by
  unfold Address.groupText
  rw [String.toList_intercalate, List.map_map]
  congr 1
  apply List.map_congr_left
  intro group hgroup
  exact String.toList_ofList

theorem run_groupText {embeds : Bool} {groups : List Nat} (hgroups : groups ≠ [])
    (hsmall : ∀ group ∈ groups, group < 65536) :
    Run embeds (Address.groupText groups) groups := by
  rw [groupText_eq]
  induction groups with
  | nil => exact absurd rfl hgroups
  | cons group groups ih =>
      obtain ⟨hfirst, hrest⟩ := List.forall_mem_cons.mp hsmall
      cases groups with
      | nil =>
          rw [List.map_singleton, List.intercalate_singleton]
          exact .group (group_hexDigits hfirst)
      | cons next rest =>
          rw [List.map_cons, List.map_cons, List.intercalate_cons_cons, List.append_assoc]
          exact .cons (group_hexDigits hfirst) (ih (List.cons_ne_nil _ _) hrest)

theorem side_groupText {embeds : Bool} {groups : List Nat}
    (hsmall : ∀ group ∈ groups, group < 65536) :
    Side embeds (Address.groupText groups) groups := by
  cases groups with
  | nil => exact .empty
  | cons group groups => exact .run (run_groupText (List.cons_ne_nil _ _) hsmall)

theorem exists_zeroRun (groups : List Nat) :
    ∃ rest, groups = List.replicate (Address.zeroRun groups) 0 ++ rest := by
  have hzeros : groups.takeWhile (· == 0) = List.replicate (Address.zeroRun groups) 0 := by
    rw [List.eq_replicate_iff]
    refine ⟨rfl, fun group hgroup => ?_⟩
    simpa using List.mem_takeWhile_imp hgroup
  refine ⟨groups.dropWhile (· == 0), ?_⟩
  rw [← hzeros]
  exact List.takeWhile_append_dropWhile.symm

-- There are zeros where the longest run of them is said to be.
theorem exists_longestZeroRun (start : Nat) (groups : List Nat) :
    ∃ front back,
      groups = front ++ List.replicate (Address.longestZeroRun start groups).2 0 ++ back ∧
      (Address.longestZeroRun start groups).1 = start + front.length := by
  induction groups generalizing start with
  | nil => exact ⟨[], [], rfl, rfl⟩
  | cons group groups ih =>
      unfold Address.longestZeroRun
      simp only
      split
      · obtain ⟨rest, hrest⟩ := exists_zeroRun (group :: groups)
        exact ⟨[], rest, hrest, rfl⟩
      · obtain ⟨front, back, hgroups, hstart⟩ := ih (start + 1)
        refine ⟨group :: front, back, ?_, ?_⟩
        · rw [List.cons_append, List.cons_append, ← hgroups]
        · rw [hstart, List.length_cons]
          omega

theorem eight_v6Text {groups : List Nat} (hlength : groups.length = 8)
    (hsmall : ∀ group ∈ groups, group < 65536) : Eight (Address.v6Text groups) groups := by
  obtain ⟨front, back, hgroups, hstart⟩ := exists_longestZeroRun 0 groups
  unfold Address.v6Text
  rcases hrun : Address.longestZeroRun 0 groups with ⟨start, zeros⟩
  rw [hrun] at hgroups hstart
  simp only [Nat.zero_add] at hgroups hstart ⊢
  by_cases hzeros : 2 ≤ zeros
  · have hcount : front.length + zeros + back.length = 8 := by
      rw [← hlength, hgroups, List.length_append, List.length_append, List.length_replicate]
    have hfront : groups.take start = front := by
      rw [hgroups, hstart, List.append_assoc, List.take_left]
    have hback : groups.drop (start + zeros) = back := by
      rw [hgroups, hstart]
      exact List.drop_left' (by rw [List.length_append, List.length_replicate])
    have hgap : Eight
        (Address.groupText front ++ ':' :: ':' :: Address.groupText back)
        (front ++ List.replicate (8 - (front.length + back.length)) 0 ++ back) := by
      refine .gap (side_groupText ?_) (side_groupText ?_) (by omega)
      · intro group hgroup
        exact hsmall group (List.mem_of_mem_take (hfront ▸ hgroup))
      · intro group hgroup
        exact hsmall group (List.mem_of_mem_drop (hback ▸ hgroup))
    rw [show 8 - (front.length + back.length) = zeros by omega, ← hgroups] at hgap
    rwa [if_pos hzeros, hfront, hback]
  · rw [if_neg hzeros]
    refine .full (run_groupText ?_ hsmall) hlength
    intro hnil
    rw [hnil] at hlength
    cases hlength

-- The four last octets are the two last groups.
theorem groups_eq_of_mapped {bits : BitVec 128}
    (h : (Address.groups bits).take 6 = [0, 0, 0, 0, 0, 0xffff]) :
    ∃ a b c d, Address.octets (bits.setWidth 32) = [a, b, c, d] ∧
      Address.groups bits = List.replicate 5 0 ++ [0xffff, a * 256 + b, c * 256 + d] := by
  refine ⟨_, _, _, _, rfl, ?_⟩
  rw [← List.take_append_drop 6 (Address.groups bits), h]
  simp only [Address.groups, Address.partsOf, BitVec.toNat_setWidth, List.nil_append,
    List.cons_append, List.drop_succ_cons, List.drop_zero, List.reduceReplicate, Nat.reducePow,
    List.cons.injEq, and_true, true_and]
  constructor <;> omega

theorem eight_mapped {cs : List Char} {a b c d : Nat} (h : Quad cs [a, b, c, d]) :
    Eight ("::ffff:".toList ++ cs)
      (List.replicate 5 0 ++ [0xffff, a * 256 + b, c * 256 + d]) := by
  have hlead : "::ffff:".toList = ':' :: ':' :: (hexDigits 0xffff ++ [':']) := by decide
  have hrun : Run true (hexDigits 0xffff ++ ':' :: cs) [0xffff, a * 256 + b, c * 256 + d] :=
    .cons (group_hexDigits (by decide)) (.quad rfl h)
  have hgap := Eight.gap .empty (.run hrun) (by simp)
  rw [hlead]
  simpa using hgap

theorem spells_chars (address : Address) : Spells address.chars address := by
  cases address with
  | v4 bits =>
      have hspells := Spells.v4 (quad_quadText bits)
      rwa [ofOctets_octets] at hspells
  | v6 bits =>
      have height : Eight (Address.v6 bits).chars (Address.groups bits) := by
        rw [Address.chars]
        split
        · rename_i hmapped
          obtain ⟨a, b, c, d, hoctets, hgroups⟩ := groups_eq_of_mapped hmapped
          rw [hgroups]
          exact eight_mapped (hoctets ▸ quad_quadText (bits.setWidth 32))
        · exact eight_v6Text (length_groups bits) fun group hgroup => lt_of_mem_groups hgroup
      have hspells := Spells.v6 height
      rwa [ofGroups_groups] at hspells

-- The text of an address reads back as the address.
theorem parse?_text (address : Address) : Address.parse? address.text = some address := by
  unfold Address.parse? Address.text
  rw [String.toList_ofList]
  exact ofChars?_eq_some_iff.mpr (spells_chars address)

theorem text_injective : Function.Injective Address.text := by
  intro address other h
  have hread := parse?_text address
  rw [h, parse?_text other] at hread
  exact (Option.some.inj hread).symm

end AdmissionControl.Net
