import AdmissionControl.Net.Network
import AdmissionControl.Proofs.Net.Spelling
import AdmissionControl.Proofs.Text.Decimal

namespace AdmissionControl.Net

open Text

namespace Address

-- The two families have addresses of different widths.
def width : Address → Nat
  | .v4 _ => 32
  | .v6 _ => 128

-- The bits of an address, the highest first.
def bit : Address → Nat → Bool
  | .v4 bits, i => bits.getMsbD i
  | .v6 bits, i => bits.getMsbD i

-- How many digits may say how many bits of a base count.
def lengthPlaces : Address → Nat
  | .v4 _ => 2
  | .v6 _ => 3

-- The address of the other family that embeds this one.
def mapped (bits : BitVec 32) : Address := .v6 (0xffff#96 ++ bits)

end Address

-- The address is of the family of the base and starts with the same bits.
structure Under (base : Address) (length : Nat) (address : Address) : Prop where
  family : address.width = base.width
  bits : ∀ i < length, address.bit i = base.bit i

-- A block has a base, a slash, and the number of the bits that count. Of an address that stands
-- alone they all do.
inductive Notes : List Char → Address → Nat → Prop where
  | block {cs digits : List Char} {base : Address} {length : Nat}
      (hbase : Address.ofChars? Network.blockStyle cs = some base) (hslash : '/' ∉ cs)
      (hdigits : Decimal digits length) (hplaces : digits.length ≤ base.lengthPlaces)
      (hlength : length ≤ base.width) : Notes (cs ++ '/' :: digits) base length
  | alone {cs : List Char} {base : Address} (h : Spells cs base) : Notes cs base base.width

def Network.ofBase : Address → Nat → Network
  | .v4 bits, length => .v4 bits length
  | .v6 bits, length => .v6 bits length

section Bits

theorem shiftRight_eq_iff {w length : Nat} (hlength : length ≤ w) (a b : BitVec w) :
    a >>> (w - length) = b >>> (w - length) ↔ ∀ i < length, a.getMsbD i = b.getMsbD i := by
  constructor
  · intro h i hi
    have hshifted := congrArg (BitVec.getMsbD · (i + (w - length))) h
    have hlt : i + (w - length) < w := by omega
    simpa [BitVec.getMsbD_ushiftRight, hlt] using hshifted
  · intro h
    apply BitVec.eq_of_getMsbD_eq
    intro i hi
    rw [BitVec.getMsbD_ushiftRight, BitVec.getMsbD_ushiftRight]
    by_cases hdropped : i < w - length
    · simp [hdropped]
    · rw [h (i - (w - length)) (by omega)]

end Bits

variable {base address : Address} {length : Nat}

theorem Notes.length_le {cs : List Char} (h : Notes cs base length) : length ≤ base.width := by
  cases h with
  | block hbase hslash hdigits hplaces hlength => exact hlength
  | alone h => exact Nat.le_refl _

theorem Under.symm (h : Under base length address) : Under address length base where
  family := h.family.symm
  bits i hi := (h.bits i hi).symm

theorem Under.trans {other : Address} (h : Under base length other)
    (h' : Under other length address) : Under base length address where
  family := h'.family.trans h.family
  bits i hi := (h'.bits i hi).trans (h.bits i hi)

-- A base of which no bit counts has its whole family under it.
theorem under_zero_iff : Under base 0 address ↔ address.width = base.width := by
  constructor
  · exact Under.family
  · exact fun h => ⟨h, nofun⟩

theorem not_under_of_mixed {low : BitVec 32} {high : BitVec 128} :
    ¬Under (.v4 low) length (.v6 high) ∧ ¬Under (.v6 high) length (.v4 low) := by
  constructor
  · intro h
    cases h.family
  · intro h
    cases h.family

theorem contains_ofBase_iff (hlength : length ≤ base.width) :
    (Network.ofBase base length).contains address = true ↔ Under base length address := by
  cases base with
  | v4 base =>
      cases address with
      | v4 bits =>
          have hshift := shiftRight_eq_iff (show length ≤ 32 from hlength) base bits
          simp only [Network.ofBase, Network.contains, beq_iff_eq, hshift]
          exact ⟨fun h => ⟨rfl, fun i hi => (h i hi).symm⟩, fun h i hi => (h.bits i hi).symm⟩
      | v6 bits => exact iff_of_false nofun not_under_of_mixed.1
  | v6 base =>
      cases address with
      | v4 bits => exact iff_of_false nofun not_under_of_mixed.2
      | v6 bits =>
          have hshift := shiftRight_eq_iff (show length ≤ 128 from hlength) base bits
          simp only [Network.ofBase, Network.contains, beq_iff_eq, hshift]
          exact ⟨fun h => ⟨rfl, fun i hi => (h i hi).symm⟩, fun h i hi => (h.bits i hi).symm⟩

theorem ofBase_injective {other : Address} {bits : Nat}
    (h : Network.ofBase base length = Network.ofBase other bits) :
    base = other ∧ length = bits := by
  cases base <;> cases other <;> simp_all [Network.ofBase]

section Read

variable {cs : List Char} {network : Network}

theorem lengthOf?_eq_some_iff {places limit : Nat} :
    Network.lengthOf? places limit cs = some length ↔
      Decimal cs length ∧ cs.length ≤ places ∧ length ≤ limit := by
  simp only [Network.lengthOf?, Option.bind_eq_bind, Option.bind_eq_some_iff,
    natOfDigits?_eq_some_iff, Option.ite_none_right_eq_some, Option.some.injEq]
  constructor
  · rintro ⟨_, hdecimal, hbounds, rfl⟩
    exact ⟨hdecimal, hbounds⟩
  · rintro ⟨hdecimal, hbounds⟩
    exact ⟨length, hdecimal, hbounds, rfl⟩

-- The two families are read alike, each within its own bounds.
theorem block?_eq (cs : List Char) :
    Network.block? cs = (cutAt? '/' cs).bind fun (before, digits) =>
      (Address.ofChars? Network.blockStyle before).bind fun base =>
        (Network.lengthOf? base.lengthPlaces base.width digits).map (Network.ofBase base) := by
  unfold Network.block?
  apply Option.bind_congr
  intro (before, digits) _
  apply Option.bind_congr
  intro base _
  cases base with
  | v4 bits => exact Option.map_eq_bind.symm
  | v6 bits => exact Option.map_eq_bind.symm

theorem block?_eq_some_iff :
    Network.block? cs = some network ↔
      ∃ before digits base length, cs = before ++ '/' :: digits ∧ '/' ∉ before ∧
        Address.ofChars? Network.blockStyle before = some base ∧
        (Decimal digits length ∧ digits.length ≤ base.lengthPlaces ∧ length ≤ base.width) ∧
        Network.ofBase base length = network := by
  simp only [block?_eq, Option.bind_eq_some_iff, Option.map_eq_some_iff, Prod.exists,
    cutAt?_eq_some_iff, lengthOf?_eq_some_iff]
  constructor
  · rintro ⟨before, digits, ⟨hcs, hslash⟩, base, hbase, length, hlength, hnetwork⟩
    exact ⟨before, digits, base, length, hcs, hslash, hbase, hlength, hnetwork⟩
  · rintro ⟨before, digits, base, length, hcs, hslash, hbase, hlength, hnetwork⟩
    exact ⟨before, digits, ⟨hcs, hslash⟩, base, hbase, length, hlength, hnetwork⟩

theorem block?_eq_none_of_spells (h : Spells cs base) : Network.block? cs = none := by
  rw [Option.eq_none_iff_forall_ne_some]
  intro network hblock
  obtain ⟨before, digits, -, -, rfl, -⟩ := block?_eq_some_iff.mp hblock
  exact h.slash_notMem (List.mem_append_right _ List.mem_cons_self)

theorem single_eq_ofBase (address : Address) :
    Network.single address = Network.ofBase address address.width := by
  cases address <;> rfl

-- What is read is what the text notes.
theorem parse?_eq_some_iff {text : String} :
    Network.parse? text = some network ↔
      ∃ base length, Notes text.toList base length ∧ Network.ofBase base length = network := by
  unfold Network.parse?
  constructor
  · intro h
    cases hblock : Network.block? text.toList with
    | some held =>
        rw [hblock] at h
        obtain rfl := Option.some.inj h
        obtain ⟨before, digits, base, length, hcs, hslash, hbase, hcounted, hnetwork⟩ :=
          block?_eq_some_iff.mp hblock
        obtain ⟨hdigits, hplaces, hlength⟩ := hcounted
        exact ⟨base, length, hcs ▸ .block hbase hslash hdigits hplaces hlength, hnetwork⟩
    | none =>
        rw [hblock] at h
        obtain ⟨base, hbase, rfl⟩ := Option.map_eq_some_iff.mp h
        have hspells := ofChars?_eq_some_iff.mp hbase
        exact ⟨base, base.width, .alone hspells, (single_eq_ofBase base).symm⟩
  · rintro ⟨base, length, hnotes, rfl⟩
    unfold Address.parse?
    generalize text.toList = cs at hnotes ⊢
    cases hnotes with
    | block hbase hslash hdigits hplaces hlength =>
        have hread := block?_eq_some_iff.mpr
          ⟨_, _, _, _, rfl, hslash, hbase, ⟨hdigits, hplaces, hlength⟩, rfl⟩
        rw [hread]
    | alone h =>
        rw [block?_eq_none_of_spells h, ofChars?_eq_some_iff.mpr h, Option.map_some,
          single_eq_ofBase]

end Read

end AdmissionControl.Net
