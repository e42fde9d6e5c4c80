import AdmissionControl.Identity.RequestId
import AdmissionControl.Proofs.Text.Trimmed
import AdmissionControl.Rejection

namespace AdmissionControl.Identity.RequestId

open Http Text

-- The text that a caller names its request by: the first value of the field, if it is
-- readable, without the blanks at either end, if that leaves something and not too much.
structure Accepts (headers : Headers) (text : String) : Prop where
  value : ∃ octets, headers.first? header = some octets ∧
    (∀ octet ∈ octets, Field.isTextOctet octet = true) ∧
    Trimmed (octets.map fun octet => Char.ofNat octet.toNat) text.toList
  nonempty : text ≠ ""
  short : text.utf8ByteSize ≤ longest

theorem toNat_ofNat_octet (octet : UInt8) : (Char.ofNat octet.toNat).toNat = octet.toNat := by
  have hlt := octet.toNat_lt
  have hvalid : octet.toNat.isValidChar := Or.inl (by omega)
  rw [Char.ofNat, dif_pos hvalid]
  rfl

theorem utf8ByteSize_ofList {cs : List Char} (hascii : ∀ c ∈ cs, c.toNat ≤ 127) :
    (String.ofList cs).utf8ByteSize = cs.length := by
  induction cs with
  | nil => rfl
  | cons c cs ih =>
      obtain ⟨hc, hcs⟩ := List.forall_mem_cons.mp hascii
      have hone : c.utf8Size = 1 := Char.utf8Size_eq_one_iff.mpr (UInt32.le_iff_toNat_le.mpr hc)
      rw [String.ofList_cons, String.utf8ByteSize_append, String.utf8ByteSize_singleton, hone,
        ih hcs, List.length_cons, Nat.add_comm]

theorem isTextOctet_iff {octet : UInt8} : Field.isTextOctet octet = true ↔
    octet.toNat = 9 ∨ (32 ≤ octet.toNat ∧ octet.toNat ≤ 126) := by
  simp only [Field.isTextOctet, Bool.or_eq_true, beq_iff_eq, Bool.and_eq_true,
    decide_eq_true_eq, UInt8.le_iff_toNat_le, ← UInt8.toNat_inj]
  exact Iff.rfl

theorem range_of_readable {octets : Octets}
    (hreadable : ∀ octet ∈ octets, Field.isTextOctet octet = true) :
    ∀ c ∈ octets.map fun octet => Char.ofNat octet.toNat,
      c.toNat = 9 ∨ (32 ≤ c.toNat ∧ c.toNat ≤ 126) := by
  intro c hc
  obtain ⟨octet, hoctet, rfl⟩ := List.mem_map.mp hc
  rw [toNat_ofNat_octet]
  exact isTextOctet_iff.mp (hreadable octet hoctet)

-- A readable value has tabs and printable ASCII only, and so has any part of it.
theorem range_of_trimmed {octets : Octets} {cs : List Char}
    (hreadable : ∀ octet ∈ octets, Field.isTextOctet octet = true)
    (htrimmed : Trimmed (octets.map fun octet => Char.ofNat octet.toNat) cs) :
    ∀ c ∈ cs, c.toNat = 9 ∨ (32 ≤ c.toNat ∧ c.toNat ≤ 126) := by
  intro c hc
  obtain ⟨lead, trail, hcs, -⟩ := htrimmed.around
  refine range_of_readable hreadable c ?_
  rw [hcs]
  exact List.mem_append_left _ (List.mem_append_right _ hc)

theorem text?_eq_some_iff {octets : Octets} {cs : List Char} :
    Field.text? octets = some cs ↔
      (∀ octet ∈ octets, Field.isTextOctet octet = true) ∧
        octets.map (fun octet => Char.ofNat octet.toNat) = cs := by
  simp only [Field.text?, ← List.all_eq_true, Option.ite_none_right_eq_some,
    Option.some.injEq]

variable {headers : Headers} {text generated : String}

theorem ofCaller?_eq_some_iff : ofCaller? headers = some text.toList ↔ Accepts headers text := by
  have hsize {octets : Octets} (hreadable : ∀ octet ∈ octets, Field.isTextOctet octet = true)
      (htrimmed : Trimmed (octets.map fun octet => Char.ofNat octet.toNat) text.toList) :
      text.utf8ByteSize = text.toList.length := by
    have hrange := range_of_trimmed hreadable htrimmed
    have hsize := utf8ByteSize_ofList fun c hc => by
      have := hrange c hc
      omega
    rwa [String.ofList_toList] at hsize
  simp only [ofCaller?, Headers.text?, Option.filter_eq_some_iff, Option.map_eq_some_iff,
    Option.bind_eq_some_iff, text?_eq_some_iff, Bool.and_eq_true, Bool.not_eq_true',
    List.isEmpty_eq_false_iff, decide_eq_true_eq]
  constructor
  · rintro ⟨⟨_, ⟨octets, hfirst, hreadable, rfl⟩, htrim⟩, hnonempty, hlength⟩
    have htrimmed := htrim ▸
      trimmed_trimChars (octets.map fun octet : UInt8 => Char.ofNat octet.toNat)
    exact ⟨⟨octets, hfirst, hreadable, htrimmed⟩, fun h => hnonempty (by rw [h]; rfl),
      by rwa [hsize hreadable htrimmed]⟩
  · rintro ⟨⟨octets, hfirst, hreadable, htrimmed⟩, hnonempty, hshort⟩
    exact ⟨⟨_, ⟨octets, hfirst, hreadable, rfl⟩, htrimmed.eq_trimChars.symm⟩,
      fun h => hnonempty (String.toList_eq_nil_iff.mp h), by rwa [← hsize hreadable htrimmed]⟩

theorem text_ofHeaders_of_accepts (h : Accepts headers text) :
    (ofHeaders headers generated).text = text := by
  rw [ofHeaders, ofCaller?_eq_some_iff.mpr h]
  exact String.ofList_toList

-- What is accepted can stand in a header field again.
theorem Accepts.isFieldText (h : Accepts headers text) : Rejection.isFieldText text = true := by
  obtain ⟨octets, -, hreadable, htrimmed⟩ := h.value
  simp only [Rejection.isFieldText, List.all_eq_true]
  intro c hc
  by_cases htab : c.toNat = 9
  · have hc : c = '\t' := Char.toNat_inj.mp htab
    rw [hc]
    rfl
  · have hrange := (range_of_trimmed hreadable htrimmed c hc).resolve_left htab
    simp
    omega

end AdmissionControl.Identity.RequestId
