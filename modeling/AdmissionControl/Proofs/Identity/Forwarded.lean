import AdmissionControl.Identity.Client
import AdmissionControl.Proofs.BodyGuard.Declared
import AdmissionControl.Proofs.Net.RoundTrip

namespace AdmissionControl.Identity

open Http Net RequestId Text

-- What stands before the first comma of a list of hops.
def firstHop (value : Octets) : Octets := value.takeWhile (· != 44)

-- The hop is a literal of the address, with nothing but spaces and tabs around it.
def Names (hop : Octets) (address : Address) : Prop :=
  ∃ core, BodyGuard.Padded hop core ∧ Spells core address

def Readable (value : Octets) : Prop := ∀ octet ∈ value, Field.isTextOctet octet = true

-- The first list of hops is readable from end to end, and its first hop names the address.
def Forwards (headers : Headers) (address : Address) : Prop :=
  ∃ value, headers.Leads Client.forwardedForHeader value ∧ Readable value ∧
    Names (firstHop value) address

variable {value hop : Octets} {headers : Headers} {address other peer : Address}
variable {trusted : TrustedProxies}

theorem readable_firstHop (h : Readable value) : Readable (firstHop value) := by
  intro octet hoctet
  exact h octet ((List.takeWhile_sublist _).subset hoctet)

-- A comma is the same octet as text.
theorem takeWhile_map_ofNat (value : Octets) :
    (value.map fun octet => Char.ofNat octet.toNat).takeWhile (· != ',') =
      (firstHop value).map fun octet => Char.ofNat octet.toNat := by
  rw [List.takeWhile_map]
  unfold firstHop
  congr 2
  funext octet
  have hcomma : Char.ofNat octet.toNat = ',' ↔ octet = 44 := by
    rw [← Char.toNat_inj, toNat_ofNat_octet, ← UInt8.toNat_inj]
    exact Iff.rfl
  simp only [Function.comp_apply, bne, beq_eq_decide, hcomma]

theorem visible_of_spells {core : List Char} (h : Spells core address) :
    ∀ c ∈ core, 33 ≤ c.toNat ∧ c.toNat ≤ 126 := by
  intro c hc
  obtain ⟨hfrom, hto, -⟩ := h.written c hc
  omega

theorem names_iff (hreadable : Readable hop) :
    Names hop address ↔
      Spells (trimChars (hop.map fun octet => Char.ofNat octet.toNat)) address := by
  have htext := text?_eq_some_iff.mpr ⟨hreadable, rfl⟩
  constructor
  · rintro ⟨core, hpadded, hspells⟩
    obtain ⟨text, hother, rfl⟩ := (BodyGuard.padded_iff (visible_of_spells hspells)).mp hpadded
    obtain rfl : text = _ := Option.some.inj (hother.symm.trans htext)
    exact hspells
  · intro hspells
    exact ⟨_, (BodyGuard.padded_iff (visible_of_spells hspells)).mpr ⟨_, htext, rfl⟩, hspells⟩

theorem Names.unique (h : Names hop address) (h' : Names hop other) : address = other := by
  obtain ⟨core, hpadded, hspells⟩ := h
  obtain ⟨core', hpadded', hspells'⟩ := h'
  obtain ⟨text, htext, rfl⟩ := (BodyGuard.padded_iff (visible_of_spells hspells)).mp hpadded
  obtain ⟨text', htext', rfl⟩ := (BodyGuard.padded_iff (visible_of_spells hspells')).mp hpadded'
  obtain rfl : text = text' := Option.some.inj (htext.symm.trans htext')
  exact hspells.unique hspells'

-- Only the first list is looked at.
theorem readable_of_leads (hleads : headers.Leads Client.forwardedForHeader value)
    (h : Forwards headers address) : Readable value ∧ Names (firstHop value) address := by
  obtain ⟨other, hother, hreadable, hnames⟩ := h
  have hfirst := Headers.first?_eq_some_iff.mpr hother
  rw [Headers.first?_eq_some_iff.mpr hleads] at hfirst
  cases hfirst
  exact ⟨hreadable, hnames⟩

theorem Forwards.unique (h : Forwards headers address) (h' : Forwards headers other) :
    address = other := by
  obtain ⟨value, hleads, -, hnames⟩ := h
  exact hnames.unique (readable_of_leads hleads h').2

namespace Client

theorem forwarded?_eq_some_iff : forwarded? headers = some address ↔ Forwards headers address := by
  simp only [forwarded?, Headers.text?, Option.bind_eq_bind, Option.bind_eq_some_iff,
    text?_eq_some_iff, ofChars?_eq_some_iff, Headers.first?_eq_some_iff]
  constructor
  · rintro ⟨_, ⟨value, hleads, hreadable, rfl⟩, hspells⟩
    rw [takeWhile_map_ofNat] at hspells
    exact ⟨value, hleads, hreadable, (names_iff (readable_firstHop hreadable)).mpr hspells⟩
  · rintro ⟨value, hleads, hreadable, hnames⟩
    refine ⟨_, ⟨value, hleads, hreadable, rfl⟩, ?_⟩
    rw [takeWhile_map_ofNat]
    exact (names_iff (readable_firstHop hreadable)).mp hnames

theorem resolve_of_forwards (htrusted : trusted.contains peer = true)
    (h : Forwards headers address) :
    (resolve trusted (some peer) headers).1 = ofAddress address := by
  simp only [resolve, htrusted, forwarded?_eq_some_iff.mpr h, if_true]

theorem resolve_of_not_forwards (h : ∀ address, ¬Forwards headers address) :
    (resolve trusted (some peer) headers).1 = ofAddress peer := by
  have hnone : forwarded? headers = none := by
    rw [Option.eq_none_iff_forall_ne_some]
    exact fun address haddress => h address (forwarded?_eq_some_iff.mp haddress)
  simp only [resolve, hnone]
  split <;> rfl

theorem resolve_of_unreadable (hleads : headers.Leads forwardedForHeader value)
    (hunreadable : ¬Readable value) : (resolve trusted (some peer) headers).1 = ofAddress peer := by
  apply resolve_of_not_forwards
  intro address h
  exact hunreadable (readable_of_leads hleads h).1

-- Behind a trusted proxy the first hop decides, if the whole list can be read: an address there
-- is the client, and with anything else the proxy is. A list with a single octet that cannot be
-- read counts for nothing, wherever the octet stands.
theorem resolve_of_first_hop (htrusted : trusted.contains peer = true)
    (hleads : headers.Leads forwardedForHeader value) :
    (Readable value →
      (∀ address, Names (firstHop value) address →
        (resolve trusted (some peer) headers).1 = ofAddress address) ∧
      ((∀ address, ¬Names (firstHop value) address) →
        (resolve trusted (some peer) headers).1 = ofAddress peer)) ∧
    (¬Readable value → (resolve trusted (some peer) headers).1 = ofAddress peer) := by
  refine ⟨fun hreadable => ⟨fun address hnames => ?_, fun hnone => ?_⟩, ?_⟩
  · exact resolve_of_forwards htrusted ⟨value, hleads, hreadable, hnames⟩
  · apply resolve_of_not_forwards
    intro address h
    exact hnone address (readable_of_leads hleads h).2
  · exact resolve_of_unreadable hleads

-- "203.0.113.5, " and an octet beyond ASCII.
def unreadableTail : Octets := [50, 48, 51, 46, 48, 46, 49, 49, 51, 46, 53, 44, 32, 0xe9]

theorem not_readable_unreadableTail : ¬Readable unreadableTail := by
  intro h
  exact absurd (h 0xe9 (by decide)) (by decide)

theorem names_unreadableTail : Names (firstHop unreadableTail) (.v4 0xcb007105) := by
  have hreadable : Readable (firstHop unreadableTail) := List.all_eq_true.mp (by decide)
  rw [names_iff hreadable, ← ofChars?_eq_some_iff]
  rfl

-- The address before the comma does not become the client.
theorem resolve_of_first_hop_of_unreadable_tail :
    let trusted : TrustedProxies := ⟨[.single (.v4 0x7f000001)]⟩
    let headers : Headers := [⟨forwardedForHeader, unreadableTail⟩]
    trusted.contains (.v4 0x7f000001) = true ∧
    headers.Leads forwardedForHeader unreadableTail ∧
    Names (firstHop unreadableTail) (.v4 0xcb007105) ∧
    (resolve trusted (some (.v4 0x7f000001)) headers).1 = ofAddress (.v4 0x7f000001) := by
  intro trusted headers
  have htrusted : trusted.contains (.v4 0x7f000001) = true := by decide
  have hleads : headers.Leads forwardedForHeader unreadableTail := ⟨[], [], rfl, nofun⟩
  have hclient := (resolve_of_first_hop htrusted hleads).2 not_readable_unreadableTail
  exact ⟨htrusted, hleads, names_unreadableTail, hclient⟩

-- So for lists of any octets that a field may hold, the first hop alone does not decide.
theorem first_hop_not_decisive :
    ¬∀ (trusted : TrustedProxies) (peer : Address) (headers : Headers) (value : Octets),
      trusted.contains peer = true → headers.Leads forwardedForHeader value →
      (∀ octet ∈ value, Field.isValueOctet octet = true) →
      (∀ address, Names (firstHop value) address →
        (resolve trusted (some peer) headers).1 = ofAddress address) ∧
      ((∀ address, ¬Names (firstHop value) address) →
        (resolve trusted (some peer) headers).1 = ofAddress peer) := by
  intro h
  have hleads : Headers.Leads forwardedForHeader unreadableTail
      [⟨forwardedForHeader, unreadableTail⟩] := ⟨[], [], rfl, nofun⟩
  have hfirst := (h ⟨[.single (.v4 0x7f000001)]⟩ (.v4 0x7f000001) _ unreadableTail (by decide)
    hleads (List.all_eq_true.mp (by decide))).1 _ names_unreadableTail
  rw [resolve_of_unreadable hleads not_readable_unreadableTail] at hfirst
  exact absurd (text_injective (congrArg Client.name hfirst)) (by decide)

end Client

end AdmissionControl.Identity
