import AdmissionControl.Proofs.Identity.Forwarded

namespace AdmissionControl.Identity

open Http Net

-- The address that a request of a known peer is counted under: the one that a trusted peer
-- forwards for, or else the peer's own.
inductive Chosen (trusted : TrustedProxies) (peer : Address) (headers : Headers) :
    Address → Prop where
  | forwarded {address : Address} (htrusted : trusted.contains peer = true)
      (hforwards : Forwards headers address) : Chosen trusted peer headers address
  | itself (h : trusted.contains peer = false ∨ ∀ address, ¬Forwards headers address) :
      Chosen trusted peer headers peer

variable {trusted : TrustedProxies} {peer address other : Address} {headers : Headers}

theorem exists_chosen (trusted : TrustedProxies) (peer : Address) (headers : Headers) :
    ∃ address, Chosen trusted peer headers address := by
  cases htrusted : trusted.contains peer with
  | false => exact ⟨peer, .itself (Or.inl htrusted)⟩
  | true =>
      by_cases h : ∃ address, Forwards headers address
      · obtain ⟨address, hforwards⟩ := h
        exact ⟨address, .forwarded htrusted hforwards⟩
      · exact ⟨peer, .itself (Or.inr (not_exists.mp h))⟩

theorem Chosen.resolve_eq (h : Chosen trusted peer headers address) :
    (Client.resolve trusted (some peer) headers).1 = .ofAddress address := by
  cases h with
  | forwarded htrusted hforwards => exact Client.resolve_of_forwards htrusted hforwards
  | itself h =>
      rcases h with huntrusted | hnone
      · simp only [Client.resolve, huntrusted]
        rfl
      · exact Client.resolve_of_not_forwards hnone

theorem ofAddress_injective : Function.Injective Client.ofAddress := by
  intro address other h
  exact text_injective (congrArg Client.name h)

theorem Chosen.unique (h : Chosen trusted peer headers address)
    (h' : Chosen trusted peer headers other) : address = other :=
  ofAddress_injective (h.resolve_eq.symm.trans h'.resolve_eq)

-- No letter that the text of an address is written with comes after the last hexadecimal digit.
theorem head?_text_ne (address : Address) : address.text.toList.head? ≠ some 'r' := by
  intro hhead
  unfold Address.text at hhead
  rw [String.toList_ofList] at hhead
  have hrange := (spells_chars address).written 'r' (List.mem_of_mem_head? hhead)
  exact absurd hrange (by decide)

-- Two requests of known peers, whatever else they say, are counted together just when they come
-- from one address, however each of them spells it. The name that they are counted under is a
-- literal of that address, and none of those that are given to requests without a peer.
theorem resolve_canonical (trusted others : TrustedProxies) (peer neighbour : Address)
    (headers fields : Headers) :
    ∃ address other, Chosen trusted peer headers address ∧ Chosen others neighbour fields other ∧
      ((Client.resolve trusted (some peer) headers).1 =
        (Client.resolve others (some neighbour) fields).1 ↔ address = other) ∧
      Address.parse? (Client.resolve trusted (some peer) headers).1.name = some address ∧
      (Client.resolve trusted (some peer) headers).1 ≠ .unknown ∧
      ¬"request-id:".toList <+: (Client.resolve trusted (some peer) headers).1.name.toList := by
  obtain ⟨address, h⟩ := exists_chosen trusted peer headers
  obtain ⟨other, h'⟩ := exists_chosen others neighbour fields
  refine ⟨address, other, h, h', ?_, ?_, ?_, ?_⟩
  · rw [h.resolve_eq, h'.resolve_eq]
    exact ofAddress_injective.eq_iff
  · rw [h.resolve_eq]
    exact parse?_text address
  · rw [h.resolve_eq]
    intro hunknown
    have htext : address.text = "request:unknown" := congrArg Client.name hunknown
    apply head?_text_ne address
    rw [htext]
    rfl
  · rw [h.resolve_eq]
    rintro ⟨rest, htext⟩
    apply head?_text_ne address
    rw [show address.text.toList = _ from htext.symm]
    rfl

-- Three spellings of one address, and one of the address that it embeds.
example :
    Address.parse? "::FFFF:203.0.113.5" = Address.parse? "0:0:0:0:0:ffff:cb00:7105" ∧
    Address.parse? "::FFFF:203.0.113.5" = Address.parse? "::ffff:CB00:7105" ∧
    Address.parse? "::FFFF:203.0.113.5" ≠ Address.parse? "203.0.113.5" := by
  decide

end AdmissionControl.Identity
