import AdmissionControl.Identity.Client
import AdmissionControl.Proofs.Identity.Accepted

namespace AdmissionControl.Identity

open Http RequestId Text

-- The first field of this name is readable, and this is what it has between the blanks at
-- either end, which is not nothing.
structure Says (name : String) (headers : Headers) (text : String) : Prop where
  value : ∃ octets, headers.first? name = some octets ∧
    (∀ octet ∈ octets, Field.isTextOctet octet = true) ∧
    Trimmed (octets.map fun octet => Char.ofNat octet.toNat) text.toList
  nonempty : text ≠ ""

variable {name text other generated : String} {headers : Headers}

theorem accepts_iff :
    Accepts headers text ↔ Says header headers text ∧ text.utf8ByteSize ≤ longest := by
  constructor
  · intro h
    exact ⟨⟨h.value, h.nonempty⟩, h.short⟩
  · rintro ⟨h, hshort⟩
    exact ⟨h.value, h.nonempty, hshort⟩

namespace Client

theorem nonBlankText?_eq_some_iff :
    nonBlankText? name headers = some text ↔ Says name headers text := by
  simp only [nonBlankText?, Headers.text?, Option.bind_eq_some_iff, Option.map_eq_some_iff,
    text?_eq_some_iff, Option.ite_none_left_eq_some, Option.some.injEq]
  constructor
  · rintro ⟨_, ⟨_, ⟨octets, hfirst, hreadable, rfl⟩, rfl⟩, hnonempty, rfl⟩
    refine ⟨⟨octets, hfirst, hreadable, ?_⟩, fun hempty => hnonempty ?_⟩
    · rw [String.toList_ofList]
      exact trimmed_trimChars _
    · rw [String.ofList_eq_empty_iff.mp hempty]
      rfl
  · intro h
    obtain ⟨octets, hfirst, hreadable, htrimmed⟩ := h.value
    have hcore := htrimmed.eq_trimChars
    refine ⟨_, ⟨_, ⟨octets, hfirst, hreadable, rfl⟩, hcore.symm⟩, fun hempty => h.nonempty ?_,
      String.ofList_toList⟩
    exact String.toList_eq_nil_iff.mp (List.isEmpty_iff.mp hempty)

theorem nonBlankText?_eq_none_iff :
    nonBlankText? name headers = none ↔ ∀ text, ¬Says name headers text := by
  rw [Option.eq_none_iff_forall_ne_some]
  exact forall_congr' fun text => not_congr nonBlankText?_eq_some_iff

end Client

theorem Says.unique (h : Says name headers text) (h' : Says name headers other) : text = other := by
  have hread := Client.nonBlankText?_eq_some_iff.mpr h
  rw [Client.nonBlankText?_eq_some_iff.mpr h'] at hread
  exact (Option.some.inj hread).symm

namespace RequestId

-- What is reported as the caller's is a short text that the field says.
theorem ofHeaders_reports_iff :
    (ofHeaders headers generated).callerSupplied = true ∧
        (ofHeaders headers generated).text = text ↔
      Says header headers text ∧ text.utf8ByteSize ≤ longest := by
  rw [← accepts_iff]
  constructor
  · rintro ⟨hsupplied, rfl⟩
    unfold ofHeaders at hsupplied ⊢
    cases hcaller : ofCaller? headers with
    | none =>
        rw [hcaller] at hsupplied
        cases hsupplied
    | some cs => exact ofCaller?_eq_some_iff.mp (by rw [hcaller, String.toList_ofList])
  · intro h
    refine ⟨?_, text_ofHeaders_of_accepts h⟩
    unfold ofHeaders
    rw [ofCaller?_eq_some_iff.mpr h]

end RequestId

namespace Client

-- The name that all share who cannot be told apart is not one of a request.
theorem unknown_ne_request_id (text : String) : unknown.name ≠ "request-id:" ++ text := by
  intro h
  have hseventh := congrArg (fun name => name.toList[7]?) h
  simp [unknown, String.toList_append] at hseventh

theorem name_ofHeaders_of_said (h : Says header headers text) :
    (ofHeaders headers).name = "request-id:" ++ text := by
  unfold ofHeaders
  rw [nonBlankText?_eq_some_iff.mpr h]

theorem name_ofHeaders_of_unsaid (hnone : ∀ text, ¬Says header headers text) :
    (ofHeaders headers).name = "request-id:" ++ text ↔
      Says realAddressHeader headers ("request-id:" ++ text) := by
  unfold ofHeaders
  rw [nonBlankText?_eq_none_iff.mpr hnone, ← nonBlankText?_eq_some_iff]
  cases nonBlankText? realAddressHeader headers with
  | none => exact iff_of_false (unknown_ne_request_id text) nofun
  | some address => exact Option.some_inj.symm

-- The name of a request comes from its own field, or else from the field of an address that
-- says the same.
theorem name_ofHeaders_eq_iff :
    (ofHeaders headers).name = "request-id:" ++ text ↔
      Says header headers text ∨
        (∀ text, ¬Says header headers text) ∧
          Says realAddressHeader headers ("request-id:" ++ text) := by
  by_cases hsome : ∃ text, Says header headers text
  · obtain ⟨said, hsaid⟩ := hsome
    rw [name_ofHeaders_of_said hsaid]
    constructor
    · intro h
      rw [String.append_right_inj] at h
      exact Or.inl (h ▸ hsaid)
    · rintro (h | ⟨hnone, -⟩)
      · rw [h.unique hsaid]
      · exact absurd hsaid (hnone said)
  · have hnone := not_exists.mp hsome
    rw [name_ofHeaders_of_unsaid hnone]
    constructor
    · exact fun h => Or.inr ⟨hnone, h⟩
    · rintro (h | ⟨-, h⟩)
      · exact absurd h (hnone text)
      · exact h

end Client

-- A request that has no peer is counted under what it is reported to call itself. No other
-- short text becomes such a name, unless the field of an address says it, prefix and all, where
-- the request's own field says nothing. A text of any length has to be said by one of the two.
theorem reported_id_names_client (trusted : TrustedProxies) (headers : Headers)
    (generated : String) :
    let client := (Client.resolve trusted none headers).1
    let id := RequestId.ofHeaders headers generated
    (id.callerSupplied = true → client.name = "request-id:" ++ id.text) ∧
    (∀ text, text.utf8ByteSize ≤ longest →
      (client.name = "request-id:" ++ text ↔
        id.callerSupplied = true ∧ id.text = text ∨
        (∀ text, ¬Says header headers text) ∧
          Says Client.realAddressHeader headers ("request-id:" ++ text))) ∧
    (∀ text, client.name = "request-id:" ++ text →
      Says header headers text ∨
      (∀ text, ¬Says header headers text) ∧
        Says Client.realAddressHeader headers ("request-id:" ++ text)) ∧
    (∀ text, id.callerSupplied = true ∧ id.text = text ↔
      Says header headers text ∧ text.utf8ByteSize ≤ longest) := by
  intro client id
  have hclient : client = Client.ofHeaders headers := rfl
  refine ⟨fun hsupplied => ?_, fun text hshort => ?_, fun text hname => ?_,
    fun text => ofHeaders_reports_iff⟩
  · obtain ⟨hreported, -⟩ := ofHeaders_reports_iff.mp ⟨hsupplied, rfl⟩
    rw [hclient, Client.name_ofHeaders_of_said hreported]
  · rw [hclient, Client.name_ofHeaders_eq_iff, ofHeaders_reports_iff, and_iff_left hshort]
  · rw [hclient] at hname
    exact Client.name_ofHeaders_eq_iff.mp hname

-- "trace-42" with blanks around it.
def paddedId : Octets := [32, 116, 114, 97, 99, 101, 45, 52, 50, 9]

theorem reported_id_names_client_of_padded :
    let headers : Headers := [⟨header, paddedId⟩]
    let id := RequestId.ofHeaders headers "made-up"
    "trace-42".utf8ByteSize ≤ longest ∧ id.callerSupplied = true ∧ id.text = "trace-42" ∧
    (Client.resolve .none none headers).1.name = "request-id:trace-42" := by
  intro headers id
  have hsupplied : id.callerSupplied = true := by decide
  have htext : id.text = "trace-42" := by decide
  obtain ⟨-, hiff, -, -⟩ := reported_id_names_client .none headers "made-up"
  exact ⟨by decide, hsupplied, htext, (hiff "trace-42" (by decide)).mpr (Or.inl ⟨hsupplied, htext⟩)⟩

-- Whatever the request is counted under as its name is what is reported as its name.
def Concur (headers : Headers) : Prop :=
  ∀ (trusted : TrustedProxies) (generated text : String),
    (Client.resolve trusted none headers).1.name = "request-id:" ++ text ↔
      (RequestId.ofHeaders headers generated).callerSupplied = true ∧
        (RequestId.ofHeaders headers generated).text = text

-- "request-id:a" in the field of an address.
def spoofedId : Octets := [114, 101, 113, 117, 101, 115, 116, 45, 105, 100, 58, 97]

-- One letter more than may be reported.
def oversizedId : Octets := List.replicate 129 120

theorem said_oversizedId :
    Says header [⟨header, oversizedId⟩] (String.ofList (List.replicate 129 'x')) where
  value := by
    refine ⟨oversizedId, rfl, fun octet hoctet => ?_, ?_⟩
    · rw [(List.mem_replicate.mp hoctet).2]
      rfl
    · rw [String.toList_ofList]
      unfold oversizedId
      rw [List.map_replicate]
      refine ⟨⟨[], [], by simp, nofun⟩, fun c hc => ?_, fun c hc => ?_⟩
      · rw [(List.mem_replicate.mp (List.mem_of_mem_head? hc)).2]
        rfl
      · rw [(List.mem_replicate.mp (List.mem_of_mem_getLast? hc)).2]
        rfl
  nonempty := fun hempty => absurd (String.ofList_eq_empty_iff.mp hempty) (by simp)

theorem longest_lt_oversized :
    longest < (String.ofList (List.replicate 129 'x')).utf8ByteSize := by
  rw [utf8ByteSize_ofList, List.length_replicate]
  · decide
  · intro c hc
    rw [(List.mem_replicate.mp hc).2]
    decide

-- The two do not concur on a name that comes from the field of an address, nor on one that is
-- too long.
theorem counted_id_not_always_reported :
    ¬Concur [⟨Client.realAddressHeader, spoofedId⟩] ∧ ¬Concur [⟨header, oversizedId⟩] := by
  constructor
  · intro h
    have hreported := (h .none "made-up" "a").mp (by decide)
    exact absurd hreported.1 (by decide)
  · intro h
    have hname := Client.name_ofHeaders_of_said said_oversizedId
    obtain ⟨-, hshort⟩ := ofHeaders_reports_iff.mp ((h .none "made-up" _).mp hname)
    exact absurd longest_lt_oversized (Nat.not_lt.mpr hshort)

end AdmissionControl.Identity
