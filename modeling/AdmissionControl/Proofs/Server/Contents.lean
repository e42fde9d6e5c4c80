import AdmissionControl.Proofs.Server.Rendered

namespace AdmissionControl

open Http

namespace Rejection

-- The evidence for a rejection: its own numbers, those that are known. Only two kinds of
-- rejection have any.
inductive Evidence : Rejection → Json → Prop where
  | length (limit : UInt64) (declared observed : Option UInt64) :
      Evidence (.payloadTooLarge limit declared observed)
        (.object (optional "content_length" declared ++
          ("max_request_body_bytes", .integer limit.toNat) ::
            optional "request_body_bytes" observed))
  | budget (limit : Int) (backend : Backend) :
      Evidence (.rateLimited limit backend)
        (.object [("backend", .string backend.name), ("limit_per_minute", .integer limit),
          ("reason", .string "rate_limit_exceeded")])

-- What the body of a rejection has under each name, if it has been told what request it is for
-- or not.
inductive Tells (rejection : Rejection) (named : Option String) : String → Json → Prop where
  | code : Tells rejection named "code" (.string rejection.code)
  | message : Tells rejection named "message" (.string rejection.message)
  | error : Tells rejection named "error" (.string rejection.message)
  | requestId {id : String} (h : named = some id) : Tells rejection named "request_id" (.string id)
  | details {value : Json} (h : Evidence rejection value) : Tells rejection named "details" value

variable {rejection : Rejection} {named : Option String} {name : String} {value : Json}

theorem details_eq_some_iff : rejection.details = some value ↔ Evidence rejection value := by
  constructor
  · intro h
    cases rejection with
    | payloadTooLarge limit declared observed =>
        obtain rfl := Option.some.inj h
        have hevidence := Evidence.length limit declared observed
        cases declared <;> cases observed <;> exact hevidence
    | rateLimited limit backend =>
        obtain rfl := Option.some.inj h
        exact Evidence.budget limit backend
    | badRequest message => cases h
    | unauthorized => cases h
    | forbidden => cases h
    | internal => cases h
  · rintro (⟨limit, declared, observed⟩ | ⟨limit, backend⟩)
    · cases declared <;> cases observed <;> rfl
    · rfl

-- The members of the body in the order in which they are written.
def contents (rejection : Rejection) (named : Option String) : Json.Members :=
  ("code", .string rejection.code) ::
    (rejection.details.map fun details => ("details", details)).toList ++
    [("error", .string rejection.message), ("message", .string rejection.message)] ++
    (named.map fun id => ("request_id", Json.string id)).toList

theorem body_eq (rejection : Rejection) (named : Option String) :
    rejection.body named = .object (rejection.contents named) := by
  rw [body, contents]
  cases named <;> cases rejection.details <;> rfl

theorem mem_contents_iff :
    (name, value) ∈ rejection.contents named ↔ Tells rejection named name value := by
  simp only [contents, List.mem_append, List.mem_cons, List.not_mem_nil, or_false,
    Option.mem_toList, Option.map_eq_some_iff, Prod.mk.injEq]
  constructor
  · rintro (((⟨rfl, rfl⟩ | ⟨details, hdetails, rfl, rfl⟩) | ⟨rfl, rfl⟩ | ⟨rfl, rfl⟩) |
      ⟨id, hid, rfl, rfl⟩)
    · exact .code
    · exact .details (details_eq_some_iff.mp hdetails)
    · exact .error
    · exact .message
    · exact .requestId hid
  · intro h
    cases h with
    | code => simp
    | message => simp
    | error => simp
    | requestId hid => simp [hid]
    | details hevidence => simp [details_eq_some_iff.mpr hevidence]

theorem json?_response (rejection : Rejection) (named : Option String) :
    (rejection.response named).json? = some (rejection.body named) :=
  Response.json?_of_print (canonical_body rejection named) (body_response rejection named)

theorem nodup_contents (rejection : Rejection) (named : Option String) :
    ((rejection.contents named).map Prod.fst).Nodup := by
  have hcanonical := canonical_body rejection named
  rw [body_eq] at hcanonical
  exact hcanonical.1.nodup

theorem member?_response_iff :
    (rejection.response named).member? name = some value ↔ Tells rejection named name value := by
  rw [Response.member?, json?_response, body_eq, Option.bind_some, ← mem_contents_iff]
  exact lookup_eq_some_iff_mem (nodup_contents rejection named)

theorem Tells.name_mem (h : Tells rejection named name value) :
    name ∈ ["code", "message", "error", "request_id", "details"] := by
  cases h <;> simp

-- Only the member that names the request hangs on what it is called.
theorem Tells.of_other {other : Option String} (hname : name ≠ "request_id")
    (h : Tells rejection named name value) : Tells rejection other name value := by
  cases h with
  | code => exact .code
  | message => exact .message
  | error => exact .error
  | requestId hid => exact absurd rfl hname
  | details hevidence => exact .details hevidence

theorem named_eq_of_body {other : Option String}
    (h : (rejection.response named).body = (rejection.response other).body) : named = other := by
  have hid := (renders_response rejection named).request_id
  rw [Response.member?_congr h, (renders_response rejection other).request_id] at hid
  exact (Option.map_injective (fun one two => Json.string.inj) hid).symm

-- The body of a rejection reads back as an object with these members, each once, and no others.
-- Whatever the text is that names the request, it comes back as it is and changes nothing but
-- its own member.
theorem response_reads_back (rejection : Rejection) (named : Option String) :
    (∃ members, (rejection.response named).json? = some (.object members) ∧
      (rejection.response named).body = (Json.object members).print.toUTF8 ∧
      (members.map Prod.fst).Nodup ∧
      ∀ name value, (name, value) ∈ members ↔ Tells rejection named name value) ∧
    ∀ other, ((rejection.response named).body = (rejection.response other).body ↔ named = other) ∧
      ∀ name, name ≠ "request_id" →
        (rejection.response named).member? name = (rejection.response other).member? name := by
  refine ⟨⟨rejection.contents named, ?_, ?_, nodup_contents rejection named,
    fun name value => mem_contents_iff⟩, fun other => ⟨⟨named_eq_of_body, ?_⟩, ?_⟩⟩
  · rw [json?_response, body_eq]
  · rw [body_response, body_eq]
  · rintro rfl
    rfl
  · intro name hname
    apply Option.ext
    intro value
    rw [member?_response_iff, member?_response_iff]
    exact ⟨Tells.of_other hname, Tells.of_other hname⟩

-- A text that would close its own string and put other members behind it.
def forged : String := "\",\"code\":\"NONE\",\"x\":\"\\\u0001\n\u00e9"

theorem response_reads_back_of_forged :
    let rejection : Rejection := .payloadTooLarge 64 (some 0xffffffffffffffff) none
    ∃ members, (rejection.response (some forged)).json? = some (.object members) ∧
      ("request_id", .string forged) ∈ members ∧ ("code", .string "PAYLOAD_TOO_LARGE") ∈ members ∧
      ("details", .object [("content_length", .integer 18446744073709551615),
        ("max_request_body_bytes", .integer 64)]) ∈ members ∧
      (∀ value, ("x", value) ∉ members) ∧
      (rejection.response none).member? "code" =
        (rejection.response (some forged)).member? "code" := by
  intro rejection
  obtain ⟨⟨members, hread, -, -, hexact⟩, -⟩ := response_reads_back rejection (some forged)
  obtain ⟨-, hsame⟩ := (response_reads_back rejection none).2 (some forged)
  refine ⟨members, hread, (hexact _ _).mpr (.requestId rfl), (hexact _ _).mpr .code,
    (hexact _ _).mpr (.details (.length 64 (some 0xffffffffffffffff) none)), fun value hvalue => ?_,
    hsame "code" (by decide)⟩
  exact absurd ((hexact _ _).mp hvalue).name_mem (by decide)

end Rejection

end AdmissionControl
