import AdmissionControl.BodyGuard.Policy
import AdmissionControl.Proofs.Identity.Accepted
import AdmissionControl.Proofs.Text.Decimal

namespace AdmissionControl

open Http Identity.RequestId Text

namespace Http.Headers

-- The first field of this name says this, whatever follows it.
def Leads (name : String) (value : Octets) (headers : Headers) : Prop :=
  ∃ front back, headers = front ++ ⟨name, value⟩ :: back ∧ ∀ field ∈ front, field.name ≠ name

variable {name : String} {value : Octets} {headers front : Headers}

theorem first?_append_cons (back : Headers) (hfront : ∀ field ∈ front, field.name ≠ name) :
    Headers.first? name (front ++ ⟨name, value⟩ :: back) = some value := by
  have hnone : front.find? (·.name == name) = none := by
    rw [List.find?_eq_none]
    exact fun field hfield => by simpa using hfront field hfield
  rw [first?, List.find?_append, hnone]
  simp

theorem first?_eq_some_iff : headers.first? name = some value ↔ headers.Leads name value := by
  constructor
  · intro h
    obtain ⟨field, hfind, rfl⟩ := Option.map_eq_some_iff.mp h
    obtain ⟨hname, front, back, rfl, hfront⟩ := List.find?_eq_some_iff_append.mp hfind
    obtain rfl : field.name = name := by simpa using hname
    exact ⟨front, back, rfl, fun other hother => by simpa using hfront other hother⟩
  · rintro ⟨front, back, rfl, hfront⟩
    exact first?_append_cons back hfront

end Http.Headers

namespace BodyGuard

-- The value has nothing but spaces and tabs around this text.
def Padded (value : Octets) (core : List Char) : Prop :=
  ∃ lead trail, value.map (fun octet => Char.ofNat octet.toNat) = lead ++ core ++ trail ∧
    ∀ c ∈ lead ++ trail, c = ' ' ∨ c = '\t'

-- The value is a decimal number, of any length, with one plus sign before it or none.
def Declares (value : Octets) (n : Nat) : Prop :=
  ∃ sign digits, Padded value (sign ++ digits) ∧ (sign = [] ∨ sign = ['+']) ∧ Decimal digits n

variable {value : Octets} {core : List Char} {n m : Nat}

-- No other blanks can be read from a header.
theorem space_or_tab_of_isBlank {c : Char} (hblank : isBlank c = true)
    (hrange : c.toNat = 9 ∨ (32 ≤ c.toNat ∧ c.toNat ≤ 126)) : c = ' ' ∨ c = '\t' := by
  have hnat : c.toNat = 32 ∨ c.toNat = 9 := by
    simp only [isBlank, Bool.or_eq_true, Bool.and_eq_true, decide_eq_true_eq, beq_iff_eq] at hblank
    omega
  exact hnat.imp (fun h => Char.toNat_inj.mp h) (fun h => Char.toNat_inj.mp h)

theorem isBlank_of_visible {c : Char} (hc : 33 ≤ c.toNat ∧ c.toNat ≤ 126) : isBlank c = false := by
  rw [← Bool.not_eq_true]
  intro hblank
  rcases space_or_tab_of_isBlank hblank (Or.inr (by omega)) with rfl | rfl
  · exact absurd hc (by decide)
  · exact absurd hc (by decide)

theorem Padded.readable (h : Padded value core)
    (hcore : ∀ c ∈ core, 33 ≤ c.toNat ∧ c.toNat ≤ 126) :
    ∀ octet ∈ value, Field.isTextOctet octet = true := by
  intro octet hoctet
  obtain ⟨lead, trail, hvalue, hpadding⟩ := h
  have hmem : Char.ofNat octet.toNat ∈ lead ++ core ++ trail :=
    hvalue ▸ List.mem_map_of_mem hoctet
  rw [isTextOctet_iff, ← toNat_ofNat_octet]
  by_cases hinside : Char.ofNat octet.toNat ∈ core
  · have hvisible := hcore _ hinside
    omega
  · have houtside : Char.ofNat octet.toNat ∈ lead ++ trail := by simpa [hinside] using hmem
    rcases hpadding _ houtside with hspace | htab
    · rw [hspace]
      exact Or.inr (by decide)
    · rw [htab]
      exact Or.inl rfl

-- What a readable value has between its spaces and tabs is what trimming leaves of it.
theorem padded_iff (hcore : ∀ c ∈ core, 33 ≤ c.toNat ∧ c.toNat ≤ 126) :
    Padded value core ↔ ∃ text, Field.text? value = some text ∧ trimChars text = core := by
  constructor
  · intro h
    have htext := text?_eq_some_iff.mpr ⟨h.readable hcore, rfl⟩
    obtain ⟨lead, trail, hvalue, hpadding⟩ := h
    have htrimmed : Trimmed (value.map fun octet => Char.ofNat octet.toNat) core := by
      refine ⟨⟨lead, trail, hvalue, fun c hc => ?_⟩, fun c hc => ?_, fun c hc => ?_⟩
      · rcases hpadding c hc with rfl | rfl <;> rfl
      · exact isBlank_of_visible (hcore c (List.mem_of_mem_head? hc))
      · exact isBlank_of_visible (hcore c (List.mem_of_mem_getLast? hc))
    exact ⟨_, htext, htrimmed.eq_trimChars.symm⟩
  · rintro ⟨_, htext, rfl⟩
    obtain ⟨hreadable, rfl⟩ := text?_eq_some_iff.mp htext
    have htrimmed := trimmed_trimChars (value.map fun octet : UInt8 => Char.ofNat octet.toNat)
    obtain ⟨lead, trail, hvalue, hblank⟩ := htrimmed.around
    refine ⟨lead, trail, hvalue, fun c hc => ?_⟩
    have hmem : c ∈ value.map fun octet : UInt8 => Char.ofNat octet.toNat := by
      rw [hvalue]
      simp only [List.mem_append] at hc ⊢
      tauto
    exact space_or_tab_of_isBlank (hblank c hc) (range_of_readable hreadable c hmem)

theorem padded_nil_iff :
    Padded value [] ↔ ∃ text, Field.text? value = some text ∧ trimChars text = [] :=
  padded_iff nofun

theorem isEmpty_of_not_blank {text : List Char} (htext : Field.text? value = some text)
    (hblank : ¬Padded value []) : (trimChars text).isEmpty = false := by
  rw [List.isEmpty_eq_false_iff]
  exact fun hnil => hblank (padded_nil_iff.mpr ⟨text, htext, hnil⟩)

theorem visible_of_signed {sign digits : List Char} (hsign : sign = [] ∨ sign = ['+'])
    (h : Decimal digits n) : ∀ c ∈ sign ++ digits, 33 ≤ c.toNat ∧ c.toNat ≤ 126 := by
  intro c hc
  rcases List.mem_append.mp hc with hc | hc
  · rcases hsign with rfl | rfl
    · cases hc
    · rw [List.mem_singleton.mp hc]
      decide
  · obtain ⟨hzero, hnine⟩ := h.digits c hc
    have hlow : 48 ≤ c.toNat := UInt32.le_iff_toNat_le.mp hzero
    have hhigh : c.toNat ≤ 57 := UInt32.le_iff_toNat_le.mp hnine
    omega

theorem declares_iff : Declares value n ↔
    ∃ text, Field.text? value = some text ∧ natOfSigned? (trimChars text) = some n := by
  simp only [natOfSigned?_eq_some_iff]
  constructor
  · rintro ⟨sign, digits, hpadded, hsign, hdecimal⟩
    obtain ⟨text, htext, htrim⟩ := (padded_iff (visible_of_signed hsign hdecimal)).mp hpadded
    refine ⟨text, htext, digits, hdecimal, ?_⟩
    rcases hsign with rfl | rfl
    · exact Or.inl htrim
    · exact Or.inr htrim
  · rintro ⟨text, htext, digits, hdecimal, htrim⟩
    obtain ⟨sign, hsign, hsigned⟩ : ∃ sign : List Char,
        (sign = [] ∨ sign = ['+']) ∧ trimChars text = sign ++ digits :=
      htrim.elim (fun h => ⟨[], Or.inl rfl, h⟩) (fun h => ⟨['+'], Or.inr rfl, h⟩)
    have hpadded := (padded_iff (visible_of_signed hsign hdecimal)).mpr ⟨text, htext, hsigned⟩
    exact ⟨sign, digits, hpadded, hsign, hdecimal⟩

theorem Declares.unique (h : Declares value n) (h' : Declares value m) : n = m := by
  obtain ⟨text, htext, hn⟩ := declares_iff.mp h
  obtain ⟨other, hother, hm⟩ := declares_iff.mp h'
  obtain rfl : text = other := Option.some.inj (htext.symm.trans hother)
  exact Option.some.inj (hn.symm.trans hm)

theorem Declares.not_blank (h : Declares value n) : ¬Padded value [] := by
  intro hblank
  obtain ⟨text, htext, hn⟩ := declares_iff.mp h
  obtain ⟨other, hother, hnil⟩ := padded_nil_iff.mp hblank
  obtain rfl : text = other := Option.some.inj (htext.symm.trans hother)
  rw [hnil] at hn
  cases hn

namespace Policy

variable {policy : Policy} {headers : Headers}

theorem declaredLength_of_absent (hfirst : headers.first? "content-length" = none) :
    policy.declaredLength headers = .ok none := by
  simp only [declaredLength, hfirst]

section

variable (hfirst : headers.first? "content-length" = some value)

include hfirst

theorem declaredLength_of_blank (hblank : Padded value []) :
    policy.declaredLength headers = .ok none := by
  obtain ⟨text, htext, hnil⟩ := padded_nil_iff.mp hblank
  simp only [declaredLength, hfirst, htext, hnil, List.isEmpty_nil, if_true]

theorem declaredLength_of_declares (h : Declares value n) :
    policy.declaredLength headers =
      if UInt64.size ≤ n then .error .invalidContentLength
      else if policy.limit < n.toUInt64 then
        .error (.payloadTooLarge policy.limit (some n.toUInt64) none)
      else .ok (some n.toUInt64) := by
  have hblank := h.not_blank
  obtain ⟨text, htext, hnumber⟩ := declares_iff.mp h
  have hsome := isEmpty_of_not_blank htext hblank
  simp only [declaredLength, hfirst, htext, hsome, hnumber, Bool.false_eq_true, if_false]

theorem declaredLength_of_neither (hblank : ¬Padded value []) (hnone : ¬∃ n, Declares value n) :
    policy.declaredLength headers = .error .invalidContentLength := by
  cases htext : Field.text? value with
  | none => simp only [declaredLength, hfirst, htext]
  | some text =>
      have hsome := isEmpty_of_not_blank htext hblank
      have hnumber : natOfSigned? (trimChars text) = none := by
        rw [Option.eq_none_iff_forall_ne_some]
        exact fun n hn => hnone ⟨n, declares_iff.mpr ⟨text, htext, hn⟩⟩
      simp only [declaredLength, hfirst, htext, hsome, hnumber, Bool.false_eq_true, if_false]

end

section

variable (hfirst : headers.first? "content-length" = some value) (h : Declares value n)

include hfirst h

theorem declaredLength_of_within (hwithin : n ≤ policy.limit.toNat) :
    policy.declaredLength headers = .ok (some n.toUInt64) := by
  have hsmall : n < UInt64.size := Nat.lt_of_le_of_lt hwithin policy.limit.toNat_lt
  have hvalue : n.toUInt64.toNat = n := UInt64.toNat_ofNat_of_lt hsmall
  have hopen : ¬policy.limit < n.toUInt64 := by
    rw [UInt64.lt_iff_toNat_lt]
    omega
  rw [declaredLength_of_declares hfirst h, if_neg (Nat.not_le.mpr hsmall), if_neg hopen]

-- A length above the limit is refused, but from 64 bits on for another reason.
theorem declaredLength_of_above (habove : policy.limit.toNat < n) :
    policy.declaredLength headers = .error
      (if n < UInt64.size then .payloadTooLarge policy.limit (some n.toUInt64) none
        else .invalidContentLength) := by
  rw [declaredLength_of_declares hfirst h]
  by_cases hsmall : n < UInt64.size
  · have hvalue : n.toUInt64.toNat = n := UInt64.toNat_ofNat_of_lt hsmall
    have hover : policy.limit < n.toUInt64 := by
      rw [UInt64.lt_iff_toNat_lt]
      omega
    rw [if_neg (by omega), if_pos hover, if_pos hsmall]
  · rw [if_pos (by omega), if_neg hsmall]

end

section

variable (hfirst : headers.first? "content-length" = some value)

include hfirst

-- A first field is blank, or it declares a length that is let in, or it is refused.
theorem declaredLength_of_first (policy : Policy) :
    (Padded value [] ∧ policy.declaredLength headers = .ok none) ∨
    (∃ n, Declares value n ∧ n ≤ policy.limit.toNat ∧
      policy.declaredLength headers = .ok (some n.toUInt64)) ∨
    (¬Padded value [] ∧ (∀ n, Declares value n → policy.limit.toNat < n) ∧
      ∃ rejection, policy.declaredLength headers = .error rejection) := by
  by_cases hblank : Padded value []
  · exact Or.inl ⟨hblank, declaredLength_of_blank hfirst hblank⟩
  · by_cases hdeclares : ∃ n, Declares value n
    · obtain ⟨n, h⟩ := hdeclares
      by_cases hwithin : n ≤ policy.limit.toNat
      · exact Or.inr (Or.inl ⟨n, h, hwithin, declaredLength_of_within hfirst h hwithin⟩)
      · have habove : policy.limit.toNat < n := Nat.lt_of_not_le hwithin
        exact Or.inr (Or.inr ⟨hblank, fun m h' => h'.unique h ▸ habove,
          _, declaredLength_of_above hfirst h habove⟩)
    · exact Or.inr (Or.inr ⟨hblank, fun n h => absurd ⟨n, h⟩ hdeclares,
        _, declaredLength_of_neither hfirst hblank hdeclares⟩)

theorem declaredLength_eq_some_iff (length : UInt64) :
    policy.declaredLength headers = .ok (some length) ↔
      Declares value length.toNat ∧ length ≤ policy.limit := by
  rw [UInt64.le_iff_toNat_le]
  constructor
  · intro hlength
    rcases declaredLength_of_first hfirst policy with
      ⟨-, hresult⟩ | ⟨n, h, hwithin, hresult⟩ | ⟨-, -, _, hresult⟩ <;> rw [hresult] at hlength
    · cases hlength
    · obtain rfl : n.toUInt64 = length := by simpa using hlength
      have hvalue : n.toUInt64.toNat = n :=
        UInt64.toNat_ofNat_of_lt (Nat.lt_of_le_of_lt hwithin policy.limit.toNat_lt)
      rw [hvalue]
      exact ⟨h, hwithin⟩
    · cases hlength
  · rintro ⟨h, hwithin⟩
    rw [declaredLength_of_within hfirst h hwithin, Nat.toUInt64_eq, UInt64.ofNat_toNat]

theorem declaredLength_eq_none_iff :
    policy.declaredLength headers = .ok none ↔ Padded value [] := by
  refine ⟨fun hnone => ?_, declaredLength_of_blank hfirst⟩
  rcases declaredLength_of_first hfirst policy with
    ⟨hblank, -⟩ | ⟨n, -, -, hresult⟩ | ⟨-, -, _, hresult⟩
  · exact hblank
  · rw [hresult] at hnone
    cases hnone
  · rw [hresult] at hnone
    cases hnone

theorem exists_declaredLength_eq_error_iff :
    (∃ rejection, policy.declaredLength headers = .error rejection) ↔
      ¬Padded value [] ∧ ∀ n, Declares value n → policy.limit.toNat < n := by
  constructor
  · rintro ⟨rejection, herror⟩
    rcases declaredLength_of_first hfirst policy with
      ⟨-, hresult⟩ | ⟨n, -, -, hresult⟩ | ⟨hblank, habove, -⟩
    · rw [hresult] at herror
      cases herror
    · rw [hresult] at herror
      cases herror
    · exact ⟨hblank, habove⟩
  · rintro ⟨hblank, habove⟩
    rcases declaredLength_of_first hfirst policy with
      ⟨hblank', -⟩ | ⟨n, h, hwithin, -⟩ | ⟨-, -, herror⟩
    · exact absurd hblank' hblank
    · exact absurd (habove n h) (Nat.not_lt.mpr hwithin)
    · exact herror

end

-- The lengths that are let in are the decimal numbers up to the limit, and having none is let
-- in too. Whatever else the first field says is refused, and no other field has a say.
theorem declaredLength_exact (policy : Policy) (headers : Headers) :
    (∀ length, policy.declaredLength headers = .ok (some length) ↔
      ∃ value, headers.Leads "content-length" value ∧ Declares value length.toNat ∧
        length ≤ policy.limit) ∧
    (policy.declaredLength headers = .ok none ↔
      ∀ value, headers.Leads "content-length" value → Padded value []) ∧
    ((∃ rejection, policy.declaredLength headers = .error rejection) ↔
      ∃ value, headers.Leads "content-length" value ∧ ¬Padded value [] ∧
        ∀ n, Declares value n → policy.limit.toNat < n) ∧
    ∀ front value back other, (∀ field ∈ front, field.name ≠ "content-length") →
      policy.declaredLength (front ++ ⟨"content-length", value⟩ :: back) =
        policy.declaredLength (front ++ ⟨"content-length", value⟩ :: other) := by
  have hlater : ∀ front value back other,
      (∀ field ∈ front, field.name ≠ "content-length") →
      policy.declaredLength (front ++ ⟨"content-length", value⟩ :: back) =
        policy.declaredLength (front ++ ⟨"content-length", value⟩ :: other) := by
    intro front value back other hfront
    rw [declaredLength, declaredLength, Headers.first?_append_cons _ hfront,
      Headers.first?_append_cons _ hfront]
  simp only [← Headers.first?_eq_some_iff]
  cases hfirst : headers.first? "content-length" with
  | none =>
      rw [declaredLength_of_absent hfirst]
      exact ⟨by simp, by simp, by simp, hlater⟩
  | some value =>
      simp only [Option.some.injEq, exists_eq_left', forall_eq']
      exact ⟨declaredLength_eq_some_iff hfirst, declaredLength_eq_none_iff hfirst,
        exists_declaredLength_eq_error_iff hfirst, hlater⟩

-- A length at the limit, with all that may stand around it, and one above.
theorem declaredLength_exact_of_seven :
    let policy : Policy := ⟨7, "/api/"⟩
    let length (text : String) : Field :=
      ⟨"content-length", text.toList.map (·.toNat.toUInt8)⟩
    let host : Field := ⟨"host", []⟩
    policy.declaredLength [host, length " +007\t"] = .ok (some 7) ∧
    policy.declaredLength [host, length " +007\t", length "none"] = .ok (some 7) ∧
    policy.declaredLength [host, length "\t "] = .ok none ∧
    ∃ rejection, policy.declaredLength [host, length "8", length "7"] = .error rejection := by
  intro policy length host
  have hhost : ∀ field ∈ [host], field.name ≠ "content-length" := by simp [host]
  have hleads (text : String) (back : Headers) :
      Headers.Leads "content-length" (length text).value (host :: length text :: back) :=
    ⟨[host], back, rfl, hhost⟩
  have hseven : Declares (length " +007\t").value 7 :=
    ⟨['+'], ['0', '0', '7'], ⟨[' '], ['\t'], rfl, by simp⟩, Or.inr rfl,
      natOfDigits?_eq_some_iff.mp (by decide)⟩
  have height : Declares (length "8").value 8 :=
    ⟨[], ['8'], ⟨[], [], rfl, nofun⟩, Or.inl rfl, natOfDigits?_eq_some_iff.mp (by decide)⟩
  obtain ⟨hsome, -, -, hlater⟩ := declaredLength_exact policy [host, length " +007\t"]
  obtain ⟨-, hnone, -, -⟩ := declaredLength_exact policy [host, length "\t "]
  obtain ⟨-, -, herror, -⟩ := declaredLength_exact policy [host, length "8", length "7"]
  have hadmitted := (hsome 7).mpr ⟨_, hleads _ [], hseven, by decide⟩
  refine ⟨hadmitted, ?_, hnone.mpr fun value hvalue => ?_, herror.mpr ?_⟩
  · exact (hlater [host] _ [length "none"] [] hhost).trans hadmitted
  · have hsame : (length "\t ").value = value :=
      Option.some.inj (Headers.first?_eq_some_iff.mpr hvalue)
    rw [← hsame]
    exact ⟨['\t', ' '], [], rfl, by simp⟩
  · exact ⟨_, hleads _ _, height.not_blank, fun n h => by rw [h.unique height]; decide⟩

end Policy

end BodyGuard

end AdmissionControl
