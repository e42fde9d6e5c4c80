import AdmissionControl.CommandLine.Startup
import AdmissionControl.Proofs.Access.Vouched
import AdmissionControl.Proofs.Settings.Sound
import AdmissionControl.Proofs.Text.Trimmed

namespace AdmissionControl

open Access Identity RateLimit

namespace RateLimit

-- The counters can be opened: they need no store, or the client takes the address of theirs
-- without the blanks around it.
def Opens (client : StoreClient) (s : RateLimitSettings) : Prop :=
  s.backend = .memory ∨ ∃ text, s.storeUrl = some text ∧ client (Text.trim text) = .ok ()

-- The client of the store does not take its address, for this reason.
def Spurns (client : StoreClient) (s : RateLimitSettings) (error : StoreError) : Prop :=
  s.backend = .sharedStore ∧
    ∃ text, s.storeUrl = some text ∧ client (Text.trim text) = .error error

variable {client : StoreClient} {s : RateLimitSettings} {error : StoreError} {url : String}

theorem Spurns.unique {other : StoreError} (h : Spurns client s error)
    (h' : Spurns client s other) : error = other := by
  obtain ⟨-, text, htext, herror⟩ := h
  obtain ⟨-, text', htext', hother⟩ := h'
  obtain rfl : text = text' := Option.some.inj (htext.symm.trans htext')
  exact Except.error.inj (herror.symm.trans hother)

theorem Opens.not_spurns (h : Opens client s) : ¬Spurns client s error := by
  rintro ⟨hbackend, text, htext, herror⟩
  rcases h with hmemory | ⟨other, hother, hok⟩
  · rw [hbackend] at hmemory
    cases hmemory
  · obtain rfl : text = other := Option.some.inj (htext.symm.trans hother)
    rw [herror] at hok
    cases hok

theorem trim_of_address? (haddress : s.address? = some url) :
    ∃ text, s.storeUrl = some text ∧ Text.trim text = url := by
  obtain ⟨text, htext, hurl⟩ := Option.bind_eq_some_iff.mp haddress
  exact ⟨text, htext, (Text.nonBlank?_eq_some_iff.mp hurl).trim_eq⟩

namespace Limiter

theorem isEnabled_ofSettings (s : RateLimitSettings) : (ofSettings s).isEnabled = s.isEnabled := by
  simp only [ofSettings]
  cases s.backend <;> rfl

-- With an address for its store, a limiter fails for what the client says of that alone.
theorem buildWith_of_address (client : StoreClient)
    (haddress : s.backend = .sharedStore → ∃ url, s.address? = some url) :
    (Opens client s ∧ buildWith client s = .ok (ofSettings s)) ∨
    ∃ error, Spurns client s error ∧ buildWith client s = .error (.invalidStoreUrl error) := by
  cases hbackend : s.backend with
  | memory => exact Or.inl ⟨Or.inl hbackend, by simp only [buildWith, hbackend]⟩
  | sharedStore =>
      obtain ⟨url, haddress⟩ := haddress hbackend
      obtain ⟨text, htext, rfl⟩ := trim_of_address? haddress
      cases hclient : client (Text.trim text) with
      | ok _ =>
          refine Or.inl ⟨Or.inr ⟨text, htext, hclient⟩, ?_⟩
          simp only [buildWith, hbackend, haddress, hclient]
      | error error =>
          refine Or.inr ⟨error, ⟨hbackend, text, htext, hclient⟩, ?_⟩
          simp only [buildWith, hbackend, haddress, hclient]

end Limiter

end RateLimit

namespace Pipeline

-- All that can come of making a pipeline with its limiter: the settings are refused, or the
-- counters cannot be opened, or nobody knows the tokens, or it is made as the settings say.
inductive Made (client : StoreClient) (s : Settings) (validator : Option TokenValidator) :
    Except PipelineError (Pipeline × Limiter) → Prop where
  | refused {problems : List Settings.Problem} (hrefused : s.check = .error problems) :
      Made client s validator (.error (.settings problems))
  | unopened {error : StoreError} (hsound : s.Sound) (hspurns : Spurns client s.rateLimit error) :
      Made client s validator (.error (.limiter (.invalidStoreUrl error)))
  | unvouched (hsound : s.Sound) (hopens : Opens client s.rateLimit)
      (hrequired : s.access.requireToken = true) (hnobody : validator = none) :
      Made client s validator (.error .missingValidator)
  | made {pipeline : Pipeline} (hsound : s.Sound) (hopens : Opens client s.rateLimit)
      (hvalidator : s.access.requireToken = true → validator.isSome = true)
      (hassembled : assemble s validator = .ok pipeline) :
      Made client s validator (.ok (pipeline, .ofSettings s.rateLimit))

variable {client : StoreClient} {s : Settings} {validator : Option TokenValidator}

theorem assemble_of_trusted {trusted : TrustedProxies}
    (htrusted : TrustedProxies.parse s.security.trustedProxies = .ok trusted)
    (validator : Option TokenValidator) :
    assemble s validator = (accessOf s.access validator).map fun access =>
      ⟨trusted, ⟨s.security.maxBodyBytes, s.security.guardedRoot⟩, access⟩ := by
  simp only [assemble, htrusted]
  cases accessOf s.access validator <;> rfl

theorem eq_of_accessOf_error {s : AccessSettings} {error : PipelineError}
    (h : accessOf s validator = .error error) :
    error = .missingValidator ∧ s.requireToken = true ∧ validator = none := by
  unfold accessOf at h
  split at h
  · cases h
  · cases h
  · rename_i hrequired
    exact ⟨(Except.error.inj h).symm, hrequired, rfl⟩

theorem isSome_of_accessOf_ok {s : AccessSettings} {access : Control}
    (h : accessOf s validator = .ok access) (hrequired : s.requireToken = true) :
    validator.isSome = true := by
  cases validator with
  | some validate => rfl
  | none =>
      simp only [accessOf, hrequired] at h
      cases h

theorem made_of_opens (hsound : s.Sound) (hopens : Opens client s.rateLimit) :
    Made client s validator
      ((assemble s validator).map fun pipeline => (pipeline, .ofSettings s.rateLimit)) := by
  obtain ⟨trusted, htrusted⟩ := hsound.trustedProxies
  have hassemble := assemble_of_trusted htrusted validator
  cases haccess : accessOf s.access validator with
  | error error =>
      obtain ⟨rfl, hrequired, hnobody⟩ := eq_of_accessOf_error haccess
      rw [hassemble, haccess]
      exact .unvouched hsound hopens hrequired hnobody
  | ok access =>
      rw [haccess] at hassemble
      rw [hassemble]
      exact .made hsound hopens (isSome_of_accessOf_ok haccess) hassemble

theorem made_buildWith (client : StoreClient) (s : Settings) (validator : Option TokenValidator) :
    Made client s validator (buildWith client s validator) := by
  cases hcheck : s.check with
  | error problems =>
      have hrefused : buildWith client s validator = .error (.settings problems) := by
        simp only [buildWith, hcheck]
        rfl
      rw [hrefused]
      exact .refused hcheck
  | ok _ =>
      have hsound : s.Sound := Settings.check_eq_ok_iff.mp hcheck
      rcases Limiter.buildWith_of_address client hsound.storeUrl with
        ⟨hopens, hlimiter⟩ | ⟨error, hspurns, hlimiter⟩
      · have hmade : buildWith client s validator =
            (assemble s validator).map fun pipeline => (pipeline, .ofSettings s.rateLimit) := by
          simp only [buildWith, hcheck, hlimiter]
          cases assemble s validator <;> rfl
        rw [hmade]
        exact made_of_opens hsound hopens
      · have hunopened : buildWith client s validator =
            .error (.limiter (.invalidStoreUrl error)) := by
          simp only [buildWith, hcheck, hlimiter]
          rfl
        rw [hunopened]
        exact .unopened hsound hspurns

namespace Made

variable {built : Except PipelineError (Pipeline × Limiter)}

theorem not_refused (hsound : s.Sound) {problems : List Settings.Problem} :
    s.check ≠ .error problems := by
  rw [Settings.check_eq_ok_iff.mpr hsound]
  exact nofun

theorem eq_of_refused (h : Made client s validator built) {problems : List Settings.Problem}
    (hrefused : s.check = .error problems) : built = .error (.settings problems) := by
  cases h with
  | refused hrefused' =>
      rw [hrefused] at hrefused'
      rw [Except.error.inj hrefused']
  | unopened hsound => exact absurd hrefused (not_refused hsound)
  | unvouched hsound => exact absurd hrefused (not_refused hsound)
  | made hsound => exact absurd hrefused (not_refused hsound)

theorem exists_ok_iff (h : Made client s validator built) (hsound : s.Sound) :
    (∃ result, built = .ok result) ↔
      Opens client s.rateLimit ∧ (s.access.requireToken = true → validator.isSome = true) := by
  cases h with
  | refused hrefused => exact absurd hrefused (not_refused hsound)
  | unopened _ hspurns =>
      exact ⟨nofun, fun hall => absurd hspurns hall.1.not_spurns⟩
  | unvouched _ hopens hrequired hnobody =>
      refine ⟨nofun, fun hall => ?_⟩
      have hsome := hall.2 hrequired
      rw [hnobody] at hsome
      cases hsome
  | made _ hopens hvalidator => exact ⟨fun _ => ⟨hopens, hvalidator⟩, fun _ => ⟨_, rfl⟩⟩

-- Whoever knows the tokens, an address that cannot be used is told of first.
theorem eq_of_spurned (h : Made client s validator built) (hsound : s.Sound) {error : StoreError}
    (hspurns : Spurns client s.rateLimit error) :
    built = .error (.limiter (.invalidStoreUrl error)) := by
  cases h with
  | refused hrefused => exact absurd hrefused (not_refused hsound)
  | unopened _ hspurns' => rw [hspurns'.unique hspurns]
  | unvouched _ hopens => exact absurd hspurns hopens.not_spurns
  | made _ hopens => exact absurd hspurns hopens.not_spurns

theorem eq_of_unvouched (h : Made client s validator built) (hsound : s.Sound)
    (hopens : Opens client s.rateLimit) (hrequired : s.access.requireToken = true)
    (hnobody : validator = none) : built = .error .missingValidator := by
  cases h with
  | refused hrefused => exact absurd hrefused (not_refused hsound)
  | unopened _ hspurns => exact absurd hspurns hopens.not_spurns
  | unvouched => rfl
  | made _ _ hvalidator =>
      have hsome := hvalidator hrequired
      rw [hnobody] at hsome
      cases hsome

theorem strict {pipeline : Pipeline} {limiter : Limiter}
    (h : Made client s validator (.ok (pipeline, limiter)))
    (hstrict : s.security.strictMode = true) :
    limiter.isEnabled = true ∧ pipeline.access.isEnabled = true := by
  cases h with
  | made hsound _ _ hassembled =>
      obtain ⟨validate, -, haccess⟩ := access_of_assemble hassembled (hsound.strictTokens hstrict)
      rw [Limiter.isEnabled_ofSettings, haccess]
      exact ⟨hsound.strictRate hstrict, rfl⟩

end Made

end Pipeline

namespace CommandLine

variable {s : Settings} {client : StoreClient}

theorem metricsEndpoint_of_sound (hsound : s.Sound) :
    ∃ endpoint, metricsEndpoint s.observability = .ok endpoint := by
  cases henabled : s.observability.metricsEnabled with
  | false => exact ⟨none, by simp [metricsEndpoint, henabled]⟩
  | true =>
      obtain ⟨endpoint, hparsed⟩ := hsound.metrics henabled
      exact ⟨some endpoint, by simp [metricsEndpoint, henabled, hparsed]⟩

-- What keeps the program from getting ready is what keeps its pipeline from being made.
theorem prepare_eq_error {error : StartupError} (h : prepare client s = .error error) :
    ∃ cause, error = .pipeline cause ∧ Pipeline.buildWith client s none = .error cause := by
  have hmade := Pipeline.made_buildWith client s none
  cases hbuilt : Pipeline.buildWith client s none with
  | error cause =>
      simp only [prepare, hbuilt] at h
      exact ⟨cause, (Except.error.inj h).symm, rfl⟩
  | ok result =>
      rw [hbuilt] at hmade
      cases hmade with
      | made hsound =>
          obtain ⟨endpoint, hendpoint⟩ := metricsEndpoint_of_sound hsound
          simp only [prepare, hbuilt, hendpoint] at h
          cases h

end CommandLine

namespace Pipeline

-- What the settings are checked for and what a pipeline is made of go together. Settings
-- with problems make none, and are told of in the same words. Of the others it is left to the
-- client of the store whether its address is taken, and to the caller to know the tokens.
theorem buildWith_agrees_with_check (client : StoreClient) (s : Settings)
    (validator : Option TokenValidator) :
    let built := buildWith client s validator
    (∀ problems, s.check = .error problems → built = .error (.settings problems)) ∧
    (s.check = .ok () →
      ((∃ result, built = .ok result) ↔
        Opens client s.rateLimit ∧ (s.access.requireToken = true → validator.isSome = true)) ∧
      (∀ error, Spurns client s.rateLimit error →
        built = .error (.limiter (.invalidStoreUrl error))) ∧
      (Opens client s.rateLimit → s.access.requireToken = true → validator = none →
        built = .error .missingValidator) ∧
      ∃ endpoint, CommandLine.metricsEndpoint s.observability = .ok endpoint) ∧
    built ≠ .error (.limiter .missingStoreUrl) ∧ (∀ entry, built ≠ .error (.trustedProxy entry)) ∧
    (∀ error, CommandLine.prepare client s = .error error →
      ∃ cause, error = .pipeline cause ∧ buildWith client s none = .error cause) ∧
    ∀ pipeline limiter, built = .ok (pipeline, limiter) → s.security.strictMode = true →
      limiter.isEnabled = true ∧ pipeline.access.isEnabled = true := by
  intro built
  have hmade : Made client s validator built := made_buildWith client s validator
  refine ⟨fun problems hrefused => hmade.eq_of_refused hrefused, fun hchecked => ?_,
    fun hmissing => ?_, fun entry hproxy => ?_,
    fun error hprepared => CommandLine.prepare_eq_error hprepared,
    fun pipeline limiter hbuilt hstrict => ?_⟩
  · have hsound : s.Sound := Settings.check_eq_ok_iff.mp hchecked
    exact ⟨hmade.exists_ok_iff hsound, fun error hspurns => hmade.eq_of_spurned hsound hspurns,
      fun hopens hrequired hnobody => hmade.eq_of_unvouched hsound hopens hrequired hnobody,
      CommandLine.metricsEndpoint_of_sound hsound⟩
  · rw [hmissing] at hmade
    cases hmade
  · rw [hproxy] at hmade
    cases hmade
  · rw [hbuilt] at hmade
    exact hmade.strict hstrict

-- Strict settings with a store. Their pipeline is made for whoever knows the tokens, if the
-- address of the store is one.
theorem buildWith_agrees_with_check_of_strict :
    let settings (url : String) : Settings := {
      rateLimit := { requestsPerMinute := 1, backend := .sharedStore, storeUrl := some url }
      security := { strictMode := true }
      access := { requireToken := true }
      observability := { metricsEnabled := true } }
    (∃ pipeline limiter,
      build (settings " redis://127.0.0.1/ ") (some (tokenTable [])) = .ok (pipeline, limiter) ∧
      limiter.isEnabled = true ∧ pipeline.access.isEnabled = true) ∧
    build (settings " redis://127.0.0.1/ ") none = .error .missingValidator ∧
    (∃ error, build (settings "127.0.0.1") none = .error (.limiter (.invalidStoreUrl error))) ∧
    build (settings "  ") none = .error (.settings [.missingStoreUrl]) := by
  intro settings
  have hchecked : (settings " redis://127.0.0.1/ ").check = .ok () := by decide
  have hopens : Opens StoreUrl.client (settings " redis://127.0.0.1/ ").rateLimit :=
    Or.inr ⟨_, rfl, by decide +kernel⟩
  have hspurns : Spurns StoreUrl.client (settings "127.0.0.1").rateLimit
      StoreUrl.Fault.unparsable.error := ⟨rfl, _, rfl, by decide⟩
  obtain ⟨-, hsound, -, -, -, hstrict⟩ := buildWith_agrees_with_check StoreUrl.client
    (settings " redis://127.0.0.1/ ") (some (tokenTable []))
  obtain ⟨-, hsound', -⟩ := buildWith_agrees_with_check StoreUrl.client
    (settings " redis://127.0.0.1/ ") none
  obtain ⟨-, hspurned, -⟩ := buildWith_agrees_with_check StoreUrl.client (settings "127.0.0.1") none
  obtain ⟨hrefused, -⟩ := buildWith_agrees_with_check StoreUrl.client (settings "  ") none
  obtain ⟨⟨pipeline, limiter⟩, hbuilt⟩ := (hsound hchecked).1.mpr ⟨hopens, fun _ => rfl⟩
  exact ⟨⟨pipeline, limiter, hbuilt, hstrict pipeline limiter hbuilt rfl⟩,
    (hsound' hchecked).2.2.1 hopens rfl rfl,
    ⟨_, (hspurned (by decide)).2.1 _ hspurns⟩, hrefused _ (by decide)⟩

end Pipeline

end AdmissionControl
