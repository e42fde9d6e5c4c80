import AdmissionControl.Settings.Check

namespace AdmissionControl.Settings

-- What settings have to be like to be accepted, in the order in which it is looked at.
structure Sound (s : Settings) : Prop where
  storeUrl : s.rateLimit.backend = .sharedStore → ∃ url, s.rateLimit.address? = some url
  windowSeconds : s.rateLimit.windowSeconds ≠ 0
  cooldownSeconds : s.rateLimit.cooldownSeconds ≠ 0
  storeTimeout : s.rateLimit.storeTimeoutMillis ≠ 0 ∧ s.rateLimit.storeTimeoutMillis ≤ 999
  bodyLimit : s.security.maxBodyBytes ≠ 0
  guardedRoot : s.security.guardedRoot.toList.head? = some '/'
  trustedProxies : ∃ trusted, Identity.TrustedProxies.parse s.security.trustedProxies = .ok trusted
  listener : ∃ endpoint, Net.Endpoint.parse? s.listener.bindAddress = some endpoint
  metrics : s.observability.metricsEnabled = true →
    ∃ endpoint, Net.Endpoint.parse? s.observability.metricsAddress = some endpoint
  strictRate : s.security.strictMode = true → s.rateLimit.isEnabled = true
  strictTokens : s.security.strictMode = true → s.access.requireToken = true

theorem report_eq_nil_iff {condition : Bool} {problem : Problem} :
    report condition problem = [] ↔ condition = false := by
  cases condition <;> simp [report]

theorem proxyProblems_eq_nil_iff {entries : List String} :
    proxyProblems entries = [] ↔
      ∃ trusted, Identity.TrustedProxies.parse entries = .ok trusted := by
  rw [proxyProblems]
  cases Identity.TrustedProxies.parse entries <;> simp

theorem addressProblems_eq_nil_iff {field : AddressField} {value : String} :
    addressProblems field value = [] ↔ ∃ endpoint, Net.Endpoint.parse? value = some endpoint := by
  rw [addressProblems, report_eq_nil_iff, Option.isNone_eq_false_iff, Option.isSome_iff_exists]

theorem problems_eq_nil_iff {s : Settings} : s.problems = [] ↔ s.Sound := by
  have hstore : (s.rateLimit.backend == .sharedStore && s.rateLimit.address?.isNone) = false ↔
      (s.rateLimit.backend = .sharedStore → ∃ url, s.rateLimit.address? = some url) := by
    rw [Bool.and_eq_false_imp, beq_iff_eq, Option.isNone_eq_false_iff, Option.isSome_iff_exists]
  have htimeout : (s.rateLimit.storeTimeoutMillis == 0 ||
      decide (999 < s.rateLimit.storeTimeoutMillis)) = false ↔
      s.rateLimit.storeTimeoutMillis ≠ 0 ∧ s.rateLimit.storeTimeoutMillis ≤ 999 := by
    rw [Bool.or_eq_false_iff, beq_eq_false_iff_ne, decide_eq_false_iff_not, UInt64.not_lt]
  simp only [problems, List.append_eq_nil_iff, report_eq_nil_iff, proxyProblems_eq_nil_iff,
    addressProblems_eq_nil_iff, ite_eq_right_iff, hstore, htimeout, beq_eq_false_iff_ne,
    bne_eq_false_iff_eq, Bool.not_eq_false']
  constructor
  · rintro ⟨⟨⟨⟨⟨⟨⟨⟨⟨hstore, hwindow⟩, hcooldown⟩, htimeout⟩, hbody⟩, hroot⟩, hproxies⟩, hlistener⟩,
      hmetrics⟩, hstrict⟩
    exact ⟨hstore, hwindow, hcooldown, htimeout, hbody, hroot, hproxies, hlistener, hmetrics,
      fun h => (hstrict h).1, fun h => (hstrict h).2⟩
  · intro h
    exact ⟨⟨⟨⟨⟨⟨⟨⟨⟨h.storeUrl, h.windowSeconds⟩, h.cooldownSeconds⟩, h.storeTimeout⟩, h.bodyLimit⟩,
      h.guardedRoot⟩, h.trustedProxies⟩, h.listener⟩, h.metrics⟩,
      fun hstrict => ⟨h.strictRate hstrict, h.strictTokens hstrict⟩⟩

theorem check_eq_ok_iff_problems {s : Settings} : s.check = .ok () ↔ s.problems = [] := by
  rw [check]
  cases s.problems <;> simp

theorem check_eq_ok_iff {s : Settings} : s.check = .ok () ↔ s.Sound :=
  check_eq_ok_iff_problems.trans problems_eq_nil_iff

example : Sound {} := problems_eq_nil_iff.mp (by decide)

end AdmissionControl.Settings
