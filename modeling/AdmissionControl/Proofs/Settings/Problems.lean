import AdmissionControl.Proofs.Identity.Networks
import AdmissionControl.Proofs.Settings.Sound

namespace AdmissionControl.Settings

open Identity

-- The settings break the rule that a problem tells of, with the values that it names. Each bad
-- entry for trusted proxies is a problem of its own.
def Breaks (s : Settings) : Problem → Prop
  | .missingStoreUrl => s.rateLimit.backend = .sharedStore ∧
      ∀ url, s.rateLimit.storeUrl = some url → ∀ c ∈ url.toList, Text.isBlank c = true
  | .windowTooSmall => s.rateLimit.windowSeconds = 0
  | .cooldownNotPositive => s.rateLimit.cooldownSeconds = 0
  | .storeTimeoutOutOfRange millis =>
      ¬(1 ≤ s.rateLimit.storeTimeoutMillis.toNat ∧ s.rateLimit.storeTimeoutMillis.toNat ≤ 999) ∧
        millis = s.rateLimit.storeTimeoutMillis
  | .bodyLimitNotPositive => s.security.maxBodyBytes = 0
  | .invalidGuardedRoot root =>
      s.security.guardedRoot.toList.head? ≠ some '/' ∧ root = s.security.guardedRoot
  | .invalidTrustedProxy text => ∃ entry ∈ s.security.trustedProxies, Unreadable entry text
  | .invalidAddress .listener value =>
      Net.Endpoint.parse? s.listener.bindAddress = none ∧ value = s.listener.bindAddress
  | .invalidAddress .metrics value => s.observability.metricsEnabled = true ∧
      Net.Endpoint.parse? s.observability.metricsAddress = none ∧
        value = s.observability.metricsAddress
  | .strictModeWithoutRateLimit =>
      s.security.strictMode = true ∧ s.rateLimit.requestsPerMinute.toInt ≤ 0
  | .strictModeWithoutTokens => s.security.strictMode = true ∧ s.access.requireToken = false

section Parts

variable {problem other : Problem}

theorem mem_report_iff {condition : Bool} :
    problem ∈ report condition other ↔ condition = true ∧ problem = other := by
  cases condition <;> simp [report]

theorem mem_proxyProblems_iff {entries : List String} :
    problem ∈ proxyProblems entries ↔
      ∃ text, Faults entries text ∧ problem = .invalidTrustedProxy text := by
  simp only [← TrustedProxies.parse_eq_error_iff]
  rw [proxyProblems]
  cases TrustedProxies.parse entries with
  | ok trusted => simp
  | error bad =>
      rw [List.mem_singleton]
      constructor
      · rintro rfl
        exact ⟨bad.entry, rfl, rfl⟩
      · rintro ⟨text, hbad, rfl⟩
        obtain rfl := Except.error.inj hbad
        rfl

theorem mem_addressProblems_iff {field : AddressField} {value : String} :
    problem ∈ addressProblems field value ↔
      Net.Endpoint.parse? value = none ∧ problem = .invalidAddress field value := by
  rw [addressProblems, mem_report_iff, Option.isNone_iff_eq_none]

end Parts

variable {s : Settings} {problem : Problem} {text : String}

theorem address?_eq_none_iff {s : RateLimitSettings} :
    s.address? = none ↔
      ∀ url, s.storeUrl = some url → ∀ c ∈ url.toList, Text.isBlank c = true := by
  rw [RateLimitSettings.address?, Option.bind_eq_none_iff]
  simp only [Text.nonBlank?_eq_none_iff]

theorem isEnabled_eq_false_iff {s : RateLimitSettings} :
    s.isEnabled = false ↔ s.requestsPerMinute.toInt ≤ 0 := by
  rw [RateLimitSettings.isEnabled, RateLimitSettings.budget, decide_eq_false_iff_not]
  omega

theorem timeout_out_of_range_iff {millis : UInt64} :
    (millis == 0 || decide (999 < millis)) = true ↔
      ¬(1 ≤ millis.toNat ∧ millis.toNat ≤ 999) := by
  rw [Bool.or_eq_true, beq_iff_eq, decide_eq_true_eq, ← UInt64.toNat_inj,
    UInt64.lt_iff_toNat_lt, UInt64.toNat_zero, show (999 : UInt64).toNat = 999 from rfl]
  omega

theorem breaks_of_faults (h : Faults s.security.trustedProxies text) :
    s.Breaks (.invalidTrustedProxy text) := by
  obtain ⟨front, entry, back, hentries, hunreadable, -⟩ := h
  have hmem : entry ∈ s.security.trustedProxies := by
    rw [hentries]
    exact List.mem_append_right _ List.mem_cons_self
  exact ⟨entry, hmem, hunreadable⟩

-- All rules are looked at, whatever has been found before. Only of the entries for trusted
-- proxies none is looked at after the first bad one.
theorem mem_problems_iff :
    problem ∈ s.problems ↔ s.Breaks problem ∧
      ∀ text, problem = .invalidTrustedProxy text → Faults s.security.trustedProxies text := by
  simp only [problems, List.mem_append, mem_report_iff, mem_proxyProblems_iff,
    mem_addressProblems_iff, List.mem_ite_nil_right, timeout_out_of_range_iff]
  cases problem with
  | missingStoreUrl => simp [Breaks, address?_eq_none_iff]
  | windowTooSmall => simp [Breaks]
  | cooldownNotPositive => simp [Breaks]
  | storeTimeoutOutOfRange millis => simp [Breaks]
  | bodyLimitNotPositive => simp [Breaks]
  | invalidGuardedRoot root => simp [Breaks]
  | invalidTrustedProxy text => simpa using breaks_of_faults
  | invalidAddress field value => cases field <;> simp [Breaks]
  | strictModeWithoutRateLimit => simp [Breaks, isEnabled_eq_false_iff]
  | strictModeWithoutTokens => simp [Breaks]

theorem mem_problems_iff_faults :
    .invalidTrustedProxy text ∈ s.problems ↔ Faults s.security.trustedProxies text := by
  rw [mem_problems_iff]
  constructor
  · rintro ⟨-, hfaults⟩
    exact hfaults text rfl
  · intro hfaults
    refine ⟨breaks_of_faults hfaults, fun other hother => ?_⟩
    obtain rfl := Problem.invalidTrustedProxy.inj hother
    exact hfaults

-- Somebody is always named if an entry is bad.
theorem exists_mem_problems_iff :
    (∃ text, .invalidTrustedProxy text ∈ s.problems) ↔
      ∃ text, s.Breaks (.invalidTrustedProxy text) := by
  simp only [mem_problems_iff_faults, exists_faults_iff, Breaks]
  constructor
  · rintro ⟨entry, hentry, text, hunreadable⟩
    exact ⟨text, entry, hentry, hunreadable⟩
  · rintro ⟨text, entry, hentry, hunreadable⟩
    exact ⟨entry, hentry, text, hunreadable⟩

theorem problems_eq_nil_iff_forall : s.problems = [] ↔ ∀ problem, ¬s.Breaks problem := by
  rw [List.eq_nil_iff_forall_not_mem]
  constructor
  · intro hnone problem hbreaks
    by_cases hproxy : ∃ text, problem = .invalidTrustedProxy text
    · obtain ⟨text, rfl⟩ := hproxy
      obtain ⟨first, hfirst⟩ := exists_mem_problems_iff.mpr ⟨text, hbreaks⟩
      exact hnone _ hfirst
    · refine hnone problem (mem_problems_iff.mpr ⟨hbreaks, fun text htext => ?_⟩)
      exact absurd ⟨text, htext⟩ hproxy
  · intro hsound problem hmem
    exact hsound problem (mem_problems_iff.mp hmem).1

theorem eq_problems_of_check {found : List Problem} (h : s.check = .error found) :
    found = s.problems := by
  unfold check at h
  split at h
  · cases h
  · exact (Except.error.inj h).symm

theorem eq_of_faults {entries : List String} {other : String} (h : Faults entries text)
    (h' : Faults entries other) : text = other := by
  have hfirst := TrustedProxies.parse_eq_error_iff.mpr h
  rw [TrustedProxies.parse_eq_error_iff.mpr h'] at hfirst
  exact (congrArg InvalidEntry.entry (Except.error.inj hfirst)).symm

-- All bad entries are named exactly if there is one text that they all have.
theorem all_named_iff :
    (∀ problem, problem ∈ s.problems ↔ s.Breaks problem) ↔
      ∀ text other, s.Breaks (.invalidTrustedProxy text) →
        s.Breaks (.invalidTrustedProxy other) → text = other := by
  constructor
  · intro hall text other htext hother
    exact eq_of_faults (mem_problems_iff_faults.mp ((hall _).mpr htext))
      (mem_problems_iff_faults.mp ((hall _).mpr hother))
  · intro hsame problem
    refine ⟨fun hmem => (mem_problems_iff.mp hmem).1, fun hbreaks => ?_⟩
    refine mem_problems_iff.mpr ⟨hbreaks, ?_⟩
    rintro text rfl
    obtain ⟨first, hfirst⟩ := exists_mem_problems_iff.mpr ⟨text, hbreaks⟩
    rw [hsame text first hbreaks (mem_problems_iff.mp hfirst).1]
    exact mem_problems_iff_faults.mp hfirst

-- Settings are accepted if they break no rule. If not, each broken rule is told of with its
-- values, and nothing else, whatever more is wrong. But of the bad entries for trusted proxies
-- only the first is named, so that nothing is left out only if they all have one text.
theorem check_names_first_bad_entry_only (s : Settings) :
    (s.check = .ok () ↔ ∀ problem, ¬s.Breaks problem) ∧
    ∀ found, s.check = .error found →
      (∀ problem, (∀ text, problem ≠ .invalidTrustedProxy text) →
        (problem ∈ found ↔ s.Breaks problem)) ∧
      (∀ text, .invalidTrustedProxy text ∈ found ↔ Faults s.security.trustedProxies text) ∧
      ((∃ text, .invalidTrustedProxy text ∈ found) ↔
        ∃ text, s.Breaks (.invalidTrustedProxy text)) ∧
      ((∀ problem, problem ∈ found ↔ s.Breaks problem) ↔
        ∀ text other, s.Breaks (.invalidTrustedProxy text) →
          s.Breaks (.invalidTrustedProxy other) → text = other) := by
  refine ⟨check_eq_ok_iff_problems.trans problems_eq_nil_iff_forall, fun found hfound => ?_⟩
  obtain rfl := eq_problems_of_check hfound
  refine ⟨fun problem hother => ?_, fun text => mem_problems_iff_faults,
    exists_mem_problems_iff, all_named_iff⟩
  rw [mem_problems_iff, and_iff_left]
  exact fun text htext => absurd htext (hother text)

-- Faults of several kinds, and three of one kind. The first two of these have one text.
def faulty : Settings where
  rateLimit := { windowSeconds := 0, backend := .sharedStore, storeUrl := some "  " }
  security := { trustedProxies := ["10.0.0.0/8", " bogus ", "bogus", "junk"], strictMode := true }

theorem unreadable_junk : Unreadable "junk" "junk" := by
  have hcore : Text.Core "junk" "junk" := Text.nonBlank?_eq_some_iff.mp (by decide)
  exact unreadable_iff.mpr ⟨hcore, rfl⟩

theorem faults_faulty : Faults faulty.security.trustedProxies "bogus" := by
  apply TrustedProxies.parse_eq_error_iff.mp
  rfl

theorem not_faults_faulty_junk : ¬Faults faulty.security.trustedProxies "junk" :=
  fun h => absurd (eq_of_faults h faults_faulty) (by decide)

theorem exists_check_faulty : ∃ found, faulty.check = .error found := by
  cases hcheck : faulty.check with
  | error found => exact ⟨found, rfl⟩
  | ok _ =>
      have hsound := (check_eq_ok_iff_problems.trans problems_eq_nil_iff_forall).mp hcheck
      exact absurd (breaks_of_faults faults_faulty) (hsound _)

theorem check_names_first_bad_entry_only_of_faulty :
    ∃ found, faulty.check = .error found ∧ .missingStoreUrl ∈ found ∧ .windowTooSmall ∈ found ∧
      .strictModeWithoutRateLimit ∈ found ∧ .strictModeWithoutTokens ∈ found ∧
      .invalidTrustedProxy "bogus" ∈ found ∧ .invalidTrustedProxy "junk" ∉ found := by
  obtain ⟨found, hfound⟩ := exists_check_faulty
  obtain ⟨hothers, hproxies, -, -⟩ := (check_names_first_bad_entry_only faulty).2 found hfound
  have hblank : ∀ url, faulty.rateLimit.storeUrl = some url →
      ∀ c ∈ url.toList, Text.isBlank c = true := by
    intro url hurl
    obtain rfl := Option.some.inj hurl
    exact Text.nonBlank?_eq_none_iff.mp rfl
  exact ⟨found, hfound, (hothers _ (by simp)).mpr ⟨rfl, hblank⟩, (hothers _ (by simp)).mpr rfl,
    (hothers _ (by simp)).mpr ⟨rfl, by decide⟩, (hothers _ (by simp)).mpr ⟨rfl, rfl⟩,
    (hproxies _).mpr faults_faulty, mt (hproxies _).mp not_faults_faulty_junk⟩

-- So not every bad entry is named.
theorem bad_entries_not_all_named :
    ¬∀ (s : Settings) (entry text : String), entry ∈ s.security.trustedProxies →
      Unreadable entry text → ∃ found, s.check = .error found ∧
        .invalidTrustedProxy text ∈ found := by
  intro hall
  obtain ⟨found, hfound, hmem⟩ := hall faulty "junk" "junk" (by decide) unreadable_junk
  rw [eq_problems_of_check hfound, mem_problems_iff_faults] at hmem
  exact not_faults_faulty_junk hmem

end AdmissionControl.Settings
