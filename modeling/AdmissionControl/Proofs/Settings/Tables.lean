import AdmissionControl.Settings.Decode

namespace AdmissionControl

open Settings

section

variable {ε α β : Type} {x : Except ε α} {f : α → Except ε β} {b : β}

theorem bind_eq_ok_iff : (x >>= f) = .ok b ↔ ∃ a, x = .ok a ∧ f a = .ok b := by
  cases x with
  | error e => exact ⟨nofun, fun ⟨_, h, _⟩ => nomatch h⟩
  | ok a => exact ⟨fun h => ⟨a, rfl, h⟩, fun ⟨_, h, hf⟩ => by cases h; exact hf⟩

theorem pure_eq_ok_iff {a b : α} : (pure a : Except ε α) = .ok b ↔ a = b :=
  Except.ok.injEq a b ▸ Iff.rfl

end

variable {tolerance : Tolerance} {document : Document}

-- Each table is read key by key, and every key on its own.
theorem ListenerSettings.decode_eq_ok_iff {s : ListenerSettings} :
    decode tolerance document = .ok s ↔
      ∃ fields, document.fields tolerance ["bind_address"] = .ok fields ∧
        field "bind_address" Document.string ({} : ListenerSettings).bindAddress fields =
          .ok s.bindAddress := by
  simp only [decode, bind_eq_ok_iff, pure_eq_ok_iff]
  constructor
  · rintro ⟨fields, hfields, address, haddress, rfl⟩
    exact ⟨fields, hfields, haddress⟩
  · rintro ⟨fields, hfields, haddress⟩
    exact ⟨fields, hfields, _, haddress, rfl⟩

theorem TimeoutSettings.decode_eq_ok_iff {s : TimeoutSettings} :
    decode tolerance document = .ok s ↔
      ∃ fields, document.fields tolerance ["request_secs"] = .ok fields ∧
        field "request_secs" Document.word64 ({} : TimeoutSettings).requestSeconds fields =
          .ok s.requestSeconds := by
  simp only [decode, bind_eq_ok_iff, pure_eq_ok_iff]
  constructor
  · rintro ⟨fields, hfields, seconds, hseconds, rfl⟩
    exact ⟨fields, hfields, hseconds⟩
  · rintro ⟨fields, hfields, hseconds⟩
    exact ⟨fields, hfields, _, hseconds, rfl⟩

theorem RateLimitSettings.decode_eq_ok_iff {s : RateLimitSettings} :
    decode tolerance document = .ok s ↔
      ∃ fields, document.fields tolerance names = .ok fields ∧
        field "requests_per_minute" Document.int64 ({} : RateLimitSettings).requestsPerMinute
          fields = .ok s.requestsPerMinute ∧
        field "backend" (Backend.decode tolerance) ({} : RateLimitSettings).backend fields =
          .ok s.backend ∧
        field "store_url" Document.optionalString ({} : RateLimitSettings).storeUrl fields =
          .ok s.storeUrl ∧
        field "key_prefix" Document.string ({} : RateLimitSettings).keyRoot fields = .ok s.keyRoot ∧
        field "window_seconds" Document.word64 ({} : RateLimitSettings).windowSeconds fields =
          .ok s.windowSeconds ∧
        field "failure_cooldown_seconds" Document.word64 ({} : RateLimitSettings).cooldownSeconds
          fields = .ok s.cooldownSeconds ∧
        field "fail_open" Document.flag ({} : RateLimitSettings).failOpen fields = .ok s.failOpen ∧
        field "store_timeout_ms" Document.word64 ({} : RateLimitSettings).storeTimeoutMillis
          fields = .ok s.storeTimeoutMillis := by
  simp only [decode, bind_eq_ok_iff, pure_eq_ok_iff]
  constructor
  · rintro ⟨fields, hfields, _, hrate, _, hbackend, _, hurl, _, hroot, _, hwindow, _, hcooldown,
      _, hopen, _, htimeout, rfl⟩
    exact ⟨fields, hfields, hrate, hbackend, hurl, hroot, hwindow, hcooldown, hopen, htimeout⟩
  · rintro ⟨fields, hfields, hrate, hbackend, hurl, hroot, hwindow, hcooldown, hopen, htimeout⟩
    exact ⟨fields, hfields, _, hrate, _, hbackend, _, hurl, _, hroot, _, hwindow, _, hcooldown,
      _, hopen, _, htimeout, rfl⟩

theorem SecuritySettings.decode_eq_ok_iff {s : SecuritySettings} :
    decode tolerance document = .ok s ↔
      ∃ fields, document.fields tolerance names = .ok fields ∧
        field "trusted_proxy_cidrs" Document.strings ({} : SecuritySettings).trustedProxies fields =
          .ok s.trustedProxies ∧
        field "max_request_body_bytes" Document.word64 ({} : SecuritySettings).maxBodyBytes fields =
          .ok s.maxBodyBytes ∧
        field "guarded_path_prefix" Document.string ({} : SecuritySettings).guardedRoot fields =
          .ok s.guardedRoot ∧
        field "strict_mode" Document.flag ({} : SecuritySettings).strictMode fields =
          .ok s.strictMode := by
  simp only [decode, bind_eq_ok_iff, pure_eq_ok_iff]
  constructor
  · rintro ⟨fields, hfields, _, hproxies, _, hlimit, _, hroot, _, hstrict, rfl⟩
    exact ⟨fields, hfields, hproxies, hlimit, hroot, hstrict⟩
  · rintro ⟨fields, hfields, hproxies, hlimit, hroot, hstrict⟩
    exact ⟨fields, hfields, _, hproxies, _, hlimit, _, hroot, _, hstrict, rfl⟩

theorem AccessSettings.decode_eq_ok_iff {s : AccessSettings} :
    decode tolerance document = .ok s ↔
      ∃ fields, document.fields tolerance names = .ok fields ∧
        field "require_jwt" Document.flag ({} : AccessSettings).requireToken fields =
          .ok s.requireToken ∧
        field "scope_read" Document.string ({} : AccessSettings).scopeRead fields =
          .ok s.scopeRead ∧
        field "scope_write" Document.string ({} : AccessSettings).scopeWrite fields =
          .ok s.scopeWrite ∧
        field "scope_delete" Document.string ({} : AccessSettings).scopeDelete fields =
          .ok s.scopeDelete ∧
        field "admin_role" Document.string ({} : AccessSettings).adminRole fields =
          .ok s.adminRole := by
  simp only [decode, bind_eq_ok_iff, pure_eq_ok_iff]
  constructor
  · rintro ⟨fields, hfields, _, hrequired, _, hread, _, hwrite, _, hdelete, _, hadmin, rfl⟩
    exact ⟨fields, hfields, hrequired, hread, hwrite, hdelete, hadmin⟩
  · rintro ⟨fields, hfields, hrequired, hread, hwrite, hdelete, hadmin⟩
    exact ⟨fields, hfields, _, hrequired, _, hread, _, hwrite, _, hdelete, _, hadmin, rfl⟩

theorem ObservabilitySettings.decode_eq_ok_iff {s : ObservabilitySettings} :
    decode tolerance document = .ok s ↔
      ∃ fields, document.fields tolerance names = .ok fields ∧
        field "log_level" Document.string ({} : ObservabilitySettings).logLevel fields =
          .ok s.logLevel ∧
        field "log_json" Document.flag ({} : ObservabilitySettings).logJson fields = .ok s.logJson ∧
        field "metrics_enabled" Document.flag ({} : ObservabilitySettings).metricsEnabled fields =
          .ok s.metricsEnabled ∧
        field "metrics_address" Document.string ({} : ObservabilitySettings).metricsAddress fields =
          .ok s.metricsAddress := by
  simp only [decode, bind_eq_ok_iff, pure_eq_ok_iff]
  constructor
  · rintro ⟨fields, hfields, _, hlevel, _, hjson, _, henabled, _, haddress, rfl⟩
    exact ⟨fields, hfields, hlevel, hjson, henabled, haddress⟩
  · rintro ⟨fields, hfields, hlevel, hjson, henabled, haddress⟩
    exact ⟨fields, hfields, _, hlevel, _, hjson, _, henabled, _, haddress, rfl⟩

theorem Settings.decode_eq_ok_iff {s : Settings} :
    decode tolerance document = .ok s ↔
      ∃ fields, document.fields tolerance names = .ok fields ∧
        field "listener" (ListenerSettings.decode tolerance) {} fields = .ok s.listener ∧
        field "timeouts" (TimeoutSettings.decode tolerance) {} fields = .ok s.timeouts ∧
        field "rate_limit" (RateLimitSettings.decode tolerance) {} fields = .ok s.rateLimit ∧
        field "security" (SecuritySettings.decode tolerance) {} fields = .ok s.security ∧
        field "access" (AccessSettings.decode tolerance) {} fields = .ok s.access ∧
        field "observability" (ObservabilitySettings.decode tolerance) {} fields =
          .ok s.observability := by
  simp only [decode, bind_eq_ok_iff, pure_eq_ok_iff]
  constructor
  · rintro ⟨fields, hfields, _, hlistener, _, htimeouts, _, hrate, _, hsecurity, _, haccess, _,
      hobservability, rfl⟩
    exact ⟨fields, hfields, hlistener, htimeouts, hrate, hsecurity, haccess, hobservability⟩
  · rintro ⟨fields, hfields, hlistener, htimeouts, hrate, hsecurity, haccess, hobservability⟩
    exact ⟨fields, hfields, _, hlistener, _, htimeouts, _, hrate, _, hsecurity, _, haccess, _,
      hobservability, rfl⟩

end AdmissionControl
