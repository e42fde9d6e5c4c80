import AdmissionControl.Proofs.Json.Members
import AdmissionControl.Proofs.Settings.Spelling

namespace AdmissionControl.Settings

-- A setting: the name it stands under and in which table, how its values are spelled, and where
-- it is kept.
structure Key where
  table : String
  name : String
  {Value : Type}
  spelling : Spelling Value
  get : Settings → Value

def schema : List Key := [
  ⟨"listener", "bind_address", .text, fun s => s.listener.bindAddress⟩,
  ⟨"timeouts", "request_secs", .word64, fun s => s.timeouts.requestSeconds⟩,
  ⟨"rate_limit", "requests_per_minute", .int64, fun s => s.rateLimit.requestsPerMinute⟩,
  ⟨"rate_limit", "backend", .backend, fun s => s.rateLimit.backend⟩,
  ⟨"rate_limit", "store_url", .optionalText, fun s => s.rateLimit.storeUrl⟩,
  ⟨"rate_limit", "key_prefix", .text, fun s => s.rateLimit.keyRoot⟩,
  ⟨"rate_limit", "window_seconds", .word64, fun s => s.rateLimit.windowSeconds⟩,
  ⟨"rate_limit", "failure_cooldown_seconds", .word64, fun s => s.rateLimit.cooldownSeconds⟩,
  ⟨"rate_limit", "fail_open", .flag, fun s => s.rateLimit.failOpen⟩,
  ⟨"rate_limit", "store_timeout_ms", .word64, fun s => s.rateLimit.storeTimeoutMillis⟩,
  ⟨"security", "trusted_proxy_cidrs", .texts, fun s => s.security.trustedProxies⟩,
  ⟨"security", "max_request_body_bytes", .word64, fun s => s.security.maxBodyBytes⟩,
  ⟨"security", "guarded_path_prefix", .text, fun s => s.security.guardedRoot⟩,
  ⟨"security", "strict_mode", .flag, fun s => s.security.strictMode⟩,
  ⟨"access", "require_jwt", .flag, fun s => s.access.requireToken⟩,
  ⟨"access", "scope_read", .text, fun s => s.access.scopeRead⟩,
  ⟨"access", "scope_write", .text, fun s => s.access.scopeWrite⟩,
  ⟨"access", "scope_delete", .text, fun s => s.access.scopeDelete⟩,
  ⟨"access", "admin_role", .text, fun s => s.access.adminRole⟩,
  ⟨"observability", "log_level", .text, fun s => s.observability.logLevel⟩,
  ⟨"observability", "log_json", .flag, fun s => s.observability.logJson⟩,
  ⟨"observability", "metrics_enabled", .flag, fun s => s.observability.metricsEnabled⟩,
  ⟨"observability", "metrics_address", .text, fun s => s.observability.metricsAddress⟩]

namespace Document

-- An object has every name once. The order in which they stand tells nothing.
def IsObject (document : Document) : Prop :=
  ∃ fields, document = .record fields ∧ (fields.map Prod.fst).Nodup

def Has (document : Document) (name : String) (value : Document) : Prop :=
  ∃ fields, document = .record fields ∧ (name, value) ∈ fields

def Gives (document : Document) (table name : String) (value : Document) : Prop :=
  ∃ inner, document.Has table inner ∧ inner.Has name value

-- An object that has objects for tables, if it has them. What else it has may be anything.
structure Tabled (document : Document) : Prop where
  isObject : document.IsObject
  tables : ∀ table ∈ names, ∀ inner, document.Has table inner → inner.IsObject

-- Every setting that is given is given a value of its kind.
def Typed (tolerance : Tolerance) (document : Document) : Prop :=
  ∀ key ∈ schema, ∀ value, document.Gives key.table key.name value →
    ∃ meant, key.spelling.Spells tolerance value meant

-- Settings that are what a document says they are, and the default where it says nothing.
def Describes (tolerance : Tolerance) (document : Document) (settings : Settings) : Prop :=
  ∀ key ∈ schema,
    (∀ value, document.Gives key.table key.name value →
      key.spelling.Spells tolerance value (key.get settings)) ∧
    ((∀ value, ¬ document.Gives key.table key.name value) → key.get settings = key.get {})

end Document

theorem Document.Describes.typed {tolerance : Tolerance} {document : Document}
    {settings : Settings} (h : document.Describes tolerance settings) : document.Typed tolerance :=
  fun key hkey value hvalue => ⟨_, (h key hkey).1 value hvalue⟩

section Fields

variable {α : Type} {name : String} {decode : Document → Decoded α} {base value : α}
  {fields : List (String × Document)}

theorem field_eq_ok_iff (h : (fields.map Prod.fst).Nodup) :
    field name decode base fields = .ok value ↔
      (∀ document, (name, document) ∈ fields → decode document = .ok value) ∧
      ((∀ document, (name, document) ∉ fields) → value = base) := by
  rw [field]
  split
  · rename_i document hfound
    have hmem := (lookup_eq_some_iff_mem h).mp hfound
    constructor
    · intro hread
      refine ⟨fun other hother => ?_, fun hnone => absurd hmem (hnone document)⟩
      rw [← lookup_eq_some_iff_mem h, hfound] at hother
      cases hother
      exact hread
    · exact fun hread => hread.1 document hmem
  · rename_i hnone
    have hmem (document : Document) : (name, document) ∉ fields := by
      rw [← lookup_eq_some_iff_mem h, hnone]
      exact nofun
    simp [hmem, eq_comm]

end Fields

namespace Document

-- What stands in a table, which may not be there.
def inner (table : String) : Document → List (String × Document)
  | .record fields =>
    match fields.lookup table with
    | some (.record inner) => inner
    | _ => []
  | _ => []

variable {tolerance : Tolerance} {document : Document} {table name : String} {value : Document}

theorem has_record {fields : List (String × Document)} :
    (record fields).Has name value ↔ (name, value) ∈ fields :=
  ⟨fun ⟨_, heq, hmem⟩ => by cases heq; exact hmem, fun hmem => ⟨fields, rfl, hmem⟩⟩

theorem inner_eq_of_has {fields : List (String × Document)} (h : document.IsObject)
    (hhas : document.Has table (.record fields)) : document.inner table = fields := by
  obtain ⟨outer, rfl, hnodup⟩ := h
  rw [inner, (lookup_eq_some_iff_mem hnodup).mpr (has_record.mp hhas)]

theorem inner_eq_nil (h : document.IsObject) (hnone : ∀ inner, ¬ document.Has table inner) :
    document.inner table = [] := by
  obtain ⟨outer, rfl, hnodup⟩ := h
  rw [inner]
  split
  · rename_i found hfound
    exact absurd (has_record.mpr ((lookup_eq_some_iff_mem hnodup).mp hfound)) (hnone _)
  · rfl

-- A table is there once, as an object, or not at all.
theorem Tabled.inner_cases (h : document.Tabled) (htable : table ∈ names) :
    (document.Has table (.record (document.inner table)) ∧
      ((document.inner table).map Prod.fst).Nodup) ∨
    (document.inner table = [] ∧ ∀ inner, ¬ document.Has table inner) := by
  by_cases hthere : ∃ inner, document.Has table inner
  · obtain ⟨inner, hinner⟩ := hthere
    obtain ⟨fields, rfl, hnodup⟩ := h.tables table htable inner hinner
    rw [inner_eq_of_has h.isObject hinner]
    exact Or.inl ⟨hinner, hnodup⟩
  · rw [not_exists] at hthere
    exact Or.inr ⟨inner_eq_nil h.isObject hthere, hthere⟩

theorem Tabled.nodup_inner (h : document.Tabled) (htable : table ∈ names) :
    ((document.inner table).map Prod.fst).Nodup := by
  rcases h.inner_cases htable with ⟨-, hnodup⟩ | ⟨hnil, -⟩
  · exact hnodup
  · rw [hnil]
    exact List.nodup_nil

theorem Tabled.mem_inner_iff (h : document.Tabled) (htable : table ∈ names) :
    (name, value) ∈ document.inner table ↔ document.Gives table name value := by
  rcases h.inner_cases htable with ⟨hhas, hnodup⟩ | ⟨hnil, hnone⟩
  · constructor
    · exact fun hmem => ⟨_, hhas, has_record.mpr hmem⟩
    · rintro ⟨inner, hinner, hvalue⟩
      obtain ⟨fields, rfl, -⟩ := h.tables table htable inner hinner
      rw [inner_eq_of_has h.isObject hinner]
      exact has_record.mp hvalue
  · rw [hnil]
    exact ⟨nofun, fun ⟨inner, hinner, _⟩ => absurd hinner (hnone inner)⟩

theorem Tabled.eq_of_gives {other : Document} (h : document.Tabled) (htable : table ∈ names)
    (hvalue : document.Gives table name value) (hother : document.Gives table name other) :
    value = other := by
  rw [← h.mem_inner_iff htable, ← lookup_eq_some_iff_mem (h.nodup_inner htable)] at hvalue hother
  exact Option.some.inj (hvalue.symm.trans hother)

-- A table that is not there is read like an empty one.
theorem Tabled.field_eq_decode_inner {α : Type} {decode : Document → Decoded α} {base : α}
    {fields : List (String × Document)} (h : (record fields).Tabled) (htable : table ∈ names)
    (hempty : decode (.record []) = .ok base) :
    field table decode base fields = decode (.record ((record fields).inner table)) := by
  obtain ⟨outer, heq, hnodup⟩ := h.isObject
  cases heq
  rw [field]
  rcases h.inner_cases htable with ⟨hhas, -⟩ | ⟨hnil, hnone⟩
  · rw [(lookup_eq_some_iff_mem hnodup).mpr (has_record.mp hhas)]
  · have hlookup : fields.lookup table = none := by
      by_contra hsome
      obtain ⟨inner, hinner⟩ := Option.ne_none_iff_exists'.mp hsome
      exact hnone inner (has_record.mpr ((lookup_eq_some_iff_mem hnodup).mp hinner))
    rw [hlookup, hnil, hempty]

end Document

-- The reading of one setting, whatever the others are.
def Key.read (key : Key) (tolerance : Tolerance) (document : Document) : Decoded key.Value :=
  field key.name (key.spelling.decode tolerance) (key.get {}) (document.inner key.table)

variable {tolerance : Tolerance} {document : Document} {settings : Settings} {key : Key}

theorem table_mem_names (h : key ∈ schema) : key.table ∈ names := by
  revert key
  simp [schema, names]

theorem Key.read_eq_ok_iff {value : key.Value} (h : document.Tabled) (hkey : key ∈ schema) :
    key.read tolerance document = .ok value ↔
      (∀ given, document.Gives key.table key.name given →
        key.spelling.Spells tolerance given value) ∧
      ((∀ given, ¬ document.Gives key.table key.name given) → value = key.get {}) := by
  have htable := table_mem_names hkey
  rw [Key.read, field_eq_ok_iff (h.nodup_inner htable)]
  simp only [h.mem_inner_iff htable, key.spelling.decode_eq_ok_iff]

-- The tables are read setting by setting.
theorem decode_eq_ok_iff_read (h : document.Tabled) :
    decode tolerance document = .ok settings ↔
      ∀ key ∈ schema, key.read tolerance document = .ok (key.get settings) := by
  obtain ⟨fields, rfl, -⟩ := h.isObject
  -- a table that is left out reads like an empty one, so all six may be taken to be there
  have hlistener := h.field_eq_decode_inner (show "listener" ∈ names by simp [names])
    (show ListenerSettings.decode tolerance (.record []) = .ok {} from rfl)
  have htimeouts := h.field_eq_decode_inner (show "timeouts" ∈ names by simp [names])
    (show TimeoutSettings.decode tolerance (.record []) = .ok {} from rfl)
  have hrateLimit := h.field_eq_decode_inner (show "rate_limit" ∈ names by simp [names])
    (show RateLimitSettings.decode tolerance (.record []) = .ok {} from rfl)
  have hsecurity := h.field_eq_decode_inner (show "security" ∈ names by simp [names])
    (show SecuritySettings.decode tolerance (.record []) = .ok {} from rfl)
  have haccess := h.field_eq_decode_inner (show "access" ∈ names by simp [names])
    (show AccessSettings.decode tolerance (.record []) = .ok {} from rfl)
  have hobservability := h.field_eq_decode_inner (show "observability" ∈ names by simp [names])
    (show ObservabilitySettings.decode tolerance (.record []) = .ok {} from rfl)
  simp only [decode_eq_ok_iff, Document.fields, Except.ok.injEq, exists_eq_left', hlistener,
    htimeouts, hrateLimit, hsecurity, haccess, hobservability, ListenerSettings.decode_eq_ok_iff,
    TimeoutSettings.decode_eq_ok_iff, RateLimitSettings.decode_eq_ok_iff,
    SecuritySettings.decode_eq_ok_iff, AccessSettings.decode_eq_ok_iff,
    ObservabilitySettings.decode_eq_ok_iff, and_assoc, schema, List.forall_mem_cons, Key.read,
    List.not_mem_nil, false_implies, implies_true, and_true]
  rfl

-- The settings of the schema may be chosen one by one, and together they are all there are.
theorem exists_settings {P : (key : Key) → key.Value → Prop}
    (h : ∀ key ∈ schema, ∃ value, P key value) :
    ∃ settings, ∀ key ∈ schema, P key (key.get settings) := by
  simp only [schema, List.forall_mem_cons] at h
  obtain ⟨⟨address, haddress⟩, ⟨seconds, hseconds⟩, ⟨rate, hrate⟩, ⟨backend, hbackend⟩,
    ⟨url, hurl⟩, ⟨root, hroot⟩, ⟨window, hwindow⟩, ⟨cooldown, hcooldown⟩, ⟨failOpen, hfailOpen⟩,
    ⟨timeout, htimeout⟩, ⟨proxies, hproxies⟩, ⟨limit, hlimit⟩, ⟨guarded, hguarded⟩,
    ⟨strict, hstrict⟩, ⟨required, hrequired⟩, ⟨reading, hreading⟩, ⟨writing, hwriting⟩,
    ⟨deleting, hdeleting⟩, ⟨admin, hadmin⟩, ⟨level, hlevel⟩, ⟨json, hjson⟩, ⟨enabled, henabled⟩,
    ⟨metrics, hmetrics⟩, -⟩ := h
  refine ⟨⟨⟨address⟩, ⟨seconds⟩, ⟨rate, backend, url, root, window, cooldown, failOpen, timeout⟩,
    ⟨proxies, limit, guarded, strict⟩, ⟨required, reading, writing, deleting, admin⟩,
    ⟨level, json, enabled, metrics⟩⟩, ?_⟩
  simp only [schema, List.forall_mem_cons]
  exact ⟨haddress, hseconds, hrate, hbackend, hurl, hroot, hwindow, hcooldown, hfailOpen, htimeout,
    hproxies, hlimit, hguarded, hstrict, hrequired, hreading, hwriting, hdeleting, hadmin, hlevel,
    hjson, henabled, hmetrics, nofun⟩

theorem decode_eq_ok_iff_describes (h : document.Tabled) :
    decode tolerance document = .ok settings ↔ document.Describes tolerance settings := by
  rw [decode_eq_ok_iff_read h]
  exact forall₂_congr fun key hkey => Key.read_eq_ok_iff h hkey

theorem exists_decode (h : document.Tabled) (htyped : document.Typed tolerance) :
    ∃ settings, decode tolerance document = .ok settings := by
  simp only [decode_eq_ok_iff_read h]
  refine exists_settings (P := fun key value => key.read tolerance document = .ok value)
    fun key hkey => ?_
  simp only [Key.read_eq_ok_iff h hkey]
  by_cases hgiven : ∃ given, document.Gives key.table key.name given
  · obtain ⟨given, hgiven⟩ := hgiven
    obtain ⟨value, hvalue⟩ := htyped key hkey given hgiven
    refine ⟨value, fun other hother => ?_, fun hnone => absurd hgiven (hnone given)⟩
    rw [h.eq_of_gives (table_mem_names hkey) hother hgiven]
    exact hvalue
  · exact ⟨key.get {}, fun given hthere => absurd ⟨given, hthere⟩ hgiven, fun _ => rfl⟩

end AdmissionControl.Settings
