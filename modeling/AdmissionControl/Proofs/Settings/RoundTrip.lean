import AdmissionControl.Proofs.Json.RoundTrip
import AdmissionControl.Proofs.Settings.Schema

namespace AdmissionControl.Settings

namespace Document

variable {document : Document} {table name : String} {value : Document}

-- What is read back after a document has been shown as JSON.
def reread (document : Document) : Document := ofJson document.toJson

theorem fieldsToJson_eq (fields : List (String × Document)) :
    fieldsToJson fields = fields.map fun field => (field.1, field.2.toJson) := by
  induction fields with
  | nil => rfl
  | cons field fields ih => rw [fieldsToJson, ih, List.map_cons]

theorem ofMembers_eq (members : Json.Members) :
    ofMembers members = members.map fun member => (member.1, ofJson member.2) := by
  induction members with
  | nil => rfl
  | cons member members ih => rw [ofMembers, ih, List.map_cons]

mutual

theorem canonical_toJson : ∀ document : Document, document.toJson.Canonical
  | .null => trivial
  | .boolean _ => trivial
  | .integer _ => trivial
  | .real => trivial
  | .moment => trivial
  | .text _ => trivial
  | .sequence items => canonical_itemsToJson items
  | .record fields => Json.canonical_ofMembers (canonical_fieldsToJson fields)

theorem canonical_itemsToJson : ∀ items : List Document, Json.CanonicalItems (itemsToJson items)
  | [] => trivial
  | item :: items => ⟨canonical_toJson item, canonical_itemsToJson items⟩

theorem canonical_fieldsToJson : ∀ fields : List (String × Document),
    ∀ member ∈ fieldsToJson fields, member.2.Canonical
  | [] => nofun
  | (_, value) :: fields => List.forall_mem_cons.mpr
      ⟨canonical_toJson value, canonical_fieldsToJson fields⟩

end

theorem isObject_reread (h : document.IsObject) : document.reread.IsObject := by
  obtain ⟨fields, rfl, -⟩ := h
  refine ⟨ofMembers (Json.Members.putAll (fieldsToJson fields) []), rfl, ?_⟩
  rw [ofMembers_eq, List.map_map]
  exact (Json.ascending_putAll List.Pairwise.nil).nodup

-- An object comes back with its names in order.
theorem has_reread_iff (h : document.IsObject) :
    document.reread.Has name value ↔ ∃ shown, document.Has name shown ∧ value = shown.reread := by
  obtain ⟨fields, rfl, hnodup⟩ := h
  have hnames : ((fieldsToJson fields).map Prod.fst).Nodup := by
    rw [fieldsToJson_eq, List.map_map]
    exact hnodup
  change (record (ofMembers (Json.Members.putAll (fieldsToJson fields) []))).Has name value ↔ _
  simp only [has_record, ofMembers_eq, List.mem_map, Prod.exists, Json.mem_putAll_iff hnames]
  simp only [fieldsToJson_eq, List.mem_map, Prod.exists, Prod.mk.injEq]
  constructor
  · rintro ⟨_, _, ⟨_, shown, hshown, rfl, rfl⟩, rfl, rfl⟩
    exact ⟨shown, hshown, rfl⟩
  · rintro ⟨shown, hshown, rfl⟩
    exact ⟨_, _, ⟨_, shown, hshown, rfl, rfl⟩, rfl, rfl⟩

theorem Tabled.reread (h : document.Tabled) : document.reread.Tabled := by
  refine ⟨isObject_reread h.isObject, fun table htable inner hinner => ?_⟩
  obtain ⟨shown, hshown, rfl⟩ := (has_reread_iff h.isObject).mp hinner
  exact isObject_reread (h.tables table htable shown hshown)

theorem Tabled.gives_reread (h : document.Tabled) (htable : table ∈ names)
    (hgives : document.Gives table name value) :
    document.reread.Gives table name value.reread := by
  obtain ⟨inner, hinner, hvalue⟩ := hgives
  exact ⟨inner.reread, (has_reread_iff h.isObject).mpr ⟨inner, hinner, rfl⟩,
    (has_reread_iff (h.tables table htable inner hinner)).mpr ⟨value, hvalue, rfl⟩⟩

end Document

variable {tolerance : Tolerance} {document : Document} {settings : Settings}

theorem tabled_encode (settings : Settings) : settings.encode.Tabled := by
  refine ⟨⟨_, rfl, by simp⟩, fun table htable inner hinner => ?_⟩
  rw [encode, Document.has_record] at hinner
  simp only [List.mem_cons, Prod.mk.injEq, List.not_mem_nil, or_false] at hinner
  rcases hinner with ⟨-, rfl⟩ | ⟨-, rfl⟩ | ⟨-, rfl⟩ | ⟨-, rfl⟩ | ⟨-, rfl⟩ | ⟨-, rfl⟩ <;>
    exact ⟨_, rfl, by simp⟩

-- Every setting is written out, as it is written by itself.
theorem gives_encode {key : Key} (settings : Settings) (hkey : key ∈ schema) :
    settings.encode.Gives key.table key.name (key.spelling.encode (key.get settings)) := by
  revert key
  simp [schema, Document.Gives, Document.has_record, encode, ListenerSettings.encode,
    TimeoutSettings.encode, RateLimitSettings.encode, SecuritySettings.encode,
    AccessSettings.encode, ObservabilitySettings.encode, Spelling.text, Spelling.flag,
    Spelling.word64, Spelling.int64, Spelling.optionalText, Spelling.texts, Spelling.backend]

theorem describes_of_gives (h : document.Tabled)
    (hgives : ∀ key ∈ schema,
      document.Gives key.table key.name (key.spelling.encode (key.get settings))) :
    document.Describes tolerance settings := by
  intro key hkey
  refine ⟨fun value hvalue => ?_, fun hnone => absurd (hgives key hkey) (hnone _)⟩
  rw [h.eq_of_gives (table_mem_names hkey) hvalue (hgives key hkey)]
  exact key.spelling.spells_encode tolerance _

theorem decode_encode (tolerance : Tolerance) (settings : Settings) :
    decode tolerance settings.encode = .ok settings :=
  (decode_eq_ok_iff_describes (tabled_encode settings)).mpr
    (describes_of_gives (tabled_encode settings) fun _ hkey => gives_encode settings hkey)

theorem decode_reread_encode (tolerance : Tolerance) (settings : Settings) :
    decode tolerance settings.encode.reread = .ok settings := by
  have htabled := tabled_encode settings
  refine (decode_eq_ok_iff_describes htabled.reread).mpr
    (describes_of_gives htabled.reread fun key hkey => ?_)
  -- the value itself is read back as it was shown
  rw [← key.spelling.reread_encode (key.get settings)]
  exact htabled.gives_reread (table_mem_names hkey) (gives_encode settings hkey)

theorem parse?_encode (settings : Settings) :
    (Json.parse? settings.encode.toJson.print).map ofJson = some (.ok settings) := by
  rw [Json.parse?_print (Document.canonical_toJson _), Option.map_some]
  exact congrArg some (decode_reread_encode jsonTolerance settings)

theorem backend_mem_schema :
    ⟨"rate_limit", "backend", .backend, fun s => s.rateLimit.backend⟩ ∈ schema := by
  simp [schema]

theorem gives_encode_backend_iff {value : Document} :
    settings.encode.Gives "rate_limit" "backend" value ↔
      value = .text settings.rateLimit.backend.name := by
  have hgives := gives_encode settings backend_mem_schema
  constructor
  · exact fun h => (tabled_encode settings).eq_of_gives (by simp [names]) h hgives
  · rintro rfl
    exact hgives

-- Settings that are written out are read back as they are, also from the text. An object that
-- gives some of them, each a value of its kind, is read as the defaults with these in their
-- place, wherever they stand and whatever stands beside them. The second name of the shared store
-- is read and never written.
theorem decode_agrees_with_schema (tolerance : Tolerance) :
    (∀ settings : Settings, decode tolerance settings.encode = .ok settings ∧
      (Json.parse? settings.encode.toJson.print).map ofJson = some (.ok settings)) ∧
    ∀ document : Document, document.Tabled → document.Typed tolerance →
      ∃ settings, decode tolerance document = .ok settings ∧
        (∀ other, document.Describes tolerance other ↔ other = settings) ∧
        (document.Gives "rate_limit" "backend" (.text "redis") →
          settings.rateLimit.backend = .sharedStore ∧
          ∀ value, settings.encode.Gives "rate_limit" "backend" value ↔
            value = .text "shared-store") := by
  refine ⟨fun settings => ⟨decode_encode tolerance settings, parse?_encode settings⟩,
    fun document htabled htyped => ?_⟩
  obtain ⟨settings, hdecoded⟩ := exists_decode htabled htyped
  refine ⟨settings, hdecoded, fun other => ?_, fun hredis => ?_⟩
  · rw [← decode_eq_ok_iff_describes htabled, hdecoded, Except.ok.injEq, eq_comm]
  · obtain ⟨hspelled, -⟩ :=
      (decode_eq_ok_iff_describes htabled).mp hdecoded _ backend_mem_schema
    have hbackend : settings.rateLimit.backend = .sharedStore :=
      (hspelled _ hredis).eq_sharedStore_of_redis
    refine ⟨hbackend, fun value => ?_⟩
    rw [gives_encode_backend_iff, hbackend]
    rfl

-- A few settings out of order, with others between them that nothing asks for.
def legacy : Document :=
  .record [
    ("security", .record [("strict_mode", .boolean true),
      ("max_request_body_bytes", .integer 18446744073709551615)]),
    ("owner", .real),
    ("rate_limit", .record [("window_seconds", .integer 90), ("region", .null),
      ("backend", .text "redis"), ("requests_per_minute", .integer (-1))])]

def readLegacy : Settings where
  rateLimit := { requestsPerMinute := -1, backend := .sharedStore, windowSeconds := 90 }
  security := { maxBodyBytes := 18446744073709551615, strictMode := true }

theorem tabled_legacy : legacy.Tabled := by
  refine ⟨⟨_, rfl, by simp⟩, fun table htable inner hinner => ?_⟩
  rw [legacy, Document.has_record] at hinner
  simp only [List.mem_cons, Prod.mk.injEq, List.not_mem_nil, or_false] at hinner
  rcases hinner with ⟨-, rfl⟩ | ⟨rfl, -⟩ | ⟨-, rfl⟩
  · exact ⟨_, rfl, by simp⟩
  · simp [names] at htable
  · exact ⟨_, rfl, by simp⟩

theorem decode_agrees_with_schema_of_legacy :
    legacy.Tabled ∧ legacy.Typed jsonTolerance ∧
    (∀ other, legacy.Describes jsonTolerance other ↔ other = readLegacy) ∧
    (∀ value, readLegacy.encode.Gives "rate_limit" "backend" value ↔
      value = .text "shared-store") := by
  have hread : decode jsonTolerance legacy = .ok readLegacy := rfl
  have htyped : legacy.Typed jsonTolerance :=
    ((decode_eq_ok_iff_describes tabled_legacy).mp hread).typed
  obtain ⟨-, hobjects⟩ := decode_agrees_with_schema jsonTolerance
  obtain ⟨settings, hdecoded, hexact, hredis⟩ := hobjects legacy tabled_legacy htyped
  obtain rfl : readLegacy = settings := Except.ok.inj (hread.symm.trans hdecoded)
  refine ⟨tabled_legacy, htyped, hexact, (hredis ?_).2⟩
  simp [legacy, Document.Gives, Document.has_record]

end AdmissionControl.Settings
