import AdmissionControl.Settings.Encode
import AdmissionControl.Proofs.Settings.Tables

namespace AdmissionControl

namespace Settings

variable {tolerance : Tolerance} {document : Document}

namespace Document

theorem string_eq_ok_iff {value : String} :
    document.string = .ok value ↔ document = .text value := by
  cases document <;> simp [string]

theorem flag_eq_ok_iff {value : Bool} : document.flag = .ok value ↔ document = .boolean value := by
  cases document <;> simp [flag]

theorem word64_eq_ok_iff {n : UInt64} : document.word64 = .ok n ↔ document = word n := by
  cases document with
  | integer value =>
      have hn := n.toNat_lt_size
      simp only [word64, word, Document.integer.injEq]
      constructor
      · intro h
        split at h
        · rename_i hrange
          cases h
          rw [UInt64.toNat_ofNat_of_lt' (by omega)]
          omega
        · cases h
      · rintro rfl
        rw [if_pos (by omega), Int.toNat_natCast, UInt64.ofNat_toNat]
  | _ => simp [word64, word]

theorem int64_eq_ok_iff {n : Int64} : document.int64 = .ok n ↔ document = .integer n.toInt := by
  cases document with
  | integer value =>
      simp only [int64, Document.integer.injEq]
      constructor
      · intro h
        split at h
        · rename_i hrange
          rw [Int64.toInt_minValue, Int64.toInt_maxValue] at hrange
          cases h
          rw [Int64.toInt_ofInt_of_le hrange.1 (by omega)]
        · cases h
      · rintro rfl
        rw [if_pos ⟨n.minValue_le_toInt, n.toInt_le⟩, Int64.ofInt_toInt]
  | _ => simp [int64]

theorem optionalString_eq_ok_iff {value : Option String} :
    document.optionalString = .ok value ↔ document = value.elim .null .text := by
  cases document <;> cases value <;> simp [optionalString, string, Except.map]

theorem mapM_string_eq_ok_iff {items : List Document} {values : List String} :
    items.mapM string = .ok values ↔ items = values.map .text := by
  induction items generalizing values with
  | nil => cases values <;> simp [pure_eq_ok_iff]
  | cons item items ih =>
      simp only [List.mapM_cons, bind_eq_ok_iff, pure_eq_ok_iff, string_eq_ok_iff, ih]
      cases values with
      | nil => simp
      | cons value values =>
          simp only [List.map_cons, List.cons.injEq]
          constructor
          · rintro ⟨_, rfl, _, rfl, rfl, rfl⟩
            exact ⟨rfl, rfl⟩
          · rintro ⟨rfl, rfl⟩
            exact ⟨_, rfl, _, rfl, rfl, rfl⟩

theorem strings_eq_ok_iff {values : List String} :
    document.strings = .ok values ↔ document = .sequence (values.map .text) := by
  cases document <;> simp [strings, mapM_string_eq_ok_iff]

end Document

end Settings

open Settings

-- The names that a backend goes by. The second of the shared store is only ever read.
inductive Backend.Named : String → Backend → Prop where
  | memory : Named "memory" .memory
  | sharedStore : Named "shared-store" .sharedStore
  | redis : Named "redis" .sharedStore

theorem Backend.ofName?_eq_some_iff {name : String} {backend : Backend} :
    ofName? name = some backend ↔ Named name backend := by
  constructor
  · intro h
    rw [ofName?.eq_def] at h
    split at h
    · cases h
      exact .memory
    · cases h
      exact .sharedStore
    · cases h
      exact .redis
    · cases h
  · rintro (_ | _ | _)
    · rfl
    · rfl
    · rfl

-- A name stands for itself, or for a table in which nothing stands under it.
inductive Backend.Spelled (tolerance : Tolerance) : Document → Backend → Prop where
  | name {name : String} {backend : Backend} (h : Named name backend) :
      Spelled tolerance (.text name) backend
  | alone {name : String} {payload : Document} {backend : Backend} (h : Named name backend)
      (hvoid : tolerance.isVoid payload) : Spelled tolerance (.record [(name, payload)]) backend

theorem Backend.Spelled.eq_sharedStore_of_redis {tolerance : Tolerance} {backend : Backend}
    (h : Spelled tolerance (.text "redis") backend) : backend = .sharedStore := by
  cases h with
  | name hnamed => exact (Option.some.inj (ofName?_eq_some_iff.mpr hnamed)).symm

theorem Backend.elim_ofName?_eq_ok_iff {name : String} {backend : Backend} :
    (ofName? name).elim (.error .wrongKind) .ok = (.ok backend : Decoded Backend) ↔
      Named name backend := by
  rw [← ofName?_eq_some_iff]
  cases ofName? name <;> simp

theorem Backend.decode_eq_ok_iff {tolerance : Tolerance} {document : Document}
    {backend : Backend} :
    decode tolerance document = .ok backend ↔ Spelled tolerance document backend := by
  constructor
  · intro h
    rw [decode.eq_def] at h
    split at h
    · exact .name (elim_ofName?_eq_ok_iff.mp h)
    · split at h
      · rename_i hvoid
        exact .alone (elim_ofName?_eq_ok_iff.mp h) hvoid
      · cases h
    · cases h
  · rintro (hname | ⟨hname, hvoid⟩)
    · exact elim_ofName?_eq_ok_iff.mpr hname
    · rw [decode, if_pos hvoid]
      exact elim_ofName?_eq_ok_iff.mpr hname

theorem Backend.named_name (backend : Backend) : Named backend.name backend := by
  cases backend with
  | memory => exact .memory
  | sharedStore => exact .sharedStore

namespace Settings

-- How the values of a setting are spelled: the documents that stand for a value, the reading of
-- one, and the one that is written for a value. The last also survives being shown as JSON.
structure Spelling (α : Type) where
  Spells : Tolerance → Document → α → Prop
  decode : Tolerance → Document → Decoded α
  encode : α → Document
  decode_eq_ok_iff {tolerance : Tolerance} {document : Document} {value : α} :
    decode tolerance document = .ok value ↔ Spells tolerance document value
  spells_encode (tolerance : Tolerance) (value : α) : Spells tolerance (encode value) value
  reread_encode (value : α) : Document.ofJson (encode value).toJson = encode value

namespace Spelling

theorem reread_texts (values : List String) :
    Document.ofItems (Document.itemsToJson (values.map .text)) = values.map .text := by
  induction values with
  | nil => rfl
  | cons value values ih =>
      rw [List.map_cons, Document.itemsToJson, Document.ofItems, ih]
      rfl

def text : Spelling String where
  Spells _ document value := document = .text value
  decode _ := Document.string
  encode := .text
  decode_eq_ok_iff := Document.string_eq_ok_iff
  spells_encode _ _ := rfl
  reread_encode _ := rfl

def flag : Spelling Bool where
  Spells _ document value := document = .boolean value
  decode _ := Document.flag
  encode := .boolean
  decode_eq_ok_iff := Document.flag_eq_ok_iff
  spells_encode _ _ := rfl
  reread_encode _ := rfl

def word64 : Spelling UInt64 where
  Spells _ document value := document = .integer value.toNat
  decode _ := Document.word64
  encode := word
  decode_eq_ok_iff := Document.word64_eq_ok_iff
  spells_encode _ _ := rfl
  reread_encode _ := rfl

def int64 : Spelling Int64 where
  Spells _ document value := document = .integer value.toInt
  decode _ := Document.int64
  encode value := .integer value.toInt
  decode_eq_ok_iff := Document.int64_eq_ok_iff
  spells_encode _ _ := rfl
  reread_encode _ := rfl

def optionalText : Spelling (Option String) where
  Spells _ document value := document = value.elim .null .text
  decode _ := Document.optionalString
  encode value := value.elim .null .text
  decode_eq_ok_iff := Document.optionalString_eq_ok_iff
  spells_encode _ _ := rfl
  reread_encode value := by cases value <;> rfl

def texts : Spelling (List String) where
  Spells _ document value := document = .sequence (value.map .text)
  decode _ := Document.strings
  encode value := .sequence (value.map .text)
  decode_eq_ok_iff := Document.strings_eq_ok_iff
  spells_encode _ _ := rfl
  reread_encode value := congrArg Document.sequence (reread_texts value)

def backend : Spelling Backend where
  Spells := Backend.Spelled
  decode := Backend.decode
  encode value := .text value.name
  decode_eq_ok_iff := Backend.decode_eq_ok_iff
  spells_encode _ value := .name value.named_name
  reread_encode _ := rfl

end Spelling

end Settings

end AdmissionControl
