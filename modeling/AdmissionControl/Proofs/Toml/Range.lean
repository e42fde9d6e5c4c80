import AdmissionControl.Proofs.Settings.Spelling
import AdmissionControl.Settings.Load
import Mathlib.Algebra.Group.Nat.Defs

namespace AdmissionControl

open Settings

-- Every number of a document, at whatever depth, has 64 bits with a sign.
inductive Settings.Document.Narrow : Document → Prop where
  | null : Narrow .null
  | boolean (value : Bool) : Narrow (.boolean value)
  | integer (value : Int) (hrange : Toml.inRange value = true) : Narrow (.integer value)
  | real : Narrow .real
  | moment : Narrow .moment
  | text (value : String) : Narrow (.text value)
  | sequence (items : List Document) (hitems : ∀ item ∈ items, Narrow item) :
      Narrow (.sequence items)
  | record (fields : List (String × Document)) (hfields : ∀ field ∈ fields, Narrow field.2) :
      Narrow (.record fields)

namespace Toml

-- The same of what a name stands for while a document is read.
inductive Item.Narrow : Item → Prop where
  | value (value : Document) (hvalue : value.Narrow) : Narrow (.value value)
  | table (origin : Origin) (entries : Entries) (hentries : ∀ entry ∈ entries, Narrow entry.2) :
      Narrow (.table origin entries)
  | tables (elements : List Entries)
      (helements : ∀ entries ∈ elements, ∀ entry ∈ entries, Narrow entry.2) :
      Narrow (.tables elements)

def Table.Narrow (table : Table) : Prop := ∀ entry ∈ table.entries, entry.2.Narrow

section Documents

theorem mem_documents {entries : Entries} {field : String × Document}
    (h : field ∈ documents entries) : ∃ entry ∈ entries, field.2 = entry.2.document := by
  induction entries with
  | nil => simp [documents] at h
  | cons entry entries ih =>
      obtain ⟨name, item⟩ := entry
      rw [documents, List.mem_cons] at h
      rcases h with rfl | h
      · exact ⟨(name, item), List.mem_cons_self, rfl⟩
      · obtain ⟨other, hother, heq⟩ := ih h
        exact ⟨other, List.mem_cons_of_mem _ hother, heq⟩

theorem narrow_documents {entries : Entries} (h : ∀ entry ∈ entries, entry.2.document.Narrow) :
    (Document.record (documents entries)).Narrow := by
  refine .record _ fun field hfield => ?_
  obtain ⟨entry, hentry, heq⟩ := mem_documents hfield
  rw [heq]
  exact h entry hentry

theorem mem_records {elements : List Entries} {item : Document} (h : item ∈ records elements) :
    ∃ entries ∈ elements, item = .record (documents entries) := by
  induction elements with
  | nil => simp [records] at h
  | cons entries elements ih =>
      rw [records, List.mem_cons] at h
      rcases h with rfl | h
      · exact ⟨entries, List.mem_cons_self, rfl⟩
      · obtain ⟨other, hother, heq⟩ := ih h
        exact ⟨other, List.mem_cons_of_mem _ hother, heq⟩

theorem Item.Narrow.document {item : Item} (h : item.Narrow) : item.document.Narrow := by
  induction h with
  | value value hvalue => exact hvalue
  | table origin entries _ ih => exact narrow_documents ih
  | tables elements _ ih =>
      refine .sequence _ fun item hitem => ?_
      obtain ⟨entries, hentries, rfl⟩ := mem_records hitem
      exact narrow_documents (ih entries hentries)

theorem Table.Narrow.documents {table : Table} (h : table.Narrow) :
    (Document.record (documents table.entries)).Narrow :=
  (Item.Narrow.table table.origin table.entries h).document

end Documents

namespace Table

variable {name : String} {key path : List String} {item : Item} {value : Document}
variable {table root result : Table} {made : Origin}

theorem narrow_empty (origin : Origin) : Narrow ⟨origin, []⟩ := fun _ hentry => nomatch hentry

theorem Narrow.find? (h : table.Narrow) (hfound : table.find? name = some item) : item.Narrow := by
  obtain ⟨front, back, hentries, -⟩ := List.lookup_eq_some_iff.mp hfound
  exact h (name, item) (by simp [hentries])

-- A table that is found in another, or the last of several.
theorem Narrow.inner {origin : Origin} {entries : Entries} (h : table.Narrow)
    (hfound : table.find? name = some (.table origin entries)) : Narrow ⟨origin, entries⟩ := by
  cases h.find? hfound with
  | table _ _ hentries => exact hentries

theorem Narrow.last {elements : List Entries} {entries : Entries} (h : table.Narrow)
    (hfound : table.find? name = some (.tables elements))
    (hlast : elements.getLast? = some entries) :
    (∀ entries ∈ elements, Narrow ⟨.header, entries⟩) ∧ Narrow ⟨.header, entries⟩ := by
  cases h.find? hfound with
  | tables _ helements => exact ⟨helements, helements entries (List.mem_of_getLast? hlast)⟩

theorem Narrow.put (h : table.Narrow) (hitem : item.Narrow) : (table.put name item).Narrow := by
  intro entry hentry
  rcases List.mem_append.mp hentry with hentry | hentry
  · exact h entry (List.mem_filter.mp hentry).1
  · rw [List.mem_singleton.mp hentry]
    exact hitem

theorem Narrow.erase (h : table.Narrow) : (table.erase name).Narrow :=
  fun entry hentry => h entry (List.mem_filter.mp hentry).1

-- A change far down is a change of every table on the way, each with one item put back.
theorem Narrow.change {f : Table → Option Table} (h : table.Narrow)
    (hf : ∀ {table result : Table}, table.Narrow → f table = some result → result.Narrow)
    (hresult : table.change made f path = some result) : result.Narrow := by
  induction path generalizing table result with
  | nil => exact hf h hresult
  | cons name path ih =>
      rw [Table.change] at hresult
      split at hresult
      · obtain ⟨child, hchild, hput⟩ := Option.bind_eq_some_iff.mp hresult
        obtain rfl := Option.some.inj hput
        exact h.put (.table _ _ (ih (narrow_empty made) hchild))
      · cases hresult
      · rename_i origin entries hfound
        split at hresult
        · cases hresult
        · obtain ⟨child, hchild, hput⟩ := Option.bind_eq_some_iff.mp hresult
          obtain rfl := Option.some.inj hput
          exact h.put (.table _ _ (ih (h.inner hfound) hchild))
      · rename_i elements hfound
        split at hresult
        · cases hresult
        · rename_i entries hlast
          obtain ⟨child, hchild, hput⟩ := Option.bind_eq_some_iff.mp hresult
          obtain rfl := Option.some.inj hput
          obtain ⟨helements, hentries⟩ := h.last hfound hlast
          refine h.put (.tables _ fun others hothers => ?_)
          rcases List.mem_append.mp hothers with hothers | hothers
          · exact helements others (List.dropLast_subset _ hothers)
          · rw [List.mem_singleton.mp hothers]
            exact ih hentries hchild

theorem Narrow.assign (h : table.Narrow) (hvalue : value.Narrow)
    (hresult : table.assign key value = some result) : result.Narrow := by
  obtain ⟨⟨path, name⟩, -, hchange⟩ := Option.bind_eq_some_iff.mp hresult
  refine h.change (fun htarget hset => ?_) hchange
  split at hset
  · cases hset
  · obtain rfl := Option.some.inj hset
    exact htarget.put (.value value hvalue)

theorem Narrow.lookupAt {found : Option Item} (h : root.Narrow)
    (hfound : opened.lookupAt path name root = some found) : ∀ item ∈ found, item.Narrow := by
  induction path generalizing root with
  | nil =>
      obtain rfl := Option.some.inj hfound
      exact fun item hitem => h.find? hitem
  | cons step path ih =>
      rw [opened.lookupAt] at hfound
      split at hfound
      · obtain rfl := Option.some.inj hfound
        exact nofun
      · cases hfound
      · rename_i origin entries htable
        exact ih (h.inner htable) hfound
      · rename_i elements htables
        split at hfound
        · cases hfound
        · rename_i entries hlast
          exact ih (h.last htables hlast).2 hfound

theorem Narrow.opened {rest : Table} (h : root.Narrow)
    (hresult : root.opened key = some (table, rest)) : table.Narrow ∧ rest.Narrow := by
  obtain ⟨⟨path, name⟩, -, hresult⟩ := Option.bind_eq_some_iff.mp hresult
  obtain ⟨held, hheld, hresult⟩ := Option.bind_eq_some_iff.mp hresult
  split at hresult
  · obtain ⟨rfl, rfl⟩ := Prod.mk.inj (Option.some.inj hresult)
    exact ⟨narrow_empty .header, h⟩
  · rename_i entries
    obtain ⟨others, hothers, hresult⟩ := Option.bind_eq_some_iff.mp hresult
    obtain ⟨rfl, rfl⟩ := Prod.mk.inj (Option.some.inj hresult)
    refine ⟨?_, h.change (fun hparent herased => ?_) hothers⟩
    · cases h.lookupAt hheld _ rfl with
      | table _ _ hentries => exact hentries
    · obtain rfl := Option.some.inj herased
      exact hparent.erase
  · cases hresult

theorem Narrow.close (h : root.Narrow) (htable : table.Narrow)
    (hresult : Table.close key table root = some result) : result.Narrow := by
  obtain ⟨⟨path, name⟩, -, hchange⟩ := Option.bind_eq_some_iff.mp hresult
  refine h.change (fun hparent hput => ?_) hchange
  obtain rfl := Option.some.inj hput
  exact hparent.put (.table _ _ htable)

theorem Narrow.append (h : root.Narrow) (htable : table.Narrow)
    (hresult : Table.append key table root = some result) : result.Narrow := by
  obtain ⟨⟨path, name⟩, -, hchange⟩ := Option.bind_eq_some_iff.mp hresult
  refine h.change (fun {parent} _ hparent hadd => ?_) hchange
  split at hadd
  · obtain rfl := Option.some.inj hadd
    refine hparent.put (.tables _ fun entries hentries => ?_)
    rw [List.mem_singleton.mp hentries]
    exact htable
  · rename_i elements hfound
    obtain rfl := Option.some.inj hadd
    cases hparent.find? hfound with
    | tables _ helements =>
        refine hparent.put (.tables _ fun entries hentries => ?_)
        rcases List.mem_append.mp hentries with hentries | hentries
        · exact helements entries hentries
        · rw [List.mem_singleton.mp hentries]
          exact htable
  · cases hadd

end Table

section Readers

variable {cs rest : List Char} {value : Document}

-- A number is refused where it is read if it has more than 64 bits.
theorem narrow_of_inRange {n : Int}
    (h : (if inRange n = true then some (Document.integer n, cs) else none) = some (value, rest)) :
    value.Narrow := by
  split at h
  · rename_i hrange
    obtain ⟨rfl, -⟩ := Prod.mk.inj (Option.some.inj h)
    exact .integer n hrange
  · cases h

theorem narrow_of_based? {base : Nat} (h : based? base cs = some (value, rest)) :
    value.Narrow := by
  obtain ⟨⟨digits, back⟩, -, h⟩ := Option.bind_eq_some_iff.mp h
  obtain ⟨n, -, h⟩ := Option.bind_eq_some_iff.mp h
  exact narrow_of_inRange h

theorem narrow_of_integer? (h : integer? cs = some (value, rest)) : value.Narrow := by
  rw [integer?.eq_def] at h
  split at h
  · exact narrow_of_based? h
  · exact narrow_of_based? h
  · exact narrow_of_based? h
  · obtain ⟨⟨digits, back⟩, -, h⟩ := Option.bind_eq_some_iff.mp h
    obtain ⟨n, -, h⟩ := Option.bind_eq_some_iff.mp h
    exact narrow_of_inRange h

theorem eq_moment_of_moment? (h : moment? cs = some (value, rest)) : value = .moment := by
  rw [moment?] at h
  split at h
  · dsimp only at h
    split at h <;> exact (Prod.mk.inj (Option.some.inj h)).1.symm
  · obtain ⟨_, -, h⟩ := Option.map_eq_some_iff.mp h
    exact (Prod.mk.inj h).1.symm

theorem eq_real_of_real? (h : real? cs = some (value, rest)) : value = .real := by
  rcases hsign : sign cs with ⟨negative, back⟩
  rw [real?, hsign] at h
  obtain ⟨⟨whole, back⟩, -, h⟩ := Option.bind_eq_some_iff.mp h
  dsimp only at h
  split at h
  all_goals
    obtain ⟨⟨fraction, back⟩, -, h⟩ := Option.bind_eq_some_iff.mp h
    obtain ⟨⟨exponent, back⟩, -, h⟩ := Option.bind_eq_some_iff.mp h
    dsimp only at h
    split at h
    · cases h
    · obtain ⟨digits, -, h⟩ := Option.bind_eq_some_iff.mp h
      split at h
      · exact (Prod.mk.inj (Option.some.inj h)).1.symm
      · cases h

theorem eq_real_of_specialReal? (h : specialReal? cs = some (value, rest)) : value = .real := by
  rw [specialReal?] at h
  split at h
  · exact (Prod.mk.inj (Option.some.inj h)).1.symm
  · exact (Prod.mk.inj (Option.some.inj h)).1.symm
  · cases h

theorem eq_of_word? {word : String} {held : Document}
    (h : word? word held cs = some (value, rest)) : value = held := by
  rw [word?] at h
  split at h
  · exact (Prod.mk.inj (Option.some.inj h)).1.symm
  · cases h

theorem narrow_of_scalar? (h : scalar? cs = some (value, rest)) : value.Narrow := by
  rw [scalar?.eq_def] at h
  split at h
  · rw [eq_of_word? h]
    exact .boolean true
  · rw [eq_of_word? h]
    exact .boolean false
  · simp only [Option.orElse_eq_orElse, Option.orElse_eq_or, Option.or_eq_some_iff] at h
    rcases h with h | ⟨-, h | ⟨-, h | ⟨-, h⟩⟩⟩
    · rw [eq_moment_of_moment? h]
      exact .moment
    · rw [eq_real_of_real? h]
      exact .real
    · rw [eq_real_of_specialReal? h]
      exact .real
    · exact narrow_of_integer? h

mutual

theorem narrow_of_value? : ∀ (fuel depth : Nat) (cs rest : List Char) (value : Document),
    value? depth fuel cs = some (value, rest) → value.Narrow
  | 0, _, _, _, _, h => nomatch h
  | fuel + 1, depth, cs, rest, value, h => by
      rw [value?.eq_def] at h
      dsimp only at h
      split at h
      · obtain ⟨⟨text, back⟩, -, h⟩ := Option.map_eq_some_iff.mp h
        rw [← (Prod.mk.inj h).1]
        exact .text text
      · obtain ⟨⟨text, back⟩, -, h⟩ := Option.map_eq_some_iff.mp h
        rw [← (Prod.mk.inj h).1]
        exact .text text
      · split at h
        · cases h
        · obtain ⟨⟨items, back⟩, hitems, h⟩ := Option.map_eq_some_iff.mp h
          rw [← (Prod.mk.inj h).1]
          exact .sequence items (narrow_of_items? fuel _ _ _ _ hitems)
      · split at h
        · cases h
        · split at h
          · rw [← (Prod.mk.inj (Option.some.inj h)).1]
            exact .record [] nofun
          · obtain ⟨⟨table, back⟩, htable, h⟩ := Option.map_eq_some_iff.mp h
            rw [← (Prod.mk.inj h).1]
            exact (narrow_of_pairs? fuel _ _ _ _ _ (Table.narrow_empty _) htable).documents
      · exact narrow_of_scalar? h

theorem narrow_of_items? : ∀ (fuel depth : Nat) (cs rest : List Char) (items : List Document),
    items? depth fuel cs = some (items, rest) → ∀ item ∈ items, item.Narrow
  | 0, _, _, _, _, h => nomatch h
  | fuel + 1, depth, cs, rest, items, h => by
      rw [items?.eq_def] at h
      dsimp only at h
      split at h
      · rw [← (Prod.mk.inj (Option.some.inj h)).1]
        exact nofun
      · obtain ⟨⟨item, back⟩, hitem, h⟩ := Option.bind_eq_some_iff.mp h
        have hfirst := narrow_of_value? fuel _ _ _ _ hitem
        dsimp only at h
        split at h
        · obtain ⟨⟨others, back⟩, hothers, h⟩ := Option.bind_eq_some_iff.mp h
          rw [← (Prod.mk.inj (Option.some.inj h)).1]
          exact List.forall_mem_cons.mpr ⟨hfirst, narrow_of_items? fuel _ _ _ _ hothers⟩
        · rw [← (Prod.mk.inj (Option.some.inj h)).1]
          exact List.forall_mem_singleton.mpr hfirst
        · cases h

theorem narrow_of_pairs? : ∀ (fuel depth : Nat) (cs rest : List Char) (table result : Table),
    table.Narrow → pairs? depth fuel cs table = some (result, rest) → result.Narrow
  | 0, _, _, _, _, _, _, h => nomatch h
  | fuel + 1, depth, cs, rest, table, result, htable, h => by
      rw [pairs?.eq_def] at h
      obtain ⟨⟨key, back⟩, -, h⟩ := Option.bind_eq_some_iff.mp h
      dsimp only at h
      split at h
      · obtain ⟨⟨value, back⟩, hvalue, h⟩ := Option.bind_eq_some_iff.mp h
        obtain ⟨assigned, hassigned, h⟩ := Option.bind_eq_some_iff.mp h
        have hnext := htable.assign (narrow_of_value? fuel _ _ _ _ hvalue) hassigned
        dsimp only at h
        split at h
        · exact narrow_of_pairs? fuel _ _ _ _ _ hnext h
        · rw [← (Prod.mk.inj (Option.some.inj h)).1]
          exact hnext
        · cases h
      · cases h

end

structure Progress.Narrow (progress : Progress) : Prop where
  root : progress.root.Narrow
  current : progress.current.Narrow

variable {progress next : Progress}

theorem Progress.Narrow.closed {table : Table} (h : progress.Narrow)
    (hclosed : progress.closed = some table) : table.Narrow := by
  rw [Progress.closed] at hclosed
  split at hclosed
  · obtain rfl := Option.some.inj hclosed
    exact h.current
  · exact h.root.close h.current hclosed
  · exact h.root.append h.current hclosed

theorem narrow_of_header? (h : progress.Narrow) (hread : header? cs progress = some (next, rest)) :
    next.Narrow := by
  rw [header?.eq_def] at hread
  split at hread
  · obtain ⟨⟨key, back⟩, -, hread⟩ := Option.bind_eq_some_iff.mp hread
    dsimp only at hread
    split at hread
    · obtain ⟨opened, hopened, hread⟩ := Option.bind_eq_some_iff.mp hread
      obtain ⟨back, -, hread⟩ := Option.bind_eq_some_iff.mp hread
      obtain ⟨root, hroot, hopened⟩ := Option.bind_eq_some_iff.mp hopened
      obtain ⟨_, -, hopened⟩ := Option.bind_eq_some_iff.mp hopened
      rw [← (Prod.mk.inj (Option.some.inj hread)).1, ← Option.some.inj hopened]
      exact ⟨h.closed hroot, Table.narrow_empty _⟩
    · cases hread
  · obtain ⟨⟨key, back⟩, -, hread⟩ := Option.bind_eq_some_iff.mp hread
    dsimp only at hread
    split at hread
    · obtain ⟨opened, hopened, hread⟩ := Option.bind_eq_some_iff.mp hread
      obtain ⟨back, -, hread⟩ := Option.bind_eq_some_iff.mp hread
      obtain ⟨root, hroot, hopened⟩ := Option.bind_eq_some_iff.mp hopened
      obtain ⟨⟨current, others⟩, htables, hopened⟩ := Option.bind_eq_some_iff.mp hopened
      obtain ⟨hcurrent, hothers⟩ := (h.closed hroot).opened htables
      rw [← (Prod.mk.inj (Option.some.inj hread)).1, ← Option.some.inj hopened]
      exact ⟨hothers, hcurrent⟩
    · cases hread

theorem narrow_of_pair? (h : progress.Narrow) (hread : pair? cs progress = some (next, rest)) :
    next.Narrow := by
  obtain ⟨⟨key, back⟩, -, hread⟩ := Option.bind_eq_some_iff.mp hread
  dsimp only at hread
  split at hread
  · obtain ⟨⟨value, back⟩, hvalue, hread⟩ := Option.bind_eq_some_iff.mp hread
    obtain ⟨assigned, hassigned, hread⟩ := Option.bind_eq_some_iff.mp hread
    obtain ⟨back, -, hread⟩ := Option.bind_eq_some_iff.mp hread
    obtain ⟨current, hcurrent, hassigned⟩ := Option.bind_eq_some_iff.mp hassigned
    rw [← (Prod.mk.inj (Option.some.inj hread)).1, ← Option.some.inj hassigned]
    exact ⟨h.root, h.current.assign (narrow_of_value? _ _ _ _ _ hvalue) hcurrent⟩
  · cases hread

-- Whatever its lines are, what has been read of a document has no wider number.
theorem narrow_of_lines? {fuel : Nat} (h : progress.Narrow)
    (hread : lines? fuel cs progress = some next) : next.Narrow := by
  induction fuel generalizing cs progress with
  | zero =>
      rw [lines?] at hread
      split at hread
      · obtain rfl := Option.some.inj hread
        exact h
      · cases hread
  | succ fuel ih =>
      rw [lines?] at hread
      split at hread
      · obtain rfl := Option.some.inj hread
        exact h
      · obtain ⟨⟨opened, back⟩, hopened, hread⟩ := Option.bind_eq_some_iff.mp hread
        exact ih (narrow_of_header? h hopened) hread
      · obtain ⟨back, -, hread⟩ := Option.bind_eq_some_iff.mp hread
        exact ih h hread
      · split at hread
        · exact ih h hread
        · obtain ⟨⟨assigned, back⟩, hassigned, hread⟩ := Option.bind_eq_some_iff.mp hread
          exact ih (narrow_of_pair? h hassigned) hread

theorem narrow_of_parse? {text : String} {document : Document} (h : parse? text = some document) :
    document.Narrow := by
  obtain ⟨progress, hlines, h⟩ := Option.bind_eq_some_iff.mp h
  obtain ⟨table, htable, h⟩ := Option.bind_eq_some_iff.mp h
  have hstart : Progress.start.Narrow := ⟨Table.narrow_empty _, Table.narrow_empty _⟩
  rw [← Option.some.inj h]
  exact ((narrow_of_lines? hstart hlines).closed htable).documents

end Readers

end Toml

namespace Settings

section Limit

variable {tolerance : Tolerance} {document : Document} {fields : List (String × Document)}

theorem narrow_of_fields {names : List String} (h : document.Narrow)
    (hfields : document.fields tolerance names = .ok fields) :
    ∀ field ∈ fields, field.2.Narrow := by
  cases h with
  | record held hheld =>
      cases hfields
      exact hheld
  | moment =>
      cases hfields
      exact nofun
  | sequence items hitems =>
      rw [Document.fields] at hfields
      split at hfields
      · cases hfields
      · cases hfields
        exact fun field hfield => hitems field.2 (List.of_mem_zip hfield).2
  | _ => cases hfields

theorem toNat_lt_of_word64 {n : UInt64} (h : document.Narrow) (hn : document.word64 = .ok n) :
    n.toNat < 2 ^ 63 := by
  rw [Document.word64_eq_ok_iff.mp hn] at h
  cases h with
  | integer value hrange =>
      have hlargest : (n.toNat : Int) ≤ 2 ^ 63 - 1 := by
        simp only [Toml.inRange, Bool.and_eq_true, decide_eq_true_eq] at hrange
        exact hrange.2
      omega

theorem narrow_of_field {α : Type} {name : String} {decode : Document → Decoded α} {base value : α}
    (h : ∀ field ∈ fields, field.2.Narrow) (hvalue : field name decode base fields = .ok value) :
    value = base ∨ ∃ document, document.Narrow ∧ decode document = .ok value := by
  rw [field] at hvalue
  split at hvalue
  · rename_i document hfound
    obtain ⟨front, back, hfields, -⟩ := List.lookup_eq_some_iff.mp hfound
    exact Or.inr ⟨document, h (name, document) (by simp [hfields]), hvalue⟩
  · exact Or.inl (Except.ok.inj hvalue).symm

-- A text has no larger limit for a body, and the limit that goes without saying is small.
theorem maxBodyBytes_lt_of_parse {text : String} {settings : Settings}
    (h : Settings.parse text = .ok settings) :
    settings.security.maxBodyBytes.toNat < 2 ^ 63 := by
  have hdefault : ({} : SecuritySettings).maxBodyBytes.toNat < 2 ^ 63 := by decide
  rw [Settings.parse] at h
  split at h
  · cases h
  · rename_i document hparsed
    split at h
    · cases h
    · rename_i decoded hdecoded
      split at h
      · cases h
        obtain ⟨tables, htables, -, -, -, hsecurity, -, -⟩ :=
          Settings.decode_eq_ok_iff.mp hdecoded
        have hnarrow := narrow_of_fields (Toml.narrow_of_parse? hparsed) htables
        rcases narrow_of_field hnarrow hsecurity with heq | ⟨table, htable, hsecurity⟩
        · rw [heq]
          exact hdefault
        · obtain ⟨fields, hfields, -, hlimit, -⟩ := SecuritySettings.decode_eq_ok_iff.mp hsecurity
          rcases narrow_of_field (narrow_of_fields htable hfields) hlimit with heq | ⟨n, hn, hlimit⟩
          · rw [heq]
            exact hdefault
          · exact toNat_lt_of_word64 hn hlimit
      · cases h

end Limit

end Settings

end AdmissionControl
