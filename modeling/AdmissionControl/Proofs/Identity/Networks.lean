import AdmissionControl.Identity.TrustedProxies
import AdmissionControl.Proofs.Net.Blocks
import AdmissionControl.Proofs.Text.Trimmed
import Mathlib.Data.List.Basic

namespace AdmissionControl.Identity

open Net Text

-- The entry names the addresses that share so many bits with a base.
def Lists (entry : String) (base : Address) (length : Nat) : Prop :=
  ∃ core, Core entry core ∧ Notes core.toList base length

-- The entry is not blank, and what it has between the blanks names no addresses.
structure Unreadable (entry text : String) : Prop where
  core : Core entry text
  unknown : ∀ base length, ¬Notes text.toList base length

-- This is the first entry that is not understood.
def Faults (entries : List String) (text : String) : Prop :=
  ∃ front entry back, entries = front ++ entry :: back ∧ Unreadable entry text ∧
    ∀ earlier ∈ front, ∀ other, ¬Unreadable earlier other

-- Each network of the others is listed too, though maybe with another base in it.
def Covers (entries others : List String) : Prop :=
  ∀ other ∈ others, ∀ base length, Lists other base length →
    ∃ entry ∈ entries, ∃ start, Lists entry start length ∧ Under start length base

variable {entry text : String} {entries others : List String} {base address : Address}
variable {length : Nat} {networks : List Network} {trusted : TrustedProxies}

theorem Lists.not_unreadable (h : Lists entry base length) : ¬Unreadable entry text := by
  obtain ⟨core, hcore, hnotes⟩ := h
  intro hunreadable
  obtain rfl := hcore.unique hunreadable.core
  exact hunreadable.unknown base length hnotes

-- An entry is blank, or it lists a network, or it is not understood.
theorem entry_cases (entry : String) :
    trim entry = "" ∨ (∃ base length, Lists entry base length) ∨ Unreadable entry (trim entry) := by
  by_cases hblank : trim entry = ""
  · exact Or.inl hblank
  · have hcore := core_trim hblank
    by_cases hlists : ∃ base length, Notes (trim entry).toList base length
    · obtain ⟨base, length, hnotes⟩ := hlists
      exact Or.inr (Or.inl ⟨base, length, trim entry, hcore, hnotes⟩)
    · exact Or.inr (Or.inr ⟨hcore, fun base length hnotes => hlists ⟨base, length, hnotes⟩⟩)

theorem not_core_of_blank (hblank : trim entry = "") : ¬Core entry text :=
  fun hcore => hcore.nonempty (hcore.trim_eq.symm.trans hblank)

theorem Lists.unique {other : Address} {bits : Nat} (h : Lists entry base length)
    (h' : Lists entry other bits) : base = other ∧ length = bits := by
  obtain ⟨core, hcore, hnotes⟩ := h
  obtain ⟨same, hsame, hnotes'⟩ := h'
  obtain rfl := hcore.unique hsame
  have hread := parse?_eq_some_iff.mpr ⟨base, length, hnotes, rfl⟩
  rw [parse?_eq_some_iff.mpr ⟨other, bits, hnotes', rfl⟩] at hread
  exact ofBase_injective (Option.some.inj hread).symm

theorem lists_of_read (text : String) (hcore : nonBlank? entry = some text)
    (hread : Network.parse? text = some (Network.ofBase base length)) :
    Lists entry base length := by
  obtain ⟨other, bits, hnotes, hsame⟩ := parse?_eq_some_iff.mp hread
  obtain ⟨rfl, rfl⟩ := ofBase_injective hsame
  exact ⟨text, nonBlank?_eq_some_iff.mp hcore, hnotes⟩

theorem unreadable_iff :
    Unreadable entry text ↔ Core entry text ∧ Network.parse? text = none := by
  constructor
  · rintro ⟨hcore, hunknown⟩
    refine ⟨hcore, Option.eq_none_iff_forall_ne_some.mpr fun network hnetwork => ?_⟩
    obtain ⟨base, length, hnotes, -⟩ := parse?_eq_some_iff.mp hnetwork
    exact hunknown base length hnotes
  · rintro ⟨hcore, hread⟩
    refine ⟨hcore, fun base length hnotes => ?_⟩
    rw [parse?_eq_some_iff.mpr ⟨base, length, hnotes, rfl⟩] at hread
    cases hread

section Faults

theorem not_faults_nil : ¬Faults [] text := by
  rintro ⟨front, entry, back, hnil, -⟩
  simp at hnil

theorem faults_cons_of_unreadable (h : Unreadable entry text) {other : String} :
    Faults (entry :: entries) other ↔ other = text := by
  constructor
  · rintro ⟨front, faulty, back, hentries, hfaulty, hfront⟩
    cases front with
    | nil =>
        obtain ⟨rfl, -⟩ := List.cons.inj hentries
        exact hfaulty.core.unique h.core
    | cons first front =>
        obtain ⟨rfl, -⟩ := List.cons.inj hentries
        exact absurd h (hfront entry List.mem_cons_self text)
  · rintro rfl
    exact ⟨[], entry, entries, rfl, h, nofun⟩

theorem faults_cons_of_readable (h : ∀ text, ¬Unreadable entry text) :
    Faults (entry :: entries) text ↔ Faults entries text := by
  constructor
  · rintro ⟨front, faulty, back, hentries, hfaulty, hfront⟩
    cases front with
    | nil =>
        obtain ⟨rfl, -⟩ := List.cons.inj hentries
        exact absurd hfaulty (h text)
    | cons first front =>
        obtain ⟨rfl, rfl⟩ := List.cons.inj hentries
        exact ⟨front, faulty, back, rfl, hfaulty, (List.forall_mem_cons.mp hfront).2⟩
  · rintro ⟨front, faulty, back, rfl, hfaulty, hfront⟩
    exact ⟨entry :: front, faulty, back, rfl, hfaulty, List.forall_mem_cons.mpr ⟨h, hfront⟩⟩

theorem exists_faults_iff :
    (∃ text, Faults entries text) ↔ ∃ entry ∈ entries, ∃ text, Unreadable entry text := by
  induction entries with
  | nil => simp [not_faults_nil]
  | cons entry entries ih =>
      by_cases h : ∃ text, Unreadable entry text
      · obtain ⟨text, htext⟩ := h
        have hfaults : Faults (entry :: entries) text := (faults_cons_of_unreadable htext).mpr rfl
        exact iff_of_true ⟨text, hfaults⟩ ⟨entry, List.mem_cons_self, text, htext⟩
      · have hreadable := not_exists.mp h
        simp only [faults_cons_of_readable hreadable, ih, List.exists_mem_cons_iff, h, false_or]

end Faults

namespace TrustedProxies

theorem parseEntries_of_blank (hblank : trim entry = "") (entries : List String) :
    parseEntries (entry :: entries) = parseEntries entries := by
  rw [parseEntries, hblank]
  rfl

theorem parseEntries_of_lists (h : Lists entry base length) (entries : List String) :
    parseEntries (entry :: entries) =
      (parseEntries entries).map (Network.ofBase base length :: ·) := by
  obtain ⟨core, hcore, hnotes⟩ := h
  have hread := parse?_eq_some_iff.mpr ⟨base, length, hnotes, rfl⟩
  rw [parseEntries, hcore.trim_eq, if_neg (mt String.isEmpty_iff.mp hcore.nonempty), hread]
  cases parseEntries entries <;> rfl

theorem parseEntries_of_unreadable (h : Unreadable entry text) (entries : List String) :
    parseEntries (entry :: entries) = .error ⟨text⟩ := by
  obtain ⟨hcore, hread⟩ := unreadable_iff.mp h
  rw [parseEntries, hcore.trim_eq, if_neg (mt String.isEmpty_iff.mp hcore.nonempty), hread]

theorem parseEntries_eq_error_iff :
    parseEntries entries = .error ⟨text⟩ ↔ Faults entries text := by
  induction entries with
  | nil => exact iff_of_false nofun not_faults_nil
  | cons entry entries ih =>
      rcases entry_cases entry with hblank | ⟨base, length, hlists⟩ | hunreadable
      · rw [parseEntries_of_blank hblank, ih,
          faults_cons_of_readable fun _ h => not_core_of_blank hblank h.core]
      · rw [parseEntries_of_lists hlists, faults_cons_of_readable fun _ => hlists.not_unreadable,
          ← ih]
        cases parseEntries entries <;> simp [Except.map]
      · rw [parseEntries_of_unreadable hunreadable, faults_cons_of_unreadable hunreadable]
        simp [eq_comm]

-- The networks that are kept are those that the entries list.
theorem mem_parseEntries_iff (h : parseEntries entries = .ok networks) {network : Network} :
    network ∈ networks ↔
      ∃ entry ∈ entries, ∃ base length, Lists entry base length ∧
        Network.ofBase base length = network := by
  induction entries generalizing networks with
  | nil =>
      cases h
      simp
  | cons entry entries ih =>
      rw [List.exists_mem_cons_iff]
      rcases entry_cases entry with hblank | ⟨base, length, hlists⟩ | hunreadable
      · rw [parseEntries_of_blank hblank] at h
        rw [ih h, or_iff_right]
        rintro ⟨base, length, ⟨core, hcore, -⟩, -⟩
        exact not_core_of_blank hblank hcore
      · rw [parseEntries_of_lists hlists] at h
        cases hrest : parseEntries entries with
        | error bad =>
            rw [hrest] at h
            cases h
        | ok others =>
            rw [hrest] at h
            cases h
            rw [List.mem_cons, ih hrest]
            refine or_congr_left ⟨?_, ?_⟩
            · rintro rfl
              exact ⟨base, length, hlists, rfl⟩
            · rintro ⟨other, bits, hother, rfl⟩
              obtain ⟨rfl, rfl⟩ := hother.unique hlists
              rfl
      · rw [parseEntries_of_unreadable hunreadable] at h
        cases h

theorem parse_eq_error_iff : parse entries = .error ⟨text⟩ ↔ Faults entries text := by
  rw [← parseEntries_eq_error_iff, parse]
  cases parseEntries entries <;> simp [Except.map]

theorem contains_iff_of_parse (h : parse entries = .ok trusted) :
    trusted.contains address = true ↔
      ∃ entry ∈ entries, ∃ base length, Lists entry base length ∧ Under base length address := by
  have hentries : parseEntries entries = .ok trusted.networks := by
    rw [parse] at h
    cases hparse : parseEntries entries with
    | error bad =>
        rw [hparse] at h
        cases h
    | ok networks =>
        rw [hparse] at h
        cases h
        rfl
  rw [contains, List.any_eq_true]
  constructor
  · rintro ⟨network, hnetwork, hcontains⟩
    obtain ⟨entry, hentry, base, length, hlists, rfl⟩ := (mem_parseEntries_iff hentries).mp hnetwork
    obtain ⟨core, hcore, hnotes⟩ := hlists
    exact ⟨entry, hentry, base, length, ⟨core, hcore, hnotes⟩,
      (contains_ofBase_iff hnotes.length_le).mp hcontains⟩
  · rintro ⟨entry, hentry, base, length, hlists, hunder⟩
    obtain ⟨core, hcore, hnotes⟩ := hlists
    refine ⟨Network.ofBase base length, (mem_parseEntries_iff hentries).mpr ?_,
      (contains_ofBase_iff hnotes.length_le).mpr hunder⟩
    exact ⟨entry, hentry, base, length, ⟨core, hcore, hnotes⟩, rfl⟩

-- Lists of the same networks trust the same addresses.
theorem contains_of_covers {more : TrustedProxies} (h : parse entries = .ok trusted)
    (hmore : parse others = .ok more) (hcovers : Covers entries others)
    (htrusts : more.contains address = true) : trusted.contains address = true := by
  obtain ⟨other, hother, base, length, hlists, hunder⟩ := (contains_iff_of_parse hmore).mp htrusts
  obtain ⟨entry, hentry, start, hstart, hbase⟩ := hcovers other hother base length hlists
  exact (contains_iff_of_parse h).mpr ⟨entry, hentry, start, length, hstart, hbase.trans hunder⟩

theorem exists_alone_of_lists (h : Lists entry base length) :
    ∃ alone, parse [entry] = .ok alone ∧
      ∀ address, alone.contains address = true ↔ Under base length address := by
  obtain ⟨core, hcore, hnotes⟩ := id h
  refine ⟨⟨[Network.ofBase base length]⟩, ?_, fun address => ?_⟩
  · rw [parse, parseEntries_of_lists h]
    rfl
  · rw [contains, List.any_cons, List.any_nil, Bool.or_false]
    exact contains_ofBase_iff hnotes.length_le

end TrustedProxies

-- The networks are those that the entries list, and each reaches as far as the bits that count.
-- It is only these bits, and not how often, in which order and among which blanks they are listed,
-- that decide whom to trust. The first entry that names no network is what is complained of.
theorem trusts_iff_first_bits_shared (entries : List String) :
    (∀ text, TrustedProxies.parse entries = .error ⟨text⟩ ↔ Faults entries text) ∧
    ((∃ bad, TrustedProxies.parse entries = .error bad) ↔
      ∃ entry ∈ entries, ∃ text, Unreadable entry text) ∧
    (∀ trusted, TrustedProxies.parse entries = .ok trusted →
      (∀ address, trusted.contains address = true ↔
        ∃ entry ∈ entries, ∃ base length, Lists entry base length ∧ Under base length address) ∧
      ∀ others more, TrustedProxies.parse others = .ok more → Covers entries others →
        Covers others entries → ∀ address, more.contains address = trusted.contains address) ∧
    ∀ entry base length, Lists entry base length → ∃ alone,
      TrustedProxies.parse [entry] = .ok alone ∧
      (length = 0 → ∀ address, alone.contains address = true ↔ address.width = base.width) ∧
      ∀ bits, alone.contains (.v4 bits) = true → alone.contains (.mapped bits) = false := by
  refine ⟨fun text => TrustedProxies.parse_eq_error_iff, ?_, fun trusted h => ⟨fun address =>
    TrustedProxies.contains_iff_of_parse h, fun others more hmore hcovers hcovered address => ?_⟩,
    fun entry base length hlists => ?_⟩
  · rw [← exists_faults_iff]
    constructor
    · rintro ⟨bad, hbad⟩
      exact ⟨bad.entry, TrustedProxies.parse_eq_error_iff.mp hbad⟩
    · rintro ⟨text, hfaults⟩
      exact ⟨⟨text⟩, TrustedProxies.parse_eq_error_iff.mpr hfaults⟩
  · rw [Bool.eq_iff_iff]
    constructor
    · exact TrustedProxies.contains_of_covers h hmore hcovers
    · exact TrustedProxies.contains_of_covers hmore h hcovered
  · obtain ⟨alone, halone, hunder⟩ := TrustedProxies.exists_alone_of_lists hlists
    refine ⟨alone, halone, fun hzero address => ?_, fun bits hbits => ?_⟩
    · rw [hunder, hzero]
      exact under_zero_iff
    · apply Bool.eq_false_iff.mpr
      intro hmapped
      have hfamily := ((hunder _).mp hbits).family.trans ((hunder _).mp hmapped).family.symm
      cases hfamily

theorem trusts_iff_first_bits_shared_of_office :
    let entries := ["10.0.0.7/8", " "]
    let others := ["10.9.8.7/8", "10.9.8.7/8"]
    ∃ trusted more, TrustedProxies.parse entries = .ok trusted ∧
      TrustedProxies.parse others = .ok more ∧
      trusted.contains (.v4 0x0ac80001) = true ∧
      (∀ address, more.contains address = trusted.contains address) ∧
      ∃ alone, TrustedProxies.parse ["0.0.0.0/0"] = .ok alone ∧
        alone.contains (.v4 0x0ac80001) = true ∧ alone.contains (.mapped 0x0ac80001) = false := by
  intro entries others
  have hoffice : Lists "10.0.0.7/8" (.v4 0x0a000007) 8 := lists_of_read "10.0.0.7/8" (by decide) rfl
  have hmoved : Lists "10.9.8.7/8" (.v4 0x0a090807) 8 := lists_of_read "10.9.8.7/8" (by decide) rfl
  have hworld : Lists "0.0.0.0/0" (.v4 0) 0 := lists_of_read "0.0.0.0/0" (by decide) rfl
  have hbase : Under (.v4 0x0a000007) 8 (.v4 0x0a090807) := ⟨rfl, by decide⟩
  have hcovers : Covers entries others := by
    intro other hother base length hlists
    obtain rfl : other = "10.9.8.7/8" := by simpa [others] using hother
    obtain ⟨rfl, rfl⟩ := hlists.unique hmoved
    exact ⟨_, List.mem_cons_self, _, hoffice, hbase⟩
  have hcovered : Covers others entries := by
    intro other hother base length hlists
    obtain rfl | rfl : other = "10.0.0.7/8" ∨ other = " " := by simpa [entries] using hother
    · obtain ⟨rfl, rfl⟩ := hlists.unique hoffice
      exact ⟨_, List.mem_cons_self, _, hmoved, hbase.symm⟩
    · obtain ⟨core, hcore, -⟩ := hlists
      exact absurd hcore (not_core_of_blank (by decide))
  have hparse : TrustedProxies.parse entries = .ok ⟨[.v4 0x0a000007 8]⟩ := rfl
  have hparsed : TrustedProxies.parse others = .ok ⟨[.v4 0x0a090807 8, .v4 0x0a090807 8]⟩ := rfl
  obtain ⟨-, -, htrusts, hlisted⟩ := trusts_iff_first_bits_shared entries
  obtain ⟨hexact, hsame⟩ := htrusts _ hparse
  obtain ⟨alone, halone, hzero, hmapped⟩ := hlisted _ _ _ hworld
  have hguest : alone.contains (.v4 0x0ac80001) = true := (hzero rfl _).mpr rfl
  refine ⟨_, _, hparse, hparsed, (hexact _).mpr ?_, hsame _ _ hparsed hcovers hcovered,
    alone, halone, hguest, hmapped _ hguest⟩
  exact ⟨_, List.mem_cons_self, _, _, hoffice, rfl, by decide⟩

end AdmissionControl.Identity
