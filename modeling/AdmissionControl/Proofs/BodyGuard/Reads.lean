import AdmissionControl.Proofs.BodyGuard.Observed
import Mathlib.Data.List.Induction

namespace AdmissionControl.BodyGuard

open Http

variable {limit : Nat} {body kept beyond : Body}

theorem byteCount_mono {front : Body} (hfront : front <+: body) :
    byteCount front ≤ byteCount body := by
  obtain ⟨back, rfl⟩ := hfront
  rw [byteCount_append]
  exact Nat.le_add_right _ _

-- The bytes of a body in their order, however they are cut into chunks.
def octets : Body → List UInt8
  | [] => []
  | .chunk bytes :: rest => bytes.data.toList ++ octets rest
  | .failure _ :: rest => octets rest

theorem length_octets (body : Body) : (octets body).length = byteCount body := by
  induction body with
  | nil => rfl
  | cons item rest ih =>
      cases item with
      | chunk bytes =>
          simp only [octets, byteCount, List.length_append, Array.length_toList, ih]
          rfl
      | failure text => exact ih

-- A body in two: what comes before the first chunk with which the bytes are more than the
-- limit, and that chunk with all that follows it.
structure Parted (limit : Nat) (body kept beyond : Body) : Prop where
  whole : body = kept ++ beyond
  within : byteCount kept ≤ limit
  exceeded : ∀ item ∈ beyond.head?, limit < byteCount (kept ++ [item])

theorem exists_parted (limit : Nat) (body : Body) :
    ∃ kept beyond, Parted limit body kept beyond := by
  induction body using List.reverseRecOn with
  | nil => exact ⟨[], [], rfl, Nat.zero_le _, nofun⟩
  | append_singleton front last ih =>
      obtain ⟨kept, beyond, h⟩ := ih
      cases beyond with
      | cons item rest =>
          refine ⟨kept, item :: rest ++ [last], ?_, h.within, h.exceeded⟩
          rw [h.whole, List.append_assoc]
      | nil =>
          have hfront : front = kept := by rw [h.whole, List.append_nil]
          by_cases hlast : byteCount (front ++ [last]) ≤ limit
          · exact ⟨front ++ [last], [], (List.append_nil _).symm, hlast, nofun⟩
          · refine ⟨front, [last], rfl, hfront ▸ h.within, fun item hitem => ?_⟩
            obtain rfl : last = item := by simpa using hitem
            omega

namespace Parted

-- There is no longer part of the body, from its start on, that is within the limit.
theorem longest (h : Parted limit body kept beyond) {front : Body} (hfront : front <+: body)
    (hwithin : byteCount front ≤ limit) : front <+: kept := by
  have hkept : kept <+: body := ⟨beyond, h.whole.symm⟩
  by_cases hlength : front.length ≤ kept.length
  · exact List.prefix_of_prefix_length_le hfront hkept hlength
  · obtain ⟨more, rfl⟩ := List.prefix_of_prefix_length_le hkept hfront (by omega)
    cases more with
    | nil => simp at hlength
    | cons item rest =>
        obtain ⟨back, hback⟩ := hfront
        have hbeyond : beyond = item :: (rest ++ back) := by
          rw [h.whole, List.append_assoc] at hback
          exact (List.append_cancel_left hback).symm
        have hover := h.exceeded item (by simp [hbeyond])
        have hmono : byteCount (kept ++ [item]) ≤ byteCount (kept ++ item :: rest) :=
          byteCount_mono ⟨rest, by simp⟩
        omega

theorem kept_unique {front back : Body} (h : Parted limit body kept beyond)
    (h' : Parted limit body front back) : kept = front := by
  have hkept := h'.longest ⟨beyond, h.whole.symm⟩ h.within
  have hfront := h.longest ⟨back, h'.whole.symm⟩ h'.within
  exact hkept.eq_of_length (Nat.le_antisymm hkept.length_le hfront.length_le)

theorem beyond_eq_nil_iff (h : Parted limit body kept beyond) :
    beyond = [] ↔ byteCount body ≤ limit := by
  cases beyond with
  | nil =>
      have hkept : body = kept := by rw [h.whole, List.append_nil]
      simpa [hkept] using h.within
  | cons item rest =>
      have hover := h.exceeded item rfl
      have hmono : byteCount (kept ++ [item]) ≤ byteCount body :=
        byteCount_mono ⟨rest, by simp [h.whole]⟩
      simp only [List.cons_ne_nil, false_iff]
      omega

-- A failure has no bytes, so the limit is exceeded with a chunk.
theorem exists_chunk {item : BodyItem} {rest : Body}
    (h : Parted limit body kept (item :: rest)) : ∃ bytes, item = .chunk bytes := by
  cases item with
  | chunk bytes => exact ⟨bytes, rfl⟩
  | failure text =>
      have hover := h.exceeded _ rfl
      have hwithin := h.within
      simp only [byteCount_append, byteCount, Nat.add_zero] at hover
      omega

end Parted

-- The count of the first items of a body, as the reader keeps it.
def countOf (body : Body) (items : Nat) : UInt64 := (byteCount (body.take items)).toUInt64

section

variable (hfits : byteCount body < UInt64.size)

include hfits

theorem toNat_countOf (items : Nat) : (countOf body items).toNat = byteCount (body.take items) :=
  Nat.mod_eq_of_lt (Nat.lt_of_le_of_lt (byteCount_mono (List.take_prefix items body)) hfits)

theorem countOf_chunk {items : Nat} {bytes : ByteArray}
    (hitem : body[items]? = some (.chunk bytes)) :
    countOf body items + bytes.size.toUInt64 = countOf body (items + 1) := by
  have hsum : byteCount (body.take (items + 1)) = byteCount (body.take items) + bytes.size := by
    rw [List.take_add_one, hitem, byteCount_append]
    rfl
  have hless := toNat_countOf hfits items
  have hmore := toNat_countOf hfits (items + 1)
  have hsize := UInt64.toNat_lt (countOf body (items + 1))
  apply UInt64.toNat_inj.mp
  rw [toNat_add_size (by simp only [UInt64.size]; omega)]
  omega

omit hfits in
theorem countOf_failure {items : Nat} {text : String}
    (hitem : body[items]? = some (.failure text)) :
    countOf body (items + 1) = countOf body items := by
  rw [countOf, List.take_add_one, hitem, byteCount_append]
  rfl

end

namespace Stream

-- Where the reader of a body in two parts stands after a number of reads. Of the second part
-- it takes the first chunk and nothing else.
def standing (limit : UInt64) (declared : Option UInt64) (kept beyond : Body) (reads : Nat) :
    Stream where
  limit
  declared
  rest := (kept ++ beyond).drop (min reads (kept.length + 1))
  observed := countOf (kept ++ beyond) (min reads (kept.length + 1))
  overflowed := kept.length < reads && !beyond.isEmpty
  finished := kept.length < reads

-- What is written down by then.
def noted (limit : UInt64) (kept beyond : Body) (reads : Nat) : Journal :=
  if kept.length < reads ∧ beyond ≠ [] then
    [.event (.bodyOverflowed limit (countOf (kept ++ beyond) (kept.length + 1)))]
  else []

variable {limit : UInt64} {declared : Option UInt64} {reads : Nat}

theorem standing_zero :
    standing limit declared kept beyond 0 = start limit declared (kept ++ beyond) := by
  simp [standing, start, countOf, byteCount]

section

variable (h : Parted limit.toNat body kept beyond) (hfits : byteCount body < UInt64.size)

include h hfits

theorem read_of_within (hreads : reads < kept.length) :
    (standing limit declared kept beyond reads).read =
      (kept[reads]?, standing limit declared kept beyond (reads + 1), []) := by
  obtain rfl := h.whole
  have hnow : min reads (kept.length + 1) = reads := by omega
  have hnext : min (reads + 1) (kept.length + 1) = reads + 1 := by omega
  have hopen : ¬kept.length < reads := by omega
  have hopen' : ¬kept.length < reads + 1 := by omega
  have hitem : (kept ++ beyond)[reads]? = kept[reads]? := List.getElem?_append_left hreads
  have hrest : (kept ++ beyond).drop reads = kept[reads] :: (kept ++ beyond).drop (reads + 1) := by
    rw [List.drop_eq_getElem_cons (by simp only [List.length_append]; omega),
      List.getElem_append_left hreads]
  rw [List.getElem?_eq_getElem hreads] at hitem ⊢
  cases hkind : kept[reads] with
  | failure text =>
      rw [hkind] at hitem hrest
      simp [read, standing, hnow, hnext, hopen, hopen', hrest, countOf_failure hitem]
  | chunk bytes =>
      rw [hkind] at hitem hrest
      have hcount := countOf_chunk hfits hitem
      have hlimit : ¬limit < countOf (kept ++ beyond) (reads + 1) := by
        have htake : (kept ++ beyond).take (reads + 1) <+: kept := by
          rw [List.take_append_of_le_length (by omega)]
          exact List.take_prefix _ _
        have hmono := byteCount_mono htake
        have hwithin := h.within
        rw [UInt64.lt_iff_toNat_lt, toNat_countOf hfits]
        omega
      simp [read, standing, hnow, hnext, hopen, hopen', hrest, hcount, hlimit]

-- Here the body ends for its reader, with or without something left of it.
theorem read_of_end :
    (standing limit declared kept beyond kept.length).read =
      (none, standing limit declared kept beyond (kept.length + 1),
        noted limit kept beyond (kept.length + 1)) := by
  obtain rfl := h.whole
  cases beyond with
  | nil => simp [read, standing, noted, countOf, List.take_of_length_le]
  | cons item rest =>
      obtain ⟨bytes, rfl⟩ := h.exists_chunk
      have hitem : (kept ++ .chunk bytes :: rest)[kept.length]? = some (.chunk bytes) := by simp
      have hcount := countOf_chunk hfits hitem
      have hover : limit < countOf (kept ++ .chunk bytes :: rest) (kept.length + 1) := by
        have htake : (kept ++ .chunk bytes :: rest).take (kept.length + 1) =
            kept ++ [.chunk bytes] := by
          rw [List.take_length_add_append]
          rfl
        rw [UInt64.lt_iff_toNat_lt, toNat_countOf hfits, htake]
        exact h.exceeded _ rfl
      simp [read, standing, noted, hcount, hover]

omit h hfits in
theorem read_of_past (hreads : kept.length < reads) :
    (standing limit declared kept beyond reads).read =
      (none, standing limit declared kept beyond (reads + 1), []) := by
  have hnow : min reads (kept.length + 1) = kept.length + 1 := by omega
  have hnext : min (reads + 1) (kept.length + 1) = kept.length + 1 := by omega
  have hpast : kept.length < reads + 1 := by omega
  simp only [read, standing, hnow, hnext, hreads, hpast, decide_true, if_true]

end

-- Reads a number of times, whether or not the end has been met.
def readTimes (stream : Stream) : Nat → List (Option BodyItem) × Stream × Journal
  | 0 => ([], stream, [])
  | reads + 1 =>
    let (answers, stream, journal) := stream.readTimes reads
    let (answer, stream, more) := stream.read
    (answers ++ [answer], stream, journal ++ more)

def delivered (answers : List (Option BodyItem)) : Body := answers.filterMap id

theorem delivered_of_reads (kept : Body) (reads rest : Nat) :
    delivered ((kept.take reads).map some ++ List.replicate rest none) = kept.take reads := by
  rw [delivered, List.filterMap_append, List.filterMap_map,
    List.filterMap_replicate_of_none rfl, List.append_nil]
  exact List.filterMap_some

-- Every read of a body answers with its next item as long as that is within the limit, and
-- from there on with the end.
theorem readTimes_start (h : Parted limit.toNat body kept beyond)
    (hfits : byteCount body < UInt64.size) (reads : Nat) :
    (start limit declared body).readTimes reads =
      ((kept.take reads).map some ++ List.replicate (reads - kept.length) none,
        standing limit declared kept beyond reads, noted limit kept beyond reads) := by
  induction reads with
  | zero =>
      rw [h.whole, ← standing_zero]
      simp [readTimes, noted]
  | succ reads ih =>
      simp only [readTimes, ih]
      by_cases hwithin : reads < kept.length
      · have hnone : reads - kept.length = 0 := by omega
        have hnone' : reads + 1 - kept.length = 0 := by omega
        have hopen : ¬kept.length < reads := by omega
        have hopen' : ¬kept.length < reads + 1 := by omega
        have htake : kept.take (reads + 1) = kept.take reads ++ [kept[reads]] := by
          rw [List.take_add_one, List.getElem?_eq_getElem hwithin]
          rfl
        rw [read_of_within h hfits hwithin, List.getElem?_eq_getElem hwithin]
        simp only [noted, hnone, hnone', hopen, hopen', htake, false_and, if_false,
          List.replicate_zero, List.append_nil, List.map_append, List.map_cons, List.map_nil]
      · have hall : (kept.take reads).map some = (kept.take (reads + 1)).map some := by
          rw [List.take_of_length_le (by omega), List.take_of_length_le (by omega)]
        have hmore : List.replicate (reads - kept.length) (none : Option BodyItem) ++ [none] =
            List.replicate (reads + 1 - kept.length) none := by
          rw [← List.replicate_succ', ← Nat.sub_add_comm (by omega)]
        rw [hall, ← hmore, ← List.append_assoc]
        by_cases hend : reads = kept.length
        · subst hend
          rw [read_of_end h hfits]
          simp [noted]
        · have hpast : kept.length < reads := by omega
          rw [read_of_past hpast]
          simp [noted, hpast, Nat.lt_succ_of_lt hpast]

-- What has come of a body in two parts after some reads: its first part item by item, and
-- then the end for good. Once the limit is exceeded nothing more is taken, and the chunk that
-- exceeds it is counted but not handed on.
structure ReadOut (limit : UInt64) (body kept beyond : Body) (reads : Nat)
    (result : List (Option BodyItem) × Stream × Journal) : Prop where
  answers : result.1 = (kept.take reads).map some ++ List.replicate (reads - kept.length) none
  rest : result.2.1.rest = body.drop (min reads (kept.length + 1))
  observed : result.2.1.observed.toNat = byteCount (body.take (min reads (kept.length + 1)))
  overflowed_iff : result.2.1.overflowed = true ↔
    kept.length < reads ∧ ∃ bytes back, beyond = .chunk bytes :: back
  journal : result.2.2 =
    if result.2.1.overflowed then [.event (.bodyOverflowed limit result.2.1.observed)] else []
  within : byteCount (delivered result.1) ≤ limit.toNat

theorem overflowed_standing : (standing limit declared kept beyond reads).overflowed = true ↔
    kept.length < reads ∧ beyond ≠ [] := by
  simp [standing]

theorem readOut_start (h : Parted limit.toNat body kept beyond)
    (hfits : byteCount body < UInt64.size) (reads : Nat) :
    ReadOut limit body kept beyond reads ((start limit declared body).readTimes reads) := by
  rw [readTimes_start h hfits]
  refine ⟨rfl, ?_, ?_, ?_, ?_, ?_⟩
  · rw [h.whole]
    rfl
  · rw [← toNat_countOf hfits, h.whole]
    rfl
  · rw [overflowed_standing]
    refine and_congr_right fun _ => ⟨fun hne => ?_, ?_⟩
    · obtain ⟨item, back, rfl⟩ := List.exists_cons_of_ne_nil hne
      obtain ⟨bytes, rfl⟩ := h.exists_chunk
      exact ⟨bytes, back, rfl⟩
    · rintro ⟨bytes, back, rfl⟩
      exact List.cons_ne_nil _ _
  · simp only [noted, overflowed_standing]
    split
    · next hover =>
        have hnow : min reads (kept.length + 1) = kept.length + 1 := by omega
        simp only [standing, hnow]
    · rfl
  · rw [delivered_of_reads]
    exact Nat.le_trans (byteCount_mono (List.take_prefix _ _)) h.within

-- Read to its end, a body overflows if all its bytes are more than the limit, and else it is
-- handed on as it is.
theorem read_to_end (limit : UInt64) (declared : Option UInt64)
    (hfits : byteCount body < UInt64.size) (hreads : body.length < reads) :
    let result := (start limit declared body).readTimes reads
    (result.2.1.overflowed = true ↔ limit.toNat < byteCount body) ∧
    (result.2.1.overflowed = false → delivered result.1 = body) := by
  intro result
  obtain ⟨kept, beyond, h⟩ := exists_parted limit.toNat body
  have hpast : kept.length < reads := by
    have hlength := congrArg List.length h.whole
    rw [List.length_append] at hlength
    omega
  have hover : result.2.1.overflowed = true ↔ beyond ≠ [] := by
    rw [show result = _ from readTimes_start h hfits reads, overflowed_standing]
    exact and_iff_right hpast
  refine ⟨?_, fun hopen => ?_⟩
  · rw [hover, ne_eq, h.beyond_eq_nil_iff]
    omega
  · have hnil : beyond = [] := by
      by_contra hne
      rw [hover.mpr hne] at hopen
      cases hopen
    rw [show result = _ from readTimes_start h hfits reads, delivered_of_reads,
      List.take_of_length_le (Nat.le_of_lt hpast), h.whole, hnil, List.append_nil]

-- A guarded body hands on the longest part of itself that is within the limit, with its
-- failures, and nothing else, however often it is read. So how its bytes are cut into chunks
-- makes no difference to whether it overflows, or to the bytes that are handed on if not.
theorem reads_longest_within_limit (limit : UInt64) (declared : Option UInt64) (body : Body)
    (hfits : byteCount body < UInt64.size) :
    (∃ kept beyond, Parted limit.toNat body kept beyond ∧
      (∀ front, front <+: body → byteCount front ≤ limit.toNat → front <+: kept) ∧
      ∀ reads, ReadOut limit body kept beyond reads
        ((start limit declared body).readTimes reads)) ∧
    ∀ (other : Body) (otherDeclared : Option UInt64) (reads otherReads : Nat),
      octets other = octets body → body.length < reads → other.length < otherReads →
      let one := (start limit declared body).readTimes reads
      let two := (start limit otherDeclared other).readTimes otherReads
      (one.2.1.overflowed = true ∧ two.2.1.overflowed = true) ∨
      (one.2.1.overflowed = false ∧ two.2.1.overflowed = false ∧
        octets (delivered one.1) = octets (delivered two.1)) := by
  constructor
  · obtain ⟨kept, beyond, h⟩ := exists_parted limit.toNat body
    exact ⟨kept, beyond, h, fun _ hfront => h.longest hfront, readOut_start h hfits⟩
  · intro other otherDeclared reads otherReads hoctets hreads hotherReads one two
    have hcount : byteCount other = byteCount body := by
      rw [← length_octets, ← length_octets, hoctets]
    obtain ⟨hover, hwhole⟩ := read_to_end limit declared hfits hreads
    obtain ⟨hotherOver, hotherWhole⟩ :=
      read_to_end limit otherDeclared (hcount ▸ hfits) hotherReads
    rw [hcount, ← hover] at hotherOver
    cases hone : one.2.1.overflowed with
    | true => exact Or.inl ⟨rfl, hotherOver.mpr hone⟩
    | false =>
        have htwo : two.2.1.overflowed = false := by
          rw [← Bool.not_eq_true]
          exact fun htrue => by simp [one, hotherOver.mp htrue] at hone
        refine Or.inr ⟨rfl, htwo, ?_⟩
        rw [hwhole hone, hotherWhole htwo, hoctets]

-- Five bytes where four are allowed, with a failure and an empty chunk among them.
theorem reads_longest_within_limit_of_five_bytes :
    let one : Body :=
      [.chunk ⟨#[1, 2]⟩, .failure "reset", .chunk ⟨#[]⟩, .chunk ⟨#[3, 4]⟩, .chunk ⟨#[5]⟩]
    let two : Body := [.chunk ⟨#[1]⟩, .chunk ⟨#[2, 3, 4, 5]⟩]
    byteCount one < UInt64.size ∧ octets two = octets one ∧
    ((start 4 none one).readTimes 6).2.1.overflowed = true ∧
    ((start 4 none two).readTimes 3).2.1.overflowed = true ∧
    delivered ((start 4 none one).readTimes 6).1 = one.take 4 := by
  intro one two
  have hfits : byteCount one < UInt64.size := by decide
  have hsame : octets two = octets one := by decide
  obtain ⟨⟨kept, beyond, hparted, -, hreadOut⟩, hcut⟩ :=
    reads_longest_within_limit 4 none one hfits
  have hparts : Parted 4 one (one.take 4) (one.drop 4) := by
    refine ⟨rfl, by decide, fun item hitem => ?_⟩
    obtain rfl : .chunk ⟨#[5]⟩ = item := by simpa [one] using hitem
    decide
  obtain ⟨hover, hover'⟩ | ⟨hopen, -⟩ :=
    hcut two none 6 3 hsame (by decide) (by decide)
  · refine ⟨hfits, hsame, hover, hover', ?_⟩
    rw [(hreadOut 6).answers, delivered_of_reads, hparted.kept_unique hparts]
    rfl
  · exact absurd hopen (by decide)

end Stream

end AdmissionControl.BodyGuard
