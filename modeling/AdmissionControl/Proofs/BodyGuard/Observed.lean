import AdmissionControl.BodyGuard.Stream

namespace AdmissionControl.BodyGuard

open Http

-- Failures have no bytes.
def byteCount : Body → Nat
  | [] => 0
  | .chunk bytes :: rest => bytes.size + byteCount rest
  | .failure _ :: rest => byteCount rest

@[simp] theorem byteCount_append (front back : Body) :
    byteCount (front ++ back) = byteCount front + byteCount back := by
  induction front with
  | nil => simp [byteCount]
  | cons item front ih =>
      cases item with
      | chunk bytes => simp only [List.cons_append, byteCount, ih, Nat.add_assoc]
      | failure text => simp only [List.cons_append, byteCount, ih]

-- No chunk that comes while the bytes are within the limit carries their count past 64
-- bits.
def Countable (limit : UInt64) (body : Body) : Prop :=
  ∀ front bytes back, body = front ++ .chunk bytes :: back → byteCount front ≤ limit.toNat →
    byteCount front + bytes.size < UInt64.size

-- It is so for a limit and chunks that have 63 bits each, whatever they sum up to.
theorem countable_of_small {limit : UInt64} {body : Body}
    (hlimit : limit.toNat < UInt64.size / 2)
    (hchunks : ∀ bytes, .chunk bytes ∈ body → bytes.size < UInt64.size / 2) :
    Countable limit body := by
  intro front bytes back hbody hfront
  have hsize := hchunks bytes (by simp [hbody])
  simp only [UInt64.size] at *
  omega

theorem Countable.left {limit : UInt64} {front back : Body}
    (hcountable : Countable limit (front ++ back)) : Countable limit front := by
  rintro first bytes rest rfl hfirst
  exact hcountable first bytes (rest ++ back) (by simp) hfirst

theorem toNat_add_size {observed : UInt64} {bytes : ByteArray}
    (hfits : observed.toNat + bytes.size < UInt64.size) :
    (observed + bytes.size.toUInt64).toNat = observed.toNat + bytes.size := by
  have hsize : bytes.size.toUInt64.toNat = bytes.size :=
    Nat.mod_eq_of_lt (Nat.lt_of_le_of_lt (Nat.le_add_left _ _) hfits)
  rw [UInt64.toNat_add, hsize, Nat.mod_eq_of_lt hfits]

-- What is known of a guarded body from which some items have been taken.
structure Stream.Tallied (limit : UInt64) (declared : Option UInt64) (body taken : Body)
    (stream : Stream) : Prop where
  limit_eq : stream.limit = limit
  declared_eq : stream.declared = declared
  body_eq : body = taken ++ stream.rest
  finished_of_overflowed : stream.overflowed = true → stream.finished = true
  observed_eq : Countable limit taken → stream.observed.toNat = byteCount taken
  overflowed_iff : Countable limit taken →
    (stream.overflowed = true ↔ limit.toNat < byteCount taken)

namespace Stream

variable {limit : UInt64} {declared : Option UInt64} {body taken : Body} {stream : Stream}

theorem tallied_start (limit : UInt64) (declared : Option UInt64) (body : Body) :
    Tallied limit declared body [] (start limit declared body) where
  limit_eq := rfl
  declared_eq := rfl
  body_eq := rfl
  finished_of_overflowed := by simp [start]
  observed_eq _ := rfl
  overflowed_iff _ := by simp [start, byteCount]

-- A body that has not ended is within its limit, and the next chunk is counted in full.
theorem Tallied.count_chunk {bytes : ByteArray} (hstream : Tallied limit declared body taken stream)
    (hopen : stream.overflowed = false) (hcountable : Countable limit (taken ++ [.chunk bytes])) :
    (stream.observed + bytes.size.toUInt64).toNat = byteCount (taken ++ [.chunk bytes]) := by
  have hwithin : byteCount taken ≤ limit.toNat := by
    have hnot := mt (hstream.overflowed_iff hcountable.left).mpr (by simp [hopen])
    omega
  have hobserved := hstream.observed_eq hcountable.left
  have hfits := hcountable taken bytes [] rfl hwithin
  rw [toNat_add_size (by rwa [hobserved]), hobserved]
  simp [byteCount]

-- Nothing is taken from a body that has overflowed, so the count does not go on from a
-- number above the limit.
theorem Tallied.read (hstream : Tallied limit declared body taken stream) :
    ∃ more, Tallied limit declared body (taken ++ more) stream.read.2.1 := by
  by_cases hend : stream.finished = true
  · exact ⟨[], by simpa [Stream.read, hend] using hstream⟩
  have hopen : stream.overflowed = false := by
    rw [← Bool.not_eq_true]
    exact fun hover => hend (hstream.finished_of_overflowed hover)
  cases hrest : stream.rest with
  | nil =>
      refine ⟨[], ?_⟩
      simp only [Stream.read, hend, hrest, Bool.false_eq_true, if_false, List.append_nil]
      exact ⟨hstream.limit_eq, hstream.declared_eq, by rw [hstream.body_eq, hrest],
        fun _ => rfl, hstream.observed_eq, hstream.overflowed_iff⟩
  | cons item rest =>
      have hsplit : body = (taken ++ [item]) ++ rest := by simp [hstream.body_eq, hrest]
      refine ⟨[item], ?_⟩
      cases item with
      | failure text =>
          have hcount : byteCount (taken ++ [.failure text]) = byteCount taken := by
            simp [byteCount]
          simp only [Stream.read, hend, hrest, Bool.false_eq_true, if_false]
          refine ⟨hstream.limit_eq, hstream.declared_eq, hsplit, by simp [hopen], fun h => ?_,
            fun h => ?_⟩
          · rw [hcount]
            exact hstream.observed_eq h.left
          · rw [hcount]
            exact hstream.overflowed_iff h.left
      | chunk bytes =>
          have htotal (h : Countable limit (taken ++ [.chunk bytes])) :=
            hstream.count_chunk hopen h
          by_cases hover : stream.limit < stream.observed + bytes.size.toUInt64
          · simp only [Stream.read, hend, hrest, Bool.false_eq_true, if_false, hover, if_true]
            refine ⟨hstream.limit_eq, hstream.declared_eq, hsplit, fun _ => rfl, htotal,
              fun h => ?_⟩
            rw [UInt64.lt_iff_toNat_lt, htotal h, hstream.limit_eq] at hover
            simpa using hover
          · simp only [Stream.read, hend, hrest, Bool.false_eq_true, if_false, hover]
            refine ⟨hstream.limit_eq, hstream.declared_eq, hsplit, by simp [hopen], htotal,
              fun h => ?_⟩
            rw [UInt64.lt_iff_toNat_lt, htotal h, hstream.limit_eq] at hover
            simpa [hopen] using hover

end Stream

namespace Source

variable {limit : UInt64} {declared : Option UInt64} {body : Body} {source : Source}

-- What has been taken of a body, going by what is still to come.
def taken (body : Body) (source : Source) : Body := body.take (body.length - source.pending)

def Tallied (limit : UInt64) (declared : Option UInt64) (body : Body) (source : Source) : Prop :=
  ∃ stream taken, source = .guarded stream ∧ stream.Tallied limit declared body taken

theorem Tallied.read (hsource : Tallied limit declared body source) :
    Tallied limit declared body source.read.2.1 := by
  obtain ⟨stream, taken, rfl, hstream⟩ := hsource
  obtain ⟨more, hread⟩ := hstream.read
  exact ⟨stream.read.2.1, taken ++ more, rfl, hread⟩

-- The refusal of a body is decided by the bytes that have been taken of it.
theorem Tallied.rejection?_eq (hsource : Tallied limit declared body source)
    (hcountable : Countable limit (source.taken body)) :
    ∃ observed : UInt64, observed.toNat = byteCount (source.taken body) ∧
      source.rejection? =
        if limit.toNat < byteCount (source.taken body) then
          some (.payloadTooLarge limit declared (some observed))
        else none := by
  obtain ⟨stream, taken, rfl, hstream⟩ := hsource
  have htaken : Source.taken body (.guarded stream) = taken := by
    simp [Source.taken, pending, hstream.body_eq]
  rw [htaken] at hcountable ⊢
  refine ⟨stream.observed, hstream.observed_eq hcountable, ?_⟩
  simp only [rejection?, Stream.rejection?, hstream.overflowed_iff hcountable, hstream.limit_eq,
    hstream.declared_eq]

theorem collect_of_end {held : ByteArray} {next : Source} {journal : Journal}
    (hread : source.read = (none, next, journal)) :
    source.collect held = (.ok held, next, journal) := by
  rw [collect]
  split <;> simp_all

theorem collect_of_failure {held : ByteArray} {next : Source} {text : String} {journal : Journal}
    (hread : source.read = (some (.failure text), next, journal)) :
    source.collect held = (.error text, next, journal) := by
  rw [collect]
  split <;> simp_all

theorem collect_of_chunk {held bytes : ByteArray} {next : Source} {journal : Journal}
    (hread : source.read = (some (.chunk bytes), next, journal)) :
    source.collect held =
      ((next.collect (held ++ bytes)).1, (next.collect (held ++ bytes)).2.1,
        journal ++ (next.collect (held ++ bytes)).2.2) := by
  rw [collect]
  split <;> simp_all

-- What every single read keeps is kept by reading to the end.
theorem collect_keeps {P : Source → Prop} (hkeeps : ∀ source, P source → P source.read.2.1)
    (source : Source) (held : ByteArray) (h : P source) : P (source.collect held).2.1 := by
  have hnext := hkeeps source h
  induction source, held using Source.collect.induct with
  | case1 source held next journal hread =>
      rw [hread] at hnext
      rwa [collect_of_end hread]
  | case2 source held text next journal hread =>
      rw [hread] at hnext
      rwa [collect_of_failure hread]
  | case3 source held bytes next journal hread hlt result last later hcollect ih =>
      rw [hread] at hnext
      rw [collect_of_chunk hread]
      exact ih hnext (hkeeps next hnext)

end Source

end AdmissionControl.BodyGuard
