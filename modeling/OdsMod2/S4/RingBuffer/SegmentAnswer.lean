import OdsMod2.S4.RingBuffer.Segment

/-!
# What `segmentFor` answers

Three scans of the queue make up the answer: is any frame within the window, where does decoding start,
and what is the last frame not later than the window. Whether there is an answer depends on two
existence questions about the live frames (`SegmentOutcome`): no frame within the window, no keyframe
up to its end. The answer itself is a stretch of the queue (`SegmentAnswer`), cut where the last two
scans say.

That the stretch is not empty or inverted rests on the order of the queue: a keyframe that is not later
than the window cannot stand behind the last frame that is not later than the window.
-/

namespace Ods.S4

namespace RingBuffer

/-- The live frames around the answer, and where it is cut. -/
structure SegmentAnswer (frames : List FrameDescriptor) (window : CaptureWindow)
    (segment : BufferSegment) (before after : List FrameDescriptor) (first : FrameDescriptor)
    (rest : List FrameDescriptor) : Prop where
  requested : segment.requestedWindow = window
  frames_eq : frames = before ++ segment.frames ++ after
  /-- The answer is never empty, and begins with a keyframe. -/
  segment_eq : segment.frames = first :: rest
  keyframe : first.isKeyframe = true
  /-- The latest keyframe at or before the start of the window; the earliest one of all if there is
  none. -/
  start : (first.captureTsNs ≤ window.startNs ∧
      ∀ key ∈ rest ++ after, key.isKeyframe = true → window.startNs < key.captureTsNs) ∨
    (∀ key ∈ frames, key.isKeyframe = true → window.startNs < key.captureTsNs) ∧
      ∀ frame ∈ before, frame.isKeyframe = false
  /-- The last frame of the answer is the last one not later than the window. -/
  within : ∀ frame ∈ segment.frames, frame.captureTsNs ≤ window.endNs
  beyond : ∀ frame ∈ after, window.endNs < frame.captureTsNs
  truncatedAtEnd : ∃ newest, frames.getLast? = some newest ∧
    (segment.isTruncatedAtEnd = true ↔ newest.captureTsNs < window.endNs)

/-- Which of the three outcomes it is. -/
structure SegmentOutcome (frames : List FrameDescriptor) (window : CaptureWindow)
    (result : Except DomainError BufferSegment) : Prop where
  absent : (∃ error, result = .error error ∧ error.kind = .windowNotInBuffer) ↔
    ¬ ∃ frame ∈ frames, window.startNs ≤ frame.captureTsNs ∧ frame.captureTsNs ≤ window.endNs
  undecodable : (∃ error, result = .error error ∧ error.kind = .noDecodableStart) ↔
    (∃ frame ∈ frames, window.startNs ≤ frame.captureTsNs ∧ frame.captureTsNs ≤ window.endNs) ∧
      ¬ ∃ key ∈ frames, key.isKeyframe = true ∧ key.captureTsNs ≤ window.endNs
  answered :
    (∃ frame ∈ frames, window.startNs ≤ frame.captureTsNs ∧ frame.captureTsNs ≤ window.endNs) →
      (∃ key ∈ frames, key.isKeyframe = true ∧ key.captureTsNs ≤ window.endNs) →
        ∃ segment before after first rest, result = .ok segment ∧
          SegmentAnswer frames window segment before after first rest

/-! ### The scans -/

section Scans

variable {frames : List FrameDescriptor} {window : CaptureWindow}

theorem rejectIfWindowAbsent_ok (h : rejectIfWindowAbsent frames window = .ok ()) :
    ∃ frame ∈ frames, window.startNs ≤ frame.captureTsNs ∧ frame.captureTsNs ≤ window.endNs := by
  unfold rejectIfWindowAbsent at h
  split at h
  · next hany =>
    obtain ⟨frame, hmem, hwithin⟩ := List.any_eq_true.mp hany
    exact ⟨frame, hmem, contains_iff.mp hwithin⟩
  · cases h

theorem rejectIfWindowAbsent_error {error : DomainError}
    (h : rejectIfWindowAbsent frames window = .error error) :
    error.kind = .windowNotInBuffer ∧
      ¬ ∃ frame ∈ frames, window.startNs ≤ frame.captureTsNs ∧
        frame.captureTsNs ≤ window.endNs := by
  unfold rejectIfWindowAbsent at h
  split at h
  · cases h
  · next hnone =>
    obtain rfl := Except.error.inj h
    refine ⟨rfl, ?_⟩
    rintro ⟨frame, hmem, hwithin⟩
    exact hnone (List.any_eq_true.mpr ⟨frame, hmem, contains_iff.mpr hwithin⟩)

/-- Neither scan has found a keyframe, so there is none up to the end of the window. -/
theorem decodableStartIndex_error {error : DomainError}
    (h : decodableStartIndex frames window = .error error) :
    error.kind = .noDecodableStart ∧
      ¬ ∃ key ∈ frames, key.isKeyframe = true ∧ key.captureTsNs ≤ window.endNs := by
  unfold decodableStartIndex at h
  split at h
  · cases h
  · next hbefore =>
    split at h
    · cases h
    · next hwithin =>
      obtain rfl := Except.error.inj h
      refine ⟨rfl, ?_⟩
      rintro ⟨key, hmem, hkey, hend⟩
      by_cases hle : key.captureTsNs ≤ window.startNs
      · -- the first scan would have found it
        have hmiss := lastIndexWhere_none hbefore key hmem
        rw [hkey, decide_eq_true hle] at hmiss
        cases hmiss
      · -- the second one would
        have hmiss := List.findIdx?_eq_none_iff.mp hwithin key hmem
        have hwindow := contains_iff.mpr ⟨Int.le_of_lt (Int.not_le.mp hle), hend⟩
        rw [hkey, hwindow] at hmiss
        cases hmiss

end Scans

/-! ### The answer -/

section Answer

variable {frames : List FrameDescriptor} {window : CaptureWindow} {segment : BufferSegment}
  {first : FrameDescriptor}

/-- In a queue that is in order, what `SegmentOf` says of sequence numbers and times cuts a stretch
out of it. -/
theorem SegmentOf.answer {before after : List FrameDescriptor}
    (h : SegmentOf frames window segment first) (hnumbered : Numbered frames)
    (hclock : ClockOrdered frames) (hframes : frames = before ++ segment.frames ++ after)
    (hrequested : segment.requestedWindow = window)
    (hend : segment.isTruncatedAtEnd =
      decide ((frames.getLast?.getD default).captureTsNs < window.endNs)) :
    ∃ rest, SegmentAnswer frames window segment before after first rest := by
  obtain ⟨rest, hsegment⟩ := List.head?_eq_some_iff.mp h.head
  have hfirst : first ∈ segment.frames := by
    rw [hsegment]
    exact List.mem_cons_self
  -- the numbers of the three parts
  rw [Numbered, hframes, List.append_assoc, List.pairwise_append, List.pairwise_append] at hnumbered
  obtain ⟨-, ⟨hinner, -, hafter⟩, hbefore⟩ := hnumbered
  rw [hsegment, List.pairwise_cons] at hinner
  have hlater : ∀ key ∈ rest ++ after, first.sequence < key.sequence := by
    intro key hkey
    rcases List.mem_append.mp hkey with hrest | hrest
    · exact hinner.1 key hrest
    · exact hafter first hfirst key hrest
  have hlive : ∀ key ∈ rest ++ after, key ∈ frames := by
    intro key hkey
    rw [hframes, hsegment, List.append_assoc, List.cons_append]
    exact List.mem_append_right _ (List.mem_cons_of_mem _ hkey)
  refine ⟨rest, hrequested, hframes, hsegment, h.keyframe, ?_, ?_, ?_, ?_⟩
  · rcases h.start with ⟨hstart, hlatest⟩ | ⟨hnone, hearliest⟩
    · refine .inl ⟨hstart, fun key hkey hkeyframe => ?_⟩
      by_contra hle
      exact absurd (hlatest key (hlive key hkey) hkeyframe (Int.not_lt.mp hle))
        (Nat.not_le.mpr (hlater key hkey))
    · refine .inr ⟨hnone, fun frame hframe => ?_⟩
      by_contra hkeyframe
      rw [Bool.not_eq_false] at hkeyframe
      have hmem : frame ∈ frames := by
        rw [hframes, List.append_assoc]
        exact List.mem_append_left _ hframe
      -- a frame in front of the answer is not later than its first one
      have hle : frame.captureTsNs ≤ first.captureTsNs := by
        rw [ClockOrdered, hframes, List.append_assoc, List.pairwise_append] at hclock
        exact hclock.2.2 frame hframe first (List.mem_append_left _ hfirst)
      have hfirstEnd := ((h.mem first).mp hfirst).2.2
      exact absurd (hearliest frame hmem hkeyframe (Int.le_trans hle hfirstEnd))
        (Nat.not_le.mpr (hbefore frame hframe first (List.mem_append_left _ hfirst)))
  · intro frame hframe
    exact ((h.mem frame).mp hframe).2.2
  · intro frame hframe
    by_contra hle
    have hmem := hlive frame (List.mem_append_right _ hframe)
    have hsequence := hlater frame (List.mem_append_right _ hframe)
    -- it would be in the answer, and so in front of itself
    have hinside := (h.mem frame).mpr ⟨hmem, Nat.le_of_lt hsequence, Int.not_lt.mp hle⟩
    exact Nat.lt_irrefl _ (hafter frame hinside frame hframe)
  · obtain ⟨newest, hnewest⟩ := Option.isSome_iff_exists.mp
      (List.getLast?_isSome.mpr (List.ne_nil_of_mem h.live))
    refine ⟨newest, hnewest, ?_⟩
    rw [hend, hnewest, Option.getD_some, decide_eq_true_iff]

end Answer

/-- An error is of one kind only. -/
theorem not_error_of_kind {error : DomainError} {kind : DomainErrorKind} (h : error.kind ≠ kind) :
    ¬ ∃ other, (.error error : Except DomainError BufferSegment) = .error other ∧
      other.kind = kind := by
  rintro ⟨other, herror, hkind⟩
  rw [← Except.error.inj herror] at hkind
  exact h hkind

/-- **Every window has one of the three outcomes**, in every reachable state: the window is not in the
buffer, or it is and has no keyframe to start from, or the answer is the stretch of the queue from that
keyframe to the last frame of the window. -/
theorem segmentFor_outcome (capacity : BufferCapacity) (arrivals : List FrameArrival)
    (window : CaptureWindow) :
    SegmentOutcome (allocateAll capacity arrivals).1.frames window
      ((allocateAll capacity arrivals).1.segmentFor window) := by
  have hnewest := (allocateAll_runInv capacity arrivals).newest
  have hnumbered := hnewest.numbered
  have hclock := hnewest.clock_live
  generalize (allocateAll capacity arrivals).1 = buffer at hnumbered hclock ⊢
  cases hpresent : rejectIfWindowAbsent buffer.frames window with
  | error error =>
    -- no frame within the window
    obtain ⟨hkind, habsent⟩ := rejectIfWindowAbsent_error hpresent
    rw [segmentFor_of_absent hpresent]
    refine ⟨iff_of_true ⟨error, rfl, hkind⟩ habsent, iff_of_false ?_ ?_, ?_⟩
    · exact not_error_of_kind (by rw [hkind]; decide)
    · exact fun h => habsent h.1
    · exact fun h => absurd h habsent
  | ok _ =>
    have hframe := rejectIfWindowAbsent_ok hpresent
    cases hstart : decodableStartIndex buffer.frames window with
    | error error =>
      -- there is one, and decoding cannot start
      obtain ⟨hkind, hnone⟩ := decodableStartIndex_error hstart
      rw [segmentFor_of_undecodable hpresent hstart]
      refine ⟨iff_of_false ?_ (not_not.mpr hframe), iff_of_true ⟨error, rfl, hkind⟩ ⟨hframe, hnone⟩,
        ?_⟩
      · exact not_error_of_kind (by rw [hkind]; decide)
      · exact fun _ h => absurd h hnone
    | ok startIndex =>
      obtain ⟨first, hfirst, hkey, hend, -⟩ := decodableStartIndex_ok hnumbered hstart
      have hlive := List.mem_of_getElem? hfirst
      have hresult := segmentFor_of_start hpresent hstart
      rw [hresult]
      refine ⟨iff_of_false ?_ (not_not.mpr hframe), iff_of_false ?_ ?_, fun _ _ => ?_⟩
      · rintro ⟨error, herror, -⟩
        cases herror
      · rintro ⟨error, herror, -⟩
        cases herror
      · exact fun h => h.2 ⟨first, hlive, hkey, hend⟩
      · obtain ⟨start, hsegment⟩ := segmentFor_ok hnumbered hclock hresult
        obtain ⟨before, after, hframes⟩ := segmentFrom_infix buffer window startIndex
        obtain ⟨rest, hanswer⟩ := hsegment.answer hnumbered hclock hframes.symm rfl rfl
        exact ⟨_, before, after, start, rest, rfl, hanswer⟩

end RingBuffer

end Ods.S4
