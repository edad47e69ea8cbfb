import OdsMod2.S4.RingBuffer.Allocate

/-!
# The live frames are the newest of the current session run

A *session run* is a maximal run of accepted frames of one session; `sessionRun` reads the
current one off the accepted frames alone, without looking at the buffer. Frames leave the queue
by overlap, by the discard of a lap's leftovers and by a session switch, and calls are refused
for their size and for their clock; none of these breaks the order. In every reachable state
(`newestOfRun`) the live frames are a non-empty suffix of the session run, with consecutive
sequence numbers that end at the last one issued, and the clock of the *whole* run is
non-decreasing, evicted frames included.

The last point is the subtle one: the check compares a new frame with the newest *live* frame
only. It covers the run because an accepted call always leaves its own frame in the queue.
-/

namespace Ods.S4

namespace RingBuffer

/-! ### Session runs -/

/-- The run goes on while the session stays the same, and starts over when it changes. -/
def extendRun (run : List FrameDescriptor) (frame : FrameDescriptor) : List FrameDescriptor :=
  match run.getLast? with
  | none => [frame]
  | some last => if last.sessionId = frame.sessionId then run ++ [frame] else [frame]

/-- The newest accepted frames that share the session of the last one. -/
def sessionRun (accepted : List FrameDescriptor) : List FrameDescriptor :=
  accepted.foldl extendRun []

theorem sessionRun_concat (accepted : List FrameDescriptor) (frame : FrameDescriptor) :
    sessionRun (accepted ++ [frame]) = extendRun (sessionRun accepted) frame := by
  unfold sessionRun
  rw [List.foldl_append, List.foldl_cons, List.foldl_nil]

/-- A frame of the run's session extends the run. -/
theorem extendRun_same {run : List FrameDescriptor} {frame : FrameDescriptor}
    (h : ∀ f ∈ run, f.sessionId = frame.sessionId) : extendRun run frame = run ++ [frame] := by
  unfold extendRun
  cases hlast : run.getLast? with
  | none =>
    rw [List.getLast?_eq_none_iff] at hlast
    rw [hlast]
    rfl
  | some last => exact if_pos (h last (List.mem_of_getLast? hlast))

/-- A frame of another session starts a new run. -/
theorem extendRun_other {run : List FrameDescriptor} {frame : FrameDescriptor}
    (h : ∀ f ∈ run, f.sessionId ≠ frame.sessionId) : extendRun run frame = [frame] := by
  unfold extendRun
  cases hlast : run.getLast? with
  | none => rfl
  | some last => exact if_neg (h last (List.mem_of_getLast? hlast))

theorem extendRun_suffix (run : List FrameDescriptor) (frame : FrameDescriptor) :
    extendRun run frame <:+ run ++ [frame] := by
  unfold extendRun
  cases run.getLast? with
  | none => exact List.suffix_append _ _
  | some last =>
    show (if _ then _ else _) <:+ _
    split
    · exact List.suffix_rfl
    · exact List.suffix_append _ _

theorem sessionRun_suffix (accepted : List FrameDescriptor) : sessionRun accepted <:+ accepted := by
  -- frames are accepted at the end of the list, so the induction is from there
  induction accepted using List.reverseRecOn with
  | nil => exact List.suffix_rfl
  | append_singleton accepted frame ih =>
    rw [sessionRun_concat]
    obtain ⟨t, ht⟩ := ih
    refine (extendRun_suffix _ _).trans ⟨t, ?_⟩
    rw [← List.append_assoc, ht]

/-! ### The run invariant -/

/-- The frames are in capture order. -/
def ClockOrdered (frames : List FrameDescriptor) : Prop :=
  frames.Pairwise (fun f g => f.captureTsNs ≤ g.captureTsNs)

/-- The buffer against the frames accepted so far. -/
structure RunInv (buffer : RingBuffer) (accepted : List FrameDescriptor) : Prop where
  sessionOpen : buffer.SessionOpen
  suffix : buffer.frames <:+ sessionRun accepted
  nonempty : accepted ≠ [] → buffer.frames ≠ []
  hasSession : accepted ≠ [] → buffer.hasSession = true
  run_session : ∀ frame ∈ sessionRun accepted, frame.sessionId = buffer.sessionId
  run_clock : ClockOrdered (sessionRun accepted)
  issued : accepted.map FrameDescriptor.sequence = List.range buffer.nextSequence

theorem RunInv.new (capacity : BufferCapacity) : RunInv (RingBuffer.new capacity) [] where
  sessionOpen := fun _ => rfl
  suffix := List.suffix_rfl
  nonempty := fun h => absurd rfl h
  hasSession := fun h => absurd rfl h
  run_session := fun _ h => by cases h
  run_clock := List.Pairwise.nil
  issued := rfl

/-- A clock-ordered list extended by a frame not older than its last one stays ordered. -/
theorem ClockOrdered.concat {frames : List FrameDescriptor} {frame : FrameDescriptor}
    (h : ClockOrdered frames)
    (hlast : ∀ last, frames.getLast? = some last → last.captureTsNs ≤ frame.captureTsNs) :
    ClockOrdered (frames ++ [frame]) := by
  refine List.pairwise_append.mpr ⟨h, List.pairwise_singleton _ _, fun f hf g hg => ?_⟩
  rw [List.mem_singleton] at hg
  subst hg
  rcases List.eq_nil_or_concat' frames with rfl | ⟨init, last, rfl⟩
  · cases hf
  · have hle := hlast last List.getLast?_concat
    rcases List.mem_append.mp hf with hinit | hf
    · -- the last frame stands between an earlier one and the new one
      calc f.captureTsNs ≤ last.captureTsNs :=
            (List.pairwise_append.mp h).2.2 f hinit last List.mem_cons_self
        _ ≤ g.captureTsNs := hle
    · rw [List.mem_singleton] at hf
      rw [hf]
      exact hle

/-- The queue the session check leaves, with the run it belongs to: the old ones when the session
goes on, nothing when another one takes over. -/
structure Continues (buffer : RingBuffer) (accepted run : List FrameDescriptor) (sid : String) :
    Prop where
  suffix : (buffer.opened sid).frames <:+ run
  nonempty : run ≠ [] → (buffer.opened sid).frames ≠ []
  session : ∀ frame ∈ run, frame.sessionId = sid
  clock : ClockOrdered run
  cases : (run = sessionRun accepted ∧ (buffer.opened sid).frames = buffer.frames ∧
      (buffer.opened sid).writeOffset = buffer.writeOffset) ∨
    (run = [] ∧ (buffer.opened sid).frames = [] ∧ (buffer.opened sid).writeOffset = 0)

/-- An accepted call appends its frame to the run the session check continues. -/
theorem RunInv.extend {buffer after : RingBuffer} {accepted : List FrameDescriptor}
    {arrival : FrameArrival} {allocation : Allocation} (h : RunInv buffer accepted)
    (hacc : Accepted buffer arrival allocation after) :
    ∃ run, sessionRun (accepted ++ [allocation.descriptor]) = run ++ [allocation.descriptor] ∧
      Continues buffer accepted run arrival.sessionId := by
  have hsid : allocation.descriptor.sessionId = arrival.sessionId := by
    rw [hacc.descriptor_eq]
  have hne : sessionRun accepted ≠ [] → accepted ≠ [] := by
    rintro hrun rfl
    exact hrun rfl
  rcases opened_cases buffer arrival.sessionId with ⟨hf, hw, -, -, hsame⟩ | ⟨hf, hw, -, -, -, hdiff⟩
  · -- the session goes on, or it is the first one
    have hrun : ∀ frame ∈ sessionRun accepted, frame.sessionId = arrival.sessionId := by
      intro frame hmem
      rw [h.run_session frame hmem]
      exact hsame (h.hasSession (hne (List.ne_nil_of_mem hmem)))
    refine ⟨sessionRun accepted, ?_, hf ▸ h.suffix, fun hr => hf ▸ h.nonempty (hne hr), hrun,
      h.run_clock, Or.inl ⟨rfl, hf, hw⟩⟩
    rw [sessionRun_concat, extendRun_same]
    intro f hmem
    rw [hrun f hmem, hsid]
  · -- another session takes over
    refine ⟨[], ?_, by rw [hf], fun hr => absurd rfl hr, fun _ hmem => (by cases hmem),
      List.Pairwise.nil, Or.inr ⟨rfl, hf, hw⟩⟩
    rw [sessionRun_concat, extendRun_other, List.nil_append]
    intro f hmem
    rw [h.run_session f hmem, hsid]
    exact hdiff

theorem RunInv.sessionRun_ne_nil {buffer : RingBuffer} {accepted : List FrameDescriptor}
    (h : RunInv buffer accepted) (hne : accepted ≠ []) : sessionRun accepted ≠ [] := by
  intro hrun
  have hsuffix := h.suffix
  rw [hrun, List.suffix_nil] at hsuffix
  exact h.nonempty hne hsuffix

/-- The flag of the allocation tells whether the run starts over. -/
theorem RunInv.sessionRun_accepted {buffer after : RingBuffer} {accepted : List FrameDescriptor}
    {arrival : FrameArrival} {allocation : Allocation} (h : RunInv buffer accepted)
    (hacc : Accepted buffer arrival allocation after) :
    sessionRun (accepted ++ [allocation.descriptor]) =
      (if allocation.sessionRestarted then [] else sessionRun accepted) ++
        [allocation.descriptor] := by
  have hsid : allocation.descriptor.sessionId = arrival.sessionId := by
    rw [hacc.descriptor_eq]
  rw [sessionRun_concat, hacc.restarted_eq]
  rcases opened_cases buffer arrival.sessionId with
    ⟨-, -, -, hrestarted, hsame⟩ | ⟨-, -, -, hrestarted, -, hdiff⟩
  · rw [hrestarted, if_neg Bool.false_ne_true, extendRun_same]
    intro frame hframe
    have hne : accepted ≠ [] := by
      rintro rfl
      cases hframe
    rw [h.run_session frame hframe, hsid]
    exact hsame (h.hasSession hne)
  · rw [hrestarted, if_pos rfl, extendRun_other, List.nil_append]
    intro frame hframe
    rw [h.run_session frame hframe, hsid]
    exact hdiff

/-- Every accepted call keeps the run invariant. -/
theorem RunInv.accepted {buffer after : RingBuffer} {accepted : List FrameDescriptor}
    {arrival : FrameArrival} {allocation : Allocation} (h : RunInv buffer accepted)
    (hacc : Accepted buffer arrival allocation after) :
    RunInv after (accepted ++ [allocation.descriptor]) := by
  obtain ⟨run, hrun, hcont⟩ := h.extend hacc
  obtain ⟨kept, hkept, hframes⟩ := hacc.frames_eq
  have hts : allocation.descriptor.captureTsNs = arrival.captureTsNs := by
    rw [hacc.descriptor_eq]
  refine ⟨hacc.sessionOpen, ?_, fun _ => ?_, fun _ => hacc.hasSession_eq, ?_, ?_, ?_⟩
  · -- what survives of the queue ends the run, and the new frame ends both
    obtain ⟨t, ht⟩ := hkept.trans hcont.suffix
    exact ⟨t, by rw [hframes, hrun, ← ht, List.append_assoc]⟩
  · rw [hframes]
    exact List.append_ne_nil_of_right_ne_nil _ (List.cons_ne_nil _ _)
  · intro frame hmem
    rw [hacc.sessionId_eq]
    rw [hrun] at hmem
    rcases List.mem_append.mp hmem with hmem | hmem
    · exact hcont.session frame hmem
    · rw [List.mem_singleton] at hmem
      rw [hmem, hacc.descriptor_eq]
  · rw [hrun]
    refine hcont.clock.concat (fun last hlast => ?_)
    -- the newest frame of the run is still live, so the check of the call was made on it
    have hopen := hcont.nonempty (fun hnil => by rw [hnil] at hlast; cases hlast)
    obtain ⟨t, ht⟩ := hcont.suffix
    rw [← ht, List.getLast?_append_of_ne_nil _ hopen] at hlast
    rw [hts]
    exact hacc.not_backwards last hlast
  · -- the new frame takes the next number
    rw [List.map_append, h.issued, hacc.nextSequence_eq, List.range_succ]
    congr 1
    rw [List.map_singleton, hacc.descriptor_eq]

/-- The run invariant holds after every run of calls. -/
theorem allocateAll_runInv (capacity : BufferCapacity) (arrivals : List FrameArrival) :
    RunInv (allocateAll capacity arrivals).1 (allocateAll capacity arrivals).2 :=
  allocateAll_induction RunInv (fun _ _ h => h.sessionOpen) (RunInv.new capacity)
    (fun _ _ _ _ _ h hacc => h.accepted hacc) arrivals

/-! ### The live frames -/

section Extraction

variable {buffer : RingBuffer} {window : CaptureWindow} {error : DomainError}

/-- The segment that begins at the index. -/
def segmentFrom (buffer : RingBuffer) (window : CaptureWindow) (startIndex : Nat) :
    BufferSegment where
  requestedWindow := window
  frames := (buffer.frames.take (lastIndexWithin buffer.frames window + 1)).drop startIndex
  isTruncatedAtStart :=
    decide (window.startNs < (buffer.frames[startIndex]?.getD default).captureTsNs)
  isTruncatedAtEnd :=
    decide ((buffer.frames.getLast?.getD default).captureTsNs < window.endNs)

theorem segmentFor_of_absent (h : rejectIfWindowAbsent buffer.frames window = .error error) :
    buffer.segmentFor window = .error error := by
  rw [segmentFor, h]
  rfl

theorem segmentFor_of_undecodable (hpresent : rejectIfWindowAbsent buffer.frames window = .ok ())
    (h : decodableStartIndex buffer.frames window = .error error) :
    buffer.segmentFor window = .error error := by
  rw [segmentFor, hpresent, h]
  rfl

theorem segmentFor_of_start {startIndex : Nat}
    (hpresent : rejectIfWindowAbsent buffer.frames window = .ok ())
    (h : decodableStartIndex buffer.frames window = .ok startIndex) :
    buffer.segmentFor window = .ok (buffer.segmentFrom window startIndex) := by
  rw [segmentFor, hpresent, h]
  rfl

/-- The two scans are all that throws. -/
theorem segmentFor_eq_ok {segment : BufferSegment} (h : buffer.segmentFor window = .ok segment) :
    ∃ startIndex, decodableStartIndex buffer.frames window = .ok startIndex ∧
      segment = buffer.segmentFrom window startIndex := by
  cases hpresent : rejectIfWindowAbsent buffer.frames window with
  | error error =>
    rw [segmentFor_of_absent hpresent] at h
    cases h
  | ok _ =>
    cases hstart : decodableStartIndex buffer.frames window with
    | error error =>
      rw [segmentFor_of_undecodable hpresent hstart] at h
      cases h
    | ok startIndex =>
      rw [segmentFor_of_start hpresent hstart] at h
      exact ⟨startIndex, rfl, (Except.ok.inj h).symm⟩

/-- A segment is a contiguous run of live frames. -/
theorem segmentFrom_infix (buffer : RingBuffer) (window : CaptureWindow) (startIndex : Nat) :
    (buffer.segmentFrom window startIndex).frames <:+: buffer.frames :=
  (List.drop_suffix _ _).isInfix.trans (List.take_prefix _ _).isInfix

theorem segmentFor_infix {segment : BufferSegment} (h : buffer.segmentFor window = .ok segment) :
    segment.frames <:+: buffer.frames := by
  obtain ⟨startIndex, -, rfl⟩ := segmentFor_eq_ok h
  exact segmentFrom_infix buffer window startIndex

end Extraction

/-- The live frames are the newest ones of the current session run. -/
structure NewestOfRun (buffer : RingBuffer) (accepted : List FrameDescriptor) : Prop where
  newest : ∃ k ≤ (sessionRun accepted).length,
    buffer.frames = (sessionRun accepted).drop ((sessionRun accepted).length - k)
  nonempty : accepted ≠ [] → buffer.frames ≠ []
  /-- Sequence numbers are issued one by one, from zero. -/
  issued : accepted.map FrameDescriptor.sequence = List.range buffer.nextSequence
  /-- The live ones are consecutive and end at the last one issued. -/
  consecutive : ∃ first, first + buffer.frames.length = buffer.nextSequence ∧
    buffer.frames.map FrameDescriptor.sequence = List.range' first buffer.frames.length
  session : ∀ frame ∈ buffer.frames, frame.sessionId = buffer.sessionId
  clock_live : ClockOrdered buffer.frames
  clock_run : ClockOrdered (sessionRun accepted)
  /-- An extracted segment skips no accepted frame and mixes no sessions. -/
  segment : ∀ window segment, buffer.segmentFor window = .ok segment →
    segment.frames <:+: sessionRun accepted ∧
      ∀ frame ∈ segment.frames, frame.sessionId = buffer.sessionId

/-- A suffix of `range n` is a run of consecutive numbers that ends at `n - 1`. -/
private theorem suffix_range {l : List Nat} {n : Nat} (h : l <:+ List.range n) :
    l.length ≤ n ∧ l = List.range' (n - l.length) l.length := by
  have hle : l.length ≤ n := by
    have := h.length_le
    rwa [List.length_range] at this
  refine ⟨hle, ?_⟩
  have hdrop := List.suffix_iff_eq_drop.mp h
  rw [List.length_range, List.range_eq_range', List.drop_range'] at hdrop
  rw [hdrop, List.length_range']
  congr 1
  omega

/-- What the run invariant says about the live frames. -/
theorem RunInv.newest {buffer : RingBuffer} {accepted : List FrameDescriptor}
    (h : RunInv buffer accepted) : NewestOfRun buffer accepted := by
  have hsession : ∀ frame ∈ buffer.frames, frame.sessionId = buffer.sessionId :=
    fun frame hmem => h.run_session frame (h.suffix.subset hmem)
  refine ⟨?_, h.nonempty, h.issued, ?_, hsession, h.run_clock.sublist h.suffix.sublist,
    h.run_clock, ?_⟩
  · refine ⟨_, h.suffix.length_le, ?_⟩
    exact List.suffix_iff_eq_drop.mp h.suffix
  · -- the live frames end the accepted ones, and those are numbered from zero
    have hseq := (h.suffix.trans (sessionRun_suffix _)).map FrameDescriptor.sequence
    rw [h.issued] at hseq
    obtain ⟨hle, heq⟩ := suffix_range hseq
    rw [List.length_map] at hle heq
    exact ⟨_, Nat.sub_add_cancel hle, heq⟩
  · intro window segment hseg
    have hpart := segmentFor_infix hseg
    refine ⟨hpart.trans h.suffix.isInfix, ?_⟩
    intro frame hmem
    exact hsession frame (hpart.subset hmem)

/-- **The live frames are exactly the newest accepted frames of the current session run**, after
every run of calls over any mix of sessions. -/
theorem newestOfRun (capacity : BufferCapacity) (arrivals : List FrameArrival) :
    NewestOfRun (allocateAll capacity arrivals).1 (allocateAll capacity arrivals).2 :=
  (allocateAll_runInv capacity arrivals).newest

end RingBuffer

end Ods.S4
