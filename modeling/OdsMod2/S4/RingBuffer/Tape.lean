import Mathlib.Data.List.Induction
import Mathlib.Data.List.Sort
import OdsMod2.S4.RingBuffer.Facade
import OdsMod2.S4.RingBuffer.Occupancy
import OdsMod2.S4.RingBuffer.SegmentAnswer

/-!
# The buffer against a tape that forgets nothing

What the buffer is for can be said without an arena, offsets or laps: a `Tape` keeps every frame of the
session that it accepts, and an extraction cuts a stretch out of it (`Tape.play`). It turns a frame down
for its size, or if it is older than the last one, and starts over with another session.

The buffer accepts and turns down the same frames, it answers as a tape would that has nothing but the
frames it holds, and these are the end of what the tape has (`ingestAll_tape`). So eviction shows only
in what an extraction finds to be gone.
-/

namespace Ods.S4

open RingBuffer MediaBuffer

/-! ### The tape -/

structure Tape where
  sessionId : String
  /-- Every frame accepted since the session began. -/
  frames : List ExtractedFrame
  nextSequence : Nat

namespace Tape

def blank : Tape := ⟨"", [], 0⟩

/-- A new session begins on an empty tape. -/
def openedFor (tape : Tape) (sessionId : String) : List ExtractedFrame :=
  if tape.sessionId = sessionId then tape.frames else []

/-- The frame that is offered is turned down. -/
def Refuses (limit : Nat) (tape : Tape) (frame : CapturedFrame) : Prop :=
  frame.length = 0 ∨ limit < frame.length ∨
    ∃ newest ∈ (tape.openedFor frame.sessionId).getLast?, frame.captureTsNs < newest.captureTsNs

instance (limit : Nat) (tape : Tape) (frame : CapturedFrame) :
    Decidable (Refuses limit tape frame) :=
  inferInstanceAs (Decidable (_ ∨ _ ∨ _))

/-- Frames of up to `limit` bytes are recorded. -/
def record (limit : Nat) (tape : Tape) (frame : CapturedFrame) : Tape :=
  if Refuses limit tape frame then tape
  else
    { sessionId := frame.sessionId
      frames := tape.openedFor frame.sessionId ++ [asHeld tape.nextSequence frame]
      nextSequence := tape.nextSequence + 1 }

/-- The last keyframe up to the start of the window, or else the first one within it. -/
def startOf (frames : List ExtractedFrame) (window : CaptureWindow) : Option ExtractedFrame :=
  ((frames.filter fun frame =>
      frame.isKeyframe && decide (frame.captureTsNs ≤ window.startNs)).getLast?).or
    (frames.filter fun frame => frame.isKeyframe && window.contains frame.captureTsNs).head?

/-- The frames from the start to the end of the window. -/
def stretch (frames : List ExtractedFrame) (window : CaptureWindow) (first : ExtractedFrame) :
    List ExtractedFrame :=
  frames.filter fun frame =>
    decide (first.sequence ≤ frame.sequence ∧ frame.captureTsNs ≤ window.endNs)

/-- What is on the tape of a window. -/
def play (tape : Tape) (window : CaptureWindow) : Except DomainError ExtractedSegment :=
  if tape.frames.any fun frame => window.contains frame.captureTsNs then
    match startOf tape.frames window with
    | none => .error DomainErrorKind.noDecodableStart.default
    | some first => .ok {
        requestedWindow := window
        sessionId := tape.sessionId
        frames := stretch tape.frames window first
        isTruncatedAtStart := decide (window.startNs < first.captureTsNs)
        isTruncatedAtEnd := tape.frames.getLast?.any fun newest =>
          decide (newest.captureTsNs < window.endNs) }
  else
    .error ⟨.windowNotInBuffer, s!"No frame in [{window.startNs}, {window.endNs}] is in the buffer"⟩

end Tape

/-- What counts of a frame in evidence. -/
def CapturedFrame.footage (frame : CapturedFrame) : Nanoseconds × Bool × List UInt8 :=
  (frame.captureTsNs, frame.isKeyframe, frame.data)

def ExtractedFrame.footage (frame : ExtractedFrame) : Nanoseconds × Bool × List UInt8 :=
  (frame.captureTsNs, frame.isKeyframe, frame.data)

/-- The frame gets as far as the session check. -/
def CapturedFrame.FitsIn (limit : Nat) (frame : CapturedFrame) : Prop :=
  0 < frame.length ∧ frame.length ≤ limit

instance (limit : Nat) (frame : CapturedFrame) : Decidable (frame.FitsIn limit) :=
  inferInstanceAs (Decidable (_ ∧ _))

/-- The frames that are offered to the session. -/
def fitting (limit : Nat) (frames : List CapturedFrame) : List CapturedFrame :=
  frames.filter fun frame => decide (frame.FitsIn limit)

/-- A tape with the frames the buffer holds and no others. -/
def MediaBuffer.asTape (media : MediaBuffer) : Tape where
  sessionId := media.ringBuffer.sessionId
  frames := media.held
  nextSequence := media.ringBuffer.nextSequence

/-! ### The answer without indices -/

namespace RingBuffer

section Scans

variable {α : Type} {p : α → Bool} {xs : List α}

/-- The last hit, found by its index. -/
theorem getLast?_filter_eq (p : α → Bool) (xs : List α) :
    (xs.filter p).getLast? = (lastIndexWhere p xs).bind (xs[·]?) := by
  induction xs with
  | nil => rfl
  | cons x xs ih =>
    rw [lastIndexWhere, List.filter_cons]
    cases hrest : lastIndexWhere p xs with
    | some index =>
      rw [hrest, Option.bind_some] at ih
      obtain ⟨⟨y, hy, -⟩, -⟩ := lastIndexWhere_some hrest
      -- the rest has a hit, so it has the last one
      have hne : xs.filter p ≠ [] := by
        intro hnil
        rw [hnil, hy] at ih
        cases ih
      rw [Option.bind_some, List.getElem?_cons_succ, ← ih]
      split
      · rw [← List.singleton_append, List.getLast?_append_of_ne_nil _ hne]
      · rfl
    | none =>
      have hnil : xs.filter p = [] :=
        List.filter_eq_nil_iff.mpr fun y hy => ne_true_of_eq_false (lastIndexWhere_none hrest y hy)
      rw [hnil]
      dsimp only
      by_cases hx : p x = true
      · rw [if_pos hx, if_pos hx]
        rfl
      · rw [if_neg hx, if_neg hx]
        rfl

/-- The first hit, found by its index. -/
theorem head?_filter_eq (p : α → Bool) (xs : List α) :
    (xs.filter p).head? = (xs.findIdx? p).bind (xs[·]?) := by
  induction xs with
  | nil => rfl
  | cons x xs ih =>
    rw [List.findIdx?_cons, List.filter_cons]
    by_cases hx : p x = true
    · rw [if_pos hx, if_pos hx]
      rfl
    · rw [if_neg hx, if_neg hx, ih]
      cases xs.findIdx? p with
      | none => rfl
      | some index => rfl

end Scans

end RingBuffer

namespace MediaBuffer

variable {media : MediaBuffer} {window : CaptureWindow}

@[simp] theorem frameAt_sequence (store : SharedMemoryFrameStore) (d : FrameDescriptor) :
    (frameAt store d).sequence = d.sequence := rfl

@[simp] theorem frameAt_captureTsNs (store : SharedMemoryFrameStore) (d : FrameDescriptor) :
    (frameAt store d).captureTsNs = d.captureTsNs := rfl

@[simp] theorem frameAt_isKeyframe (store : SharedMemoryFrameStore) (d : FrameDescriptor) :
    (frameAt store d).isKeyframe = d.isKeyframe := rfl

/-- Where decoding starts, told of the frames held. -/
theorem startOf_held (media : MediaBuffer) (window : CaptureWindow) :
    Tape.startOf media.held window =
      match decodableStartIndex media.ringBuffer.frames window with
      | .ok startIndex => (media.ringBuffer.frames[startIndex]?).map (frameAt media.frameStore)
      | .error _ => none := by
  unfold Tape.startOf held decodableStartIndex
  rw [List.filter_map, List.filter_map, List.getLast?_map, List.head?_map, getLast?_filter_eq,
    head?_filter_eq]
  change Option.or (Option.map _ ((lastIndexWhere (fun frame : FrameDescriptor =>
      frame.isKeyframe && decide (frame.captureTsNs ≤ window.startNs)) _).bind _))
    (Option.map _ ((List.findIdx? (fun frame : FrameDescriptor =>
      frame.isKeyframe && window.contains frame.captureTsNs) _).bind _)) = _
  cases hlast : lastIndexWhere
      (fun frame => frame.isKeyframe && decide (frame.captureTsNs ≤ window.startNs))
      media.ringBuffer.frames with
  | some index =>
    obtain ⟨⟨frame, hframe, -⟩, -⟩ := lastIndexWhere_some hlast
    dsimp only
    rw [Option.bind_some, hframe]
    rfl
  | none =>
    rw [Option.bind_none, Option.map_none, Option.none_or]
    cases List.findIdx? (fun frame => frame.isKeyframe && window.contains frame.captureTsNs)
        media.ringBuffer.frames with
    | some index => rfl
    | none => rfl

/-- In the order of arrival, a segment is what its first frame and the window cut out. -/
theorem frames_of_segmentOf {frames : List FrameDescriptor} {segment : BufferSegment}
    {first : FrameDescriptor} (hnumbered : Numbered frames) (hpart : segment.frames <:+: frames)
    (h : SegmentOf frames window segment first) :
    segment.frames = frames.filter fun frame =>
      decide (first.sequence ≤ frame.sequence ∧ frame.captureTsNs ≤ window.endNs) := by
  have : Std.Irrefl fun f g : FrameDescriptor => f.sequence < g.sequence :=
    ⟨fun f => Nat.lt_irrefl f.sequence⟩
  have : Std.Antisymm fun f g : FrameDescriptor => f.sequence < g.sequence :=
    ⟨fun f g hfg hgf => absurd hfg (Nat.lt_asymm hgf)⟩
  apply List.Pairwise.eq_of_mem_iff (r := fun f g : FrameDescriptor => f.sequence < g.sequence)
  · exact hnumbered.sublist hpart.sublist
  · exact hnumbered.filter _
  · intro frame
    rw [h.mem, List.mem_filter, decide_eq_true_iff]

/-- **Extraction plays what the buffer holds.** -/
theorem extract_eq_play (hsound : Sound media) (hnumbered : Numbered media.ringBuffer.frames)
    (hclock : ClockOrdered media.ringBuffer.frames)
    (hsession : ∀ frame ∈ media.ringBuffer.frames, frame.sessionId = media.ringBuffer.sessionId)
    (window : CaptureWindow) :
    extractCaptureWindow media window = (media.asTape.play window).mapError .domain := by
  have hany : media.held.any (fun frame => window.contains frame.captureTsNs) =
      media.ringBuffer.frames.any (fun frame => window.contains frame.captureTsNs) := by
    rw [held, List.any_map]
    rfl
  have hstart := startOf_held media window
  unfold Tape.play asTape
  dsimp only
  rw [hany]
  cases hpresent : rejectIfWindowAbsent media.ringBuffer.frames window with
  | error error =>
    -- neither has a frame in the window
    have hsegment := segmentFor_of_absent hpresent
    unfold rejectIfWindowAbsent at hpresent
    split at hpresent
    · cases hpresent
    · next hnone =>
      rw [if_neg hnone, Except.error.inj hpresent, extractCaptureWindow, hsegment]
      rfl
  | ok _ =>
    have hframe : media.ringBuffer.frames.any
        (fun frame => window.contains frame.captureTsNs) = true := by
      unfold rejectIfWindowAbsent at hpresent
      split at hpresent
      · next hsome => exact hsome
      · cases hpresent
    rw [if_pos hframe, hstart]
    cases hindex : decodableStartIndex media.ringBuffer.frames window with
    | error error =>
      -- neither has a keyframe to start with
      have hdefault : error = DomainErrorKind.noDecodableStart.default := by
        unfold decodableStartIndex at hindex
        split at hindex
        · cases hindex
        · split at hindex
          · cases hindex
          · exact (Except.error.inj hindex).symm
      rw [hdefault] at hindex
      rw [extractCaptureWindow, segmentFor_of_undecodable hpresent hindex]
      rfl
    | ok startIndex =>
      have hresult := segmentFor_of_start hpresent hindex
      have hpart := segmentFrom_infix media.ringBuffer window startIndex
      obtain ⟨first, hsegment⟩ := segmentFor_ok hnumbered hclock hresult
      obtain ⟨first', hfirst', -⟩ := decodableStartIndex_ok hnumbered hindex
      -- the segment begins where decoding starts
      have hsame : first' = first := by
        have hhead := hsegment.head
        dsimp only [segmentFrom] at hhead
        rw [List.head?_drop, List.getElem?_take] at hhead
        split at hhead
        · exact Option.some.inj (hfirst'.symm.trans hhead)
        · cases hhead
      have hframes := frames_of_segmentOf hnumbered hpart hsegment
      -- a segment is of the session of its first frame, and all that is live is of one session
      have hid : (segmentFrom media.ringBuffer window startIndex).sessionId =
          media.ringBuffer.sessionId := by
        rw [BufferSegment.sessionId, hsegment.head]
        exact hsession first hsegment.live
      obtain ⟨newest, hnewest⟩ := Option.isSome_iff_exists.mp
        (List.getLast?_isSome.mpr (List.ne_nil_of_mem hsegment.live))
      rw [extractCaptureWindow, hresult]
      change ((segmentFrom media.ringBuffer window startIndex).frames.mapM
        (materialize media.frameStore) >>= fun frames => _) = _
      rw [mapM_materialize hsound fun d hd => hpart.subset hd]
      dsimp only
      rw [hfirst', hsame]
      show Except.ok _ = Except.ok _
      congr 1
      rw [ExtractedSegment.mk.injEq]
      refine ⟨rfl, hid, ?_, hsegment.truncated, ?_⟩
      · rw [hframes, Tape.stretch, held, List.filter_map]
        rfl
      · rw [held, List.getLast?_map, hnewest]
        show decide _ = decide _
        rw [hnewest]
        rfl

/-! ### The runs -/

/-- The tape shows what the index has on record for the run of its session. -/
def Shows (d : FrameDescriptor) (frame : ExtractedFrame) : Prop :=
  frame.sequence = d.sequence ∧ frame.captureTsNs = d.captureTsNs ∧
    frame.isKeyframe = d.isKeyframe ∧ frame.data.length = d.length

/-- The buffer beside the tape. -/
structure Taped (media : MediaBuffer) (accepted : List FrameDescriptor) (tape : Tape) : Prop where
  sound : Sound media
  run : RunInv media.ringBuffer accepted
  occupancy : Occupancy media.ringBuffer (sessionRun accepted)
  shows : List.Forall₂ Shows (sessionRun accepted) tape.frames
  /-- The buffer holds the end of the tape. -/
  held : media.held <:+ tape.frames
  nextSequence : tape.nextSequence = media.ringBuffer.nextSequence
  session : tape.frames ≠ [] → tape.sessionId = media.ringBuffer.sessionId ∧
    media.ringBuffer.hasSession = true

section Taped

variable {after : MediaBuffer} {accepted : List FrameDescriptor} {tape : Tape}
  {frame : CapturedFrame}

theorem Taped.new {capacity : BufferCapacity} {store : SharedMemoryFrameStore}
    (hcap : store.capacityBytes = capacity.totalBytes) (hopen : store.isClosed = false) :
    Taped ⟨RingBuffer.new capacity, store⟩ [] .blank where
  sound := Sound.new hcap hopen
  run := RunInv.new capacity
  occupancy := Occupancy.new capacity
  shows := List.Forall₂.nil
  held := List.suffix_rfl
  nextSequence := rfl
  session := fun h => absurd rfl h

/-- What is on the tape is held at least in part. -/
theorem Taped.held_ne_nil (h : Taped media accepted tape) (hne : tape.frames ≠ []) :
    media.held ≠ [] := by
  intro hnil
  have hlive : media.ringBuffer.frames = [] := List.map_eq_nil_iff.mp hnil
  have haccepted : accepted ≠ [] := by
    rintro rfl
    have hshows := h.shows
    rw [show sessionRun [] = [] from rfl, List.forall₂_nil_left_iff] at hshows
    exact hne hshows
  exact h.run.nonempty haccepted hlive

/-- The session check leaves on the tape what it leaves in the index. -/
theorem Taped.openedFor (h : Taped media accepted tape) (sessionId : String) :
    (tape.openedFor sessionId = tape.frames ∧
        (media.ringBuffer.opened sessionId).frames = media.ringBuffer.frames) ∨
      (tape.openedFor sessionId = [] ∧ (media.ringBuffer.opened sessionId).frames = []) := by
  unfold Tape.openedFor
  by_cases hempty : tape.frames = []
  · have hheld := h.held
    rw [hempty, List.suffix_nil] at hheld
    have hlive : media.ringBuffer.frames = [] := List.map_eq_nil_iff.mp hheld
    refine Or.inr ⟨by rw [hempty, ite_self], ?_⟩
    rcases opened_cases media.ringBuffer sessionId with ⟨hframes, -⟩ | ⟨hframes, -⟩
    · rw [hframes, hlive]
    · exact hframes
  · obtain ⟨hsame, hsession⟩ := h.session hempty
    rw [hsame]
    rcases opened_cases media.ringBuffer sessionId with
      ⟨hframes, -, -, -, hid⟩ | ⟨hframes, -, -, -, -, hid⟩
    · exact Or.inl ⟨if_pos (hid hsession), hframes⟩
    · exact Or.inr ⟨if_neg hid, hframes⟩

/-- The newest frame on the tape is the newest live one. -/
theorem Taped.newest (h : Taped media accepted tape) (sessionId : String) :
    (tape.openedFor sessionId).getLast? =
      (media.ringBuffer.opened sessionId).frames.getLast?.map (frameAt media.frameStore) := by
  rcases h.openedFor sessionId with ⟨htape, hindex⟩ | ⟨htape, hindex⟩
  · rw [htape, hindex, ← List.getLast?_map]
    by_cases hempty : tape.frames = []
    · have hheld := h.held
      rw [hempty, List.suffix_nil] at hheld
      rw [hempty, show media.ringBuffer.frames.map _ = media.held from rfl, hheld]
    · obtain ⟨gone, hgone⟩ := h.held
      rw [← hgone, List.getLast?_append_of_ne_nil _ (h.held_ne_nil hempty)]
      rfl
  · rw [htape, hindex]
    rfl

/-- What the index accepts, the tape records. -/
theorem Taped.not_refuses {allocation : Allocation} {ringBuffer : RingBuffer}
    (h : Taped media accepted tape)
    (hacc : Accepted media.ringBuffer frame.arrival allocation ringBuffer) :
    ¬ Tape.Refuses media.ringBuffer.capacity tape frame := by
  rintro (hzero | hlarge | ⟨newest, hnewest, hback⟩)
  · exact Nat.ne_of_gt hacc.length_pos hzero
  · exact Nat.not_lt.mpr hacc.length_le hlarge
  · rw [h.newest, Option.mem_def, Option.map_eq_some_iff] at hnewest
    obtain ⟨last, hlast, rfl⟩ := hnewest
    exact Int.not_lt.mpr (hacc.not_backwards last hlast) hback

/-- What the index turns down, the tape turns down. -/
theorem Taped.refuses {error : DomainError} {ringBuffer : RingBuffer}
    (h : Taped media accepted tape)
    (hrefused : Refused media.ringBuffer frame.arrival error ringBuffer) :
    Tape.Refuses media.ringBuffer.capacity tape frame := by
  cases hrefused with
  | size hsize hkind =>
    rcases hsize with hzero | hlarge
    · exact Or.inl hzero
    · exact Or.inr (Or.inl hlarge)
  | @clock newest hnewest hback hkind =>
    refine Or.inr (Or.inr ⟨frameAt media.frameStore newest, ?_, hback⟩)
    rw [h.newest, Option.mem_def]
    exact congrArg (Option.map _) hnewest

/-- An ingest that is refused leaves everything as it was, and the tape too. -/
theorem Taped.refused {error : ODSException} (h : Taped media accepted tape)
    (hing : ingestFrame media frame = (.error error, after)) :
    Tape.Refuses media.ringBuffer.capacity tape frame ∧ after = media := by
  refine ⟨?_, ingestFrame_error h.sound hing⟩
  have houtcome := ingestFrame_outcome media frame
  rw [hing] at houtcome
  cases houtcome with
  | refused hrefused => exact h.refuses (allocate_refused hrefused)
  | unwritten hallocated hwrite =>
    obtain ⟨store, hwritten, -⟩ := SharedMemoryFrameStore.write_ok h.sound.isOpen
      (h.sound.hasRoom (allocate_accepted hallocated))
    rw [hwrite] at hwritten
    cases hwritten

/-- When the session check empties the queue, nothing of it is left. -/
theorem kept_of_cleared {allocation : Allocation} {ringBuffer : RingBuffer}
    {frameStore : SharedMemoryFrameStore} {kept : List ExtractedFrame} {newest : ExtractedFrame}
    (hacc : Accepted media.ringBuffer frame.arrival allocation ringBuffer)
    (hcleared : (media.ringBuffer.opened frame.sessionId).frames = [])
    (hheld : MediaBuffer.held ⟨ringBuffer, frameStore⟩ = kept ++ [newest]) : kept = [] := by
  obtain ⟨left, hleft, hframes⟩ := hacc.frames_eq
  have hnone : left = [] := by
    rw [← List.suffix_nil, ← hcleared]
    exact hleft
  have hlength := congrArg List.length hheld
  rw [held, List.length_map, List.length_append, hframes, hnone] at hlength
  exact List.length_eq_zero_iff.mp (Nat.succ.inj hlength.symm)

/-- **An accepted ingest is a frame more on the tape.** -/
theorem Taped.ingested {allocation : Allocation} (h : Taped media accepted tape)
    (hing : ingestFrame media frame = (.ok allocation, after)) :
    ¬ Tape.Refuses media.ringBuffer.capacity tape frame ∧
      Taped after (accepted ++ [allocation.descriptor])
        (tape.record media.ringBuffer.capacity frame) := by
  obtain ⟨hsound, hsequence, hnext, kept, hkept, hheld⟩ := held_ingest h.sound hing
  have houtcome := ingestFrame_outcome media frame
  rw [hing] at houtcome
  cases houtcome with
  | @written _ ringBuffer frameStore hallocated hwrite =>
    have hacc := allocate_accepted hallocated
    have hnot := h.not_refuses hacc
    have hnew : asHeld tape.nextSequence frame = asHeld allocation.descriptor.sequence frame := by
      rw [h.nextSequence, hsequence]
    have hshows : Shows allocation.descriptor (asHeld tape.nextSequence frame) := by
      rw [hnew, hacc.descriptor_eq]
      exact ⟨rfl, rfl, rfl, rfl⟩
    refine ⟨hnot, ?_⟩
    rw [Tape.record, if_neg hnot]
    refine ⟨hsound, h.run.accepted hacc, h.occupancy.accepted h.run hacc, ?_, ?_, ?_, fun _ => ?_⟩
    · -- the run of the index starts over when the tape does
      obtain ⟨run, hrun, hcont⟩ := h.run.extend hacc
      rw [hrun]
      refine List.rel_append ?_ (List.Forall₂.cons hshows List.Forall₂.nil)
      rcases hcont.cases with ⟨rfl, hindex, -⟩ | ⟨rfl, hindex, -⟩
      · rcases h.openedFor frame.sessionId with ⟨htape, -⟩ | ⟨htape, hcleared⟩
        · rw [htape]
          exact h.shows
        · -- nothing was live, so nothing is on record
          have hnone : sessionRun accepted = [] := by
            by_contra hne
            exact hcont.nonempty hne hcleared
          rw [htape, hnone]
          exact List.Forall₂.nil
      · rcases h.openedFor frame.sessionId with ⟨htape, hlive⟩ | ⟨htape, -⟩
        -- the index was cleared and the tape was not: there was nothing on it
        · have hempty : tape.frames = [] := by
            by_contra hne
            refine h.held_ne_nil hne (List.map_eq_nil_iff.mpr ?_)
            exact hlive.symm.trans hindex
          rw [htape, hempty]
          exact List.Forall₂.nil
        · rw [htape]
          exact List.Forall₂.nil
    · -- what is left of the queue was on the tape, unless the session check has emptied both
      obtain ⟨front, hfront⟩ : kept <:+ tape.openedFor frame.sessionId := by
        rcases h.openedFor frame.sessionId with ⟨htape, -⟩ | ⟨-, hcleared⟩
        · rw [htape]
          exact hkept.trans h.held
        · rw [kept_of_cleared hacc hcleared hheld]
          exact List.nil_suffix
      refine ⟨front, ?_⟩
      rw [hheld, hnew, ← hfront, List.append_assoc]
    · exact congrArg (· + 1) h.nextSequence |>.trans hacc.nextSequence_eq.symm
    · exact ⟨hacc.sessionId_eq.symm, hacc.hasSession_eq⟩

theorem Taped.extract (h : Taped media accepted tape) (window : CaptureWindow) :
    extractCaptureWindow media window = (media.asTape.play window).mapError .domain :=
  extract_eq_play h.sound h.run.newest.numbered h.run.newest.clock_live h.run.newest.session window

end Taped

/-- The tape of a run. -/
def tapeAll (limit : Nat) (frames : List CapturedFrame) : Tape :=
  frames.foldl (Tape.record limit) .blank

/-- One frame more: it is turned down, or it comes to the end of the session's frames. -/
theorem tapeAll_concat_cases (limit : Nat) (frames : List CapturedFrame) (frame : CapturedFrame) :
    tapeAll limit (frames ++ [frame]) = tapeAll limit frames ∨
      frame.data ≠ [] ∧ ∃ kept sequence, kept.Sublist (tapeAll limit frames).frames ∧
        (tapeAll limit (frames ++ [frame])).frames = kept ++ [asHeld sequence frame] := by
  have hconcat : tapeAll limit (frames ++ [frame]) = (tapeAll limit frames).record limit frame :=
    List.foldl_concat ..
  rw [hconcat, Tape.record]
  split
  · exact .inl rfl
  · next hrefuses =>
    refine .inr ⟨fun hempty => hrefuses (.inl (congrArg List.length hempty)), _, _, ?_, rfl⟩
    rw [Tape.openedFor]
    split
    · exact .refl _
    · exact List.nil_sublist _

/-- Nothing is on the tape that was not delivered. -/
theorem tapeAll_footage (limit : Nat) (frames : List CapturedFrame) :
    ((tapeAll limit frames).frames.map ExtractedFrame.footage).Sublist
      (frames.map CapturedFrame.footage) := by
  induction frames using List.reverseRecOn with
  | nil => exact .refl _
  | append_singleton frames frame ih =>
    rw [List.map_append]
    rcases tapeAll_concat_cases limit frames frame with hsame | ⟨-, kept, sequence, hkept, hframes⟩
    · rw [hsame]
      exact ih.trans (List.sublist_append_left _ _)
    · rw [hframes, List.map_append]
      exact ((hkept.map _).trans ih).append (.refl _)

theorem exists_captured {limit : Nat} {frames : List CapturedFrame} {frame : ExtractedFrame}
    (h : frame ∈ (tapeAll limit frames).frames) :
    ∃ captured ∈ frames, captured.footage = frame.footage :=
  List.mem_map.mp ((tapeAll_footage limit frames).subset (List.mem_map_of_mem h))

theorem data_ne_nil_of_tapeAll (limit : Nat) (frames : List CapturedFrame) :
    ∀ frame ∈ (tapeAll limit frames).frames, frame.data ≠ [] := by
  induction frames using List.reverseRecOn with
  | nil => exact List.forall_mem_nil _
  | append_singleton frames frame ih =>
    rcases tapeAll_concat_cases limit frames frame with hsame | ⟨hdata, kept, sequence, hkept, hframes⟩
    · rw [hsame]
      exact ih
    · rw [hframes]
      exact List.forall_mem_append.mpr
        ⟨fun other hother => ih other (hkept.subset hother), List.forall_mem_singleton.mpr hdata⟩

theorem ingestAll_taped {capacity : BufferCapacity} {store : SharedMemoryFrameStore}
    (hcap : store.capacityBytes = capacity.totalBytes) (hopen : store.isClosed = false)
    (frames : List CapturedFrame) :
    (ingestAll capacity store frames).1.ringBuffer.capacity = capacity.totalBytes ∧
      ∃ accepted, Taped (ingestAll capacity store frames).1 accepted
        (tapeAll capacity.totalBytes frames) := by
  unfold ingestAll tapeAll
  suffices hrun : ∀ (run : MediaBuffer × List (Nat × CapturedFrame)) (tape : Tape),
      (run.1.ringBuffer.capacity = capacity.totalBytes ∧ ∃ accepted, Taped run.1 accepted tape) →
      (frames.foldl ingestStep run).1.ringBuffer.capacity = capacity.totalBytes ∧
        ∃ accepted, Taped (frames.foldl ingestStep run).1 accepted
          (frames.foldl (Tape.record capacity.totalBytes) tape) from
    hrun _ _ ⟨rfl, [], Taped.new hcap hopen⟩
  induction frames with
  | nil => exact fun run tape h => h
  | cons frame frames ih =>
    rintro run tape ⟨hcapacity, accepted, h⟩
    rw [List.foldl_cons, List.foldl_cons]
    apply ih
    unfold ingestStep
    split
    · next allocation media hing =>
      obtain ⟨-, htaped⟩ := h.ingested hing
      rw [hcapacity] at htaped
      exact ⟨(Capture.accepted_of_ingestFrame hing).capacity_eq.trans hcapacity, _, htaped⟩
    · next error media hing =>
      obtain ⟨hrefuses, rfl⟩ := h.refused hing
      rw [hcapacity] at hrefuses
      rw [Tape.record, if_pos hrefuses]
      exact ⟨hcapacity, accepted, h⟩

/-- The buffer against the tape, to an observer. -/
structure RefinesTape (limit : Nat) (media : MediaBuffer) (tape : Tape) : Prop where
  held : media.held <:+ tape.frames
  newest : media.held.getLast? = tape.frames.getLast?
  /-- They turn down the same frames. -/
  refuses : ∀ frame,
    (∃ error, (ingestFrame media frame).1 = .error error) ↔ Tape.Refuses limit tape frame
  /-- What is gone is all that an extraction misses. -/
  answers : ∀ window,
    extractCaptureWindow media window = (media.asTape.play window).mapError .domain

/-- **The buffer is a tape with its beginning torn off**, after every run of ingests. -/
theorem ingestAll_tape (capacity : BufferCapacity) (store : SharedMemoryFrameStore)
    (hcap : store.capacityBytes = capacity.totalBytes) (hopen : store.isClosed = false)
    (frames : List CapturedFrame) :
    RefinesTape capacity.totalBytes (ingestAll capacity store frames).1
      (tapeAll capacity.totalBytes frames) := by
  obtain ⟨hcapacity, accepted, h⟩ := ingestAll_taped hcap hopen frames
  refine ⟨h.held, ?_, fun frame => ?_, h.extract⟩
  · by_cases hempty : (tapeAll capacity.totalBytes frames).frames = []
    · have hheld := h.held
      rw [hempty, List.suffix_nil] at hheld
      rw [hempty, hheld]
    · obtain ⟨gone, hgone⟩ := h.held
      rw [← hgone, List.getLast?_append_of_ne_nil _ (h.held_ne_nil hempty)]
  · suffices hdecides : (∃ error, (ingestFrame (ingestAll capacity store frames).1 frame).1 =
        .error error) ↔ Tape.Refuses (ingestAll capacity store frames).1.ringBuffer.capacity
          (tapeAll capacity.totalBytes frames) frame by
      rwa [hcapacity] at hdecides
    cases hing : ingestFrame (ingestAll capacity store frames).1 frame with
    | mk result after =>
      cases result with
      | ok allocation =>
        refine iff_of_false ?_ (h.ingested hing).1
        rintro ⟨error, herror⟩
        cases herror
      | error error => exact iff_of_true ⟨error, rfl⟩ (h.refused hing).1

/-- A keyframe is lost from an arena of four bytes, and is still on the tape. -/
theorem ingestAll_tape_lost :
    RefinesTape 4
      (ingestAll ⟨4, by decide⟩ (SharedMemoryFrameStore.create "ring" ⟨4, by decide⟩)
        [⟨0, [1, 2, 3], true, "live"⟩, ⟨1, [4, 5], true, "live"⟩]).1
      (tapeAll 4 [⟨0, [1, 2, 3], true, "live"⟩, ⟨1, [4, 5], true, "live"⟩]) :=
  ingestAll_tape ⟨4, by decide⟩ _ rfl rfl _

end MediaBuffer

end Ods.S4
