import OdsMod2.S4.Media.IsoBmff
import OdsMod2.S4.Media.Timeline
import OdsMod2.S4.RingBuffer.Sizing

/-!
# From the camera to the container

`GStreamerMp4Muxer::mux` as a whole: it builds a pipeline, pushes one buffer after the other, waits for
the end of the stream and takes what the sink has been given, with the dates in it fixed. What
GStreamer answers on the way is a `MuxPipeline`.

`mux` succeeds exactly if nothing on the way fails (`muxContainer_eq_ok_iff`), and then the bytes are
a function of the segment, but for the dates. Behind a ring buffer this makes a chain
(`container_of_camera`): whatever was delivered, the container of a window is made of frames that
stand side by side on the tape of the session, each with its bytes and at its distance from the
first, and it is made the same way each time.
-/

namespace Ods.S4

open RingBuffer IsoBmff

/-- The message that ends the wait on the bus. -/
inductive BusMessage where
  | eos
  | error (text : String)

/-- The text kept of a message. -/
def BusMessage.failure : BusMessage → String
  | .eos => ""
  | .error text => text

/-- What GStreamer answers in one call of `mux`, as far as it depends on the buffers pushed. -/
structure MuxPipeline where
  /-- The text of the `GError`, if the description does not parse. -/
  parse : Except String Unit
  hasEnds : Bool
  starts : Bool
  /-- The flow return for the last of the buffers. -/
  flow : List GstBuffer → Int
  /-- What comes over the bus behind the end of the stream, or nothing in time. -/
  message : List GstBuffer → Option BusMessage
  /-- What the sink was given, all samples together. -/
  container : List GstBuffer → List UInt8

namespace GStreamerMp4Muxer

section Mux

variable (gst : MuxPipeline)

/-- The loop that pushes, from the frame of the index on, with what has been sent. -/
def pushFrames (lastDelta : ℕ) : ℕ → ℕ → List GstBuffer → List ExtractedFrame → List ℕ →
    Except ODSException (List GstBuffer)
  | i, runningTs, sent, frame :: frames, delta :: deltas =>
    if frame.data = [] then pushFrames lastDelta (i + 1) runningTs sent frames deltas
    else
      let buffer : GstBuffer := {
        data := frame.data
        pts := runningTs + delta
        dts := runningTs + delta
        duration := sampleDuration lastDelta deltas }
      let ret := gst.flow (sent ++ [buffer])
      if ret = 0 then
        pushFrames lastDelta (i + 1) (runningTs + delta) (sent ++ [buffer]) frames deltas
      else .error (.mediaMux s!"mux pipeline rejected frame {i}: flow return {ret}")
  | _, _, sent, _, _ => .ok sent

/-- The end of the stream, once everything has been pushed. -/
def finish (normalizeTimestamps : Bool) (sent : List GstBuffer) :
    Except ODSException (List UInt8) :=
  match gst.message sent with
  | none => .error (.mediaMux "mux pipeline timed out before finishing the container")
  | some message =>
    if message.failure ≠ "" then
      .error (.mediaMux ("mux pipeline failed: " ++ message.failure))
    else if gst.container sent = [] then
      .error (.mediaMux "mux pipeline finished without producing any container bytes")
    else if normalizeTimestamps then .ok (normalizeIsoBmffTimestamps (gst.container sent))
    else .ok (gst.container sent)

/-- `mux`. -/
def muxContainer (normalizeTimestamps : Bool) (segment : ExtractedSegment) :
    Except ODSException (List UInt8) :=
  if segment.frames = [] then .error (.mediaMux "cannot mux a segment with no frames")
  else
    match gst.parse with
    | .error text => .error (.mediaMux ("invalid mux pipeline: " ++ text))
    | .ok _ =>
      if !gst.hasEnds then .error (.mediaMux "mux pipeline is missing appsrc or appsink")
      else if !gst.starts then .error (.mediaMux "mux pipeline refused to start")
      else
        pushFrames gst (lastDelta (deltas segment.frames)) 0 firstSampleTs [] segment.frames
          (deltas segment.frames) >>= finish gst normalizeTimestamps

end Mux

/-! ### Nothing on the way fails -/

section Accepts

variable {gst : MuxPipeline}

/-- Every buffer is taken. -/
def Takes (gst : MuxPipeline) (sent more : List GstBuffer) : Prop :=
  ∀ earlier, earlier <+: more → earlier ≠ [] → gst.flow (sent ++ earlier) = 0

theorem takes_nil (sent : List GstBuffer) : Takes gst sent [] := by
  intro earlier hearlier hne
  exact absurd (List.prefix_nil.mp hearlier) hne

theorem takes_cons {sent more : List GstBuffer} {buffer : GstBuffer} :
    Takes gst sent (buffer :: more) ↔
      gst.flow (sent ++ [buffer]) = 0 ∧ Takes gst (sent ++ [buffer]) more := by
  constructor
  · intro h
    refine ⟨h [buffer] (List.prefix_cons_inj buffer |>.mpr List.nil_prefix) (List.cons_ne_nil _ _),
      fun earlier hearlier _ => ?_⟩
    rw [List.append_assoc]
    exact h (buffer :: earlier) (List.prefix_cons_inj buffer |>.mpr hearlier) (List.cons_ne_nil _ _)
  · rintro ⟨hfirst, hmore⟩ earlier hearlier hne
    obtain ⟨head, rest, rfl⟩ := List.exists_cons_of_ne_nil hne
    obtain ⟨rfl, hrest⟩ := List.cons_prefix_cons.mp hearlier
    by_cases hlast : rest = []
    · rw [hlast]
      exact hfirst
    · have hflow := hmore rest hrest hlast
      rwa [List.append_assoc] at hflow

/-- **The loop** goes through if every buffer is taken, and then it has sent the timeline. -/
theorem pushFrames_eq_ok_iff {lastDelta : ℕ} {frames : List ExtractedFrame} {deltas : List ℕ}
    {i runningTs : ℕ} {sent result : List GstBuffer} :
    pushFrames gst lastDelta i runningTs sent frames deltas = .ok result ↔
      Takes gst sent (pushAll lastDelta runningTs frames deltas) ∧
        result = sent ++ pushAll lastDelta runningTs frames deltas := by
  induction frames generalizing i runningTs sent deltas with
  | nil =>
    have hsent : pushFrames gst lastDelta i runningTs sent [] deltas = .ok sent := by
      cases deltas <;> rfl
    have hnone : pushAll lastDelta runningTs [] deltas = [] := by
      cases deltas <;> rfl
    rw [hsent, hnone, List.append_nil, and_iff_right (takes_nil sent), Except.ok.injEq]
    exact eq_comm
  | cons frame frames ih =>
    cases deltas with
    | nil =>
      show Except.ok sent = .ok result ↔ Takes gst sent [] ∧ result = sent ++ []
      rw [List.append_nil, and_iff_right (takes_nil sent), Except.ok.injEq]
      exact eq_comm
    | cons delta deltas =>
      by_cases hdata : frame.data = []
      · rw [pushFrames, pushAll, if_pos hdata, if_pos hdata, ih]
      · rw [pushFrames, if_neg hdata, pushAll_cons hdata, takes_cons]
        dsimp only
        split
        · next hflow =>
          rw [ih, and_iff_right hflow, List.append_assoc, List.singleton_append]
        · next hflow =>
          refine iff_of_false (fun h => by cases h) ?_
          rintro ⟨⟨h, -⟩, -⟩
          exact hflow h

end Accepts

/-- Nothing goes wrong between the description of the pipeline and the last sample. -/
structure Completes (gst : MuxPipeline) (buffers : List GstBuffer) : Prop where
  parse : gst.parse = .ok ()
  hasEnds : gst.hasEnds = true
  starts : gst.starts = true
  takes : Takes gst [] buffers
  /-- An error without a text passes for the end of the stream. -/
  ended : ∃ message, gst.message buffers = some message ∧ message.failure = ""
  container : gst.container buffers ≠ []

/-- The bytes that come out. -/
def produced (gst : MuxPipeline) (normalizeTimestamps : Bool) (buffers : List GstBuffer) :
    List UInt8 :=
  if normalizeTimestamps then normalizeIsoBmffTimestamps (gst.container buffers)
  else gst.container buffers

section Mux

variable {gst : MuxPipeline} {normalizeTimestamps : Bool}

theorem finish_eq_ok_iff {sent : List GstBuffer} {bytes : List UInt8} :
    finish gst normalizeTimestamps sent = .ok bytes ↔
      (∃ message, gst.message sent = some message ∧ message.failure = "") ∧
        gst.container sent ≠ [] ∧ bytes = produced gst normalizeTimestamps sent := by
  rw [finish, produced]
  cases hmessage : gst.message sent with
  | none =>
    refine iff_of_false (fun h => by cases h) ?_
    rintro ⟨⟨message, h, -⟩, -⟩
    cases h
  | some message =>
    dsimp only
    by_cases hfailure : message.failure = ""
    · rw [if_neg (not_not.mpr hfailure), and_iff_right ⟨message, rfl, hfailure⟩]
      by_cases hempty : gst.container sent = []
      · rw [if_pos hempty]
        exact iff_of_false (fun h => by cases h) fun h => h.1 hempty
      · rw [if_neg hempty, and_iff_right hempty]
        cases normalizeTimestamps with
        | true =>
          show Except.ok _ = Except.ok _ ↔ _
          rw [Except.ok.injEq]
          exact eq_comm
        | false =>
          show Except.ok _ = Except.ok _ ↔ _
          rw [Except.ok.injEq]
          exact eq_comm
    · rw [if_pos hfailure]
      refine iff_of_false (fun h => by cases h) ?_
      rintro ⟨⟨message', h, hempty⟩, -⟩
      obtain rfl := Option.some.inj h
      exact hfailure hempty

/-- **When there is a container.** -/
theorem muxContainer_eq_ok_iff {segment : ExtractedSegment} {bytes : List UInt8} :
    muxContainer gst normalizeTimestamps segment = .ok bytes ↔
      segment.frames ≠ [] ∧ Completes gst (timeline segment.frames) ∧
        bytes = produced gst normalizeTimestamps (timeline segment.frames) := by
  rw [muxContainer]
  by_cases hframes : segment.frames = []
  · rw [if_pos hframes]
    exact iff_of_false (fun h => by cases h) fun h => h.1 hframes
  rw [if_neg hframes, and_iff_right hframes]
  cases hparse : gst.parse with
  | error text =>
    refine iff_of_false (fun h => by cases h) ?_
    rintro ⟨hcompletes, -⟩
    rw [hcompletes.parse] at hparse
    cases hparse
  | ok _ =>
    dsimp only
    cases hends : gst.hasEnds with
    | false => exact iff_of_false (fun h => by cases h) fun h => absurd h.1.hasEnds (by rw [hends]; decide)
    | true =>
      cases hstarts : gst.starts with
      | false => exact iff_of_false (fun h => by cases h) fun h => absurd h.1.starts (by rw [hstarts]; decide)
      | true =>
        show pushFrames _ _ _ _ _ _ _ >>= _ = _ ↔ _
        rw [bind_eq_ok_iff]
        constructor
        · rintro ⟨sent, hsent, hfinish⟩
          obtain ⟨htakes, rfl⟩ := pushFrames_eq_ok_iff.mp hsent
          rw [List.nil_append] at hfinish
          obtain ⟨hended, hcontainer, hbytes⟩ := finish_eq_ok_iff.mp hfinish
          exact ⟨⟨hparse, hends, hstarts, htakes, hended, hcontainer⟩, hbytes⟩
        · rintro ⟨hcompletes, hbytes⟩
          exact ⟨timeline segment.frames, pushFrames_eq_ok_iff.mpr ⟨hcompletes.takes, rfl⟩,
            finish_eq_ok_iff.mpr ⟨hcompletes.ended, hcompletes.container, hbytes⟩⟩

end Mux

end GStreamerMp4Muxer

/-! ### Behind a ring buffer -/

namespace GStreamerMp4Muxer

open MediaBuffer

/-- Containers of one size that differ in their dates at most. -/
def DiffersInDates (container other : List UInt8) : Prop :=
  container.length = other.length ∧ AgreeOutside (datePositions container) container other

theorem normalize_eq_iff {container other : List UInt8} :
    normalizeIsoBmffTimestamps container = normalizeIsoBmffTimestamps other ↔
      DiffersInDates container other := by
  rw [DiffersInDates, datePositions, ← positions_datePatch, normalizeIsoBmffTimestamps_eq,
    normalizeIsoBmffTimestamps_eq]
  by_cases hlength : container.length = other.length
  · rw [and_iff_right hlength]
    exact dateFields_locates.overwrite_eq_iff hlength
  · -- a date is written over, none is added
    refine iff_of_false (fun heq => hlength ?_) fun h => hlength h.1
    have hsize := congrArg List.length heq
    rwa [Patch.length_overwrite, Patch.length_overwrite] at hsize

section Camera

variable {capacity : BufferCapacity} {store : SharedMemoryFrameStore} {frames : List CapturedFrame}
  {window : CaptureWindow} {segment : ExtractedSegment}

/-- The frames of a window stand side by side on the tape, and can be muxed. -/
theorem muxable_of_camera (hcap : store.capacityBytes = capacity.totalBytes)
    (hopen : store.isClosed = false)
    (h : extractCaptureWindow (ingestAll capacity store frames).1 window = .ok segment) :
    segment.frames <:+: (tapeAll capacity.totalBytes frames).frames ∧ Muxable segment.frames := by
  obtain ⟨-, accepted, htaped⟩ := ingestAll_taped hcap hopen frames
  have hpart : segment.frames <:+: (tapeAll capacity.totalBytes frames).frames :=
    (extract_held htaped.sound h).trans htaped.held.isInfix
  refine ⟨hpart, ?_, ?_, ?_⟩
  · -- a segment has its first frame
    obtain ⟨index, hindex, hframes⟩ := extractCaptureWindow_ok h
    have hnewest := htaped.run.newest
    obtain ⟨first, hsegment⟩ := segmentFor_ok hnewest.numbered hnewest.clock_live hindex
    intro hnil
    rw [hnil, List.forall₂_nil_right_iff] at hframes
    have hhead := hsegment.head
    rw [hframes] at hhead
    cases hhead
  · intro frame hframe
    exact data_ne_nil_of_tapeAll _ frames frame (hpart.subset hframe)
  · exact (htaped.ordered.sublist hpart.sublist).imp fun h => h.2

/-- **From the camera to the container.** Of what was delivered, the muxer is given the frames of
the window as they stand side by side on the tape, each at its distance from the first. There is a
container exactly if nothing goes wrong on the way, and another run of the pipeline makes the same
one, bit for bit, if it differs in dates at most. -/
theorem container_of_camera (hcap : store.capacityBytes = capacity.totalBytes)
    (hopen : store.isClosed = false)
    (h : extractCaptureWindow (ingestAll capacity store frames).1 window = .ok segment) :
    (segment.frames <:+: (tapeAll capacity.totalBytes frames).frames ∧
      ((tapeAll capacity.totalBytes frames).frames.map ExtractedFrame.footage).Sublist
        (frames.map CapturedFrame.footage)) ∧
    KeepsSpacing segment.frames (timeline segment.frames) ∧
    (∀ gst bytes, muxContainer gst true segment = .ok bytes ↔
      Completes gst (timeline segment.frames) ∧
        bytes = normalizeIsoBmffTimestamps (gst.container (timeline segment.frames))) ∧
    ∀ gst gst' bytes bytes', muxContainer gst true segment = .ok bytes →
      muxContainer gst' true segment = .ok bytes' →
        (bytes = bytes' ↔ DiffersInDates (gst.container (timeline segment.frames))
          (gst'.container (timeline segment.frames))) := by
  obtain ⟨hpart, hmuxable⟩ := muxable_of_camera hcap hopen h
  have hproduced : ∀ gst bytes, muxContainer gst true segment = .ok bytes ↔
      Completes gst (timeline segment.frames) ∧
        bytes = normalizeIsoBmffTimestamps (gst.container (timeline segment.frames)) := by
    intro gst bytes
    rw [muxContainer_eq_ok_iff, and_iff_right hmuxable.ne_nil]
    exact Iff.rfl
  refine ⟨⟨hpart, tapeAll_footage _ frames⟩, hmuxable.timeline_keepsSpacing, hproduced, ?_⟩
  intro gst gst' bytes bytes' hbytes hbytes'
  rw [((hproduced gst bytes).mp hbytes).2, ((hproduced gst' bytes').mp hbytes').2]
  exact normalize_eq_iff

end Camera

/-- A keyframe, and a frame forty milliseconds later. -/
def twoFrames : List CapturedFrame :=
  [⟨0, [1, 2], true, "live"⟩, ⟨40000000, [3], false, "live"⟩]

def wholeWindow : CaptureWindow := ⟨0, 40000000, by decide⟩

def keyframeSegment : ExtractedSegment where
  requestedWindow := wholeWindow
  sessionId := "live"
  frames := [⟨0, 0, true, [1, 2]⟩, ⟨1, 40000000, false, [3]⟩]
  isTruncatedAtStart := false
  isTruncatedAtEnd := false

/-- A pipeline that takes everything and writes the bytes one behind the other. -/
def plainPipeline : MuxPipeline where
  parse := .ok ()
  hasEnds := true
  starts := true
  flow _ := 0
  message _ := some .eos
  container buffers := buffers.flatMap GstBuffer.data

theorem container_of_camera_plain :
    muxContainer plainPipeline true keyframeSegment = .ok [1, 2, 3] := by
  have hextract : extractCaptureWindow (MediaBuffer.ingestAll ⟨4, by decide⟩
      (.create "ring" ⟨4, by decide⟩) twoFrames).1 wholeWindow = .ok keyframeSegment := by
    rfl
  refine ((container_of_camera rfl rfl hextract).2.2.1 _ _).mpr ⟨?_, by rfl⟩
  exact ⟨rfl, rfl, rfl, fun _ _ _ => rfl, ⟨.eos, rfl, rfl⟩, List.cons_ne_nil _ _⟩

end GStreamerMp4Muxer

end Ods.S4
