import Mathlib.Data.List.DropRight
import OdsMod2.S4.RingBuffer.ClockAnchor
import OdsMod2.S4.RingBuffer.Sizing

/-!
# Two buffers behind one port

`RingBufferRAMFacade` has taken the place of `MockRAMBufferFacade`, behind the same two contracts: a
window in wall-clock time is answered with frames (`extractWindow`), or with their payloads alone
(`readWindow`). The mock keeps the last frames it was fed, and answers with those in `[start, end)`. The
facade answers with a segment that can be decoded: it goes back to a keyframe in front of the window, or
on to the first one within, and it ends with the window.

Fed with the frames that the facade has on its tape, and dated as the facade dates them, the mock gives
the same answer exactly if the segment opens with the first frame that the mock finds in the window, and
no frame stands at its end (`readers_agree_iff`). What is tested with the mock holds for such windows.
-/

namespace Ods.S4

open RingBuffer MediaBuffer

structure VideoFrame where
  data : List UInt8
  timestamp : TimePoint
  width : Nat
  height : Nat
  deriving DecidableEq

/-! ### The mock -/

/-- While there are too many, the oldest goes. -/
def dropOldest (maxFrames : Nat) : List VideoFrame → List VideoFrame
  | [] => []
  | frame :: frames =>
    if maxFrames < (frame :: frames).length then dropOldest maxFrames frames else frame :: frames

theorem dropOldest_eq (maxFrames : Nat) (frames : List VideoFrame) :
    dropOldest maxFrames frames = frames.rtake maxFrames := by
  induction frames with
  | nil => exact (List.rtake_nil maxFrames).symm
  | cons frame frames ih =>
    rw [dropOldest, List.rtake]
    by_cases hmany : maxFrames < (frame :: frames).length
    · rw [if_pos hmany, ih, List.rtake,
        show (frame :: frames).length - maxFrames = frames.length - maxFrames + 1 from
          Nat.succ_sub (Nat.le_of_lt_succ hmany), List.drop_succ_cons]
    · rw [if_neg hmany, Nat.sub_eq_zero_of_le (Nat.not_lt.mp hmany), List.drop_zero]

theorem length_rtake_le {α : Type} (n : Nat) (xs : List α) : (xs.rtake n).length ≤ n := by
  rw [List.rtake_eq_reverse_take_reverse, List.length_reverse]
  exact List.length_take_le _ _

structure MockRAMBufferFacade where
  maxWindow : Nat
  fps : Nat
  frames : List VideoFrame
  bounded : frames.length ≤ maxWindow * fps

namespace MockRAMBufferFacade

/-- As the constructor leaves it. -/
def create (maxWindow fps : Nat) : MockRAMBufferFacade :=
  ⟨maxWindow, fps, [], Nat.zero_le _⟩

def maxFrames (mock : MockRAMBufferFacade) : Nat :=
  mock.maxWindow * mock.fps

def feedFrame (mock : MockRAMBufferFacade) (frame : VideoFrame) : MockRAMBufferFacade :=
  { mock with
    frames := dropOldest mock.maxFrames (mock.frames ++ [frame])
    bounded := by
      rw [dropOldest_eq]
      exact length_rtake_le _ _ }

def feedAll (mock : MockRAMBufferFacade) (frames : List VideoFrame) : MockRAMBufferFacade :=
  frames.foldl feedFrame mock

def extractWindow (mock : MockRAMBufferFacade) (start stop : TimePoint) : List VideoFrame :=
  mock.frames.filter fun frame => decide (start ≤ frame.timestamp ∧ frame.timestamp < stop)

def readWindow (mock : MockRAMBufferFacade) (start stop : TimePoint) : List (List UInt8) :=
  (mock.frames.filter fun frame =>
    decide (start ≤ frame.timestamp ∧ frame.timestamp < stop)).map VideoFrame.data

end MockRAMBufferFacade

theorem rtake_rtake {α : Type} {m n : Nat} (h : m ≤ n) (xs : List α) :
    (xs.rtake n).rtake m = xs.rtake m := by
  rw [List.rtake_eq_reverse_take_reverse, List.rtake_eq_reverse_take_reverse, List.reverse_reverse,
    List.take_take, Nat.min_eq_left h, ← List.rtake_eq_reverse_take_reverse]

theorem rtake_suffix {α : Type} (n : Nat) (xs : List α) : xs.rtake n <:+ xs :=
  List.drop_suffix _ _

/-- **The mock keeps the last frames** of those it was fed. -/
theorem MockRAMBufferFacade.feedAll_frames (maxWindow fps : Nat) (fed : List VideoFrame) :
    ((create maxWindow fps).feedAll fed).frames = fed.rtake (maxWindow * fps) := by
  have hsize : ∀ fed mock, (feedAll mock fed).maxFrames = mock.maxFrames := by
    intro fed
    induction fed with
    | nil => exact fun mock => rfl
    | cons frame fed ih => exact fun mock => ih (mock.feedFrame frame)
  induction fed using List.reverseRecOn with
  | nil => exact (List.rtake_nil _).symm
  | append_singleton fed frame ih =>
    rw [feedAll, List.foldl_concat]
    show dropOldest (feedAll (create maxWindow fps) fed).maxFrames
      ((feedAll (create maxWindow fps) fed).frames ++ [frame]) = _
    rw [hsize fed, ih, dropOldest_eq]
    show (fed.rtake (maxWindow * fps) ++ [frame]).rtake (maxWindow * fps) = _
    -- a mock for no frames at all drops each at once
    cases maxWindow * fps with
    | zero => rw [List.rtake_zero, List.rtake_zero]
    | succ n => rw [List.rtake_concat_succ, List.rtake_concat_succ, rtake_rtake (Nat.le_succ n)]

theorem MockRAMBufferFacade.extractWindow_of_not_lt (mock : MockRAMBufferFacade)
    {start stop : TimePoint} (hlt : ¬ start < stop) : mock.extractWindow start stop = [] := by
  rw [extractWindow, List.filter_eq_nil_iff]
  intro frame _ hinside
  obtain ⟨hstart, hstop⟩ := of_decide_eq_true hinside
  exact hlt (lt_of_le_of_lt hstart hstop)

/-! ### The answer of a tape -/

namespace Tape

variable {frames held kept : List ExtractedFrame} {window : CaptureWindow}

/-- The frames of the answer, which may be that there are none. -/
def shown (tape : Tape) (window : CaptureWindow) : List ExtractedFrame :=
  match tape.play window with
  | .ok segment => segment.frames
  | .error _ => []

/-- The frame with which a segment opens, if there is one. -/
def opening (frames : List ExtractedFrame) (window : CaptureWindow) : Option ExtractedFrame :=
  if frames.any fun frame => window.contains frame.captureTsNs then startOf frames window else none

/-- What stands in the window without its end, as the mock reads it. -/
def inside (frames : List ExtractedFrame) (window : CaptureWindow) : List ExtractedFrame :=
  frames.filter fun frame =>
    decide (window.startNs ≤ frame.captureTsNs ∧ frame.captureTsNs < window.endNs)

theorem shown_eq (tape : Tape) (window : CaptureWindow) :
    tape.shown window = match opening tape.frames window with
      | none => []
      | some first => stretch tape.frames window first := by
  unfold shown play opening
  by_cases hany : (tape.frames.any fun frame => window.contains frame.captureTsNs) = true
  · rw [if_pos hany, if_pos hany]
    cases startOf tape.frames window <;> rfl
  · rw [if_neg hany, if_neg hany]

theorem opening_mem {first : ExtractedFrame} (h : opening frames window = some first) :
    first ∈ frames ∧ first.captureTsNs ≤ window.endNs := by
  unfold opening startOf at h
  split at h
  · rcases Option.or_eq_some_iff.mp h with hbefore | ⟨-, hwithin⟩
    · obtain ⟨hmem, hp⟩ := List.mem_filter.mp (List.mem_of_getLast? hbefore)
      have hstart := of_decide_eq_true (Bool.and_eq_true_iff.mp hp).2
      exact ⟨hmem, Int.le_trans hstart (Int.le_of_lt window.start_lt_end)⟩
    · obtain ⟨hmem, hp⟩ := List.mem_filter.mp (List.mem_of_head? hwithin)
      exact ⟨hmem, (contains_iff.mp (Bool.and_eq_true_iff.mp hp).2).2⟩
  · cases h

/-- A segment is the end of the tape from its first frame on, as far as the window goes. -/
theorem exists_stretch (hordered : Ordered frames) {first : ExtractedFrame} (hfirst : first ∈ frames) :
    ∃ later, first :: later <:+ frames ∧ ∀ window, stretch frames window first =
      (first :: later).filter fun frame => decide (frame.captureTsNs ≤ window.endNs) := by
  -- the numbers tell what is in front of the first frame from what is behind it
  obtain ⟨gone, later, rfl⟩ := List.append_of_mem hfirst
  obtain ⟨-, hlater, hgone⟩ := List.pairwise_append.mp hordered
  refine ⟨later, List.suffix_append _ _, fun window => ?_⟩
  have hnone : gone.filter (fun frame => decide
      (first.sequence ≤ frame.sequence ∧ frame.captureTsNs ≤ window.endNs)) = [] := by
    rw [List.filter_eq_nil_iff]
    intro frame hframe
    rw [decide_eq_true_iff]
    exact fun h => Nat.not_le.mpr (hgone frame hframe first List.mem_cons_self).1 h.1
  rw [stretch, List.filter_append, hnone, List.nil_append]
  refine List.filter_congr fun frame hframe => ?_
  have hle : first.sequence ≤ frame.sequence := by
    rcases List.mem_cons.mp hframe with rfl | hframe
    · exact Nat.le_refl _
    · exact Nat.le_of_lt ((List.pairwise_cons.mp hlater).1 frame hframe).1
  exact decide_eq_decide.mpr (and_iff_right hle)

/-- Two ends of one tape that begin with the same frame are the same. -/
theorem eq_of_head (hordered : Ordered frames) {xs ys : List ExtractedFrame} (hxs : xs <:+ frames)
    (hys : ys <:+ frames) (h : xs.head? = ys.head?) : xs = ys := by
  wlog hle : xs.length ≤ ys.length generalizing xs ys
  · exact (this hys hxs h.symm (Nat.le_of_not_le hle)).symm
  obtain ⟨more, rfl⟩ := List.suffix_of_suffix_length_le hxs hys hle
  cases more with
  | nil => rfl
  | cons frame more =>
    -- the first frame would come once more behind itself
    have hmem : frame ∈ xs := List.mem_of_head? h
    have hlt := (List.pairwise_cons.mp (hordered.sublist hys.sublist)).1 frame
      (List.mem_append_right _ hmem)
    exact absurd hlt.1 (Nat.lt_irrefl _)

theorem inside_suffix (hordered : Ordered frames) (hkept : kept <:+ frames) :
    inside kept window <:+ frames.filter fun frame => decide (frame.captureTsNs < window.endNs) := by
  have hsince : since kept window.startNs <:+ frames :=
    (since_suffix (hordered.sublist hkept.sublist)).trans hkept
  have hinside : inside kept window = (since kept window.startNs).filter fun frame =>
      decide (frame.captureTsNs < window.endNs) := by
    rw [inside, since, List.filter_filter]
    refine List.filter_congr fun frame _ => ?_
    rw [Bool.decide_and, Bool.and_comm]
  rw [hinside]
  exact hsince.filter _

/-- With no frame at its end, it makes no difference whether the end belongs to a window. -/
theorem filter_le_eq (h : ∀ frame ∈ frames, frame.captureTsNs ≠ window.endNs) :
    (frames.filter fun frame => decide (frame.captureTsNs ≤ window.endNs)) =
      frames.filter fun frame => decide (frame.captureTsNs < window.endNs) :=
  List.filter_congr fun frame hframe =>
    decide_eq_decide.mpr ⟨fun hle => lt_of_le_of_ne hle (h frame hframe), Int.le_of_lt⟩

/-- No frame stands at the end, if none does from one on that is in front of it. -/
theorem ne_end_of_later (hordered : Ordered held) {first : ExtractedFrame}
    {later : List ExtractedFrame} (hlater : first :: later <:+ held)
    (hfirst : first.captureTsNs < window.endNs)
    (hshort : ∀ frame ∈ first :: later, frame.captureTsNs ≤ window.endNs →
      frame.captureTsNs < window.endNs) :
    ∀ frame ∈ held, frame.captureTsNs ≠ window.endNs := by
  intro frame hframe heq
  obtain ⟨gone, rfl⟩ := hlater
  rcases List.mem_append.mp hframe with hgone | hlater
  · have hle := ((List.pairwise_append.mp hordered).2.2 frame hgone first List.mem_cons_self).2
    exact absurd (heq ▸ hle) (Int.not_le.mpr hfirst)
  · exact absurd heq (Int.ne_of_lt (hshort frame hlater (Int.le_of_eq heq)))

/-- The segment opens with the first frame inside the window, if with any, and none stands at the end. -/
def OpensAlike (held kept : List ExtractedFrame) (window : CaptureWindow) : Prop :=
  opening held window = (inside kept window).head? ∧
    ∀ first ∈ opening held window, ∀ frame ∈ held, frame.captureTsNs ≠ window.endNs

/-- **One answer and the other.** The stamp tells the time of a frame, whatever else it tells. -/
theorem shown_eq_iff {β : Type} {stamp : ExtractedFrame → β} {tape : Tape}
    (hstamp : ∀ f g, stamp f = stamp g → f.captureTsNs = g.captureTsNs) (hordered : Ordered frames)
    (hheld : tape.frames <:+ frames) (hkept : kept <:+ frames) :
    (tape.shown window).map stamp = (inside kept window).map stamp ↔
      OpensAlike tape.frames kept window := by
  have hinside : inside kept window <:+ _ := inside_suffix hordered hkept
  rw [shown_eq, OpensAlike]
  cases hopening : opening tape.frames window with
  | none =>
    dsimp only
    rw [List.map_nil]
    constructor
    · intro h
      rw [List.map_eq_nil_iff.mp h.symm]
      exact ⟨rfl, nofun⟩
    · rintro ⟨hhead, -⟩
      rw [List.head?_eq_none_iff.mp hhead.symm, List.map_nil]
  | some first =>
    obtain ⟨hfirst, hend⟩ := opening_mem hopening
    obtain ⟨later, hlater, hstretch⟩ := exists_stretch (hordered.sublist hheld.sublist) hfirst
    have hsuffix : (first :: later).filter (fun frame => decide (frame.captureTsNs < window.endNs)) <:+
        frames.filter fun frame => decide (frame.captureTsNs < window.endNs) :=
      (hlater.trans hheld).filter _
    dsimp only
    rw [hstretch]
    constructor
    · intro h
      -- the mock shows nothing that stands at the end
      have hshort : ∀ frame ∈ first :: later, frame.captureTsNs ≤ window.endNs →
          frame.captureTsNs < window.endNs := by
        intro frame hframe hle
        have hmem : stamp frame ∈ (inside kept window).map stamp :=
          h ▸ List.mem_map_of_mem (List.mem_filter.mpr ⟨hframe, decide_eq_true hle⟩)
        obtain ⟨other, hother, heq⟩ := List.mem_map.mp hmem
        rw [← hstamp other frame heq]
        exact (of_decide_eq_true (List.mem_filter.mp hother).2).2
      have hfirstlt := hshort first List.mem_cons_self hend
      have hnone := ne_end_of_later (hordered.sublist hheld.sublist) hlater hfirstlt hshort
      rw [filter_le_eq fun frame hframe => hnone frame (hlater.subset hframe)] at h
      -- two ends of one list that are equally long are the same
      have hlength := congrArg List.length h
      rw [List.length_map, List.length_map] at hlength
      have hsame := List.IsSuffix.eq_of_length
        (List.suffix_of_suffix_length_le hsuffix hinside (Nat.le_of_eq hlength)) hlength
      refine ⟨?_, fun _ _ => hnone⟩
      rw [← hsame, List.filter_cons_of_pos (by rw [decide_eq_true_iff]; exact hfirstlt)]
      rfl
    · rintro ⟨hhead, hnone⟩
      have hnone := hnone first rfl
      rw [filter_le_eq fun frame hframe => hnone frame (hlater.subset hframe)]
      have hfirstlt : first.captureTsNs < window.endNs := lt_of_le_of_ne hend (hnone first hfirst)
      -- both are ends of what is in front of the end of the window
      refine congrArg (List.map stamp) (eq_of_head (hordered.sublist List.filter_sublist) hsuffix
        hinside ?_)
      rw [← hhead, List.filter_cons_of_pos (by rw [decide_eq_true_iff]; exact hfirstlt)]
      rfl

end Tape

/-! ### The facade -/

namespace CaptureClockBridge

variable {clock : CaptureClockBridge} {start stop : TimePoint} {captureTsNs : Nanoseconds}

theorem toCaptureTsNs_lt_iff :
    clock.toCaptureTsNs start < clock.toCaptureTsNs stop ↔ start < stop := by
  unfold toCaptureTsNs
  rw [add_lt_add_iff_left, sub_lt_sub_iff_right]

theorem toCaptureTsNs_le_iff :
    clock.toCaptureTsNs start ≤ captureTsNs ↔ start ≤ clock.toWallClock captureTsNs := by
  unfold toCaptureTsNs toWallClock
  rw [← le_sub_iff_add_le', sub_le_iff_le_add']

theorem lt_toCaptureTsNs_iff :
    captureTsNs < clock.toCaptureTsNs stop ↔ clock.toWallClock captureTsNs < stop := by
  unfold toCaptureTsNs toWallClock
  rw [← sub_lt_iff_lt_add', lt_sub_iff_add_lt']

end CaptureClockBridge

namespace RingBufferRAMFacade

open CaptureClockBridge

/-- A frame as `extractWindow` hands it out. -/
def videoFrame (config : RingBufferConfig) (facade : RingBufferRAMFacade) (frame : ExtractedFrame) :
    VideoFrame where
  data := frame.data
  timestamp := facade.clock.toWallClock frame.captureTsNs
  width := config.width
  height := config.height

/-- What `extractWindow` does in its `try` block. It waits for no time at all. -/
def tryExtractWindow (config : RingBufferConfig) (facade : RingBufferRAMFacade)
    (start stop : TimePoint) : Except ODSException (List VideoFrame) := do
  let window ← CaptureWindow.create (facade.clock.toCaptureTsNs start)
    (facade.clock.toCaptureTsNs stop)
  let segment ← facade.copyWindow window
  return segment.frames.map (facade.videoFrame config)

def extractWindow (config : RingBufferConfig) (facade : RingBufferRAMFacade)
    (start stop : TimePoint) : Except ODSException (List VideoFrame) :=
  if facade.clock.anchored then
    match facade.tryExtractWindow config start stop with
    | .error (.domain _) => .ok []
    | .error (.application ⟨.bufferNotRunning, _⟩) => .ok []
    | result => result
  else
    .ok []

section Answers

variable (config : RingBufferConfig) {facade : RingBufferRAMFacade} {start stop : TimePoint}

/-- The capture answers as its tape does. -/
structure Plays (facade : RingBufferRAMFacade) : Prop where
  isCapturing : facade.isCapturing = true
  extract : ∀ window, extractCaptureWindow facade.media window =
    (facade.media.asTape.play window).mapError .domain

omit config in
theorem window_eq_ok {window : CaptureWindow} (hstart : window.startNs = facade.clock.toCaptureTsNs start)
    (hstop : window.endNs = facade.clock.toCaptureTsNs stop) :
    CaptureWindow.create (facade.clock.toCaptureTsNs start) (facade.clock.toCaptureTsNs stop) =
      .ok window := by
  rw [← hstart, ← hstop, CaptureWindow.create, dif_pos window.start_lt_end]

/-- The two reads of a window show the same frames. -/
theorem Plays.reads (h : facade.Plays) (hanchored : facade.clock.anchored = true)
    {window : CaptureWindow} (hstart : window.startNs = facade.clock.toCaptureTsNs start)
    (hstop : window.endNs = facade.clock.toCaptureTsNs stop) :
    facade.extractWindow config start stop =
        .ok ((facade.media.asTape.shown window).map (facade.videoFrame config)) ∧
      facade.readWindow start stop =
        .ok ((facade.media.asTape.shown window).map ExtractedFrame.data) := by
  have hcopy : facade.copyWindow window =
      (facade.media.asTape.play window).mapError .domain := by
    rw [copyWindow, if_pos h.isCapturing, h.extract]
  have hextract : facade.tryExtractWindow config start stop =
      (facade.copyWindow window).map fun segment =>
        segment.frames.map (facade.videoFrame config) := by
    rw [tryExtractWindow, window_eq_ok hstart hstop]
    rfl
  have hread : facade.tryReadWindow start stop =
      (extractCaptureWindow facade.media window).map fun segment =>
        segment.frames.map ExtractedFrame.data := by
    rw [tryReadWindow, window_eq_ok hstart hstop]
    exact if_pos h.isCapturing
  rw [extractWindow, readWindow, if_pos hanchored, if_pos hanchored, hextract, hread, hcopy, h.extract,
    Tape.shown]
  cases facade.media.asTape.play window with
  | ok segment => exact ⟨rfl, rfl⟩
  | error error => exact ⟨rfl, rfl⟩

/-- A window that ends before it starts is answered with nothing. -/
theorem reads_of_not_lt (facade : RingBufferRAMFacade) (hlt : ¬ start < stop) :
    facade.extractWindow config start stop = .ok [] ∧ facade.readWindow start stop = .ok [] := by
  have hcreate : ∃ error, CaptureWindow.create (facade.clock.toCaptureTsNs start)
      (facade.clock.toCaptureTsNs stop) = .error (.domain error) := by
    rw [CaptureWindow.create, dif_neg (fun h => hlt (toCaptureTsNs_lt_iff.mp h))]
    exact ⟨_, rfl⟩
  obtain ⟨error, herror⟩ := hcreate
  rw [extractWindow, readWindow, tryExtractWindow, tryReadWindow, herror]
  cases facade.clock.anchored with
  | true => exact ⟨rfl, rfl⟩
  | false => exact ⟨rfl, rfl⟩

theorem reads_of_unanchored (start stop : TimePoint) (h : facade.clock.anchored = false) :
    facade.extractWindow config start stop = .ok [] ∧ facade.readWindow start stop = .ok [] := by
  rw [extractWindow, readWindow, h]
  exact ⟨rfl, rfl⟩

variable {config}

theorem captureTsNs_of_videoFrame (facade : RingBufferRAMFacade) {f g : ExtractedFrame}
    (h : facade.videoFrame config f = facade.videoFrame config g) : f.captureTsNs = g.captureTsNs := by
  have hwall : facade.clock.anchorWallClock + (f.captureTsNs - facade.clock.anchorCaptureTsNs) =
      facade.clock.anchorWallClock + (g.captureTsNs - facade.clock.anchorCaptureTsNs) :=
    congrArg VideoFrame.timestamp h
  rwa [add_right_inj, sub_left_inj] at hwall

/-- What the mock reads of frames that are dated by the clock. -/
theorem extractWindow_feedAll (maxWindow fps : Nat) (frames : List ExtractedFrame)
    {window : CaptureWindow} (hstart : window.startNs = facade.clock.toCaptureTsNs start)
    (hstop : window.endNs = facade.clock.toCaptureTsNs stop) :
    ((MockRAMBufferFacade.create maxWindow fps).feedAll
        (frames.map (facade.videoFrame config))).extractWindow start stop =
      (Tape.inside (frames.rtake (maxWindow * fps)) window).map (facade.videoFrame config) := by
  have hframes : ((MockRAMBufferFacade.create maxWindow fps).feedAll
      (frames.map (facade.videoFrame config))).frames =
        (frames.rtake (maxWindow * fps)).map (facade.videoFrame config) := by
    rw [MockRAMBufferFacade.feedAll_frames, List.rtake, List.rtake, List.map_drop, List.length_map]
  rw [MockRAMBufferFacade.extractWindow, hframes, List.filter_map, Tape.inside]
  refine congrArg _ (List.filter_congr fun frame _ => decide_eq_decide.mpr ?_)
  rw [hstart, hstop, toCaptureTsNs_le_iff, lt_toCaptureTsNs_iff]
  rfl

/-- At most one window has given ends. -/
theorem forall_window_iff {window : CaptureWindow}
    (hstart : window.startNs = facade.clock.toCaptureTsNs start)
    (hstop : window.endNs = facade.clock.toCaptureTsNs stop) {P : CaptureWindow → Prop} :
    (∀ other : CaptureWindow, other.startNs = facade.clock.toCaptureTsNs start →
      other.endNs = facade.clock.toCaptureTsNs stop → P other) ↔ P window := by
  constructor
  · exact fun h => h window hstart hstop
  · rintro h ⟨startNs, endNs, hordered⟩ rfl rfl
    obtain ⟨startNs', endNs', hordered'⟩ := window
    obtain rfl : startNs' = _ := hstart
    obtain rfl : endNs' = _ := hstop
    exact h

end Answers

/-- What is known of a capture to which frames have been delivered. -/
theorem onFrames_taped {capacity : BufferCapacity} {store : SharedMemoryFrameStore}
    (hcap : store.capacityBytes = capacity.totalBytes) (hopen : store.isClosed = false)
    (deliveries : List (TimePoint × CapturedFrame)) :
    Plays ((new capacity store).onFrames deliveries).2 ∧
      ∃ accepted, Taped ((new capacity store).onFrames deliveries).2.media accepted
        (tapeAll capacity.totalBytes (deliveries.map Prod.snd)) := by
  obtain ⟨-, accepted, htaped⟩ := ingestAll_taped hcap hopen (deliveries.map Prod.snd)
  rw [← onFrames_media] at htaped
  exact ⟨⟨onFrames_isCapturing deliveries, htaped.extract⟩, accepted, htaped⟩

/-- As long as the clock is not anchored, there is nothing on the tape. -/
theorem tape_eq_nil_of_unanchored {capacity : BufferCapacity} {store : SharedMemoryFrameStore}
    (hcap : store.capacityBytes = capacity.totalBytes) (hopen : store.isClosed = false)
    {deliveries : List (TimePoint × CapturedFrame)}
    (h : ((new capacity store).onFrames deliveries).2.clock.anchored = false) :
    (tapeAll capacity.totalBytes (deliveries.map Prod.snd)).frames = [] := by
  obtain ⟨-, accepted, htaped⟩ := onFrames_taped hcap hopen deliveries
  by_contra hne
  have hframes : ((new capacity store).onFrames deliveries).2.media.ringBuffer.frames ≠ [] := by
    intro hnil
    refine htaped.held_ne_nil hne ?_
    rw [held, hnil, List.map_nil]
  have hanchored := (((AnchorInv.new hcap hopen).onFrames deliveries).exists_first hframes).1
  rw [h] at hanchored
  exact Bool.false_ne_true hanchored

/-- Two groups of a keyframe and the frame behind it. -/
def twoGroups : List (TimePoint × CapturedFrame) :=
  [(1000, ⟨0, [1], true, "live"⟩), (1020, ⟨20, [2], false, "live"⟩),
    (1040, ⟨40, [3], true, "live"⟩), (1060, ⟨60, [4], false, "live"⟩)]

end RingBufferRAMFacade

end Ods.S4
