import OdsMod2.S4.ExtractClip
import OdsMod2.S4.RingBuffer.Facade

/-!
# An extraction against a switch of sessions

A capture window is given on the capture clock and names no session. The extraction waits for the
window to be reached, copies what the buffer holds of it, and only after the file has been written
translates the window, one end after the other. If the source switches sessions meanwhile, the frames
or the translations are those of another session.

`clip_keepsSession` says that this is the only way: when the session of the request is still the
current one at the last translation, the clip shows that session and its window is translated with
that session's anchor. `switch_mixes_sessions` is a switch between the copy and the translation.
-/

namespace Ods.S4

open Prog ExtractClip RingBuffer MediaBuffer

namespace SessionSwitch

/-! ### The calls of the extraction -/

/-- The capture with what is behind the other ports. -/
structure CaptureState where
  capture : Capture
  service : ServiceState

abbrev RunState := Observed PortCall.Answer ODSException CaptureState Actor

/-- `BufferNotRunningError`. -/
def bufferNotRunning (message : String) : ODSException :=
  .application ⟨.bufferNotRunning, message⟩

/-- The wait for the end of the window. It is over at once if the window has been reached; otherwise
at any later moment at which the mutex is free, because the window has been reached by then or
because the time is up. -/
def Waits (window : CaptureWindow) (c c' : Capture) : Prop :=
  if c.facade.hasReached window.endNs then c' = c
  else c.Later c' ∧ c'.facade.source = .idle

/-- `RingBufferRAMFacade::extractCaptureWindow`. The mutex is taken when no frame is being
delivered. -/
inductive Extracts (window : CaptureWindow) (c : Capture) :
    Except ODSException ExtractedSegment → Capture → Prop
  | notStarted {c₁ : Capture} (hlater : c.Later c₁) (hidle : c₁.facade.source = .idle)
      (hcapturing : c₁.facade.isCapturing = false) :
      Extracts window c
        (.error (bufferNotRunning "call startCapture() before extracting segments")) c₁
  | stopped {c₁ c₂ : Capture} (hlater : c.Later c₁) (hidle : c₁.facade.source = .idle)
      (hcapturing : c₁.facade.isCapturing = true) (hwaits : Waits window c₁ c₂)
      (hstopped : c₂.facade.isCapturing = false) :
      Extracts window c
        (.error (bufferNotRunning "capture stopped while waiting for the post-event")) c₂
  | copied {c₁ c₂ : Capture} (hlater : c.Later c₁) (hidle : c₁.facade.source = .idle)
      (hcapturing : c₁.facade.isCapturing = true) (hwaits : Waits window c₁ c₂)
      (hstill : c₂.facade.isCapturing = true) :
      Extracts window c (extractCaptureWindow c₂.facade.media window) c₂

/-- `RingBufferRAMFacade::toWallClock`. It asks for the anchor and reads it in two steps, and neither
needs the mutex of the facade. -/
inductive Translates (captureTsNs : Nanoseconds) (c : Capture) :
    Except ODSException TimePoint → Capture → Prop
  | notAnchored {c₁ : Capture} (hlater : c.Later c₁)
      (hanchored : c₁.facade.clock.anchored = false) :
      Translates captureTsNs c
        (.error (bufferNotRunning
          "capture clock is not anchored yet; no frame has been ingested")) c₁
  | translated {c₁ c₂ : Capture} (hlater : c.Later c₁)
      (hanchored : c₁.facade.clock.anchored = true) (hlater' : c₁.Later c₂) :
      Translates captureTsNs c (.ok (c₂.facade.clock.toWallClock captureTsNs)) c₂

/-- The calls of the extraction, with the steps of the source's thread before and inside them. -/
def serves (env : Environment) : Handler PortCall.Answer ODSException CaptureState
  | .extractCaptureWindow window _, s, answer, s' =>
    Extracts window s.capture answer s'.capture ∧ s'.service = s.service
  | .toWallClock captureTsNs, s, answer, s' =>
    Translates captureTsNs s.capture answer s'.capture ∧ s'.service = s.service
  | op, s, answer, s' =>
    s.capture.Later s'.capture ∧ env.serves op s.service answer s'.service

/-! ### The clip and its session -/

/-- The call was made and answered so. -/
def Called (o : RunState) (op : PortCall) (answer : op.Answer) : Prop :=
  ∃ before after, ⟨.extraction, op, .ok answer, before, after⟩ ∈ o.history

/-- The call is a translation. -/
def isTranslation : PortCall → Bool
  | .toWallClock _ => true
  | _ => false

/-- The session of the request is still the current one at every translation of the run. -/
def StaysCurrent (start : Capture) (o : RunState) : Prop :=
  ∀ e ∈ o.history, isTranslation e.op = true →
    e.after.capture.chronicle.session = start.chronicle.session

/-- The clip shows the session of the request: it was made of frames accepted in that session, and
its window is the one requested, translated with that session's anchor. -/
def KeepsSession (start : Capture) (window : CaptureWindow) (waitTimeoutSeconds : Rat)
    (clip : MediaClip) (o : RunState) : Prop :=
  ∃ anchor segment container,
    o.world.capture.chronicle.anchorOf start.chronicle.session = some anchor ∧
    clip.timeWindow.startTime = anchor.toWallClock window.startNs ∧
    clip.timeWindow.endTime = anchor.toWallClock window.endNs ∧
    Called o (.extractCaptureWindow window waitTimeoutSeconds) segment ∧
    Called o (.mux segment) container ∧
    Called o (.writeFile clip.filePath container) () ∧
    ∀ frame ∈ segment.frames, ∃ captured,
      ⟨start.chronicle.session, frame.sequence, captured⟩ ∈
          o.world.capture.chronicle.accepted ∧
        frame = asHeld frame.sequence captured ∧
          captured.sessionId = start.facade.media.ringBuffer.sessionId

/-- An extraction that returns copied the buffer at a moment with no frame being delivered. -/
theorem exists_copied {window : CaptureWindow} {c c' : Capture} {segment : ExtractedSegment}
    (h : Extracts window c (.ok segment) c') :
    c.Later c' ∧ c'.facade.source = .idle ∧
      extractCaptureWindow c'.facade.media window = .ok segment := by
  generalize hanswer : Except.ok segment = answer at h
  cases h with
  | notStarted => cases hanswer
  | stopped => cases hanswer
  | @copied c₁ _ hlater hidle hcapturing hwaits hstill =>
    unfold Waits at hwaits
    split at hwaits
    · rw [hwaits]
      exact ⟨hlater, hidle, rfl⟩
    · exact ⟨hlater.trans hwaits.1, hwaits.2, rfl⟩

/-- A translation that returns uses the anchor the clock has at its end. -/
theorem exists_translated {captureTsNs : Nanoseconds} {c c' : Capture} {instant : TimePoint}
    (h : Translates captureTsNs c (.ok instant) c') :
    c.Later c' ∧ instant = c'.facade.clock.toWallClock captureTsNs := by
  generalize hanswer : Except.ok instant = answer at h
  cases h with
  | notAnchored => cases hanswer
  | translated hlater hanchored hlater' =>
    exact ⟨hlater.trans hlater', Except.ok.inj hanswer⟩

/-- The moments of an extraction that returned, in their order: the request, the copy, the two
translations, the end. -/
structure Moments (window : CaptureWindow) (segment : ExtractedSegment)
    (start copy translation translation' last : Capture) : Prop where
  waited : start.Later copy
  idle : copy.facade.source = .idle
  copied : extractCaptureWindow copy.facade.media window = .ok segment
  nonempty : segment.frames ≠ []
  written : copy.Later translation
  started : translation.Later translation'
  saved : translation'.Later last

/-- With one session from the request to the second translation, the copy and the translations
belong together. -/
theorem Moments.keepsSession {window : CaptureWindow} {segment : ExtractedSegment}
    {start copy translation translation' last : Capture}
    (h : Moments window segment start copy translation translation' last) (hinv : start.Inv)
    (hsession : start.facade.hasSession = true)
    (hsame : translation'.chronicle.session = start.chronicle.session) :
    ∃ anchor, last.chronicle.anchorOf start.chronicle.session = some anchor ∧
      translation.facade.clock.anchor = anchor ∧ translation'.facade.clock.anchor = anchor ∧
        ∀ frame ∈ segment.frames, ∃ captured,
          ⟨start.chronicle.session, frame.sequence, captured⟩ ∈ last.chronicle.accepted ∧
            frame = asHeld frame.sequence captured ∧
              captured.sessionId = start.facade.media.ringBuffer.sessionId := by
  -- sessions only go forward, so none of the moments is in another one
  have hle₁ := h.waited.session_le
  have hle₂ := h.written.session_le
  have hle₃ := h.started.session_le
  have hcopy : copy.chronicle.session = start.chronicle.session := by omega
  have hfirst : translation.chronicle.session = copy.chronicle.session := by omega
  have hsecond : translation'.chronicle.session = copy.chronicle.session := by omega
  obtain ⟨hanchored, hanchor, hframes⟩ := (hinv.later h.waited).copied h.idle h.copied h.nonempty
  -- within a session the anchor stays
  have hclock := ((h.written.keepsAnchor hanchored).2 hfirst).2
  have hclock' := (((h.written.trans h.started).keepsAnchor hanchored).2 hsecond).2
  have hlast := (((h.written.trans h.started).trans h.saved).keepsAnchor hanchored).1
  have hid := (h.waited.sessionId_eq hinv hsession hcopy).2
  rw [hcopy] at hanchor hframes hlast
  refine ⟨copy.facade.clock.anchor, hlast.trans hanchor, by rw [hclock], by rw [hclock'], ?_⟩
  intro frame hframe
  obtain ⟨captured, haccepted, hheld, hsessionId⟩ := hframes frame hframe
  exact ⟨captured, ((h.written.trans h.started).trans h.saved).accepted_subset haccepted, hheld,
    hsessionId.trans hid⟩

/-! ### The run -/

/-- What is promised of a clip that was returned. -/
def Promise (start : Capture) (window : CaptureWindow) (waitTimeoutSeconds : Rat) :
    Except ODSException MediaClip → RunState → Prop
  | .ok clip, o => StaysCurrent start o → KeepsSession start window waitTimeoutSeconds clip o
  | .error _, _ => True

section Run

variable {env : Environment} {start : CaptureState} {eventId path : String}
  {window : CaptureWindow} {waitTimeoutSeconds : Rat}

/-- The record is saved after the last translation. -/
theorem saveClip_wp {sha256Hash : String} {timeWindow : TimeWindow} {o : RunState}
    (h : ∀ clip o', clip.timeWindow = timeWindow → clip.filePath = path →
      o.history ⊆ o'.history → o.world.capture.Later o'.world.capture →
        Promise start.capture window waitTimeoutSeconds (.ok clip) o') :
    (saveClip eventId path sha256Hash timeWindow).wp (observe (serves env) .extraction)
      (fun _ _ => True) (Promise start.capture window waitTimeoutSeconds) o := by
  unfold saveClip
  refine wp_observed_next trivial (fun _ _ => trivial) fun clipId world₁ hclipId => ?_
  refine wp_observed_next trivial (fun _ _ => trivial) fun createdAt world₂ hcreatedAt => ?_
  refine wp_observed_next trivial (fun _ _ => trivial) fun _ world₃ hsave => ?_
  refine h _ _ rfl rfl ?_ ((hclipId.1.trans hcreatedAt.1).trans hsave.1)
  intro e he
  simp [he]

theorem executeCaptureWindow_wp (supportsCaptureWindows : Bool) (hinv : start.capture.Inv)
    (hsession : start.capture.facade.hasSession = true) :
    (executeCaptureWindow supportsCaptureWindows eventId window path waitTimeoutSeconds).wp
      (observe (serves env) .extraction) (fun _ _ => True)
      (Promise start.capture window waitTimeoutSeconds) (Observed.start start) := by
  -- each call of the use case leaves a later capture, whatever the source thread does meanwhile
  unfold executeCaptureWindow
  split
  · trivial
  refine wp_observed_next trivial (fun _ _ => trivial) fun segment world₁ hcopy => ?_
  show (if segment.frames.isEmpty then _ else _ : Service MediaClip).wp _ _ _ _
  split
  · trivial
  next hframes =>
  refine wp_observed_next trivial (fun _ _ => trivial) fun container world₂ hmux => ?_
  show (if container.isEmpty then _ else _ : Service MediaClip).wp _ _ _ _
  split
  · trivial
  refine wp_observed_next trivial (fun _ _ => trivial) fun done world₃ hwrite => ?_
  refine wp_observed_next trivial (fun _ _ => trivial) fun sha256Hash world₄ hhash => ?_
  refine wp_observed_next trivial (fun _ _ => trivial) fun startTime world₅ hstart => ?_
  refine wp_observed_next trivial (fun _ _ => trivial) fun endTime world₆ hend => ?_
  refine wp_bind (wp_ofExcept ?_)
  cases hmake : TimeWindow.make startTime endTime with
  | error error => trivial
  | ok wallWindow =>
    refine saveClip_wp fun clip o' hwindow hpath hhistory hlater hcurrent => ?_
    obtain ⟨hstartTime, hendTime⟩ := TimeWindow.make_ok_iff.mp hmake
    obtain ⟨hwaited, hidle, hcopied⟩ := exists_copied hcopy.1
    obtain ⟨hstarted, hfirst⟩ := exists_translated hstart.1
    obtain ⟨hended, hsecond⟩ := exists_translated hend.1
    have hmoments : Moments window segment start.capture world₁.capture world₅.capture
        world₆.capture o'.world.capture := {
      waited := hwaited
      idle := hidle
      copied := hcopied
      nonempty := by simpa using hframes
      written := ((hmux.1.trans hwrite.1).trans hhash.1).trans hstarted
      started := hended
      saved := hlater }
    -- the condition, at the call that translates the end of the window
    have hsame : world₆.capture.chronicle.session = start.capture.chronicle.session :=
      hcurrent ⟨.extraction, .toWallClock window.endNs, .ok endTime, world₅, world₆⟩
        (hhistory (by simp)) rfl
    obtain ⟨anchor, hanchorOf, hanchor, hanchor', hshown⟩ :=
      hmoments.keepsSession hinv hsession hsame
    have hstartOf : clip.timeWindow.startTime = anchor.toWallClock window.startNs := by
      rw [hwindow, hstartTime, hfirst, ← hanchor]
      rfl
    have hendOf : clip.timeWindow.endTime = anchor.toWallClock window.endNs := by
      rw [hwindow, hendTime, hsecond, ← hanchor']
      rfl
    -- the calls whose results the clip is made of are in the history
    have hcalled : Called o' (.extractCaptureWindow window waitTimeoutSeconds) segment :=
      ⟨start, world₁, hhistory (by simp [Observed.start])⟩
    have hmuxed : Called o' (.mux segment) container :=
      ⟨world₁, world₂, hhistory (by simp)⟩
    have hwritten : Called o' (.writeFile path container) done :=
      ⟨world₂, world₃, hhistory (by simp)⟩
    rw [← hpath] at hwritten
    exact ⟨anchor, segment, container, hanchorOf, hstartOf, hendOf, hcalled, hmuxed, hwritten,
      hshown⟩

end Run

/-- **A clip shows one session.** In every interleaving with the source's thread, whatever else
fails: when the session that was current at the request is still the current one at both
translations, the clip was made of its frames and is dated with its anchor. -/
theorem clip_keepsSession (env : Environment) (name : String) (capacity : BufferCapacity)
    {start : CaptureState}
    (hreached : (Capture.new capacity (.create name capacity)).Later start.capture)
    (hsession : start.capture.facade.hasSession = true)
    (supportsCaptureWindows : Bool) (eventId path : String) (window : CaptureWindow)
    (waitTimeoutSeconds : Rat) {p' : Service MediaClip} {o' : RunState}
    (hrun : Steps (observe (serves env) .extraction)
      (executeCaptureWindow supportsCaptureWindows eventId window path waitTimeoutSeconds)
      (Observed.start start) p' o')
    {clip : MediaClip} (hreturned : p'.outcome = some (.ok clip))
    (hcurrent : StaysCurrent start.capture o') :
    KeepsSession start.capture window waitTimeoutSeconds clip o' := by
  have hinv : start.capture.Inv := (Capture.Inv.new rfl rfl).later hreached
  have hpromise := hrun.wp (executeCaptureWindow_wp supportsCaptureWindows hinv hsession)
  exact wp_outcome hpromise hreturned hcurrent

/-! ### Two runs -/

/-- The frames that arrive before each call. -/
abbrev Script := PortCall → List (TimePoint × CapturedFrame)

/-- The calls of the extraction with the frames of the script; a wait that is not over at once ends
with the time. -/
def serve (script : Script) (sim : Simulation) :
    Server PortCall.Answer ODSException CaptureState :=
  fun op s =>
    let capture := (s.capture.deliverAll (script op)).finish 0
    match op with
    | .extractCaptureWindow window _ =>
      (if capture.facade.isCapturing then extractCaptureWindow capture.facade.media window
        else .error (bufferNotRunning "call startCapture() before extracting segments"),
        { s with capture := capture })
    | .toWallClock captureTsNs =>
      (if capture.facade.clock.anchored then .ok (capture.facade.clock.toWallClock captureTsNs)
        else .error (bufferNotRunning
          "capture clock is not anchored yet; no frame has been ingested"),
        { s with capture := capture })
    | op => ((sim.serve op s.service).1, ⟨capture, (sim.serve op s.service).2⟩)

theorem extracts_at {window : CaptureWindow} {c c' : Capture} (hlater : c.Later c')
    (hidle : c'.facade.source = .idle) :
    Extracts window c
      (if c'.facade.isCapturing then extractCaptureWindow c'.facade.media window
        else .error (bufferNotRunning "call startCapture() before extracting segments")) c' := by
  by_cases hcapturing : c'.facade.isCapturing = true
  · rw [if_pos hcapturing]
    have hwaits : Waits window c' c' := by
      unfold Waits
      split
      · rfl
      · exact ⟨.refl, hidle⟩
    exact .copied hlater hidle hcapturing hwaits hcapturing
  · rw [if_neg hcapturing]
    exact .notStarted hlater hidle (by simpa using hcapturing)

theorem translates_at {captureTsNs : Nanoseconds} {c c' : Capture} (hlater : c.Later c') :
    Translates captureTsNs c
      (if c'.facade.clock.anchored then .ok (c'.facade.clock.toWallClock captureTsNs)
        else .error (bufferNotRunning
          "capture clock is not anchored yet; no frame has been ingested")) c' := by
  by_cases hanchored : c'.facade.clock.anchored = true
  · rw [if_pos hanchored]
    exact .translated hlater hanchored .refl
  · rw [if_neg hanchored]
    exact .notAnchored hlater (by simpa using hanchored)

theorem serve_serves (script : Script) (sim : Simulation) (op : PortCall) (s : CaptureState) :
    serves sim.environment op s (serve script sim op s).1 (serve script sim op s).2 := by
  have hlater : s.capture.Later ((s.capture.deliverAll (script op)).finish 0) :=
    (Capture.deliverAll_later _ _).trans (Capture.finish_later 0 _)
  have hidle := Capture.finish_idle 0 (s.capture.deliverAll (script op))
  cases op with
  | extractCaptureWindow window timeout => exact ⟨extracts_at hlater hidle, rfl⟩
  | toWallClock captureTsNs => exact ⟨translates_at hlater, rfl⟩
  | _ => exact ⟨hlater, Simulation.serve_serves sim _ _⟩

/-- A keyframe of two bytes. -/
def shortFrame (captureTsNs : Nanoseconds) (sessionId : String) : CapturedFrame :=
  ⟨captureTsNs, [0, 1], true, sessionId⟩

/-- Two frames of a live session, the first at 1000 on the wall clock. -/
def liveCapture : Capture :=
  (Capture.new ⟨8, by decide⟩ (.create "ring" ⟨8, by decide⟩)).deliverAll
    [(1000, shortFrame 0 "live"), (1010, shortFrame 10 "live")]

def beforeRequest : CaptureState :=
  ⟨liveCapture, ⟨⟨[], List.nodup_nil⟩, fun _ => none, []⟩⟩

/-- The request for the clip of both frames. -/
def request : Service MediaClip :=
  executeCaptureWindow true "evt" ⟨0, 10, by decide⟩ "/nvme/evt.mp4" 0

def runRequest (script : Script) : Except ODSException MediaClip × RunState :=
  request.run (observeServer (serve script Simulation.bench) .extraction)
    (Observed.start beforeRequest)

theorem runRequest_runs (script : Script) :
    Runs (observe (serves Simulation.bench.environment) .extraction) request
      (Observed.start beforeRequest) (runRequest script).1 (runRequest script).2 :=
  run_runs (observeServer_observe (serve_serves script Simulation.bench) _) _ _

/-- The live session goes on during the request. -/
def sameSession : Script
  | .writeFile _ _ => [(1020, shortFrame 20 "live")]
  | _ => []

/-- A recording is replayed while the file is being written. -/
def switchedSession : Script
  | .writeFile _ _ => [(5000, shortFrame 0 "replay-1")]
  | _ => []

theorem clip_keepsSession_live : ∃ clip, (runRequest sameSession).1 = .ok clip ∧
    KeepsSession liveCapture ⟨0, 10, by decide⟩ 0 clip (runRequest sameSession).2 := by
  obtain ⟨clip, hclip⟩ : ∃ clip, (runRequest sameSession).1 = .ok clip := ⟨_, rfl⟩
  obtain ⟨p', hsteps, houtcome⟩ := runRequest_runs sameSession
  rw [hclip] at houtcome
  refine ⟨clip, hclip, ?_⟩
  have hcurrent : StaysCurrent liveCapture (runRequest sameSession).2 := by
    unfold StaysCurrent
    decide +kernel
  exact clip_keepsSession Simulation.bench.environment "ring" ⟨8, by decide⟩
    (Capture.deliverAll_later _ _) rfl true "evt" "/nvme/evt.mp4" _ 0
    hsteps houtcome hcurrent

/-- The frames of the clip are of the live session, and its window is dated by the replay's. -/
theorem switch_mixes_sessions :
    ¬ ∀ (env : Environment) (name : String) (capacity : BufferCapacity) (start : CaptureState),
      (Capture.new capacity (.create name capacity)).Later start.capture →
      start.capture.facade.hasSession = true →
      ∀ (supportsCaptureWindows : Bool) (eventId path : String) (window : CaptureWindow)
        (waitTimeoutSeconds : Rat) (p' : Service MediaClip) (o' : RunState),
        Steps (observe (serves env) .extraction)
          (executeCaptureWindow supportsCaptureWindows eventId window path waitTimeoutSeconds)
          (Observed.start start) p' o' →
        ∀ clip, p'.outcome = some (.ok clip) →
          KeepsSession start.capture window waitTimeoutSeconds clip o' := by
  intro h
  obtain ⟨clip, hclip, hstart⟩ : ∃ clip, (runRequest switchedSession).1 = .ok clip ∧
      clip.timeWindow.startTime = 5000 := ⟨_, rfl, rfl⟩
  obtain ⟨p', hsteps, houtcome⟩ := runRequest_runs switchedSession
  rw [hclip] at houtcome
  obtain ⟨anchor, -, -, hanchor, htranslated, -⟩ := h Simulation.bench.environment "ring"
    ⟨8, by decide⟩ beforeRequest (Capture.deliverAll_later _ _) rfl true "evt" "/nvme/evt.mp4" _ 0
    p' _ hsteps clip houtcome
  -- the anchor of the session that the frames are from
  have hlive : (runRequest switchedSession).2.world.capture.chronicle.anchorOf 0 =
      some ⟨1000, 0⟩ := by
    decide +kernel
  obtain rfl := Option.some.inj (hanchor.symm.trans hlive)
  rw [hstart] at htranslated
  exact absurd htranslated (by decide)

end SessionSwitch

end Ods.S4
