import OdsMod2.S4.ExtractClip
import OdsMod2.S4.Http.EventWindow
import OdsMod2.S4.RingBuffer.Accounting
import OdsMod2.S4.RingBuffer.Lifecycle

/-!
# The handler of an event

`POST /api/v1/events` answers by itself, or calls the use case with the window that it has found for the
event (`EventAnswer`). What it calls the use case with is what `postEvent` is about
(`answerEvent_calls`).

An instant that is not given is that of the newest frame, and seconds that are not given are `0`. The
handler takes the instant `0` for a capture that has not begun, although the capture clock may stand at
`0`, and a window of less than a nanosecond has no two ends for its constructor, so that the simplest
request, which gives no window, fails. These two are all that goes wrong (`answerEvent_extracts_iff`).
-/

namespace Ods.S4

open Http TwosComplement

/-- `RingBufferRAMFacade::newestCaptureTsNs`. -/
def RingBufferRAMFacade.newestCaptureTsNs (facade : RingBufferRAMFacade) : Nanoseconds :=
  let snapshot := facade.stats
  if snapshot.hasFrames then snapshot.newestCaptureTsNs else 0

namespace Http

/-! ### The handler -/

/-- What the handler comes to before the use case has run. -/
inductive EventAnswer where
  /-- A status and the text of the error. -/
  | refuses (status : Nat) (error : String)
  | extracts (eventId destinationPath : String) (request : ExtractClip.Request)

/-- What of the server the handler reads. -/
structure EventServer where
  mediaDir : String
  supportsCaptureWindows : Bool

/-- `generate_event_id`, with what `uuid_unparse_lower` has written. -/
def generateEventId (uuid : String) : String :=
  "event-" ++ uuid

/-- The id that is given, or a generated one. -/
def EventRequest.eventIdOr (parsed : EventRequest) (uuid : String) : String :=
  if parsed.eventId.isEmpty then generateEventId uuid else String.ofList parsed.eventId

/-- `kCaptureWindowWaitTimeoutSeconds`. -/
def captureWindowWaitTimeoutSeconds : Rat := 10

def EventRequest.eventTs (parsed : EventRequest) (facade : RingBufferRAMFacade) : Nanoseconds :=
  if parsed.hasCaptureTs then parsed.captureTsNs else facade.newestCaptureTsNs

/-- The ends that are given, or those of the last second. The clock is read twice. -/
def EventRequest.wallClockEnds (parsed : EventRequest) (now : TimePoint × TimePoint) :
    TimePoint × TimePoint :=
  if parsed.hasWallClockWindow then (parsed.wallStart, parsed.wallEnd)
  else (now.1 - 1000000000, now.2)

/-- The path of the capture clock. What the constructor of the window throws is caught at the end of
the handler. -/
def captureAnswer (conversions : Conversions) (facade : RingBufferRAMFacade)
    (eventId outputPath : String) (parsed : EventRequest) : EventAnswer :=
  let eventTs := parsed.eventTs facade
  if eventTs = 0 then
    .refuses 409 "no frames captured yet; the buffer clock is not started"
  else
    match CaptureWindow.around conversions eventTs parsed.preSeconds parsed.postSeconds with
    | .error exception => .refuses 500 exception.what
    | .ok window =>
      .extracts eventId outputPath (.capture true window captureWindowWaitTimeoutSeconds)

/-- The legacy path. -/
def wallClockAnswer (now : TimePoint × TimePoint) (eventId outputPath : String)
    (parsed : EventRequest) : EventAnswer :=
  let ends := parsed.wallClockEnds now
  if h : ends.1 < ends.2 then
    .extracts eventId outputPath (.wallClock ⟨ends.1, ends.2, h⟩)
  else
    .refuses 400 "start_ms must be earlier than end_ms"

/-- `POST /api/v1/events` up to the call of the use case. -/
def answerEvent (server : EventServer) (conversions : Conversions) (facade : RingBufferRAMFacade)
    (uuid : String) (now : TimePoint × TimePoint) (body : List Char) : EventAnswer :=
  match parseEventRequest conversions.toDoubles body with
  | .error error => .refuses 400 error.what
  | .ok parsed =>
    let eventId := parsed.eventIdOr uuid
    if isValidEventId eventId then
      let outputPath := clipPath server.mediaDir eventId
      if server.supportsCaptureWindows && !parsed.hasWallClockWindow then
        captureAnswer conversions facade eventId outputPath parsed
      else
        wallClockAnswer now eventId outputPath parsed
    else
      .refuses 400 "invalid event_id"

variable {server : EventServer} {conversions : Conversions} {facade : RingBufferRAMFacade}
  {uuid : String} {now : TimePoint × TimePoint} {body : List Char}

theorem captureAnswer_target {eventId outputPath eventId' path : String} {parsed : EventRequest}
    {request : ExtractClip.Request}
    (h : captureAnswer conversions facade eventId outputPath parsed =
      .extracts eventId' path request) : eventId' = eventId ∧ path = outputPath := by
  unfold captureAnswer at h
  dsimp only at h
  split at h
  · cases h
  · split at h
    · cases h
    · cases h
      exact ⟨rfl, rfl⟩

theorem wallClockAnswer_target {eventId outputPath eventId' path : String} {parsed : EventRequest}
    {request : ExtractClip.Request}
    (h : wallClockAnswer now eventId outputPath parsed = .extracts eventId' path request) :
    eventId' = eventId ∧ path = outputPath := by
  unfold wallClockAnswer at h
  dsimp only at h
  split at h
  · cases h
    exact ⟨rfl, rfl⟩
  · cases h

/-- The file of a call is the one of its event. -/
theorem answerEvent_target {eventId path : String} {request : ExtractClip.Request}
    (h : answerEvent server conversions facade uuid now body = .extracts eventId path request) :
    isValidEventId eventId = true ∧ path = clipPath server.mediaDir eventId := by
  unfold answerEvent at h
  split at h
  · cases h
  · dsimp only at h
    split at h
    · next hvalid =>
      split at h
      · obtain ⟨rfl, rfl⟩ := captureAnswer_target h
        exact ⟨hvalid, rfl⟩
      · obtain ⟨rfl, rfl⟩ := wallClockAnswer_target h
        exact ⟨hvalid, rfl⟩
    · cases h

/-- What the handler calls is what `postEvent` extracts. -/
theorem answerEvent_calls {eventId path : String} {request : ExtractClip.Request}
    (h : answerEvent server conversions facade uuid now body = .extracts eventId path request) :
    postEvent server.mediaDir eventId request =
      (do
        let clip ← ExtractClip.extract eventId path request
        Prog.ret (some clip)) := by
  obtain ⟨hvalid, rfl⟩ := answerEvent_target h
  exact if_pos hvalid

/-! ### The event instant -/

/-- The instant that is given, if it is that of a live frame, or the one of the newest frame. -/
def IsEventInstant (frames : List FrameDescriptor) (instant : Nanoseconds) : Option ℤ → Prop
  | some captureTsNs => instant = captureTsNs ∧ ∃ frame ∈ frames, frame.captureTsNs = captureTsNs
  | none => ∃ newest, frames.getLast? = some newest ∧ instant = newest.captureTsNs

theorem newestCaptureTsNs_eq {newest : FrameDescriptor}
    (h : facade.media.ringBuffer.frames.getLast? = some newest) :
    facade.newestCaptureTsNs = newest.captureTsNs := by
  have hframes : facade.media.ringBuffer.frames ≠ [] := by
    intro hnone
    rw [hnone] at h
    cases h
  have hsome : facade.stats.hasFrames = true := by
    show (!facade.media.ringBuffer.frames.isEmpty) = true
    rw [List.isEmpty_eq_false_iff.mpr hframes]
    rfl
  have hnewest : facade.stats.newestCaptureTsNs = newest.captureTsNs := by
    show facade.media.ringBuffer.newestCaptureTsNs = _
    rw [RingBuffer.newestCaptureTsNs, h]
  exact (if_pos hsome).trans hnewest

/-- The lower case form of a UUID: hexadecimal digits and hyphens. -/
def IsUuidText (uuid : String) : Prop :=
  ∀ c ∈ uuid.toList, c.isDigit = true ∨ c ∈ ['a', 'b', 'c', 'd', 'e', 'f', '-']

theorem isValidEventId_generated (h : IsUuidText uuid) :
    isValidEventId (generateEventId uuid) = true := by
  have hchars : (generateEventId uuid).toList = "event-".toList ++ uuid.toList :=
    String.toList_append
  have hfixed : ∀ c ∈ "event-".toList ++ ['a', 'b', 'c', 'd', 'e', 'f', '-'],
      (c.isAlphanum || c == '_' || c == '-') = true := List.all_eq_true.mp rfl
  have hall : ∀ c ∈ (generateEventId uuid).toList,
      (c.isAlphanum || c == '_' || c == '-') = true := by
    intro c hc
    rw [hchars] at hc
    rcases List.mem_append.mp hc with hc | hc
    · exact hfixed c (List.mem_append_left _ hc)
    · rcases h c hc with hdigit | hletter
      · simp [Char.isAlphanum, hdigit]
      · exact hfixed c (List.mem_append_right _ hletter)
  have hnonempty : (generateEventId uuid).isEmpty = false := by
    rw [String.isEmpty_eq_false_iff]
    intro hnone
    rw [hnone] at hchars
    cases hchars
  unfold isValidEventId
  rw [hnonempty, List.all_eq_true.mpr hall]
  rfl

/-! ### The ends of its window -/

/-- Where a number does not fit, the platform answers with an end of the type. -/
def Conversions.EndsOutOfRange (conversions : Conversions) : Prop :=
  ∀ x, 0 ≤ x → ¬ Fits (truncate x) →
    conversions.outOfRange x = -9223372036854775808 ∨
      conversions.outOfRange x = 9223372036854775807

/-- The integer is the number, or an end of the type instead of a number above it. -/
def Stands (n exact : ℤ) : Prop :=
  n = exact ∨ 9223372036854775807 < exact ∧
    (n = -9223372036854775808 ∨ n = 9223372036854775807)

theorem stands_nanoseconds {seconds : ℚ} (hends : conversions.EndsOutOfRange)
    (hnonneg : 0 ≤ conversions.nearest (seconds * 1000000000)) :
    Stands (conversions.nanoseconds seconds) ⌊conversions.nearest (seconds * 1000000000)⌋ := by
  have hfloor := Int.floor_nonneg.mpr hnonneg
  by_cases hfits : Fits ⌊conversions.nearest (seconds * 1000000000)⌋
  · exact .inl (nanoseconds_of_fits hnonneg hfits)
  · right
    have habove : 9223372036854775807 < ⌊conversions.nearest (seconds * 1000000000)⌋ := by
      unfold Fits at hfits
      omega
    rw [← truncate_of_nonneg hnonneg] at hfits
    have hout : conversions.nanoseconds seconds =
        conversions.outOfRange (conversions.nearest (seconds * 1000000000)) := if_neg hfits
    rw [hout]
    exact ⟨habove, hends _ hnonneg hfits⟩

section Ends

variable {instant n exact : ℤ}

/-- The start is not after the instant, and before it if anything is asked for before it. -/
theorem wrap_sub_le (hinstant : Fits instant) (hstart : Fits (instant - exact)) (hexact : 0 ≤ exact)
    (h : Stands n exact) :
    wrap (instant - n) ≤ instant ∧ (wrap (instant - n) < instant ↔ 0 < exact) := by
  have hbounds := hinstant
  obtain ⟨hlow, hhigh⟩ := hbounds
  rcases h with rfl | ⟨habove, rfl | rfl⟩
  · rw [wrap_of_fits hstart]
    omega
  · -- the instant is late enough for the difference to wrap around
    obtain ⟨hstart_low, -⟩ := hstart
    rw [wrap_of_gt (by omega) (by omega)]
    omega
  · obtain ⟨hstart_low, -⟩ := hstart
    rw [wrap_of_fits ⟨by omega, by omega⟩]
    omega

theorem le_wrap_add (hinstant : Fits instant) (hend : Fits (instant + exact)) (hexact : 0 ≤ exact)
    (h : Stands n exact) :
    instant ≤ wrap (instant + n) ∧ (instant < wrap (instant + n) ↔ 0 < exact) := by
  have hbounds := hinstant
  obtain ⟨hlow, hhigh⟩ := hbounds
  rcases h with rfl | ⟨habove, rfl | rfl⟩
  · rw [wrap_of_fits hend]
    omega
  · obtain ⟨-, hend_high⟩ := hend
    rw [wrap_of_lt (by omega) (by omega)]
    omega
  · obtain ⟨-, hend_high⟩ := hend
    rw [wrap_of_fits ⟨by omega, by omega⟩]
    omega

end Ends

/-! ### What the handler needs -/

/-- A request on the path of the capture clock that passes the checks, for an event at the instant. -/
structure AsksAround (conversions : Conversions) (facade : RingBufferRAMFacade)
    (fields : EventFields) (instant : Nanoseconds) : Prop where
  eventId : fields.eventId = [] ∨ isValidEventId (String.ofList fields.eventId) = true
  noPair : fields.startMs = none ∨ fields.endMs = none
  pre_nonneg : 0 ≤ fields.preWindowSeconds.getD 0
  post_nonneg : 0 ≤ fields.postWindowSeconds.getD 0
  isInstant : IsEventInstant facade.media.ringBuffer.frames instant fields.captureTsNs
  /-- The window has ends. -/
  start_fits :
    Fits (instant - ⌊conversions.nearest (fields.preWindowSeconds.getD 0 * 1000000000)⌋)
  end_fits :
    Fits (instant + ⌊conversions.nearest (fields.postWindowSeconds.getD 0 * 1000000000)⌋)

/-- The use case is called with a window that contains the instant. -/
def CallsAround (instant : Nanoseconds) (answer : EventAnswer) : Prop :=
  ∃ eventId path window, answer = .extracts eventId path
      (.capture true window captureWindowWaitTimeoutSeconds) ∧ window.contains instant = true

theorem AsksAround.request {fields : EventFields} {instant : Nanoseconds}
    (h : AsksAround conversions facade fields instant) (huuid : IsUuidText uuid) :
    ∃ parsed, fields.request = .ok parsed ∧ isValidEventId (parsed.eventIdOr uuid) = true ∧
      parsed.hasWallClockWindow = false ∧ parsed.eventTs facade = instant ∧
      parsed.preSeconds = fields.preWindowSeconds.getD 0 ∧
      parsed.postSeconds = fields.postWindowSeconds.getD 0 := by
  refine ⟨{
    eventId := fields.eventId
    hasCaptureTs := fields.captureTsNs.isSome
    captureTsNs := fields.captureTsNs.getD 0
    preSeconds := fields.preWindowSeconds.getD 0
    postSeconds := fields.postWindowSeconds.getD 0 }, ?_, ?_, rfl, ?_, rfl, rfl⟩
  · -- neither check throws
    have hsigns : ¬ (fields.preWindowSeconds.getD 0 < 0 ∨ fields.postWindowSeconds.getD 0 < 0) :=
      not_or.mpr ⟨not_lt.mpr h.pre_nonneg, not_lt.mpr h.post_nonneg⟩
    refine (if_neg hsigns).trans ?_
    unfold EventRequest.setWallClock
    rcases h.noPair with hnone | hnone
    · rw [hnone]
    · rw [hnone]
      cases fields.startMs <;> rfl
  · unfold EventRequest.eventIdOr
    dsimp only
    rcases h.eventId with hnone | hvalid
    · rw [hnone]
      exact isValidEventId_generated huuid
    · -- an id that is valid is not empty, but that is not needed
      split
      · exact isValidEventId_generated huuid
      · exact hvalid
  · have hinstant := h.isInstant
    unfold EventRequest.eventTs
    dsimp only
    cases hgiven : fields.captureTsNs with
    | none =>
      rw [hgiven] at hinstant
      obtain ⟨newest, hnewest, rfl⟩ := hinstant
      exact newestCaptureTsNs_eq hnewest
    | some captureTsNs =>
      rw [hgiven] at hinstant
      exact hinstant.1.symm

/-- On the path of the capture clock it is the instant and the window that decide. -/
theorem captureAnswer_calls_iff (conversions : Conversions) (facade : RingBufferRAMFacade)
    (eventId outputPath : String) (parsed : EventRequest) :
    CallsAround (parsed.eventTs facade)
        (captureAnswer conversions facade eventId outputPath parsed) ↔
      parsed.eventTs facade ≠ 0 ∧ ∃ window,
        CaptureWindow.around conversions (parsed.eventTs facade) parsed.preSeconds
          parsed.postSeconds = .ok window ∧ window.contains (parsed.eventTs facade) = true := by
  unfold captureAnswer
  dsimp only
  by_cases hzero : parsed.eventTs facade = 0
  · -- answered with 409
    rw [if_pos hzero]
    refine iff_of_false ?_ fun h => h.1 hzero
    rintro ⟨_, _, window, hrefused, -⟩
    cases hrefused
  · rw [if_neg hzero]
    split
    · next exception haround =>
      -- answered with 500
      refine iff_of_false ?_ ?_
      · rintro ⟨_, _, window, hrefused, -⟩
        cases hrefused
      · rintro ⟨-, window, hok, -⟩
        rw [haround] at hok
        cases hok
    · next window haround =>
      constructor
      · rintro ⟨_, _, called, hcalls, hcontains⟩
        cases hcalls
        exact ⟨hzero, window, haround, hcontains⟩
      · rintro ⟨-, called, hok, hcontains⟩
        obtain rfl := Except.ok.inj (haround.symm.trans hok)
        exact ⟨eventId, outputPath, window, rfl, hcontains⟩

/-- The window can be built exactly if there is anything in it beside the instant. -/
theorem AsksAround.around_iff {fields : EventFields} {instant : Nanoseconds}
    (h : AsksAround conversions facade fields instant) (hsign : conversions.KeepsSign)
    (hends : conversions.EndsOutOfRange) :
    (∃ window, CaptureWindow.around conversions instant (fields.preWindowSeconds.getD 0)
        (fields.postWindowSeconds.getD 0) = .ok window ∧ window.contains instant = true) ↔
      1 ≤ conversions.nearest (fields.preWindowSeconds.getD 0 * 1000000000) ∨
        1 ≤ conversions.nearest (fields.postWindowSeconds.getD 0 * 1000000000) := by
  have hpre_nearest := hsign (fields.preWindowSeconds.getD 0 * 1000000000)
    (mul_nonneg h.pre_nonneg (by decide))
  have hpost_nearest := hsign (fields.postWindowSeconds.getD 0 * 1000000000)
    (mul_nonneg h.post_nonneg (by decide))
  have hpre_floor := Int.floor_nonneg.mpr hpre_nearest
  have hpost_floor := Int.floor_nonneg.mpr hpost_nearest
  -- the instant lies between two ends that fit
  have hfits : Fits instant := by
    obtain ⟨hlow, -⟩ := h.start_fits
    obtain ⟨-, hhigh⟩ := h.end_fits
    exact ⟨by omega, by omega⟩
  obtain ⟨hstart, hstart_lt⟩ := wrap_sub_le hfits h.start_fits hpre_floor
    (stands_nanoseconds hends hpre_nearest)
  obtain ⟨hend, hend_gt⟩ := le_wrap_add hfits h.end_fits hpost_floor
    (stands_nanoseconds hends hpost_nearest)
  rw [CaptureWindow.around_of_nonneg h.pre_nonneg h.post_nonneg, ← Int.floor_pos, ← Int.floor_pos,
    ← hstart_lt, ← hend_gt]
  by_cases hlt : wrap (instant - conversions.nanoseconds (fields.preWindowSeconds.getD 0)) <
      wrap (instant + conversions.nanoseconds (fields.postWindowSeconds.getD 0))
  · rw [CaptureWindow.create_of_lt hlt]
    refine iff_of_true ⟨_, rfl, decide_eq_true ⟨hstart, hend⟩⟩ ?_
    omega
  · -- both ends are the instant
    rw [CaptureWindow.create_of_not_lt hlt]
    refine iff_of_false ?_ (by omega)
    rintro ⟨window, hok, -⟩
    cases hok

/-- **Two things go wrong.** A request that passes the checks makes the handler call the use case with
a window that contains the event instant if and only if the instant is not `0` and a nanosecond or more
is asked for before or after it. -/
theorem answerEvent_extracts_iff (server : EventServer) (conversions : Conversions)
    (hsign : conversions.KeepsSign) (hends : conversions.EndsOutOfRange)
    (facade : RingBufferRAMFacade) (uuid : String) (huuid : IsUuidText uuid)
    (now : TimePoint × TimePoint) (body : List Char) (fields : EventFields) (instant : Nanoseconds)
    (hsupports : server.supportsCaptureWindows = true)
    (hfields : readFields conversions.toDoubles body = fields)
    (h : AsksAround conversions facade fields instant) :
    CallsAround instant (answerEvent server conversions facade uuid now body) ↔
      instant ≠ 0 ∧
        (1 ≤ conversions.nearest (fields.preWindowSeconds.getD 0 * 1000000000) ∨
          1 ≤ conversions.nearest (fields.postWindowSeconds.getD 0 * 1000000000)) := by
  obtain ⟨parsed, hparsed, hvalid, hpair, hinstant, hpre, hpost⟩ := h.request huuid
  -- the handler takes the path of the capture clock
  have hcapture : answerEvent server conversions facade uuid now body =
      captureAnswer conversions facade (parsed.eventIdOr uuid)
        (clipPath server.mediaDir (parsed.eventIdOr uuid)) parsed := by
    unfold answerEvent parseEventRequest
    rw [hfields, hparsed]
    dsimp only
    rw [if_pos hvalid, hsupports, hpair]
    rfl
  have hcalls := captureAnswer_calls_iff conversions facade (parsed.eventIdOr uuid)
    (clipPath server.mediaDir (parsed.eventIdOr uuid)) parsed
  rw [hinstant, hpre, hpost] at hcalls
  rw [hcapture, hcalls, h.around_iff hsign hends]

/-- The status and the text of an answer without the use case. -/
def EventAnswer.refusal : EventAnswer → Option (ℕ × String)
  | .refuses status error => some (status, error)
  | .extracts _ _ _ => none

def captureServer : EventServer where
  mediaDir := "/nvme"
  supportsCaptureWindows := true

/-- One keyframe has been captured. -/
def oneFrame (captureTsNs : Nanoseconds) : RingBufferRAMFacade :=
  ((RingBufferRAMFacade.constructed ⟨16, CaptureLifecycle.sixteen_pos⟩
    (.create "ods" ⟨16, CaptureLifecycle.sixteen_pos⟩)).onFrames
      [(0, ⟨captureTsNs, [1, 2], true, "live"⟩)]).2

def sampleUuid : String :=
  "0b6f2f6e-4d1c-4c1e-9a6b-2f0d8e5c7a31"

theorem sampleUuid_isUuidText : IsUuidText sampleUuid := by
  have hall : sampleUuid.toList.all
      (fun c => c.isDigit || decide (c ∈ ['a', 'b', 'c', 'd', 'e', 'f', '-'])) = true := by
    decide
  intro c hc
  simpa using List.all_eq_true.mp hall c hc

def windowBody : List Char :=
  "\x7b\"event_id\": \"evt-3\", \"pre_window_seconds\": 1.0, \"post_window_seconds\": 0.5\x7d".toList

def simplestBody : List Char :=
  "\x7b\"event_id\": \"evt-1\"\x7d".toList

/-- What is left to check of a request without an instant. -/
theorem asksAround_oneFrame {fields : EventFields} (instant : Nanoseconds)
    (hid : isValidEventId (String.ofList fields.eventId) = true) (hpair : fields.startMs = none)
    (hcapture : fields.captureTsNs = none) (hpre : 0 ≤ fields.preWindowSeconds.getD 0)
    (hpost : 0 ≤ fields.postWindowSeconds.getD 0)
    (hstart : Fits (instant - ⌊fields.preWindowSeconds.getD 0 * 1000000000⌋))
    (hend : Fits (instant + ⌊fields.postWindowSeconds.getD 0 * 1000000000⌋)) :
    AsksAround .exact (oneFrame instant) fields instant where
  eventId := .inr hid
  noPair := .inl hpair
  pre_nonneg := hpre
  post_nonneg := hpost
  isInstant := by
    rw [hcapture]
    exact ⟨_, rfl, rfl⟩
  start_fits := hstart
  end_fits := hend

theorem readFields_windowBody : readFields .exact windowBody =
    ⟨"evt-3".toList, none, some 1, some (1 / 2), none, none⟩ := by
  unfold readFields
  rw [EventFields.mk.injEq]
  decide +kernel

theorem readFields_simplestBody : readFields .exact simplestBody =
    ⟨"evt-1".toList, none, none, none, none, none⟩ := by
  unfold readFields
  rw [EventFields.mk.injEq]
  decide +kernel

theorem windowBody_asks :
    AsksAround .exact (oneFrame 5000000000) (readFields .exact windowBody) 5000000000 := by
  rw [readFields_windowBody]
  exact asksAround_oneFrame 5000000000 (by decide) rfl rfl (by decide)
    (by decide +kernel) (by decide +kernel) (by decide +kernel)

theorem simplestBody_asks :
    AsksAround .exact (oneFrame 5000000000) (readFields .exact simplestBody) 5000000000 := by
  rw [readFields_simplestBody]
  exact asksAround_oneFrame 5000000000 (by decide) rfl rfl (by decide) (by decide)
    (by decide +kernel) (by decide +kernel)

theorem Conversions.exact_endsOutOfRange : Conversions.exact.EndsOutOfRange :=
  fun _ _ _ => .inl rfl

theorem windowBody_extracts :
    CallsAround 5000000000
      (answerEvent captureServer .exact (oneFrame 5000000000) sampleUuid (0, 0) windowBody) := by
  have hasks := windowBody_asks
  rw [readFields_windowBody] at hasks
  apply (answerEvent_extracts_iff captureServer .exact Conversions.exact_keepsSign
    Conversions.exact_endsOutOfRange (oneFrame 5000000000) sampleUuid sampleUuid_isUuidText (0, 0)
    windowBody _ 5000000000 rfl readFields_windowBody hasks).mpr
  exact ⟨by decide, .inl (by decide +kernel)⟩

/-- A request that gives an event id and no window. -/
theorem simplestBody_refused :
    (answerEvent captureServer .exact (oneFrame 5000000000) sampleUuid (0, 0)
        simplestBody).refusal = some (500, "startNs must be strictly before endNs") ∧
      ¬ ∀ (facade : RingBufferRAMFacade) (body : List Char) (instant : Nanoseconds),
        AsksAround .exact facade (readFields .exact body) instant →
          CallsAround instant
            (answerEvent captureServer .exact facade sampleUuid (0, 0) body) := by
  have hrefusal : (answerEvent captureServer .exact (oneFrame 5000000000) sampleUuid (0, 0)
      simplestBody).refusal = some (500, "startNs must be strictly before endNs") := by
    decide +kernel
  refine ⟨hrefusal, fun h => ?_⟩
  obtain ⟨eventId, path, window, hcalls, -⟩ := h _ simplestBody _ simplestBody_asks
  rw [hcalls] at hrefusal
  cases hrefusal

example : (answerEvent captureServer .exact (oneFrame 0) sampleUuid (0, 0) windowBody).refusal =
    some (409, "no frames captured yet; the buffer clock is not started") := by
  decide +kernel

end Http

end Ods.S4
