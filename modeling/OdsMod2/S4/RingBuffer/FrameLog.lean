import OdsMod2.Framework.ExceptList
import OdsMod2.Framework.TextStream
import OdsMod2.S4.Errors
import OdsMod2.S4.RingBuffer.Ingest

/-!
# Recorded scenarios

`FrameLogRecorder` writes a sequence of frames as a text index and a blob, `RecordedFrameSource`
reads them back. The two files stay in step whatever is recorded: the numbers of a line are read
back as they were written, and they say where in the blob the payload is. A session id is another
matter. It is written as it is and read back as one word, so the replay is the recording exactly
when no session id holds white space (`replay_eq_iff`).
-/

namespace Ods.S4

open Region TextStream

/-! ### Recording -/

/-- How many values `std::size_t` has. -/
def sizeValues : Nat := 2 ^ 64

/-- The largest size of a vector of bytes. -/
def maxSize : Nat := 2 ^ 63 - 1

/-- The range of a signed integer of so many bits. -/
def leastSigned (bits : Nat) : Int := -2 ^ (bits - 1)

@[inherit_doc leastSigned]
def mostSigned (bits : Nat) : Int := 2 ^ (bits - 1) - 1

/-- The two files of a scenario. -/
structure FrameLog where
  index : List Char
  blob : List UInt8

structure FrameLogRecorder where
  index : List Char
  blob : List UInt8
  offset : Nat

/-- One line for a frame: `ts offset length keyframe session`. -/
def indexLine (offset : Nat) (frame : CapturedFrame) : List Char :=
  integer frame.captureTsNs ++ ' ' :: (decimal offset ++ ' ' :: (decimal frame.length ++ ' ' ::
    (integer (if frame.isKeyframe then 1 else 0) ++ ' ' :: frame.sessionId.toList)))

namespace FrameLogRecorder

/-- With both files created. -/
def new : FrameLogRecorder where
  index := []
  blob := []
  offset := 0

def record (recorder : FrameLogRecorder) (frame : CapturedFrame) : FrameLogRecorder where
  index := recorder.index ++ (indexLine recorder.offset frame ++ ['\n'])
  blob := recorder.blob ++ frame.data
  offset := (recorder.offset + frame.length) % sizeValues

def close (recorder : FrameLogRecorder) : FrameLog where
  index := recorder.index
  blob := recorder.blob

end FrameLogRecorder

/-- The scenario recorded from the frames, in order. -/
def recordAll (frames : List CapturedFrame) : FrameLog :=
  (frames.foldl FrameLogRecorder.record .new).close

/-! ### Replaying -/

structure Entry where
  captureTsNs : Nanoseconds
  offset : Nat
  length : Nat
  isKeyframe : Bool
  sessionId : String
  deriving DecidableEq, Repr

/-- What the constructor of `RecordedFrameSource` throws: an error of its own, or
`std::length_error`. -/
inductive OpeningError where
  | application (error : ApplicationError)
  | lengthError
  deriving DecidableEq, Repr

/-- The four numbers of a line, and what follows them. -/
def readNumbers (line : List Char) : Option ((Nanoseconds × Nat × Nat × Int) × List Char) := do
  let (captureTsNs, rest) ← readSigned (leastSigned 64) (mostSigned 64) line
  let (offset, rest) ← readUnsigned sizeValues rest
  let (length, rest) ← readUnsigned sizeValues rest
  let (keyframeFlag, rest) ← readSigned (leastSigned 32) (mostSigned 32) rest
  some ((captureTsNs, offset, length, keyframeFlag), rest)

/-- A session id that is missing leaves the field empty. -/
def readSession (text : List Char) : String :=
  match readWord text with
  | some (word, _) => String.ofList word
  | none => ""

/-- The body of the loop of `loadIndex`. -/
def readEntry (basePath : String) (blobSize : Nat) (line : List Char) :
    Except OpeningError Entry :=
  let corrupt : OpeningError := .application
    ⟨.frameSource, "corrupt scenario index at " ++ basePath ++ ": " ++ String.ofList line⟩
  match readNumbers line with
  | none => .error corrupt
  | some ((captureTsNs, offset, length, keyframeFlag), rest) =>
    if length = 0 ∨ ¬ (offset ≤ blobSize ∧ length ≤ blobSize - offset) then .error corrupt
    else .ok ⟨captureTsNs, offset, length, keyframeFlag != 0, readSession rest⟩

/-- `loadIndex`, over the lines of the index. -/
def loadIndex (basePath : String) (blobSize : Nat) (text : List (List Char)) :
    Except OpeningError (List Entry) :=
  (text.filter (· ≠ [])).mapM (readEntry basePath blobSize)

structure RecordedFrameSource where
  sessionOverride : String
  blob : List UInt8
  entries : List Entry

namespace RecordedFrameSource

/-- The constructor, given that both files are there. -/
def opened (basePath sessionOverride : String) (log : FrameLog) :
    Except OpeningError RecordedFrameSource := do
  if maxSize < log.blob.length then throw .lengthError
  let entries ← loadIndex basePath log.blob.length (lines log.index)
  return ⟨sessionOverride, log.blob, entries⟩

/-- The frame `replay` makes of an entry. -/
def frameOf (sessionOverride : String) (blob : List UInt8) (entry : Entry) : CapturedFrame where
  captureTsNs := entry.captureTsNs
  data := slice blob entry.offset entry.length
  isKeyframe := entry.isKeyframe
  sessionId := if sessionOverride.isEmpty then entry.sessionId else sessionOverride

/-- The session id under which a recorded id comes back. -/
def replayedSession (sessionOverride sessionId : String) : String :=
  if sessionOverride.isEmpty then readSession (' ' :: sessionId.toList) else sessionOverride

/-- What `replay` delivers when it is not stopped. The pauses of a replay in real time are left
out. -/
def replay (source : RecordedFrameSource) : List CapturedFrame :=
  source.entries.map (frameOf source.sessionOverride source.blob)

end RecordedFrameSource

/-! ### One line -/

/-- A frame as a scenario may hold it: a payload, a timestamp of 64 bits, a session id on one
line. -/
structure CapturedFrame.Recordable (frame : CapturedFrame) : Prop where
  payload : frame.data ≠ []
  leastTs : leastSigned 64 ≤ frame.captureTsNs
  mostTs : frame.captureTsNs ≤ mostSigned 64
  oneLine : '\n' ∉ frame.sessionId.toList

/-- The session id is one word, or empty. -/
def CapturedFrame.PlainSession (frame : CapturedFrame) : Prop :=
  ∀ c ∈ frame.sessionId.toList, isSpace c = false

theorem readNumbers_indexLine {offset : Nat} {frame : CapturedFrame} (h : frame.Recordable)
    (hoffset : offset < sizeValues) (hlength : frame.length < sizeValues) :
    readNumbers (indexLine offset frame) =
      some ((frame.captureTsNs, offset, frame.length, if frame.isKeyframe then 1 else 0),
        ' ' :: frame.sessionId.toList) := by
  have hstops : ∀ rest, Stops Char.isDigit (' ' :: rest) := fun _ => stops_cons.mpr rfl
  have hspace : ∀ c ∈ [' '], isSpace c := by simp [isSpace]
  have hts : ∀ rest, readSigned (leastSigned 64) (mostSigned 64)
      (integer frame.captureTsNs ++ ' ' :: rest) = some (frame.captureTsNs, ' ' :: rest) :=
    fun rest => readSigned_integer [] (by simp) (hstops rest) h.leastTs h.mostTs
  have hnumber : ∀ n rest, n < sizeValues →
      readUnsigned sizeValues (' ' :: (decimal n ++ ' ' :: rest)) = some (n, ' ' :: rest) :=
    fun n rest hn => readUnsigned_decimal [' '] hspace (hstops rest) hn
  have hflag : ∀ (flag : Bool) rest, readSigned (leastSigned 32) (mostSigned 32)
      (' ' :: (integer (if flag then 1 else 0) ++ ' ' :: rest)) =
        some (if flag then 1 else 0, ' ' :: rest) := by
    intro flag rest
    refine readSigned_integer [' '] hspace (hstops rest) ?_ ?_
    · cases flag <;> decide
    · cases flag <;> decide
  simp [readNumbers, indexLine, hts, hnumber _ _ hoffset, hnumber _ _ hlength, hflag]

theorem readSession_plain {frame : CapturedFrame} (h : frame.PlainSession) :
    readSession (' ' :: frame.sessionId.toList) = frame.sessionId := by
  have hspace : ∀ c ∈ [' '], isSpace c := by simp [isSpace]
  unfold readSession
  by_cases hempty : frame.sessionId.toList = []
  · rw [hempty, readWord_spaces hspace]
    exact (String.toList_eq_nil_iff.mp hempty).symm
  · have hword : readWord (' ' :: frame.sessionId.toList) = some (frame.sessionId.toList, []) := by
      have happend := readWord_append [' '] hspace h hempty stops_nil
      simpa using happend
    rw [hword]
    simp

/-- Whatever the text, the session id read is one word. -/
theorem isSpace_of_readSession (text : List Char) :
    ∀ c ∈ (readSession text).toList, isSpace c = false := by
  unfold readSession
  split
  · rename_i word rest heq
    simpa using isSpace_of_readWord heq
  · simp

/-- A line is read back as the entry it was written for, but for what follows a space in the
session id. -/
theorem readEntry_recorded (basePath : String) {offset blobSize : Nat} {frame : CapturedFrame}
    (h : frame.Recordable) (hinside : offset + frame.length ≤ blobSize)
    (hsize : blobSize ≤ maxSize) :
    readEntry basePath blobSize (indexLine offset frame) =
      .ok ⟨frame.captureTsNs, offset, frame.length, frame.isKeyframe,
        readSession (' ' :: frame.sessionId.toList)⟩ := by
  have hvalues : maxSize < sizeValues := by decide
  have hpos : frame.length ≠ 0 := by simpa [CapturedFrame.length] using h.payload
  have hcheck : ¬ (frame.length = 0 ∨
      ¬ (offset ≤ blobSize ∧ frame.length ≤ blobSize - offset)) := by
    omega
  have hflag : ((if frame.isKeyframe then 1 else 0 : Int) != 0) = frame.isKeyframe := by
    cases frame.isKeyframe <;> rfl
  unfold readEntry
  rw [readNumbers_indexLine h (by omega) (by omega)]
  simp only [if_neg hcheck, hflag]

/-! ### The whole scenario -/

/-- The lines for the frames, the first payload being at the offset. -/
def indexText : Nat → List CapturedFrame → List Char
  | _, [] => []
  | offset, frame :: frames =>
    indexLine offset frame ++ '\n' :: indexText ((offset + frame.length) % sizeValues) frames

theorem recordFrom_index (recorder : FrameLogRecorder) (frames : List CapturedFrame) :
    (frames.foldl FrameLogRecorder.record recorder).index =
      recorder.index ++ indexText recorder.offset frames := by
  induction frames generalizing recorder with
  | nil => simp [indexText]
  | cons frame frames ih => simp [ih, indexText, FrameLogRecorder.record]

theorem recordFrom_blob (recorder : FrameLogRecorder) (frames : List CapturedFrame) :
    (frames.foldl FrameLogRecorder.record recorder).blob =
      recorder.blob ++ frames.flatMap CapturedFrame.data := by
  induction frames generalizing recorder with
  | nil => simp
  | cons frame frames ih => simp [ih, FrameLogRecorder.record]

theorem recordAll_eq (frames : List CapturedFrame) :
    recordAll frames = ⟨indexText 0 frames, frames.flatMap CapturedFrame.data⟩ := by
  simp [recordAll, FrameLogRecorder.close, recordFrom_index, recordFrom_blob,
    FrameLogRecorder.new]

theorem newline_notMem_indexLine {offset : Nat} {frame : CapturedFrame} (h : frame.Recordable) :
    '\n' ∉ indexLine offset frame := by
  have hdecimal : ∀ n, '\n' ∉ decimal n := fun n hn => absurd (isDigit_of_mem_decimal hn) (by decide)
  have hinteger : ∀ z, '\n' ∉ integer z := by
    intro z
    unfold integer
    split <;> simp [hdecimal]
  simp [indexLine, hdecimal, hinteger, h.oneLine]

/-- The rest of a recording is read back, each payload from its place in the blob. -/
theorem loadIndex_recorded (basePath : String) (before : List UInt8) {blob : List UInt8}
    (hsize : blob.length ≤ maxSize) {frames : List CapturedFrame}
    (hblob : blob = before ++ frames.flatMap CapturedFrame.data)
    (hframes : ∀ frame ∈ frames, frame.Recordable) :
    ∃ entries, loadIndex basePath blob.length (lines (indexText before.length frames)) =
      .ok entries ∧ ∀ sessionOverride,
        entries.map (RecordedFrameSource.frameOf sessionOverride blob) = frames.map fun frame =>
          { frame with
            sessionId := RecordedFrameSource.replayedSession sessionOverride frame.sessionId } := by
  induction frames generalizing before with
  | nil => exact ⟨[], rfl, fun _ => rfl⟩
  | cons frame frames ih =>
    have hframe : frame.Recordable := hframes frame List.mem_cons_self
    have hblob' : blob = before ++ frame.data ++ frames.flatMap CapturedFrame.data := by
      rw [hblob, List.flatMap_cons, List.append_assoc]
    have hinside : before.length + frame.length ≤ blob.length := by
      rw [hblob']
      simp only [List.length_append, CapturedFrame.length]
      omega
    have hoffset : (before.length + frame.length) % sizeValues =
        (before ++ frame.data).length := by
      have hvalues : maxSize < sizeValues := by decide
      rw [List.length_append, Nat.mod_eq_of_lt (by omega), CapturedFrame.length]
    -- the offset that the line gives is where the payload lies in the blob
    have hpayload : slice blob before.length frame.length = frame.data := by
      simp [slice, hblob', CapturedFrame.length]
    have hentry := readEntry_recorded basePath hframe hinside hsize
    have hne : indexLine before.length frame ≠ [] := by simp [indexLine]
    obtain ⟨entries, hentries, hdelivered⟩ := ih _ hblob' fun frame hframe =>
      hframes frame (List.mem_cons_of_mem _ hframe)
    rw [loadIndex, mapM_eq_ok_iff] at hentries
    rw [indexText, lines_append (newline_notMem_indexLine hframe), hoffset]
    refine ⟨⟨frame.captureTsNs, before.length, frame.length, frame.isKeyframe,
      readSession (' ' :: frame.sessionId.toList)⟩ :: entries, ?_, fun sessionOverride => ?_⟩
    · rw [loadIndex, mapM_eq_ok_iff, List.filter_cons_of_pos (by simpa using hne)]
      exact .cons hentry hentries
    · rw [List.map_cons, List.map_cons, hdelivered]
      simp [RecordedFrameSource.frameOf, RecordedFrameSource.replayedSession, hpayload]

/-- Session ids of one word come back whole. -/
theorem loadIndex_indexText {basePath : String} (before : List UInt8) {blob : List UInt8}
    (hsize : blob.length ≤ maxSize) {frames : List CapturedFrame}
    (hblob : blob = before ++ frames.flatMap CapturedFrame.data)
    (hframes : ∀ frame ∈ frames, frame.Recordable ∧ frame.PlainSession) :
    ∃ entries, loadIndex basePath blob.length (lines (indexText before.length frames)) =
      .ok entries ∧ entries.map (RecordedFrameSource.frameOf "" blob) = frames := by
  obtain ⟨entries, hentries, hdelivered⟩ := loadIndex_recorded basePath before hsize hblob
    fun frame hframe => (hframes frame hframe).1
  refine ⟨entries, hentries, (hdelivered "").trans ?_⟩
  conv_rhs => rw [← List.map_id frames]
  refine List.map_congr_left fun frame hframe => ?_
  have hsession : RecordedFrameSource.replayedSession "" frame.sessionId = frame.sessionId :=
    readSession_plain (hframes frame hframe).2
  rw [hsession]
  rfl

/-- Whatever the index holds, the session ids read from it are words. -/
theorem isSpace_of_loadIndex {basePath : String} {blobSize : Nat} {text : List (List Char)}
    {entries : List Entry} (h : loadIndex basePath blobSize text = .ok entries) :
    ∀ entry ∈ entries, ∀ c ∈ entry.sessionId.toList, isSpace c = false := by
  rw [loadIndex, mapM_eq_ok_iff] at h
  intro entry hentry
  obtain ⟨line, -, hline⟩ := Forall₂.exists_of_mem h.flip hentry
  change readEntry basePath blobSize line = .ok entry at hline
  unfold readEntry at hline
  split at hline
  · cases hline
  · split at hline
    · cases hline
    · obtain rfl := Except.ok.inj hline
      exact isSpace_of_readSession _

theorem opened_eq_ok {basePath sessionOverride : String} {log : FrameLog}
    {source : RecordedFrameSource} :
    RecordedFrameSource.opened basePath sessionOverride log = .ok source ↔
      log.blob.length ≤ maxSize ∧ ∃ entries,
        loadIndex basePath log.blob.length (lines log.index) = .ok entries ∧
          (⟨sessionOverride, log.blob, entries⟩ : RecordedFrameSource) = source := by
  unfold RecordedFrameSource.opened
  by_cases hsize : maxSize < log.blob.length
  · rw [if_pos hsize]
    exact iff_of_false (fun h => nomatch h) (fun h => by omega)
  · rw [if_neg hsize, and_iff_right (by omega)]
    cases loadIndex basePath log.blob.length (lines log.index) with
    | error raised => exact iff_of_false (fun h => nomatch h) (fun ⟨_, h, _⟩ => nomatch h)
    | ok entries =>
      constructor
      · exact fun h => ⟨entries, rfl, Except.ok.inj h⟩
      · rintro ⟨_, hentries, rfl⟩
        obtain rfl := Except.ok.inj hentries
        rfl

/-- A recording is delivered as it was made exactly when its session ids are words and its payloads
fit in a vector. -/
theorem replay_eq_iff (basePath : String) (frames : List CapturedFrame)
    (hframes : ∀ frame ∈ frames, frame.Recordable) :
    (∃ source, RecordedFrameSource.opened basePath "" (recordAll frames) = .ok source ∧
      source.replay = frames) ↔
        (∀ frame ∈ frames, frame.PlainSession) ∧
          (frames.map CapturedFrame.length).sum ≤ maxSize := by
  have hlength : (frames.flatMap CapturedFrame.data).length =
      (frames.map CapturedFrame.length).sum := by
    rw [List.length_flatMap]
    rfl
  simp only [recordAll_eq, opened_eq_ok, hlength]
  constructor
  · -- what comes back is read with `>>`, so no session id has a space in it
    rintro ⟨source, ⟨hsize, entries, hentries, rfl⟩, hreplay⟩
    refine ⟨fun frame hframe => ?_, hsize⟩
    rw [← hreplay] at hframe
    obtain ⟨entry, hentry, rfl⟩ := List.mem_map.mp hframe
    exact isSpace_of_loadIndex hentries entry hentry
  · rintro ⟨hplain, hsize⟩
    have hall : ∀ frame ∈ frames, frame.Recordable ∧ frame.PlainSession :=
      fun frame hframe => ⟨hframes frame hframe, hplain frame hframe⟩
    obtain ⟨entries, hentries, hdelivered⟩ :=
      loadIndex_indexText [] (hlength.trans_le hsize) rfl hall
    rw [hlength] at hentries
    exact ⟨_, ⟨hsize, entries, hentries, rfl⟩, hdelivered⟩

/-- A keyframe of four bytes. -/
def keyframeOf (sessionId : String) : CapturedFrame where
  captureTsNs := -40000000
  data := [0, 0, 0, 1]
  isKeyframe := true
  sessionId := sessionId

theorem keyframeOf_recordable {sessionId : String} (h : '\n' ∉ sessionId.toList) :
    (keyframeOf sessionId).Recordable where
  payload := List.cons_ne_nil _ _
  leastTs := by simp [keyframeOf, leastSigned]
  mostTs := by simp [keyframeOf, mostSigned]
  oneLine := h

theorem keyframeOf_plainSession {sessionId : String} (h : sessionId.toList.any isSpace = false) :
    (keyframeOf sessionId).PlainSession := by
  intro c hc
  simpa using List.any_eq_false.mp h c hc

theorem replay_eq_iff_camera :
    ∃ source, RecordedFrameSource.opened "cenario" ""
      (recordAll [keyframeOf "camera", keyframeOf ""]) = .ok source ∧
        source.replay = [keyframeOf "camera", keyframeOf ""] := by
  refine (replay_eq_iff "cenario" _ ?_).mpr ⟨?_, by decide⟩
  · simp only [List.forall_mem_cons]
    exact ⟨keyframeOf_recordable (by decide), keyframeOf_recordable (by decide), by simp⟩
  · simp only [List.forall_mem_cons]
    exact ⟨keyframeOf_plainSession (by decide), keyframeOf_plainSession (by decide), by simp⟩

/-- The session id given to the replay of a video file whose name holds a space comes back cut. -/
theorem spaced_session_is_cut :
    (keyframeOf "replay-porta norte.mp4").Recordable ∧
    (RecordedFrameSource.opened "cenario" ""
      (recordAll [keyframeOf "replay-porta norte.mp4"])).map RecordedFrameSource.replay =
        .ok [keyframeOf "replay-porta"] ∧
    ¬ ∃ source, RecordedFrameSource.opened "cenario" ""
      (recordAll [keyframeOf "replay-porta norte.mp4"]) = .ok source ∧
        source.replay = [keyframeOf "replay-porta norte.mp4"] := by
  have hcut : (RecordedFrameSource.opened "cenario" ""
      (recordAll [keyframeOf "replay-porta norte.mp4"])).map RecordedFrameSource.replay =
        .ok [keyframeOf "replay-porta"] := by
    decide +kernel
  refine ⟨keyframeOf_recordable (by decide), hcut, ?_⟩
  rintro ⟨source, hopened, hreplay⟩
  rw [hopened] at hcut
  have hsame := hreplay.symm.trans (Except.ok.inj hcut)
  exact absurd hsame (by decide)

end Ods.S4
