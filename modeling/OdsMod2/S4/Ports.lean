import OdsMod2.Framework.Protocol
import OdsMod2.Framework.KeyedTable
import OdsMod2.S4.Retention.Strategies
import OdsMod2.S4.RingBuffer.Ingest

/-!
# The ports of the service

The use cases of S4.2 and S4.3 reach the world through interfaces only: the clip repository, the
file storage, the purge log, the clock, the disk, the capture buffer and the muxer. `PortCall` is
the union of their methods, and a use case is a `Service`, a program over those calls.

`Environment.serves` is what the calls do to the state the service keeps (`ServiceState`: the
clip table, the files and the purge log). An environment fixes what the code cannot decide: what
the clock reads, how full the disk is, what the buffer holds, which calls fail. A failed call
leaves the state alone, with one exception: a write opens its file with truncation, so when it
fails midway the file holds a part of the data. `exists` reports a file it cannot examine as
missing.

`Simulation` is an environment in which every answer is computed and nothing fails; with `Faults`
some of its calls throw and some of its files cannot be examined.
-/

namespace Ods.S4

open Prog

/-! ### The purge log -/

/-- What happened to the file of a purged clip. -/
inductive FileOutcome where
  | deleted
  | alreadyMissing
  | keptForOtherClip
  deriving DecidableEq, Repr

/-- One line of the purge log. -/
structure PurgeLogEntry where
  clipId : String
  eventId : String
  filePath : String
  reason : PurgeReason
  fileOutcome : FileOutcome
  bytesFreed : Nat
  diskUsedRatio : Rat
  purgedAt : TimePoint
  deriving DecidableEq, Repr

/-! ### The calls -/

inductive PortCall where
  -- `IDiskUsageProvider`, `IClock`
  | currentUsage
  | now
  -- `IMediaClipRepository`
  | findPurgeCandidates
  | findById (clipId : String)
  | findByEventId (eventId : String)
  | save (clip : MediaClip)
  | update (clip : MediaClip)
  -- `IFileStorage`
  | fileExists (path : String)
  | fileSize (path : String)
  | writeFile (path : String) (data : List UInt8)
  | removeFile (path : String)
  -- `IPurgeLog`
  | recordPurge (entry : PurgeLogEntry)
  -- `IMediaBufferReader`, `ICaptureBufferReader`, `IMediaMuxer`
  | readWindow (start stop : TimePoint)
  | extractCaptureWindow (window : CaptureWindow) (waitTimeoutSeconds : Rat)
  | mux (segment : ExtractedSegment)
  | toWallClock (captureTsNs : Nanoseconds)
  -- `system_clock::now`, `generate_clip_id`, `compute_sha256_hex`
  | systemNow
  | generateClipId
  | computeSha256 (data : List UInt8)

/-- What a call answers. -/
def PortCall.Answer : PortCall → Type
  | .currentUsage => DiskUsage
  | .now => TimePoint
  | .findPurgeCandidates => List MediaClip
  | .findById _ => Option MediaClip
  | .findByEventId _ => List MediaClip
  | .save _ => Unit
  | .update _ => Unit
  | .fileExists _ => Bool
  | .fileSize _ => Nat
  | .writeFile _ _ => Unit
  | .removeFile _ => Unit
  | .recordPurge _ => Unit
  | .readWindow _ _ => List (List UInt8)
  | .extractCaptureWindow _ _ => ExtractedSegment
  | .mux _ => List UInt8
  | .toWallClock _ => TimePoint
  | .systemNow => TimePoint
  | .generateClipId => String
  | .computeSha256 _ => String

/-- The file a call is to remove. -/
def PortCall.removes : PortCall → Option String
  | .removeFile path => some path
  | _ => none

theorem PortCall.removes_eq_some {op : PortCall} {path : String} :
    op.removes = some path ↔ op = .removeFile path := by
  constructor
  · intro h
    cases op with
    | removeFile path' => rw [Option.some.inj h]
    | _ => cases h
  · rintro rfl
    rfl

/-- A use case. -/
abbrev Service := Prog PortCall.Answer ODSException

namespace Port

def currentUsage : Service DiskUsage := perform PortCall.currentUsage

def now : Service TimePoint := perform PortCall.now

def findPurgeCandidates : Service (List MediaClip) := perform PortCall.findPurgeCandidates

def findById (clipId : String) : Service (Option MediaClip) :=
  perform (PortCall.findById clipId)

def findByEventId (eventId : String) : Service (List MediaClip) :=
  perform (PortCall.findByEventId eventId)

def save (clip : MediaClip) : Service Unit := perform (PortCall.save clip)

def update (clip : MediaClip) : Service Unit := perform (PortCall.update clip)

def fileExists (path : String) : Service Bool := perform (PortCall.fileExists path)

def fileSize (path : String) : Service Nat := perform (PortCall.fileSize path)

def writeFile (path : String) (data : List UInt8) : Service Unit :=
  perform (PortCall.writeFile path data)

def removeFile (path : String) : Service Unit := perform (PortCall.removeFile path)

def recordPurge (entry : PurgeLogEntry) : Service Unit := perform (PortCall.recordPurge entry)

def readWindow (start stop : TimePoint) : Service (List (List UInt8)) :=
  perform (PortCall.readWindow start stop)

def extractCaptureWindow (window : CaptureWindow) (waitTimeoutSeconds : Rat) :
    Service ExtractedSegment :=
  perform (PortCall.extractCaptureWindow window waitTimeoutSeconds)

def mux (segment : ExtractedSegment) : Service (List UInt8) := perform (PortCall.mux segment)

def toWallClock (captureTsNs : Nanoseconds) : Service TimePoint :=
  perform (PortCall.toWallClock captureTsNs)

def systemNow : Service TimePoint := perform PortCall.systemNow

def generateClipId : Service String := perform PortCall.generateClipId

def computeSha256 (data : List UInt8) : Service String := perform (PortCall.computeSha256 data)

end Port

/-- The threads that may run at once: the purge daemon, an auditor, a request that extracts a
clip. -/
inductive Actor where
  | sweep
  | auditor
  | extraction
  deriving DecidableEq

/-- `catch (const ApplicationError&)`. -/
def catchApplication {α : Type} (body : Service α) (handler : ApplicationError → Service α) :
    Service α := do
  match ← attempt body with
  | .ok a => ret a
  | .error (.application error) => handler error
  | .error exception => fail exception

/-- A caught error goes on with the handler; every other outcome is the body's. -/
def catchPost {α σ : Type} (H : Handler PortCall.Answer ODSException σ)
    (Permits : σ → PortCall → Prop) (handler : ApplicationError → Service α)
    (Q : Except ODSException α → σ → Prop) : Except ODSException α → σ → Prop
  | .error (.application error), s => (handler error).wp H Permits Q s
  | r, s => Q r s

theorem wp_catchApplication {α σ : Type} {H : Handler PortCall.Answer ODSException σ}
    {Permits : σ → PortCall → Prop} {body : Service α} {handler : ApplicationError → Service α}
    {Q : Except ODSException α → σ → Prop} {s : σ}
    (h : body.wp H Permits (catchPost H Permits handler Q) s) :
    (catchApplication body handler).wp H Permits Q s := by
  refine wp_bind (wp_attempt (wp_mono h ?_))
  intro r s' hr
  match r with
  | .ok a => exact hr
  | .error (.application error) => exact hr
  -- the handlers of the use cases let every other exception pass
  | .error (.domain error) => exact hr
  | .error (.mediaMux message) => exact hr

/-! ### The state behind the ports -/

/-- The clips of the repository: one row for each id. -/
abbrev ClipTable := KeyedTable MediaClip.clipId

structure ServiceState where
  clips : ClipTable
  files : String → Option (List UInt8)
  purgeLog : List PurgeLogEntry

namespace ServiceState

def putClip (s : ServiceState) (clip : MediaClip) : ServiceState :=
  { s with clips := s.clips.upsert clip }

def putFile (s : ServiceState) (path : String) (data : List UInt8) : ServiceState :=
  { s with files := Function.update s.files path (some data) }

def dropFile (s : ServiceState) (path : String) : ServiceState :=
  { s with files := Function.update s.files path none }

def appendLog (s : ServiceState) (entry : PurgeLogEntry) : ServiceState :=
  { s with purgeLog := s.purgeLog ++ [entry] }

section Projections

variable (s : ServiceState) (clip : MediaClip) (path : String) (data : List UInt8)
  (entry : PurgeLogEntry)

@[simp] theorem putClip_clips : (s.putClip clip).clips = s.clips.upsert clip := rfl

@[simp] theorem putFile_files :
    (s.putFile path data).files = Function.update s.files path (some data) := rfl

@[simp] theorem dropFile_files :
    (s.dropFile path).files = Function.update s.files path none := rfl

@[simp] theorem appendLog_purgeLog : (s.appendLog entry).purgeLog = s.purgeLog ++ [entry] := rfl

end Projections

end ServiceState

/-! ### What the calls do -/

/-- What the code cannot decide. -/
structure Environment where
  clock : TimePoint → Prop
  usage : ServiceState → DiskUsage → Prop
  /-- In which orders the repository lists the purge candidates. -/
  lists : ServiceState → List MediaClip → Prop
  window : TimePoint → TimePoint → List (List UInt8) → Prop
  capture : CaptureWindow → Rat → ExtractedSegment → Prop
  container : ExtractedSegment → List UInt8 → Prop
  wallClock : Nanoseconds → TimePoint → Prop
  clipId : String → Prop
  sha256 : List UInt8 → String
  /-- Which exceptions a call may throw. -/
  fails : PortCall → ODSException → Prop
  /-- Which files cannot be examined. -/
  hides : String → Prop

namespace Environment

/-- Nothing fails. -/
structure Calm (env : Environment) : Prop where
  fails : ∀ op exception, ¬ env.fails op exception
  hides : ∀ path, ¬ env.hides path

/-- A call that returns. A query returns all the rows it asks for; the repository also returns, with
those it has read so far, when a step of its statement fails, and that is left out here. So is a file
that loses its last bytes when it is closed. -/
def answers (env : Environment) :
    (op : PortCall) → op.Answer → ServiceState → ServiceState → Prop
  | .currentUsage, usage, s, s' => env.usage s usage ∧ s' = s
  | .now, instant, s, s' => env.clock instant ∧ s' = s
  -- the query of the repository: `is_retained = 1 AND is_locked_for_audit = 0`
  | .findPurgeCandidates, clips, s, s' =>
    clips.Perm (s.clips.rows.filter fun clip => clip.isRetained && !clip.isLockedForAudit) ∧
      env.lists s clips ∧ s' = s
  | .findById clipId, found, s, s' => found = s.clips.lookup clipId ∧ s' = s
  | .findByEventId eventId, clips, s, s' =>
    clips.Perm (s.clips.rows.filter fun clip => clip.eventId = eventId) ∧ s' = s
  | .save clip, _, s, s' => s' = s.putClip clip
  | .update clip, _, s, s' => s' = s.putClip clip
  | .fileExists path, found, s, s' =>
    (found = (s.files path).isSome ∨ found = false ∧ env.hides path) ∧ s' = s
  | .fileSize path, size, s, s' =>
    (∃ data, s.files path = some data ∧ size = data.length) ∧ s' = s
  | .writeFile path data, _, s, s' => s' = s.putFile path data
  | .removeFile path, _, s, s' => s' = s.dropFile path
  | .recordPurge entry, _, s, s' => s' = s.appendLog entry
  | .readWindow start stop, frames, s, s' => env.window start stop frames ∧ s' = s
  | .extractCaptureWindow window timeout, segment, s, s' =>
    env.capture window timeout segment ∧ s' = s
  | .mux segment, container, s, s' => env.container segment container ∧ s' = s
  | .toWallClock captureTsNs, instant, s, s' => env.wallClock captureTsNs instant ∧ s' = s
  | .systemNow, instant, s, s' => env.clock instant ∧ s' = s
  | .generateClipId, clipId, s, s' => env.clipId clipId ∧ s' = s
  | .computeSha256 data, hash, s, s' => hash = env.sha256 data ∧ s' = s

/-- `sizeOf` of a file that is not there. -/
def mediaFileNotFound (path : String) : ODSException :=
  .application ⟨.mediaFileNotFound, "media file not found: " ++ path⟩

/-- A call that throws. -/
def refuses (env : Environment) :
    PortCall → ODSException → ServiceState → ServiceState → Prop
  | .fileSize path, exception, s, s' =>
    (env.fails (.fileSize path) exception ∨
      s.files path = none ∧ exception = mediaFileNotFound path) ∧ s' = s
  -- the stream was opened with truncation before it failed
  | .writeFile path data, exception, s, s' =>
    env.fails (.writeFile path data) exception ∧
      (s' = s ∨ ∃ written, written <+: data ∧ s' = s.putFile path written)
  | op, exception, s, s' => env.fails op exception ∧ s' = s

/-- The calls, answered. -/
def serves (env : Environment) : Handler PortCall.Answer ODSException ServiceState
  | op, s, .ok answer, s' => env.answers op answer s s'
  | op, s, .error exception, s' => env.refuses op exception s s'

/-- A call other than a write that throws leaves the state alone. -/
theorem refuses_eq {env : Environment} {op : PortCall} {exception : ODSException}
    {s s' : ServiceState} (h : env.refuses op exception s s')
    (hop : ∀ path data, op ≠ .writeFile path data) : s' = s := by
  cases op with
  | writeFile path data => exact absurd rfl (hop path data)
  | _ => exact h.2

/-- With a calm environment a call throws only when asked for the size of a missing file. -/
theorem Calm.refuses {env : Environment} (hcalm : env.Calm) {op : PortCall}
    {exception : ODSException} {s s' : ServiceState} (h : env.refuses op exception s s') :
    ∃ path, op = .fileSize path ∧ s.files path = none ∧ exception = mediaFileNotFound path := by
  cases op with
  | fileSize path =>
    rcases h.1 with hfail | ⟨hnone, hexc⟩
    · exact absurd hfail (hcalm.fails _ _)
    · exact ⟨path, rfl, hnone, hexc⟩
  | _ => exact absurd h.1 (hcalm.fails _ _)

/-- A write leaves the table alone, whether it returns or throws. -/
theorem writeFile_clips {env : Environment} {path : String} {data : List UInt8}
    {answer : Except ODSException (PortCall.writeFile path data).Answer} {s s' : ServiceState}
    (hserves : env.serves (.writeFile path data) s answer s') : s'.clips = s.clips := by
  cases answer with
  | ok _ =>
    obtain rfl := hserves
    rfl
  | error exception =>
    obtain ⟨-, rfl | ⟨written, -, rfl⟩⟩ := hserves
    · rfl
    · rfl

/-- A call that returns and is no write leaves a file alone, or removes it. -/
theorem files_of_answers {env : Environment} {op : PortCall} {answer : op.Answer}
    {s s' : ServiceState} (hanswers : env.answers op answer s s')
    (hop : ∀ path data, op ≠ .writeFile path data) (path : String) :
    s'.files path = s.files path ∨ s'.files path = none := by
  cases op with
  | writeFile path' data => exact absurd rfl (hop path' data)
  | removeFile path' =>
    obtain rfl := hanswers
    rw [ServiceState.dropFile_files]
    by_cases hpath : path = path'
    · rw [hpath]
      exact .inr (Function.update_self _ _ _)
    · exact .inl (Function.update_of_ne hpath _ _)
  | save clip =>
    obtain rfl := hanswers
    exact .inl rfl
  | update clip =>
    obtain rfl := hanswers
    exact .inl rfl
  | recordPurge entry =>
    obtain rfl := hanswers
    exact .inl rfl
  | findPurgeCandidates =>
    obtain ⟨-, -, rfl⟩ := hanswers
    exact .inl rfl
  | _ =>
    obtain ⟨-, rfl⟩ := hanswers
    exact .inl rfl

/-- A write to another file, complete or not, leaves this one alone. -/
theorem files_of_writeFile {env : Environment} {path path' : String} {data : List UInt8}
    {answer : Except ODSException Unit} {s s' : ServiceState}
    (hserves : env.serves (.writeFile path' data) s answer s') (hpath : path ≠ path') :
    s'.files path = s.files path := by
  cases answer with
  | ok _ =>
    obtain rfl := hserves
    exact Function.update_of_ne hpath _ _
  | error exception =>
    obtain ⟨-, rfl | ⟨written, -, rfl⟩⟩ := hserves
    · rfl
    · exact Function.update_of_ne hpath _ _

/-- Only a write puts bytes into a file. -/
theorem writeFile_of_changed {env : Environment} {op : PortCall}
    {answer : Except ODSException op.Answer} {s s' : ServiceState}
    (hserves : env.serves op s answer s') {path : String} {content : List UInt8}
    (hafter : s'.files path = some content) (hbefore : s.files path ≠ some content) :
    ∃ data, op = .writeFile path data := by
  by_cases hwrite : ∃ path' data, op = .writeFile path' data
  · obtain ⟨path', data, rfl⟩ := hwrite
    by_cases hpath : path = path'
    · subst hpath
      exact ⟨data, rfl⟩
    · rw [files_of_writeFile hserves hpath] at hafter
      exact absurd hafter hbefore
  · -- no write: then the file holds what it held before, or is gone
    have hop : ∀ path data, op ≠ .writeFile path data :=
      fun path' data hop => hwrite ⟨path', data, hop⟩
    refine absurd ?_ hbefore
    cases answer with
    | error exception =>
      rw [refuses_eq hserves hop] at hafter
      exact hafter
    | ok answer =>
      rcases files_of_answers hserves hop path with hsame | hgone
      · exact hsame.symm.trans hafter
      · rw [hgone] at hafter
        cases hafter

end Environment

/-! ### Simulations -/

/-- An environment whose answers are computed and in which nothing fails. -/
structure Simulation where
  now : TimePoint
  usage : ServiceState → DiskUsage
  window : TimePoint → TimePoint → List (List UInt8)
  capture : CaptureWindow → ExtractedSegment
  container : ExtractedSegment → List UInt8
  wallClock : Nanoseconds → TimePoint
  clipId : ServiceState → String
  sha256 : List UInt8 → String

namespace Simulation

def environment (sim : Simulation) : Environment where
  clock instant := instant = sim.now
  usage s usage := usage = sim.usage s
  lists s clips :=
    clips = s.clips.rows.filter fun clip => clip.isRetained && !clip.isLockedForAudit
  window start stop frames := frames = sim.window start stop
  capture window _ segment := segment = sim.capture window
  container segment container := container = sim.container segment
  wallClock captureTsNs instant := instant = sim.wallClock captureTsNs
  clipId clipId := ∃ s, clipId = sim.clipId s
  sha256 := sim.sha256
  fails _ _ := False
  hides _ := False

theorem calm (sim : Simulation) : sim.environment.Calm :=
  ⟨fun _ _ h => h, fun _ h => h⟩

def serve (sim : Simulation) : Server PortCall.Answer ODSException ServiceState
  | .currentUsage, s => (.ok (sim.usage s), s)
  | .now, s => (.ok sim.now, s)
  | .findPurgeCandidates, s =>
    (.ok (s.clips.rows.filter fun clip => clip.isRetained && !clip.isLockedForAudit), s)
  | .findById clipId, s => (.ok (s.clips.lookup clipId), s)
  | .findByEventId eventId, s =>
    (.ok (s.clips.rows.filter fun clip => clip.eventId = eventId), s)
  | .save clip, s => (.ok (), s.putClip clip)
  | .update clip, s => (.ok (), s.putClip clip)
  | .fileExists path, s => (.ok (s.files path).isSome, s)
  | .fileSize path, s =>
    match s.files path with
    | some data => (.ok data.length, s)
    | none => (.error (Environment.mediaFileNotFound path), s)
  | .writeFile path data, s => (.ok (), s.putFile path data)
  | .removeFile path, s => (.ok (), s.dropFile path)
  | .recordPurge entry, s => (.ok (), s.appendLog entry)
  | .readWindow start stop, s => (.ok (sim.window start stop), s)
  | .extractCaptureWindow window _, s => (.ok (sim.capture window), s)
  | .mux segment, s => (.ok (sim.container segment), s)
  | .toWallClock captureTsNs, s => (.ok (sim.wallClock captureTsNs), s)
  | .systemNow, s => (.ok sim.now, s)
  | .generateClipId, s => (.ok (sim.clipId s), s)
  | .computeSha256 data, s => (.ok (sim.sha256 data), s)

theorem serve_serves (sim : Simulation) (op : PortCall) (s : ServiceState) :
    sim.environment.serves op s (sim.serve op s).1 (sim.serve op s).2 := by
  cases op with
  | findPurgeCandidates => exact ⟨List.Perm.refl _, rfl, rfl⟩
  | findByEventId eventId => exact ⟨List.Perm.refl _, rfl⟩
  | fileExists path => exact ⟨.inl rfl, rfl⟩
  | fileSize path =>
    cases hfile : s.files path with
    | some data =>
      rw [show sim.serve (.fileSize path) s = (.ok data.length, s) by
        show (match s.files path with | some data => _ | none => _) = _
        rw [hfile]]
      exact ⟨⟨data, hfile, rfl⟩, rfl⟩
    | none =>
      rw [show sim.serve (.fileSize path) s = (.error (Environment.mediaFileNotFound path), s) by
        show (match s.files path with | some data => _ | none => _) = _
        rw [hfile]]
      exact ⟨.inr ⟨hfile, rfl⟩, rfl⟩
  | generateClipId => exact ⟨⟨s, rfl⟩, rfl⟩
  | save _ => rfl
  | update _ => rfl
  | writeFile _ _ => rfl
  | removeFile _ => rfl
  | recordPurge _ => rfl
  | _ => exact ⟨rfl, rfl⟩

/-- A bench for examples: the clock stands a week after the epoch, the disk is half full, and a
window holds one frame of one byte that depends on where it starts. A digest is the data itself,
as text. -/
def bench : Simulation where
  now := 7 * 24 * 3600 * 1000000000
  usage _ := ⟨1, 1, by decide⟩
  window start _ := [[start.toNat.toUInt8]]
  capture window := ⟨window, "session", [⟨0, window.startNs, true, [0]⟩], false, false⟩
  container segment := (segment.frames.map ExtractedFrame.data).flatten
  wallClock captureTsNs := captureTsNs
  clipId s := s!"clip-{s.clips.rows.length}"
  sha256 data := String.ofList (data.map Char.ofUInt8)

theorem bench_sha256_injective : Function.Injective bench.sha256 := by
  intro data data' h
  have hbytes : Function.Injective Char.ofUInt8 := by
    intro byte byte' hchar
    exact UInt8.toUInt32_inj.mp (congrArg Char.val hchar)
  exact List.map_injective_iff.mpr hbytes (String.ofList_injective h)

end Simulation

/-- What goes wrong in a simulation: the calls that throw, and the files whose status call fails. -/
structure Faults where
  throws : PortCall → Option ODSException
  hides : String → Bool

namespace Faults

variable (faults : Faults) (sim : Simulation)

def environment : Environment :=
  { sim.environment with
    fails := fun op exception => faults.throws op = some exception
    hides := fun path => faults.hides path = true }

/-- A call that does not throw. -/
def answer : Server PortCall.Answer ODSException ServiceState
  | .fileExists path, s => (.ok ((s.files path).isSome && !faults.hides path), s)
  | op, s => sim.serve op s

def serve : Server PortCall.Answer ODSException ServiceState :=
  fun op s => (faults.throws op).elim (faults.answer sim op s) fun exception => (.error exception, s)

theorem answer_serves (op : PortCall) (s : ServiceState) :
    (faults.environment sim).serves op s (faults.answer sim op s).1 (faults.answer sim op s).2 := by
  have hserves := Simulation.serve_serves sim op s
  cases op with
  | fileExists path =>
    refine ⟨?_, rfl⟩
    cases hhides : faults.hides path with
    | true => exact .inr ⟨Bool.and_false _, hhides⟩
    | false => exact .inl (Bool.and_true _)
  | fileSize path =>
    show (faults.environment sim).serves _ s (sim.serve (.fileSize path) s).1
      (sim.serve (.fileSize path) s).2
    generalize sim.serve (.fileSize path) s = served at hserves ⊢
    match served with
    | (.ok size, s') => exact hserves
    -- a simulation throws for a missing file only
    | (.error exception, s') =>
      exact ⟨.inr (hserves.1.resolve_left (sim.calm.fails _ _)), hserves.2⟩
  | _ => exact hserves

theorem serve_serves (op : PortCall) (s : ServiceState) :
    (faults.environment sim).serves op s (faults.serve sim op s).1 (faults.serve sim op s).2 := by
  unfold serve
  cases hthrows : faults.throws op with
  | none => exact faults.answer_serves sim op s
  | some exception =>
    show (faults.environment sim).refuses op exception s s
    cases op with
    | fileSize path => exact ⟨.inl hthrows, rfl⟩
    | writeFile path data => exact ⟨hthrows, .inl rfl⟩
    | _ => exact ⟨hthrows, rfl⟩

end Faults

end Ods.S4
