import OdsMod2.S4.Ports

/-!
# One purge sweep

`PurgeMediaUseCase` (`purge_media.cpp`): the strategies decide what goes, the use case makes it
go, in an order meant to survive a crash: the file first, then the record, then the log line.

The report that the C++ code mutates is passed along. The `catch` clause of `purge` covers the
release and the update as well as the log line; what it keeps of the report differs, so the two
halves are separate here. Before the update nothing has been added, after it the entry is
already in `report.purged`.
-/

namespace Ods.S4

open Prog

/-- A clip that should have been purged and was not. -/
structure PurgeFailure where
  clipId : String
  filePath : String
  message : String
  deriving DecidableEq, Repr

/-- The result of one sweep. -/
structure PurgeReport where
  startedAt : TimePoint
  diskUsageBefore : DiskUsage
  diskUsageAfter : DiskUsage
  purged : List PurgeLogEntry
  failures : List PurgeFailure
  skippedNoLongerEligible : Nat
  deriving DecidableEq, Repr

namespace PurgeMedia

/-- `remove_candidate`. -/
def removeCandidate (candidates : List PurgeCandidate) (clipId : String) : List PurgeCandidate :=
  candidates.filter fun candidate => candidate.clip.clipId ≠ clipId

/-- `make_entry`. -/
def makeEntry (clip : MediaClip) (reason : PurgeReason) (outcome : FileOutcome)
    (bytesFreed : Nat) (context : RetentionContext) : PurgeLogEntry where
  clipId := clip.clipId
  eventId := clip.eventId
  filePath := clip.filePath
  reason := reason
  fileOutcome := outcome
  bytesFreed := bytesFreed
  diskUsedRatio := context.diskUsage.usedRatio
  purgedAt := context.now

/-! ### Loading the candidates -/

/-- An absent or unreadable file weighs nothing. -/
def measuredSize (path : String) : Service Nat :=
  catchApplication
    (do if ← Port.fileExists path then Port.fileSize path else ret 0)
    fun _ => ret 0

/-- The loop of `loadCandidates`. -/
def measureAll : List MediaClip → Service (List PurgeCandidate)
  | [] => ret []
  | clip :: clips => do
    let size ← measuredSize clip.filePath
    let candidates ← measureAll clips
    ret (⟨clip, size⟩ :: candidates)

def loadCandidates : Service (List PurgeCandidate) := do
  let clips ← Port.findPurgeCandidates
  measureAll clips

/-! ### Purging one clip -/

/-- Whether another retained clip among the siblings points to the same file. -/
def sharesFile (clip : MediaClip) (siblings : List MediaClip) : Bool :=
  siblings.any fun sibling =>
    decide (sibling.clipId ≠ clip.clipId) && sibling.isRetained &&
      decide (sibling.filePath = clip.filePath)

/-- Only the clips of the same event are asked for. -/
def isFileSharedWithRetainedClip (clip : MediaClip) : Service Bool := do
  let siblings ← Port.findByEventId clip.eventId
  ret (sharesFile clip siblings)

def releaseFile (clip : MediaClip) : Service FileOutcome := do
  if !(← Port.fileExists clip.filePath) then
    -- also what a sweep finds that completes an interrupted one
    ret .alreadyMissing
  else if ← isFileSharedWithRetainedClip clip then
    ret .keptForOtherClip
  else
    Port.removeFile clip.filePath
    ret .deleted

/-- The part of the `try` block of `purge` that comes before the log line. -/
def releaseAndMark (current : MediaClip) : Service FileOutcome := do
  let outcome ← releaseFile current
  -- the whole row goes back, as it was read
  Port.update current.markAsPurged
  ret outcome

/-- `recordInLog`, inside the `try` block of `purge`: a `PurgeLogError` is caught by the former,
any other `ApplicationError` by the latter. -/
def recordInLog (entry : PurgeLogEntry) (report : PurgeReport) : Service PurgeReport :=
  catchApplication
    (do
      Port.recordPurge entry
      ret report)
    fun error =>
      let message :=
        if error.kind = .purgeLog then "purged, but not logged: " ++ error.message
        else error.message
      ret { report with
        failures := report.failures ++ [⟨entry.clipId, entry.filePath, message⟩] }

/-- `purge` once the clip has been read again and is eligible. -/
def purgeCurrent (current : MediaClip) (sizeBytes : Nat) (reason : PurgeReason)
    (context : RetentionContext) (report : PurgeReport) : Service PurgeReport := do
  match ← attempt (releaseAndMark current) with
  | .ok outcome =>
    -- the size was measured when the candidates were loaded
    let bytesFreed := if outcome = .deleted then sizeBytes else 0
    let entry := makeEntry current.markAsPurged reason outcome bytesFreed context
    recordInLog entry { report with purged := report.purged ++ [entry] }
  | .error (.application error) =>
    ret { report with
      failures := report.failures ++ [⟨current.clipId, current.filePath, error.message⟩] }
  -- only application errors are caught
  | .error exception => fail exception

def purge (candidate : PurgeCandidate) (reason : PurgeReason) (context : RetentionContext)
    (report : PurgeReport) : Service PurgeReport := do
  -- the candidate is a snapshot: the clip may have been locked since
  match ← Port.findById candidate.clip.clipId with
  | some current =>
    if current.isEligibleForPurge then
      purgeCurrent current candidate.sizeBytes reason context report
    else
      ret { report with skippedNoLongerEligible := report.skippedNoLongerEligible + 1 }
  | none => ret { report with skippedNoLongerEligible := report.skippedNoLongerEligible + 1 }

/-! ### The sweep -/

/-- The loop of `applyStrategy`. -/
def purgeAll (reason : PurgeReason) (context : RetentionContext) :
    List PurgeCandidate → List PurgeCandidate → PurgeReport →
      Service (List PurgeCandidate × PurgeReport)
  | [], remaining, report => ret (remaining, report)
  | candidate :: selected, remaining, report => do
    let report ← purge candidate reason context report
    -- the later strategies do not see a clip that has been dealt with, whatever became of it
    purgeAll reason context selected (removeCandidate remaining candidate.clip.clipId) report

/-- The disk is measured again for each strategy. -/
def applyStrategy (strategy : RetentionStrategy) (remaining : List PurgeCandidate)
    (report : PurgeReport) : Service (List PurgeCandidate × PurgeReport) := do
  let now ← Port.now
  let diskUsage ← Port.currentUsage
  let selected ← ofExcept (strategy.selectClipsToPurge remaining ⟨now, diskUsage⟩)
  purgeAll strategy.reason ⟨now, diskUsage⟩ selected remaining report

/-- The strategies run in the given order. -/
def applyStrategies :
    List RetentionStrategy → List PurgeCandidate → PurgeReport → Service PurgeReport
  | [], _, report => ret report
  | strategy :: strategies, remaining, report => do
    let (remaining, report) ← applyStrategy strategy remaining report
    applyStrategies strategies remaining report

/-- `PurgeMediaUseCase::execute`. -/
def execute (strategies : List RetentionStrategy) : Service PurgeReport := do
  let usageBefore ← Port.currentUsage
  let startedAt ← Port.now
  let remaining ← loadCandidates
  let report ← applyStrategies strategies remaining
    ⟨startedAt, usageBefore, usageBefore, [], [], 0⟩
  let usageAfter ← Port.currentUsage
  ret { report with diskUsageAfter := usageAfter }

end PurgeMedia

end Ods.S4
