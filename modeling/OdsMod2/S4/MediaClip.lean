import OdsMod2.S4.Errors
import Mathlib.Data.Rat.Defs

/-!
# The media clip

`MediaClip` (`media_clip.hpp`) is the record of one piece of evidence: which event it belongs to,
where its file is, the hash published for that file, and the two flags the purge is about.
`isRetained` says the media is still kept; `isLockedForAudit` says it must be.
-/

namespace Ods.S4

/-- An instant of `system_clock`, in nanoseconds since the epoch. -/
abbrev TimePoint := Int

/-- A window in wall-clock time. -/
structure TimeWindow where
  startTime : TimePoint
  endTime : TimePoint
  start_lt_end : startTime < endTime
  deriving DecidableEq, Repr

/-- The constructor of `TimeWindow`. -/
def TimeWindow.make (startTime endTime : TimePoint) : Except DomainError TimeWindow :=
  if h : startTime < endTime then
    .ok ⟨startTime, endTime, h⟩
  else
    .error ⟨.invalidTimeWindow, "start_time must be strictly before end_time"⟩

theorem TimeWindow.make_ok_iff {startTime endTime : TimePoint} {window : TimeWindow} :
    TimeWindow.make startTime endTime = .ok window
      ↔ window.startTime = startTime ∧ window.endTime = endTime := by
  unfold TimeWindow.make
  constructor
  · intro h
    split at h
    · obtain rfl := Except.ok.inj h
      exact ⟨rfl, rfl⟩
    · cases h
  · rintro ⟨rfl, rfl⟩
    rw [dif_pos window.start_lt_end]

/-- A point of interest of the frame; the coordinates are finite doubles. -/
structure PointOfInterest where
  x : Rat
  y : Rat
  label : String
  deriving DecidableEq, Repr

structure MediaClip where
  clipId : String
  eventId : String
  filePath : String
  sha256Hash : String
  timeWindow : TimeWindow
  isRetained : Bool := true
  isLockedForAudit : Bool := false
  createdAt : TimePoint
  pointsOfInterest : List PointOfInterest := []
  deriving DecidableEq, Repr

namespace MediaClip

def markAsPurged (clip : MediaClip) : MediaClip :=
  { clip with isRetained := false }

def lockForAudit (clip : MediaClip) : MediaClip :=
  { clip with isLockedForAudit := true }

def unlockForAudit (clip : MediaClip) : MediaClip :=
  { clip with isLockedForAudit := false }

@[simp] theorem markAsPurged_clipId (clip : MediaClip) :
    clip.markAsPurged.clipId = clip.clipId := rfl

/-- `is_eligible_for_purge`: the audit lock and an earlier purge bind every strategy. -/
def isEligibleForPurge (clip : MediaClip) : Bool :=
  clip.isRetained && !clip.isLockedForAudit

theorem isEligibleForPurge_iff {clip : MediaClip} :
    clip.isEligibleForPurge = true ↔ clip.isRetained = true ∧ clip.isLockedForAudit = false := by
  unfold isEligibleForPurge
  rw [Bool.and_eq_true, Bool.not_eq_true']

@[simp] theorem isEligibleForPurge_markAsPurged (clip : MediaClip) :
    clip.markAsPurged.isEligibleForPurge = false := rfl

end MediaClip

end Ods.S4
