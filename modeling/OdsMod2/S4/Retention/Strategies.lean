import OdsMod2.Framework.BinaryRounding
import OdsMod2.Framework.TwosComplement
import OdsMod2.S4.MediaClip
import Mathlib.Data.List.Sort
import Mathlib.Tactic.NormNum

/-!
# Retention rules

The value objects of the purge (`disk_usage.hpp`, `quota_policy.hpp`, `retention_policy.hpp`) and
the two strategies that use them. A strategy only decides: it is a pure function from the
candidates and a `RetentionContext` to the candidates to purge, in the order in which to purge
them, and it may throw. `LgpdRetentionStrategy` takes what has expired, `DiskQuotaFifoStrategy`
the oldest media until the *projected* usage is below the target.

Ratios are compared exactly, as rationals. Ages and periods are compared as the nanoseconds in which
they are stored, 64 bits long: a period of more than 9223372036 seconds is another one there
(`hasExpired_iff`).
-/

namespace Ods.S4

open BinaryRounding TextStream TwosComplement

/-! ### Value objects -/

/-- Occupation of the volume, as `df` reports it. Both counts are of one volume, so their sum is taken
to be below `2 ^ 64`. -/
structure DiskUsage where
  usedBytes : Nat
  availableBytes : Nat
  capacity_pos : 0 < usedBytes + availableBytes
  deriving DecidableEq, Repr

namespace DiskUsage

/-- The constructor of `DiskUsage`. -/
def make (usedBytes availableBytes : Nat) : Except DomainError DiskUsage :=
  if h : usedBytes + availableBytes = 0 then
    .error DomainErrorKind.invalidDiskUsage.default
  else
    .ok ⟨usedBytes, availableBytes, Nat.pos_of_ne_zero h⟩

def capacityBytes (usage : DiskUsage) : Nat :=
  usage.usedBytes + usage.availableBytes

def usedRatio (usage : DiskUsage) : Rat :=
  (usage.usedBytes : Rat) / (usage.capacityBytes : Rat)

/-- How the volume would be after deleting `bytes`. -/
def afterFreeing (usage : DiskUsage) (bytes : Nat) : DiskUsage where
  -- never more than is used
  usedBytes := usage.usedBytes - min bytes usage.usedBytes
  availableBytes := usage.availableBytes + min bytes usage.usedBytes
  capacity_pos := by
    have := usage.capacity_pos
    omega

/-- Freeing nothing. -/
theorem afterFreeing_zero (usage : DiskUsage) : usage.afterFreeing 0 = usage := by
  simp only [afterFreeing, Nat.zero_min, Nat.sub_zero, Nat.add_zero]

/-- A projection made in two steps. -/
theorem afterFreeing_afterFreeing (usage : DiskUsage) (bytes more : Nat) :
    (usage.afterFreeing bytes).afterFreeing more = usage.afterFreeing (bytes + more) := by
  unfold afterFreeing
  congr 1
  · show usage.usedBytes - min bytes usage.usedBytes
      - min more (usage.usedBytes - min bytes usage.usedBytes)
      = usage.usedBytes - min (bytes + more) usage.usedBytes
    omega
  · show usage.availableBytes + min bytes usage.usedBytes
      + min more (usage.usedBytes - min bytes usage.usedBytes)
      = usage.availableBytes + min (bytes + more) usage.usedBytes
    omega

end DiskUsage

/-- When the emergency purge starts and how far it goes. -/
structure QuotaPolicy where
  triggerRatio : Rat
  targetRatio : Rat
  target_pos : 0 < targetRatio
  target_le_trigger : targetRatio ≤ triggerRatio
  trigger_le_one : triggerRatio ≤ 1

namespace QuotaPolicy

/-- The constructor of `QuotaPolicy`. -/
def make (triggerRatio targetRatio : Rat) : Except DomainError QuotaPolicy :=
  if h : 0 < targetRatio ∧ targetRatio ≤ triggerRatio ∧ triggerRatio ≤ 1 then
    .ok ⟨triggerRatio, targetRatio, h.1, h.2.1, h.2.2⟩
  else
    .error DomainErrorKind.invalidQuotaPolicy.default

/-- `kDefaultTriggerRatio` and `kDefaultTargetRatio`. -/
def default : QuotaPolicy where
  triggerRatio := 85 / 100
  targetRatio := 80 / 100
  target_pos := by norm_num
  target_le_trigger := by norm_num
  trigger_le_one := by norm_num

def isExceededBy (policy : QuotaPolicy) (usage : DiskUsage) : Bool :=
  decide (usage.usedRatio ≥ policy.triggerRatio)

def isSatisfiedBy (policy : QuotaPolicy) (usage : DiskUsage) : Bool :=
  decide (usage.usedRatio < policy.targetRatio)

end QuotaPolicy

inductive MediaKind where
  | videoClip
  | snapshot
  deriving DecidableEq, Repr

/-- The extension after the last dot, in lower case. -/
def lowerExtension (filePath : String) : Option String :=
  if '.' ∈ filePath.toList then
    some (String.ofList
      (((filePath.toList.reverse.takeWhile (· ≠ '.')).reverse).map Char.toLower))
  else
    none

/-- `media_kind_of`. -/
def mediaKindOf (filePath : String) : MediaKind :=
  match lowerExtension filePath with
  | none => .videoClip
  | some extension =>
    if extension = "jpg" ∨ extension = "jpeg" ∨ extension = "png" then .snapshot else .videoClip

/-- How long each kind of media is kept, in seconds. -/
structure RetentionPolicy where
  clipMaxAge : Int
  snapshotMaxAge : Int
  clipMaxAge_pos : 0 < clipMaxAge
  snapshotMaxAge_pos : 0 < snapshotMaxAge

namespace RetentionPolicy

/-- The constructor of `RetentionPolicy`. -/
def make (clipMaxAge snapshotMaxAge : Int) : Except DomainError RetentionPolicy :=
  if h : 0 < clipMaxAge ∧ 0 < snapshotMaxAge then
    .ok ⟨clipMaxAge, snapshotMaxAge, h.1, h.2⟩
  else
    .error DomainErrorKind.invalidRetentionPolicy.default

/-- `kLgpdDefaultMaxAge` for both kinds: seven days. -/
def default : RetentionPolicy where
  clipMaxAge := 24 * 7 * 3600
  snapshotMaxAge := 24 * 7 * 3600
  clipMaxAge_pos := by decide
  snapshotMaxAge_pos := by decide

def maxAgeFor (policy : RetentionPolicy) : MediaKind → Int
  | .snapshot => policy.snapshotMaxAge
  | .videoClip => policy.clipMaxAge

/-- A clip of exactly the maximal age has expired. The seconds are converted to nanoseconds for the
comparison. -/
def hasExpired (policy : RetentionPolicy) (clip : MediaClip) (now : TimePoint) : Bool :=
  decide (wrap (now - clip.createdAt) ≥
    wrap (policy.maxAgeFor (mediaKindOf clip.filePath) * 1000000000))

/-- The clip is as old as its kind is kept. -/
def IsDue (policy : RetentionPolicy) (now : TimePoint) (clip : MediaClip) : Prop :=
  policy.maxAgeFor (mediaKindOf clip.filePath) * 1000000000 ≤ now - clip.createdAt

/-- Both periods can be counted in nanoseconds. -/
def InNanoseconds (policy : RetentionPolicy) : Prop :=
  policy.clipMaxAge ≤ 9223372036 ∧ policy.snapshotMaxAge ≤ 9223372036

instance (policy : RetentionPolicy) : Decidable policy.InNanoseconds :=
  inferInstanceAs (Decidable (_ ∧ _))

variable {policy : RetentionPolicy} {now : TimePoint} {clip : MediaClip}

theorem InNanoseconds.fits (h : policy.InNanoseconds) (kind : MediaKind) :
    Fits (policy.maxAgeFor kind * 1000000000) := by
  have hclip := policy.clipMaxAge_pos
  have hsnapshot := policy.snapshotMaxAge_pos
  obtain ⟨hclip', hsnapshot'⟩ := h
  cases kind with
  | videoClip => exact ⟨by rw [maxAgeFor]; omega, by rw [maxAgeFor]; omega⟩
  | snapshot => exact ⟨by rw [maxAgeFor]; omega, by rw [maxAgeFor]; omega⟩

/-- As long as the nanoseconds fit, the comparison is that of the ages. -/
theorem hasExpired_iff (hpolicy : policy.InNanoseconds) (hage : Fits (now - clip.createdAt)) :
    policy.hasExpired clip now = true ↔ policy.IsDue now clip := by
  rw [hasExpired, decide_eq_true_iff, wrap_of_fits hage, wrap_of_fits (hpolicy.fits _)]
  exact Iff.rfl

end RetentionPolicy

/-! ### The strategies -/

inductive PurgeReason where
  | retentionPeriodExpired
  | diskQuotaExceeded
  deriving DecidableEq, Repr

/-- A clip that may be purged, with the space its file takes. -/
structure PurgeCandidate where
  clip : MediaClip
  sizeBytes : Nat
  deriving DecidableEq, Repr

/-- What a rule needs to know of the world. -/
structure RetentionContext where
  now : TimePoint
  diskUsage : DiskUsage

/-- `IRetentionStrategy`. -/
structure RetentionStrategy where
  reason : PurgeReason
  selectClipsToPurge :
    List PurgeCandidate → RetentionContext → Except ODSException (List PurgeCandidate)

/-- Purge by deadline: all unlocked media past their retention period. -/
def LgpdRetentionStrategy (policy : RetentionPolicy) : RetentionStrategy where
  reason := .retentionPeriodExpired
  selectClipsToPurge candidates context :=
    .ok (candidates.filter fun candidate =>
      candidate.clip.isEligibleForPurge && policy.hasExpired candidate.clip context.now)

namespace DiskQuotaFifoStrategy

/-- `%.1f%%` of a `double`: the product is rounded, and then printed for what it is. No ratio that is
printed here is above 1, so the 16 characters of the text are enough. -/
def percent (ratio : Rat) : String :=
  let tenths := nearestEven (toBinary 52 (ratio * 100) * 10)
  s!"{tenths / 10}.{tenths % 10}%"

/-- The ratio as the division of two `double`s gives it. -/
def storedRatio (usage : DiskUsage) : Rat :=
  toBinary 52 (toBinary 52 usage.usedBytes / toBinary 52 usage.capacityBytes)

/-- The stable order of creation. -/
def eligibleOldestFirst (candidates : List PurgeCandidate) : List PurgeCandidate :=
  (candidates.filter fun candidate => candidate.clip.isEligibleForPurge).insertionSort
    fun left right => left.clip.createdAt ≤ right.clip.createdAt

/-- Take from the front until the projection is below the target; `usage` is the projection. -/
def takeUntilTargetIsReached (policy : QuotaPolicy) :
    List PurgeCandidate → DiskUsage → List PurgeCandidate
  | [], _ => []
  | candidate :: oldestFirst, projected =>
    if policy.isSatisfiedBy projected then
      []
    else
      -- each candidate is counted with the whole of its file
      candidate :: takeUntilTargetIsReached policy oldestFirst
        (projected.afterFreeing candidate.sizeBytes)

def selectClipsToPurge (policy : QuotaPolicy) (candidates : List PurgeCandidate)
    (context : RetentionContext) : Except ODSException (List PurgeCandidate) :=
  if !policy.isExceededBy context.diskUsage then
    -- below the trigger nothing is taken, and an empty queue is no reason to throw
    .ok []
  else
    let oldestFirst := eligibleOldestFirst candidates
    if oldestFirst.isEmpty then
      .error (.domain ⟨.diskQuotaExceeded,
        "NVMe at " ++ percent (storedRatio context.diskUsage) ++ " (trigger " ++
          percent (toBinary 52 policy.triggerRatio) ++ ") and no unlocked media left to purge"⟩)
    else
      .ok (takeUntilTargetIsReached policy oldestFirst context.diskUsage)

end DiskQuotaFifoStrategy

/-- Emergency purge by space: the oldest unlocked media first. -/
def DiskQuotaFifoStrategy (policy : QuotaPolicy) : RetentionStrategy where
  reason := .diskQuotaExceeded
  selectClipsToPurge := DiskQuotaFifoStrategy.selectClipsToPurge policy

-- a tie, but for the rounding of the product
example : DiskQuotaFifoStrategy.percent (toBinary 52 (8545 / 10000)) = "85.5%" := by decide +kernel

/-! ### What the strategies select -/

namespace DiskQuotaFifoStrategy

theorem mem_eligibleOldestFirst {candidates : List PurgeCandidate} {candidate : PurgeCandidate} :
    candidate ∈ eligibleOldestFirst candidates
      ↔ candidate ∈ candidates ∧ candidate.clip.isEligibleForPurge = true := by
  unfold eligibleOldestFirst
  rw [List.mem_insertionSort, List.mem_filter]

/-- What the candidates weigh, each counted for itself. -/
def totalSize (candidates : List PurgeCandidate) : Nat :=
  (candidates.map PurgeCandidate.sizeBytes).sum

/-- The selection is the shortest initial part whose sizes bring the projection below the target,
or the whole queue. -/
theorem takeUntilTargetIsReached_eq_take (policy : QuotaPolicy)
    (oldestFirst : List PurgeCandidate) (usage : DiskUsage) :
    ∃ k ≤ oldestFirst.length,
      takeUntilTargetIsReached policy oldestFirst usage = oldestFirst.take k ∧
      (∀ j < k, policy.isSatisfiedBy (usage.afterFreeing (totalSize (oldestFirst.take j)))
        = false) ∧
      (k < oldestFirst.length →
        policy.isSatisfiedBy (usage.afterFreeing (totalSize (oldestFirst.take k))) = true) := by
  have hnothing : usage.afterFreeing (totalSize []) = usage := DiskUsage.afterFreeing_zero usage
  -- the projection is the accumulator of the loop, so it is general in the induction
  induction oldestFirst generalizing usage with
  | nil => exact ⟨0, Nat.le_refl 0, rfl, fun j hj => absurd hj (Nat.not_lt_zero j),
      fun h => absurd h (Nat.lt_irrefl 0)⟩
  | cons candidate oldestFirst ih =>
    by_cases hsatisfied : policy.isSatisfiedBy usage = true
    · -- the target is reached before anything is taken
      refine ⟨0, Nat.zero_le _, ?_, fun j hj => absurd hj (Nat.not_lt_zero j), fun _ => ?_⟩
      · rw [takeUntilTargetIsReached, if_pos hsatisfied, List.take_zero]
      · rw [List.take_zero, hnothing]
        exact hsatisfied
    · obtain ⟨k, hk, htake, hbefore, hreached⟩ :=
        ih (usage.afterFreeing candidate.sizeBytes) (DiskUsage.afterFreeing_zero _)
      -- one more candidate in front adds its size to every projection of the rest
      have hproject : ∀ j, (usage.afterFreeing candidate.sizeBytes).afterFreeing
          (totalSize (oldestFirst.take j))
          = usage.afterFreeing (totalSize ((candidate :: oldestFirst).take (j + 1))) := by
        intro j
        rw [DiskUsage.afterFreeing_afterFreeing, List.take_succ_cons, totalSize, totalSize,
          List.map_cons, List.sum_cons]
      refine ⟨k + 1, Nat.succ_le_succ hk, ?_, fun j hj => ?_, fun hlt => ?_⟩
      · rw [takeUntilTargetIsReached, if_neg hsatisfied, htake, List.take_succ_cons]
      · cases j with
        | zero =>
          rw [List.take_zero, hnothing]
          exact Bool.not_eq_true _ ▸ hsatisfied
        | succ j =>
          rw [← hproject]
          exact hbefore j (Nat.lt_of_succ_lt_succ hj)
      · rw [← hproject]
        exact hreached (Nat.lt_of_succ_lt_succ hlt)

end DiskQuotaFifoStrategy

end Ods.S4
