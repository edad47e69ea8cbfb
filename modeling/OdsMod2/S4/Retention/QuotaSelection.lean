import Mathlib.Algebra.Order.Field.Basic
import Mathlib.Data.Rat.Cast.Order
import OdsMod2.Framework.SortBy
import OdsMod2.S4.Retention.Strategies

/-!
# The selection by quota

`DiskQuotaFifoStrategy` filters the candidates, sorts what is left by creation and takes from the front
until the projected usage is below the target. `SelectsOldest` says what comes out: of the eligible
candidates in the stable order of creation, the shortest initial part that brings the usage below the
target, or all of them when no part does.

The loop tests before it takes, so the part is shortest at every length, also where a file has size zero
or is larger than all that is used. The trigger is not below the target, so a queue that is not empty is
never left untouched: an empty selection means that the trigger was not reached.
-/

namespace Ods.S4

namespace DiskQuotaFifoStrategy

/-! ### The order of the queue -/

/-- Neither purged nor locked. -/
def Purgeable (candidate : PurgeCandidate) : Prop :=
  candidate.clip.isRetained = true ∧ candidate.clip.isLockedForAudit = false

instance (candidate : PurgeCandidate) : Decidable (Purgeable candidate) :=
  inferInstanceAs (Decidable (_ ∧ _))

/-- The eligible candidates by creation; those of one instant stand as they were received. -/
structure OldestFirst (candidates oldestFirst : List PurgeCandidate) : Prop where
  ordered : oldestFirst.Pairwise fun left right => left.clip.createdAt ≤ right.clip.createdAt
  stable : ∀ instant,
    oldestFirst.filter (fun candidate => decide (candidate.clip.createdAt = instant)) =
      (candidates.filter fun candidate => decide (Purgeable candidate)).filter
        fun candidate => decide (candidate.clip.createdAt = instant)

theorem isEligibleForPurge_eq (candidate : PurgeCandidate) :
    candidate.clip.isEligibleForPurge = decide (Purgeable candidate) := by
  rw [Bool.eq_iff_iff, decide_eq_true_iff]
  exact MediaClip.isEligibleForPurge_iff

/-- `std::stable_sort` is the sort by a key. -/
theorem eligibleOldestFirst_eq_sortBy (candidates : List PurgeCandidate) :
    eligibleOldestFirst candidates =
      sortBy (fun candidate => candidate.clip.createdAt)
        (candidates.filter fun candidate => decide (Purgeable candidate)) := by
  unfold eligibleOldestFirst sortBy
  simp only [isEligibleForPurge_eq]

theorem oldestFirst_eligibleOldestFirst (candidates : List PurgeCandidate) :
    OldestFirst candidates (eligibleOldestFirst candidates) := by
  rw [eligibleOldestFirst_eq_sortBy]
  exact ⟨sorted_sortBy _, fun instant => filter_sortBy instant _⟩

theorem purgeable_of_mem {candidates : List PurgeCandidate} {candidate : PurgeCandidate}
    (h : candidate ∈ eligibleOldestFirst candidates) : Purgeable candidate :=
  MediaClip.isEligibleForPurge_iff.mp (mem_eligibleOldestFirst.mp h).2

/-- The queue is empty only if nobody is eligible. -/
theorem eligibleOldestFirst_eq_nil {candidates : List PurgeCandidate} :
    eligibleOldestFirst candidates = [] ↔ ¬ ∃ candidate ∈ candidates, Purgeable candidate := by
  rw [List.eq_nil_iff_forall_not_mem]
  constructor
  · rintro hnone ⟨candidate, hmem, hpurgeable⟩
    exact hnone candidate
      (mem_eligibleOldestFirst.mpr ⟨hmem, MediaClip.isEligibleForPurge_iff.mpr hpurgeable⟩)
  · intro hnone candidate hmem
    exact hnone ⟨candidate, (mem_eligibleOldestFirst.mp hmem).1, purgeable_of_mem hmem⟩

/-! ### What is selected -/

/-- The usage once the chosen are gone, where no more is freed than was used. -/
def ratioWithout (usage : DiskUsage) (chosen : List PurgeCandidate) : Rat :=
  ((usage.usedBytes - totalSize chosen : Nat) : Rat) / (usage.usedBytes + usage.availableBytes : Nat)

theorem isSatisfiedBy_afterFreeing (policy : QuotaPolicy) (usage : DiskUsage)
    (chosen : List PurgeCandidate) :
    policy.isSatisfiedBy (usage.afterFreeing (totalSize chosen)) = true ↔
      ratioWithout usage chosen < policy.targetRatio := by
  have hused : usage.usedBytes - min (totalSize chosen) usage.usedBytes =
      usage.usedBytes - totalSize chosen := by
    omega
  -- the capacity does not change
  have hcapacity : usage.usedBytes - min (totalSize chosen) usage.usedBytes +
      (usage.availableBytes + min (totalSize chosen) usage.usedBytes) =
        usage.usedBytes + usage.availableBytes := by
    omega
  unfold QuotaPolicy.isSatisfiedBy DiskUsage.usedRatio DiskUsage.capacityBytes
    DiskUsage.afterFreeing ratioWithout
  rw [decide_eq_true_iff]
  dsimp only
  rw [hcapacity, hused]

/-- The first of the queue whose sizes reach the target, or all of it. -/
structure SelectsOldest (policy : QuotaPolicy) (usage : DiskUsage)
    (candidates selected : List PurgeCandidate) : Prop where
  nonempty : selected ≠ []
  part : ∃ rest, OldestFirst candidates (selected ++ rest) ∧
    (rest ≠ [] → ratioWithout usage selected < policy.targetRatio)
  shortest : ∀ shorter, shorter <+: selected → shorter ≠ selected →
    policy.targetRatio ≤ ratioWithout usage shorter
  purgeable : ∀ candidate ∈ selected, Purgeable candidate

/-- The three outcomes of `selectClipsToPurge`. -/
structure QuotaOutcome (policy : QuotaPolicy) (usage : DiskUsage) (candidates : List PurgeCandidate)
    (result : Except ODSException (List PurgeCandidate)) : Prop where
  below : result = .ok [] ↔ usage.usedRatio < policy.triggerRatio
  exhausted : (∃ error, result = .error (.domain error) ∧ error.kind = .diskQuotaExceeded) ↔
    policy.triggerRatio ≤ usage.usedRatio ∧ ¬ ∃ candidate ∈ candidates, Purgeable candidate
  selected : policy.triggerRatio ≤ usage.usedRatio →
    (∃ candidate ∈ candidates, Purgeable candidate) →
      ∃ selected, result = .ok selected ∧ SelectsOldest policy usage candidates selected

/-- What the loop takes of a queue that is not empty while the trigger is reached. -/
theorem takeUntilTargetIsReached_selects (policy : QuotaPolicy) (usage : DiskUsage)
    {candidates : List PurgeCandidate} (htrigger : policy.triggerRatio ≤ usage.usedRatio)
    (hqueue : eligibleOldestFirst candidates ≠ []) :
    SelectsOldest policy usage candidates
      (takeUntilTargetIsReached policy (eligibleOldestFirst candidates) usage) := by
  obtain ⟨k, hk, htake, hbefore, hreached⟩ :=
    takeUntilTargetIsReached_eq_take policy (eligibleOldestFirst candidates) usage
  -- the loop has gone on before each of the `k` it has taken
  have hunreached : ∀ j < k,
      policy.targetRatio ≤ ratioWithout usage ((eligibleOldestFirst candidates).take j) := by
    intro j hj
    by_contra hlt
    have hnot := hbefore j hj
    rw [(isSatisfiedBy_afterFreeing policy usage _).mpr (not_le.mp hlt)] at hnot
    cases hnot
  rw [htake]
  refine ⟨?_, ⟨(eligibleOldestFirst candidates).drop k, ?_, ?_⟩, ?_, ?_⟩
  · intro hnone
    rcases List.take_eq_nil_iff.mp hnone with hzero | hnil
    · -- taking nothing would mean that the usage is below the target
      have hpos : k < (eligibleOldestFirst candidates).length := by
        rw [hzero]
        exact List.length_pos_iff.mpr hqueue
      have hlt := (isSatisfiedBy_afterFreeing policy usage _).mp (hreached hpos)
      rw [hzero, List.take_zero] at hlt
      have hnow : ratioWithout usage [] = usage.usedRatio := rfl
      rw [hnow] at hlt
      exact absurd (hlt.trans_le policy.target_le_trigger) (not_lt.mpr htrigger)
    · exact hqueue hnil
  · rw [List.take_append_drop]
    exact oldestFirst_eligibleOldestFirst candidates
  -- the loop has stopped before the end, so it has reached the target
  · intro hrest
    have hlt : k < (eligibleOldestFirst candidates).length := by
      by_contra hall
      exact hrest (List.drop_eq_nil_iff.mpr (Nat.not_lt.mp hall))
    exact (isSatisfiedBy_afterFreeing policy usage _).mp (hreached hlt)
  · -- a shorter front is one that the loop has passed
    intro shorter hfront hne
    have hpart : shorter <+: eligibleOldestFirst candidates :=
      hfront.trans (List.take_prefix _ _)
    have hlength : shorter.length < k := by
      have hle := hfront.length_le
      rw [List.length_take, Nat.min_eq_left hk] at hle
      rcases Nat.lt_or_eq_of_le hle with hlt | heq
      · exact hlt
      · refine absurd (hfront.eq_of_length ?_) hne
        rw [List.length_take, Nat.min_eq_left hk, heq]
    have hun := hunreached _ hlength
    rwa [← List.prefix_iff_eq_take.mp hpart] at hun
  · intro candidate hmem
    exact purgeable_of_mem (List.mem_of_mem_take hmem)

/-- **The minimal FIFO selection.** For every list of candidates, policy and usage: nothing below the
trigger, an error when there is nothing to take, and else the oldest candidates, as many as it takes. -/
theorem selectClipsToPurge_outcome (policy : QuotaPolicy) (candidates : List PurgeCandidate)
    (context : RetentionContext) :
    QuotaOutcome policy context.diskUsage candidates
      ((Ods.S4.DiskQuotaFifoStrategy policy).selectClipsToPurge candidates context) := by
  show QuotaOutcome policy context.diskUsage candidates
    (selectClipsToPurge policy candidates context)
  by_cases htrigger : policy.triggerRatio ≤ context.diskUsage.usedRatio
  · have hexceeded : policy.isExceededBy context.diskUsage = true := decide_eq_true htrigger
    by_cases hqueue : eligibleOldestFirst candidates = []
    · -- nothing may be taken
      have hnone := eligibleOldestFirst_eq_nil.mp hqueue
      have hresult : ∃ message, selectClipsToPurge policy candidates context =
          .error (.domain ⟨.diskQuotaExceeded, message⟩) := by
        simp [selectClipsToPurge, hexceeded, hqueue]
      obtain ⟨message, hresult⟩ := hresult
      rw [hresult]
      refine ⟨iff_of_false ?_ (not_lt.mpr htrigger), iff_of_true ⟨_, rfl, rfl⟩ ⟨htrigger, hnone⟩,
        fun _ h => absurd h hnone⟩
      intro herror
      cases herror
    · have hselects := takeUntilTargetIsReached_selects policy context.diskUsage htrigger hqueue
      have hresult : selectClipsToPurge policy candidates context =
          .ok (takeUntilTargetIsReached policy (eligibleOldestFirst candidates)
            context.diskUsage) := by
        simp [selectClipsToPurge, hexceeded, hqueue]
      rw [hresult]
      refine ⟨iff_of_false ?_ (not_lt.mpr htrigger), iff_of_false ?_ ?_,
        fun _ _ => ⟨_, rfl, hselects⟩⟩
      · intro hnothing
        exact hselects.nonempty (Except.ok.inj hnothing)
      · rintro ⟨error, herror, -⟩
        cases herror
      · rintro ⟨-, hnone⟩
        exact hqueue (eligibleOldestFirst_eq_nil.mpr hnone)
  · -- below the trigger the candidates are not looked at
    have hbelow : policy.isExceededBy context.diskUsage = false := decide_eq_false htrigger
    have hresult : selectClipsToPurge policy candidates context = .ok [] := by
      simp [selectClipsToPurge, hbelow]
    rw [hresult]
    refine ⟨iff_of_true rfl (not_le.mp htrigger), iff_of_false ?_ ?_, fun h => absurd h htrigger⟩
    · rintro ⟨error, herror, -⟩
      cases herror
    · exact fun h => htrigger h.1

end DiskQuotaFifoStrategy

end Ods.S4
