import OdsMod2.S4.PurgeMedia.Convergence
import Mathlib.Algebra.BigOperators.Group.Finset.Basic

/-!
# The emergency purge and its target

`DiskQuotaFifoStrategy` stops as soon as the usage it *projects* is below the target, and the
projection frees the size of every selected clip. What is freed is decided later, file by file: a
file named by two selected clips is deleted once and was counted twice, and one that a retained
clip of the same event still names is not deleted at all. `measuredSize` leaves out the files
that are not there, for the reason that deleting them would free nothing; it does not see the
shared ones.

`quota_reached_iff` says exactly when the purge gets where it promised to get. Whatever the
volume, the usage after the sweep is the usage before it less the files that go with the selected
clips (`Volume.usage_finalFiles`), each counted once.
-/

namespace Ods.S4

open Prog

/-! ### Volumes -/

/-- A volume whose used space is the space of its files and a constant. -/
structure Volume where
  paths : Finset String
  otherBytes : Nat
  capacityBytes : Nat
  capacity_pos : 0 < capacityBytes

namespace Volume

def usedBytes (volume : Volume) (s : ServiceState) : Nat :=
  volume.otherBytes + ∑ path ∈ volume.paths, s.weight path

def usage (volume : Volume) (s : ServiceState) : DiskUsage where
  usedBytes := volume.usedBytes s
  availableBytes := volume.capacityBytes - volume.usedBytes s
  capacity_pos := by
    have := volume.capacity_pos
    omega

/-- The space of the files that go with the chosen clips. -/
def doomedBytes (volume : Volume) (chosen : MediaClip → Bool) (s : ServiceState) : Nat :=
  ∑ path ∈ volume.paths with PurgeMedia.Doomed chosen s path, s.weight path

/-- What a sweep frees is what it deletes. -/
theorem usedBytes_finalFiles (volume : Volume) {chosen : MediaClip → Bool}
    {s s' : ServiceState} (hfiles : s'.files = PurgeMedia.finalFiles chosen s) :
    volume.usedBytes s' + volume.doomedBytes chosen s = volume.usedBytes s := by
  have hweight : ∀ path, s'.weight path
      = if ¬ PurgeMedia.Doomed chosen s path then s.weight path else 0 := by
    intro path
    unfold ServiceState.weight
    rw [hfiles, PurgeMedia.finalFiles]
    by_cases hdoomed : PurgeMedia.Doomed chosen s path
    · rw [if_pos hdoomed, if_neg (not_not_intro hdoomed)]
      rfl
    · rw [if_neg hdoomed, if_pos hdoomed]
  unfold usedBytes doomedBytes
  rw [Finset.sum_congr rfl fun path _ => hweight path, ← Finset.sum_filter, Nat.add_assoc,
    Nat.add_comm (Finset.sum _ _), Finset.sum_filter_add_sum_filter_not]

/-- The measured usage after a sweep is the projection that frees what the sweep deletes. -/
theorem usage_finalFiles (volume : Volume) {chosen : MediaClip → Bool} {s s' : ServiceState}
    (hfits : volume.usedBytes s ≤ volume.capacityBytes)
    (hfiles : s'.files = PurgeMedia.finalFiles chosen s) :
    volume.usage s' = (volume.usage s).afterFreeing (volume.doomedBytes chosen s) := by
  have hfreed := volume.usedBytes_finalFiles hfiles
  -- no more is freed than was used, so the projection is not cut off
  unfold usage DiskUsage.afterFreeing
  congr 1
  · show volume.usedBytes s'
      = volume.usedBytes s - min (volume.doomedBytes chosen s) (volume.usedBytes s)
    omega
  · show volume.capacityBytes - volume.usedBytes s'
      = volume.capacityBytes - volume.usedBytes s
        + min (volume.doomedBytes chosen s) (volume.usedBytes s)
    omega

end Volume

namespace PurgeMedia

open DiskQuotaFifoStrategy (eligibleOldestFirst takeUntilTargetIsReached totalSize)

/-! ### The queue -/

/-- The eligible clips, oldest first; `listed` is the order of the repository. -/
def queue (s : ServiceState) (listed : List MediaClip) : List PurgeCandidate :=
  eligibleOldestFirst (listed.map (measured s))

/-- The clip is one of the candidates. -/
def within (candidates : List PurgeCandidate) (clip : MediaClip) : Bool :=
  candidates.any fun candidate => candidate.clip.clipId = clip.clipId

theorem within_iff {candidates : List PurgeCandidate} {clip : MediaClip} :
    within candidates clip = true ↔
      ∃ candidate ∈ candidates, candidate.clip.clipId = clip.clipId := by
  unfold within
  simp only [List.any_eq_true, decide_eq_true_eq]

section Queue

variable {s : ServiceState} {listed : List MediaClip}

theorem mem_queue (hperm : listed.Perm (s.clips.rows.filter MediaClip.isEligibleForPurge))
    {candidate : PurgeCandidate} :
    candidate ∈ queue s listed ↔ candidate.clip ∈ s.clips.rows ∧
      candidate.clip.isEligibleForPurge = true ∧ candidate = measured s candidate.clip := by
  unfold queue
  rw [DiskQuotaFifoStrategy.mem_eligibleOldestFirst, mem_map_measured hperm]
  constructor
  · exact fun h => h.1
  · exact fun h => ⟨h, h.2.1⟩

theorem nodup_queue (hperm : listed.Perm (s.clips.rows.filter MediaClip.isEligibleForPurge)) :
    (queue s listed).Nodup := by
  have hrows : s.clips.rows.Nodup := List.Nodup.of_map _ s.clips.nodup_key
  have hlisted : listed.Nodup := hperm.nodup_iff.mpr (hrows.filter _)
  -- the measurement keeps the clip, so it tells them apart
  have hmeasured : (listed.map (measured s)).Nodup :=
    hlisted.map fun clip clip' h => congrArg PurgeCandidate.clip h
  exact (List.perm_insertionSort _ _).nodup_iff.mpr (hmeasured.filter _)

/-- All of the queue is all there is to purge. -/
theorem within_queue (hperm : listed.Perm (s.clips.rows.filter MediaClip.isEligibleForPurge))
    {clip : MediaClip} (hclip : clip ∈ s.clips.rows)
    (heligible : clip.isEligibleForPurge = true) : within (queue s listed) clip = true :=
  within_iff.mpr ⟨measured s clip, (mem_queue hperm).mpr ⟨hclip, heligible, rfl⟩, rfl⟩

/-- A part of the queue leaves an eligible clip out. -/
theorem exists_not_within (hperm : listed.Perm (s.clips.rows.filter MediaClip.isEligibleForPurge))
    {k : Nat} (hk : k < (queue s listed).length) :
    ∃ clip ∈ s.clips.rows, clip.isEligibleForPurge = true ∧
      within ((queue s listed).take k) clip = false := by
  have hnext := List.getElem_mem hk
  obtain ⟨hrow, heligible, hmeasured⟩ := (mem_queue hperm).mp hnext
  refine ⟨_, hrow, heligible, ?_⟩
  rw [← Bool.not_eq_true, within_iff]
  rintro ⟨candidate, hmem, hid⟩
  obtain ⟨hrow', -, hmeasured'⟩ := (mem_queue hperm).mp (List.mem_of_mem_take hmem)
  -- the same id is the same row, and so the same place of the queue
  have hsame : candidate = (queue s listed)[k] := by
    rw [hmeasured', hmeasured, s.clips.eq_of_key hrow' hrow hid]
  obtain ⟨j, hj, hget⟩ := List.mem_take_iff_getElem.mp hmem
  have hplace := (nodup_queue hperm).getElem_inj_iff.mp (hget.trans hsame)
  omega

end Queue

/-! ### The promise -/

/-- The usage the strategy projects for the first `k` of the queue is below the target. -/
def Promised (policy : QuotaPolicy) (usage : DiskUsage) (queue : List PurgeCandidate) (k : Nat) :
    Prop :=
  policy.isSatisfiedBy (usage.afterFreeing (totalSize (queue.take k))) = true

/-- Where the sizes of a part of the queue first promise the target, the files that go with that
part, each counted once, reach it. -/
def KeepsPromise (policy : QuotaPolicy) (volume : Volume) (s : ServiceState)
    (queue : List PurgeCandidate) : Prop :=
  ∀ k < queue.length, Promised policy (volume.usage s) queue k →
    (∀ j < k, ¬ Promised policy (volume.usage s) queue j) →
    policy.isSatisfiedBy
      ((volume.usage s).afterFreeing (volume.doomedBytes (within (queue.take k)) s)) = true

/-! ### Files of one clip -/

/-- No two retained clips name one file. -/
def Unshared (s : ServiceState) : Prop :=
  ∀ clip ∈ s.clips.rows, ∀ other ∈ s.clips.rows, clip.isRetained = true →
    other.isRetained = true → clip.filePath = other.filePath → clip = other

instance (s : ServiceState) : Decidable (Unshared s) :=
  inferInstanceAs (Decidable (∀ clip ∈ s.clips.rows, ∀ other ∈ s.clips.rows, _))

section Unshared

variable {volume : Volume} {s : ServiceState} {listed : List MediaClip}

/-- Then each selected clip takes its own file along. -/
theorem doomed_iff_of_unshared (hunshared : Unshared s)
    (hperm : listed.Perm (s.clips.rows.filter MediaClip.isEligibleForPurge)) {k : Nat}
    {path : String} :
    Doomed (within ((queue s listed).take k)) s path ↔
      ∃ candidate ∈ (queue s listed).take k, candidate.clip.filePath = path := by
  constructor
  · rintro ⟨clip, hclip, hselected, hpath, -⟩
    obtain ⟨candidate, hmem, hid⟩ := within_iff.mp hselected.2
    obtain ⟨hrow, -, -⟩ := (mem_queue hperm).mp (List.mem_of_mem_take hmem)
    refine ⟨candidate, hmem, ?_⟩
    rw [s.clips.eq_of_key hrow hclip hid]
    exact hpath
  · rintro ⟨candidate, hmem, hpath⟩
    obtain ⟨hrow, heligible, -⟩ := (mem_queue hperm).mp (List.mem_of_mem_take hmem)
    have hselected : Selected (within ((queue s listed).take k)) candidate.clip :=
      ⟨heligible, within_iff.mpr ⟨candidate, hmem, rfl⟩⟩
    refine ⟨candidate.clip, hrow, hselected, hpath, fun other hother hretained _ hfile => ?_⟩
    rw [hunshared other hother _ hrow hretained (isRetained_of_selected hselected)
      (hfile.trans hpath.symm)]
    exact hselected

/-- What goes weighs what was projected. -/
theorem doomedBytes_of_unshared (hunshared : Unshared s)
    (hperm : listed.Perm (s.clips.rows.filter MediaClip.isEligibleForPurge))
    (hvolume : ∀ clip ∈ s.clips.rows, clip.isEligibleForPurge = true →
      clip.filePath ∈ volume.paths) (k : Nat) :
    volume.doomedBytes (within ((queue s listed).take k)) s
      = totalSize ((queue s listed).take k) := by
  have hrow : ∀ candidate ∈ (queue s listed).take k, candidate.clip ∈ s.clips.rows ∧
      candidate.clip.isEligibleForPurge = true ∧ candidate = measured s candidate.clip :=
    fun candidate hmem => (mem_queue hperm).mp (List.mem_of_mem_take hmem)
  -- the files that go are those of the taken clips, and no two of these share one
  have hpaths : {path ∈ volume.paths | Doomed (within ((queue s listed).take k)) s path}
      = (((queue s listed).take k).map fun candidate => candidate.clip.filePath).toFinset := by
    ext path
    rw [Finset.mem_filter, doomed_iff_of_unshared hunshared hperm, List.mem_toFinset,
      List.mem_map]
    refine ⟨fun h => h.2, fun h => ⟨?_, h⟩⟩
    obtain ⟨candidate, hmem, rfl⟩ := h
    exact hvolume _ (hrow candidate hmem).1 (hrow candidate hmem).2.1
  have hnodup : (((queue s listed).take k).map fun candidate => candidate.clip.filePath).Nodup := by
    refine List.Nodup.map_on (fun candidate hmem other hother hpath => ?_)
      ((nodup_queue hperm).sublist (List.take_sublist _ _))
    obtain ⟨hclip, heligible, hmeasured⟩ := hrow candidate hmem
    obtain ⟨hclip', heligible', hmeasured'⟩ := hrow other hother
    rw [hmeasured, hmeasured', hunshared _ hclip _ hclip'
      (MediaClip.isEligibleForPurge_iff.mp heligible).1
      (MediaClip.isEligibleForPurge_iff.mp heligible').1 hpath]
  unfold Volume.doomedBytes totalSize
  rw [hpaths, List.sum_toFinset _ hnodup, List.map_map]
  refine congrArg List.sum (List.map_congr_left fun candidate hmem => ?_)
  rw [(hrow candidate hmem).2.2]
  rfl

/-- Without shared files the promise is always kept. -/
theorem keepsPromise_of_unshared (hunshared : Unshared s)
    (hperm : listed.Perm (s.clips.rows.filter MediaClip.isEligibleForPurge))
    (hvolume : ∀ clip ∈ s.clips.rows, clip.isEligibleForPurge = true →
      clip.filePath ∈ volume.paths) (policy : QuotaPolicy) :
    KeepsPromise policy volume s (queue s listed) := by
  intro k _ hpromised _
  rw [doomedBytes_of_unshared hunshared hperm hvolume]
  exact hpromised

end Unshared

/-! ### The sweep -/

section Quota

variable {env : Environment} {volume : Volume} {s s' : ServiceState} {listed : List MediaClip}
  {policy : QuotaPolicy}

/-- Above the trigger the quota strategy is after the front of the queue. -/
theorem diskQuotaFifoStrategy_selects
    (husage : ∀ s usage, env.usage s usage → usage = volume.usage s)
    (hlists : ∀ clips, env.lists s clips → clips = listed)
    (hexceeded : policy.isExceededBy (volume.usage s) = true)
    (heligible : ∃ clip ∈ s.clips.rows, clip.isEligibleForPurge = true) :
    Selects env s (DiskQuotaFifoStrategy policy)
      (within (takeUntilTargetIsReached policy (queue s listed) (volume.usage s))) := by
  intro clips context hperm hclips _ hcontext
  obtain rfl := hlists clips hclips
  have hnonempty : ¬ (queue s clips).isEmpty = true := by
    obtain ⟨clip, hclip, hpurge⟩ := heligible
    have hmem : measured s clip ∈ queue s clips := (mem_queue hperm).mpr ⟨hclip, hpurge, rfl⟩
    rw [List.isEmpty_iff]
    exact List.ne_nil_of_mem hmem
  refine ⟨takeUntilTargetIsReached policy (queue s clips) (volume.usage s), ?_,
    fun _ _ _ => within_iff.symm⟩
  show DiskQuotaFifoStrategy.selectClipsToPurge policy _ context = _
  unfold DiskQuotaFifoStrategy.selectClipsToPurge
  rw [husage s _ hcontext, hexceeded, Bool.not_true, if_neg Bool.false_ne_true]
  exact if_neg hnonempty

/-- What is left to purge after a sweep is what it was not after. -/
theorem eligible_finalClip {chosen : MediaClip → Bool}
    (hclips : s'.clips.lookup = finalClip chosen s) :
    (∀ clip ∈ s'.clips.rows, clip.isEligibleForPurge = false) ↔
      ∀ clip ∈ s.clips.rows, clip.isEligibleForPurge = true → chosen clip = true := by
  constructor
  · -- an eligible clip that is not chosen stays as it is
    intro hnone clip hclip heligible
    by_contra hchosen
    have hkept : s'.clips.lookup clip.clipId = some clip := by
      rw [hclips, finalClip, KeyedTable.lookup_eq_some.mpr ⟨hclip, rfl⟩, Option.map_some,
        if_neg fun hselected => hchosen hselected.2]
    have hineligible := hnone clip (KeyedTable.lookup_eq_some.mp hkept).1
    rw [heligible] at hineligible
    cases hineligible
  · -- a row of the end was a row of the start, marked or not
    intro hall clip hclip
    have hfound : finalClip chosen s clip.clipId = some clip := by
      rw [← hclips]
      exact KeyedTable.lookup_eq_some.mpr ⟨hclip, rfl⟩
    obtain ⟨row, hrow, hfinal⟩ := Option.map_eq_some_iff.mp hfound
    have hmem := (KeyedTable.lookup_eq_some.mp hrow).1
    split at hfinal
    · rw [← hfinal, MediaClip.isEligibleForPurge_markAsPurged]
    · next hselected =>
      rw [← hfinal, ← Bool.not_eq_true]
      exact fun heligible => hselected ⟨heligible, hall row hmem heligible⟩

/-- **The quota.** Started at or above the trigger with something to purge, a sweep without
failures ends below the target, or with nothing left to purge, exactly when it keeps the promise
of its projection. -/
theorem quota_reached_iff (hcalm : env.Calm)
    (husage : ∀ s usage, env.usage s usage → usage = volume.usage s)
    (hfits : volume.usedBytes s ≤ volume.capacityBytes)
    (hlisted : listed.Perm (s.clips.rows.filter MediaClip.isEligibleForPurge))
    (hlists : ∀ clips, env.lists s clips → clips = listed)
    (hexceeded : policy.isExceededBy (volume.usage s) = true)
    (heligible : ∃ clip ∈ s.clips.rows, clip.isEligibleForPurge = true)
    {result : Except ODSException PurgeReport}
    (hruns : Runs env.serves (execute [DiskQuotaFifoStrategy policy]) s result s') :
    (policy.isSatisfiedBy (volume.usage s') = true ∨
      ∀ clip ∈ s'.clips.rows, clip.isEligibleForPurge = false) ↔
      KeepsPromise policy volume s (queue s listed) := by
  obtain ⟨-, hfiles, hclips⟩ := execute_settles hcalm
    (diskQuotaFifoStrategy_selects husage hlists hexceeded heligible) (Settling.refl _ s) hruns
  rw [eligible_finalClip hclips, volume.usage_finalFiles hfits hfiles]
  obtain ⟨k, hk, htake, hbefore, hpromised⟩ := DiskQuotaFifoStrategy.takeUntilTargetIsReached_eq_take
    policy (queue s listed) (volume.usage s)
  rw [htake]
  have hfirst : ∀ j < k, ¬ Promised policy (volume.usage s) (queue s listed) j := by
    intro j hj hpromisedj
    rw [Promised, hbefore j hj] at hpromisedj
    cases hpromisedj
  rcases Nat.lt_or_eq_of_le hk with hlt | rfl
  · -- the strategy stopped early, so that something is left: the target decides
    obtain ⟨clip, hclip, hpurge, hout⟩ := exists_not_within hlisted hlt
    constructor
    · rintro (hsatisfied | hall) j hj hpromisedj hfirstj
      · -- there is one first place at which the target is promised
        rcases Nat.lt_trichotomy j k with hjk | rfl | hkj
        · exact absurd hpromisedj (hfirst j hjk)
        · exact hsatisfied
        · exact absurd (hpromised hlt) (hfirstj k hkj)
      · rw [hall clip hclip hpurge] at hout
        cases hout
    · exact fun hkeeps => .inl (hkeeps k hlt (hpromised hlt) hfirst)
  · -- the whole queue was selected: nothing is left, and nothing was promised
    rw [List.take_length]
    constructor
    · exact fun _ j hj hpromisedj => absurd hpromisedj (hfirst j hj)
    · exact fun _ => .inr fun clip hclip hpurge => within_queue hlisted hclip hpurge

end Quota

/-! ### Three clips of ten bytes -/

/-- A clip of a ten-byte file; `createdAt` orders them. -/
def tenBytes (clipId eventId : String) (createdAt : TimePoint) : MediaClip where
  clipId := clipId
  eventId := eventId
  filePath := "/nvme/" ++ eventId ++ ".mp4"
  sha256Hash := ""
  timeWindow := ⟨0, 1, Int.zero_lt_one⟩
  createdAt := createdAt

/-- Three clips of three events. -/
def threeFiles : ServiceState where
  clips := ⟨[tenBytes "clip-a" "evt" 0, tenBytes "clip-b" "evt2" 1, tenBytes "clip-c" "evt3" 2],
    by decide⟩
  files path :=
    if path ∈ ["/nvme/evt.mp4", "/nvme/evt2.mp4", "/nvme/evt3.mp4"] then
      some (List.replicate 10 0)
    else none
  purgeLog := []

/-- Three clips, the first two of them of one event. -/
def twoFiles : ServiceState where
  clips := ⟨[tenBytes "clip-a" "evt" 0, tenBytes "clip-b" "evt" 1, tenBytes "clip-c" "evt3" 2],
    by decide⟩
  files path :=
    if path ∈ ["/nvme/evt.mp4", "/nvme/evt3.mp4"] then some (List.replicate 10 0) else none
  purgeLog := []

/-- A hundred bytes, of which `otherBytes` are not media. -/
def benchVolume (otherBytes : Nat) : Volume where
  paths := {"/nvme/evt.mp4", "/nvme/evt2.mp4", "/nvme/evt3.mp4"}
  otherBytes := otherBytes
  capacityBytes := 100
  capacity_pos := by decide

/-- The bench with a disk that is measured. -/
def volumeBench (volume : Volume) : Simulation :=
  { Simulation.bench with usage := volume.usage }

theorem volumeBench_usage (volume : Volume) (s : ServiceState) (usage : DiskUsage)
    (h : (volumeBench volume).environment.usage s usage) : usage = volume.usage s :=
  h

/-- The state a sweep by quota ends in. -/
def volumeSweep (volume : Volume) (s : ServiceState) :
    Except ODSException PurgeReport × ServiceState :=
  (execute [DiskQuotaFifoStrategy .default]).run (volumeBench volume).serve s

theorem volumeSweep_runs (volume : Volume) (s : ServiceState) :
    Runs (volumeBench volume).environment.serves (execute [DiskQuotaFifoStrategy .default]) s
      (volumeSweep volume s).1 (volumeSweep volume s).2 :=
  run_runs (Simulation.serve_serves _) _ _

theorem quota_reached_iff_threeFiles :
    QuotaPolicy.default.isSatisfiedBy
        ((benchVolume 60).usage (volumeSweep (benchVolume 60) threeFiles).2) = true ∨
      ∀ clip ∈ (volumeSweep (benchVolume 60) threeFiles).2.clips.rows,
        clip.isEligibleForPurge = false :=
  (quota_reached_iff (Simulation.calm _) (volumeBench_usage _) (by decide +kernel)
    (List.Perm.refl _) (fun _ h => h) (by decide +kernel) (by decide)
    (volumeSweep_runs (benchVolume 60) threeFiles)).mpr
    (keepsPromise_of_unshared (by decide) (List.Perm.refl _) (by decide) _)

/-- The file of the event is counted for both of its clips, so the sweep stops at 80% of the
volume, which is not below the target, with the third clip untouched. -/
theorem quota_stops_short :
    ¬ ∀ (env : Environment) (volume : Volume) (policy : QuotaPolicy) (s s' : ServiceState)
        (result : Except ODSException PurgeReport), env.Calm →
        (∀ s usage, env.usage s usage → usage = volume.usage s) →
        volume.usedBytes s ≤ volume.capacityBytes →
        policy.isExceededBy (volume.usage s) = true →
        (∃ clip ∈ s.clips.rows, clip.isEligibleForPurge = true) →
        Runs env.serves (execute [DiskQuotaFifoStrategy policy]) s result s' →
        policy.isSatisfiedBy (volume.usage s') = true ∨
          ∀ clip ∈ s'.clips.rows, clip.isEligibleForPurge = false := by
  intro h
  have hreached := h _ (benchVolume 70) .default twoFiles _ _ (Simulation.calm _)
    (volumeBench_usage _) (by decide +kernel) (by decide +kernel) (by decide)
    (volumeSweep_runs (benchVolume 70) twoFiles)
  have hmissed : ¬ (QuotaPolicy.default.isSatisfiedBy
        ((benchVolume 70).usage (volumeSweep (benchVolume 70) twoFiles).2) = true ∨
      ∀ clip ∈ (volumeSweep (benchVolume 70) twoFiles).2.clips.rows,
        clip.isEligibleForPurge = false) := by
    decide +kernel
  exact hmissed hreached

end PurgeMedia

end Ods.S4
