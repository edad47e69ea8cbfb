import OdsMod2.S4.PurgeMedia.Calm

/-!
# A sweep may be interrupted

The ordering contract of `PurgeMediaUseCase` (`purge_media.hpp`): the file goes first, then the
record, then the log line, so that a sweep stopped anywhere in between is completed by the next
one. The subtle case is a file named by several clips of one event. Which of them finds it unused
depends on which are marked already, so the second sweep makes other calls than the first would
have made. It ends in the same state nonetheless, because both head for the same target
(`execute_converges`).
-/

namespace Ods.S4

open Prog

namespace PurgeMedia

section Measured

variable {s : ServiceState} {listed : List MediaClip}

/-- The candidates of a sweep are the eligible clips of the table, measured. -/
theorem mem_map_measured
    (hperm : listed.Perm (s.clips.rows.filter MediaClip.isEligibleForPurge))
    {candidate : PurgeCandidate} :
    candidate ∈ listed.map (measured s) ↔ candidate.clip ∈ s.clips.rows ∧
      candidate.clip.isEligibleForPurge = true ∧ candidate = measured s candidate.clip := by
  rw [List.mem_map]
  constructor
  · rintro ⟨clip, hclip, rfl⟩
    obtain ⟨hrow, heligible⟩ := List.mem_filter.mp (hperm.mem_iff.mp hclip)
    exact ⟨hrow, heligible, rfl⟩
  · rintro ⟨hrow, heligible, hcandidate⟩
    exact ⟨candidate.clip, hperm.mem_iff.mpr (List.mem_filter.mpr ⟨hrow, heligible⟩),
      hcandidate.symm⟩

end Measured

/-- The deadline strategy is after what has expired. -/
theorem lgpdRetentionStrategy_selects {env : Environment} {now : TimePoint}
    (hclock : ∀ instant, env.clock instant → instant = now) (policy : RetentionPolicy)
    (s : ServiceState) :
    Selects env s (LgpdRetentionStrategy policy) fun clip => policy.hasExpired clip now := by
  intro listed context hperm _ hnow _
  refine ⟨_, rfl, fun clip hclip heligible => ⟨?_, ?_⟩⟩
  · -- a selected candidate under this id is this clip, and it has expired
    rintro ⟨candidate, hmem, hid⟩
    obtain ⟨hmeasured, hselected⟩ := List.mem_filter.mp hmem
    obtain ⟨hrow, -, -⟩ := (mem_map_measured hperm).mp hmeasured
    rw [s.clips.eq_of_key hrow hclip hid, hclock _ hnow, Bool.and_eq_true] at hselected
    exact hselected.2
  · intro hexpired
    refine ⟨measured s clip, List.mem_filter.mpr ⟨?_, ?_⟩, rfl⟩
    · exact (mem_map_measured hperm).mpr ⟨hclip, heligible, rfl⟩
    · rw [hclock _ hnow, Bool.and_eq_true]
      exact ⟨heligible, hexpired⟩

/-- Since the start no clip has been logged twice. -/
def LoggedOnce (start s : ServiceState) : Prop :=
  ∃ lines, s.purgeLog = start.purgeLog ++ lines ∧ (lines.map PurgeLogEntry.clipId).Nodup

theorem Settling.loggedOnce {chosen : MediaClip → Bool} {start s : ServiceState}
    {phase : SweepPhase} (h : Settling chosen start phase s) : LoggedOnce start s := by
  obtain ⟨lines, hlog, hnodup, -⟩ := h.logged
  exact ⟨lines, hlog, hnodup⟩

/-- **Crash convergence.** A sweep by deadline is stopped anywhere, in `s₁`, and a new one is run
to its end. Where it ends is where the first one would have ended; until then no file is orphaned
and no clip logged twice. -/
theorem execute_converges {env : Environment} (hcalm : env.Calm) {now : TimePoint}
    (hclock : ∀ instant, env.clock instant → instant = now) (policy : RetentionPolicy)
    {s s₁ : ServiceState} {p₁ : Service PurgeReport}
    (hcrash : Steps env.serves (execute [LgpdRetentionStrategy policy]) s p₁ s₁) :
    (∀ result₂ s₂ result' s',
      Runs env.serves (execute [LgpdRetentionStrategy policy]) s₁ result₂ s₂ →
      Runs env.serves (execute [LgpdRetentionStrategy policy]) s result' s' →
      (∃ report, result₂ = .ok report) ∧ s₂.files = s'.files ∧
        s₂.clips.lookup = s'.clips.lookup) ∧
      (NoOrphans s s₁ ∧ LoggedOnce s s₁) ∧
      ∀ p₂ s₂, Steps env.serves (execute [LgpdRetentionStrategy policy]) s₁ p₂ s₂ →
        NoOrphans s s₂ ∧ LoggedOnce s s₂ := by
  have hselects := lgpdRetentionStrategy_selects hclock policy
  have hfirst := Settling.refl (fun clip => policy.hasExpired clip now) s
  have hcrashed := (execute_settling hcalm (hselects s) hfirst hcrash).1
  refine ⟨?_, ⟨hcrashed.referenced, hcrashed.loggedOnce⟩, ?_⟩
  · -- the new sweep is begun in `s₁` and heads for the target of `s`
    intro result₂ s₂ result' s' hrerun hwhole
    obtain ⟨hok, hfiles, hclips⟩ := execute_settles hcalm (hselects s₁) hcrashed hrerun
    obtain ⟨-, hfiles', hclips'⟩ := execute_settles hcalm (hselects s) hfirst hwhole
    exact ⟨hok, hfiles.trans hfiles'.symm, hclips.trans hclips'.symm⟩
  · intro p₂ s₂ hsteps
    have hsettling := (execute_settling hcalm (hselects s₁) hcrashed hsteps).1
    exact ⟨hsettling.referenced, hsettling.loggedOnce⟩

/-- An event posted twice, both clips past their deadline. -/
def postedTwice : ServiceState where
  clips := ⟨[
    { clipId := "clip-a", eventId := "evt", filePath := "/nvme/evt.mp4", sha256Hash := "",
      timeWindow := ⟨0, 1, Int.zero_lt_one⟩, createdAt := 0 },
    { clipId := "clip-b", eventId := "evt", filePath := "/nvme/evt.mp4", sha256Hash := "",
      timeWindow := ⟨0, 1, Int.zero_lt_one⟩, createdAt := 0 }], by decide⟩
  files path := if path = "/nvme/evt.mp4" then some [1, 2, 3] else none
  purgeLog := []

/-- The state after some calls of a sweep by deadline on the bench. -/
def benchSweepFor (calls : Nat) (s : ServiceState) : ServiceState :=
  (runFor Simulation.bench.serve calls (execute [LgpdRetentionStrategy .default]) s).2

/-- The state at its end. -/
def benchSweepToTheEnd (s : ServiceState) : ServiceState :=
  ((execute [LgpdRetentionStrategy .default]).run Simulation.bench.serve s).2

/-- The first sweep is stopped after it has removed the file and before it has marked the clip. -/
theorem execute_converges_midway :
    (benchSweepFor 18 postedTwice).files "/nvme/evt.mp4" = none ∧
      (∃ clip ∈ (benchSweepFor 18 postedTwice).clips.rows, clip.isRetained = true) ∧
      (benchSweepToTheEnd (benchSweepFor 18 postedTwice)).files
        = (benchSweepToTheEnd postedTwice).files ∧
      (benchSweepToTheEnd (benchSweepFor 18 postedTwice)).clips.lookup
        = (benchSweepToTheEnd postedTwice).clips.lookup := by
  have hconverges := (execute_converges (Simulation.calm Simulation.bench) (fun _ h => h) .default
    (runFor_steps (Simulation.serve_serves _) 18 _ postedTwice)).1
    _ _ _ _ (run_runs (Simulation.serve_serves _) _ _) (run_runs (Simulation.serve_serves _) _ _)
  exact ⟨by decide +kernel, by decide +kernel, hconverges.2⟩

end PurgeMedia

end Ods.S4
