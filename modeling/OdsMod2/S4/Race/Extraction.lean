import OdsMod2.S4.PurgeMedia.Moves
import OdsMod2.S4.ExtractClip

/-!
# A sweep against an extraction

The purge daemon and the request threads share the repository and the media directory. An
extraction writes its file first and saves its record last; a sweep that is about to remove a file
asks the repository who else uses it. An extraction that reuses an event id reuses the path, so
while its record is not saved yet its file is indistinguishable from the file of the older clip.

Two sections of the two programs must not overlap: the extraction's, from the write to the save,
and the sweep's, from the answer that nobody else uses the file to its removal. `NoOverlap` says
that they do not, for one path, and `extraction_keeps_its_file` that nothing else is needed. When
they do overlap the new clip loses its file (`extraction_loses_its_file`).
-/

namespace Ods.S4

open Prog PurgeMedia ExtractClip

namespace ExtractionRace

/-- A recorded state of the race. -/
abbrev RaceState := Observed PortCall.Answer ODSException ServiceState Actor

abbrev RaceHistory := List (Event PortCall.Answer ODSException ServiceState Actor)

/-- The file a sweep is about to remove. -/
def removing : SweepPhase → Option String
  | .clear clip => some clip.filePath
  | _ => none

/-- The clip an extraction has saved. -/
def savedClip : ExtractPhase → Option MediaClip
  | .saved clip => some clip
  | _ => none

def sweepPhase (history : RaceHistory) : SweepPhase :=
  sweep.phase .sweep history

def extractPhase (history : RaceHistory) : ExtractPhase :=
  (extraction fun _ _ => True).phase .extraction history

/-- At no moment is `path` written and not yet recorded while a sweep, having found it unused, is
about to remove it. -/
def NoOverlap (path : String) (history : RaceHistory) : Prop :=
  ∀ h, h <+: history → (extractPhase h).pending = some path → removing (sweepPhase h) ≠ some path

/-- No sweep takes up the clip the extraction saved. -/
def NotTaken (history : RaceHistory) : Prop :=
  ∀ h, h <+: history → ∀ saved ∈ savedClip (extractPhase h),
    ∀ clip ∈ (sweepPhase h).inHand, clip.clipId ≠ saved.clipId

theorem NoOverlap.of_prefix {path : String} {history history' : RaceHistory}
    (h : NoOverlap path history') (hpast : history <+: history') : NoOverlap path history :=
  fun earlier hearlier => h earlier (hearlier.trans hpast)

theorem NotTaken.of_prefix {history history' : RaceHistory} (h : NotTaken history')
    (hpast : history <+: history') : NotTaken history :=
  fun earlier hearlier => h earlier (hearlier.trans hpast)

/-- The names an extraction is given. -/
abbrev Requested (eventId path : String) : String → String → Prop :=
  fun eventId' path' => eventId' = eventId ∧ path' = path

/-! ### The invariant -/

/-- What holds of a state of the race in which the two sections have not overlapped. -/
structure RaceInv (eventId path : String) (sweeping : SweepPhase) (extracting : ExtractPhase)
    (s : ServiceState) : Prop where
  named : ∀ clip ∈ s.clips.rows, clip.filePath = path → clip.eventId = eventId
  inHand : ∀ clip ∈ sweeping.inHand, clip.filePath = path → clip.eventId = eventId
  pending : ∀ written ∈ extracting.pending, written = path ∧ s.files path ≠ none
  saved : ∀ saved ∈ savedClip extracting, saved ∈ s.clips.rows ∧ saved.isRetained = true ∧
    saved.filePath = path ∧ s.files path ≠ none ∧ removing sweeping ≠ some path

section Invariant

variable {env : Environment} {eventId path : String} {sweeping sweeping' : SweepPhase}
  {extracting extracting' : ExtractPhase} {s s' : ServiceState}

/-- A move of the sweep that leaves the state alone, and after which it is not about to remove
anything. -/
theorem RaceInv.sweepReads (h : RaceInv eventId path sweeping extracting s)
    (hinHand : ∀ clip ∈ sweeping'.inHand, clip.filePath = path → clip.eventId = eventId)
    (hremoving : removing sweeping' ≠ some path) :
    RaceInv eventId path sweeping' extracting s :=
  ⟨h.named, hinHand, h.pending, fun saved hsaved =>
    have ⟨hmem, hretained, hpath, hfile, _⟩ := h.saved saved hsaved
    ⟨hmem, hretained, hpath, hfile, hremoving⟩⟩

/-- The sweep removes a file, and it is not the one of the request. -/
theorem RaceInv.sweepRemoves {clip : MediaClip}
    (h : RaceInv eventId path (.clear clip) extracting s)
    (hoverlap : extracting.pending = some path → clip.filePath ≠ path) :
    RaceInv eventId path (.settled clip .deleted) extracting (s.dropFile clip.filePath) := by
  have hkeeps : clip.filePath ≠ path → s.files path ≠ none →
      (s.dropFile clip.filePath).files path ≠ none := by
    intro hne hfile
    rw [ServiceState.dropFile_files, Function.update_of_ne (Ne.symm hne)]
    exact hfile
  refine ⟨h.named, h.inHand, fun written hpending => ?_, fun saved hsaved => ?_⟩
  · -- written and not recorded: the sections do not overlap
    obtain ⟨rfl, hfile⟩ := h.pending written hpending
    exact ⟨rfl, hkeeps (hoverlap hpending) hfile⟩
  · -- recorded: the sweep was not about to remove this file
    obtain ⟨hmem, hretained, hpath, hfile, hremoving⟩ := h.saved saved hsaved
    exact ⟨hmem, hretained, hpath, hkeeps (fun hclip => hremoving (congrArg some hclip)) hfile,
      fun h => by cases h⟩

/-- The sweep marks a clip, and it is not the one of the request. -/
theorem RaceInv.sweepMarks {clip : MediaClip} {outcome : FileOutcome}
    (h : RaceInv eventId path (.settled clip outcome) extracting s)
    (htaken : ∀ saved ∈ savedClip extracting, clip.clipId ≠ saved.clipId) :
    RaceInv eventId path (.marked clip outcome) extracting (s.putClip clip.markAsPurged) := by
  refine ⟨fun row hrow => ?_, fun _ hhand => (by cases hhand), h.pending, fun saved hsaved => ?_⟩
  · rcases KeyedTable.mem_upsert.mp hrow with rfl | ⟨hrow, -⟩
    · exact h.inHand clip rfl
    · exact h.named row hrow
  · obtain ⟨hmem, hretained, hpath, hfile, -⟩ := h.saved saved hsaved
    refine ⟨KeyedTable.mem_upsert.mpr (.inr ⟨hmem, ?_⟩), hretained, hpath, hfile,
      fun h => by cases h⟩
    exact (htaken saved hsaved).symm

theorem RaceInv.sweep (h : RaceInv eventId path sweeping extracting s)
    (hoverlap : extracting.pending = some path → removing sweeping ≠ some path)
    (htaken : ∀ saved ∈ savedClip extracting, ∀ clip ∈ sweeping.inHand,
      clip.clipId ≠ saved.clipId)
    (hmove : SweepMove env (fun _ => True) sweeping s sweeping' s') :
    RaceInv eventId path sweeping' extracting s' := by
  cases hmove with
  | rest => exact h.sweepReads (fun _ hhand => (by cases hhand)) (fun h => by cases h)
  | reread hmem heligible htarget =>
    -- what is taken in hand is a row, and the rows are named
    refine h.sweepReads (fun clip hhand => ?_) (fun h => by cases h)
    obtain rfl := Option.some.inj hhand
    exact h.named _ hmem
  | found hfile => exact h.sweepReads h.inHand (fun h => by cases h)
  | missing hfile => exact h.sweepReads h.inHand (fun h => by cases h)
  | shared hmem hother hevent hretained hpath =>
    exact h.sweepReads h.inHand (fun h => by cases h)
  | @unshared _ clip hnone =>
    refine ⟨h.named, h.inHand, h.pending, fun saved hsaved => ?_⟩
    obtain ⟨hmem, hretained, hpath, hfile, -⟩ := h.saved saved hsaved
    refine ⟨hmem, hretained, hpath, hfile, fun hremoving => ?_⟩
    -- the answer came after the save, and lists the saved clip
    have hclip : clip.filePath = path := Option.some.inj hremoving
    have hevent : saved.eventId = clip.eventId :=
      (h.named saved hmem hpath).trans (h.inHand clip rfl hclip).symm
    exact htaken saved hsaved clip rfl
      (hnone saved hmem hevent hretained (hpath.trans hclip.symm)).symm
  | remove =>
    exact h.sweepRemoves fun hpending hclip => hoverlap hpending (congrArg some hclip)
  | mark => exact h.sweepMarks fun saved hsaved => htaken saved hsaved _ rfl
  | log hclip =>
    exact ⟨h.named, fun _ hhand => (by cases hhand), h.pending, fun saved hsaved =>
      have ⟨hmem, hretained, hpath, hfile, _⟩ := h.saved saved hsaved
      ⟨hmem, hretained, hpath, hfile, fun h => by cases h⟩⟩

theorem RaceInv.extraction (h : RaceInv eventId path sweeping extracting s)
    (hoverlap : extracting.pending = some path → removing sweeping ≠ some path)
    (hmove : ExtractMove env (Requested eventId path) extracting s extracting' s') :
    RaceInv eventId path sweeping extracting' s' := by
  cases hmove with
  | rest =>
    exact ⟨h.named, h.inHand, fun _ hpending => (by cases hpending),
      fun _ hsaved => (by cases hsaved)⟩
  | write hnames =>
    obtain ⟨-, -, rfl⟩ := hnames
    refine ⟨h.named, h.inHand, fun written hpending => ?_, fun _ hsaved => (by cases hsaved)⟩
    obtain rfl := Option.some.inj hpending
    refine ⟨rfl, fun hnone => ?_⟩
    rw [ServiceState.putFile_files, Function.update_self] at hnone
    cases hnone
  | truncate hnames =>
    exact ⟨h.named, h.inHand, fun _ hpending => (by cases hpending),
      fun _ hsaved => (by cases hsaved)⟩
  | hash => exact ⟨h.named, h.inHand, h.pending, fun _ hsaved => (by cases hsaved)⟩
  | record => exact h
  | save hnames hretained =>
    obtain ⟨hevent, hpath⟩ := hnames
    refine ⟨fun row hrow hrowPath => ?_, h.inHand, fun _ hpending => (by cases hpending),
      fun saved hsaved => ?_⟩
    · rcases KeyedTable.mem_upsert.mp hrow with rfl | ⟨hrow, -⟩
      · exact hevent
      · exact h.named row hrow hrowPath
    · -- the save ends the section, with the file still there
      obtain rfl := Option.some.inj hsaved
      obtain ⟨-, hfile⟩ := h.pending _ rfl
      exact ⟨KeyedTable.mem_upsert.mpr (.inl rfl), hretained, hpath, hfile,
        hoverlap (congrArg some hpath)⟩

end Invariant

/-! ### The race -/

/-- **A clip keeps its file.** In every interleaving of a sweep with an extraction, whatever
fails: if the two sections never overlap on the path of the request, an extraction that returned
has its file, and keeps it as long as the sweep does not take up the new clip. -/
theorem extraction_keeps_its_file (env : Environment) (strategies : List RetentionStrategy)
    (eventId path : String) (request : Request) {s : ServiceState}
    (hnamed : ∀ clip ∈ s.clips.rows, clip.filePath = path → clip.eventId = eventId)
    {p' : Service PurgeReport} {q' : Service MediaClip} {o' : RaceState}
    (hrun : ParSteps (observe env.serves .sweep) (observe env.serves .extraction)
      (PurgeMedia.execute strategies) (extract eventId path request) (Observed.start s) p' q' o')
    {clip : MediaClip} (hreturned : q'.outcome = some (.ok clip))
    (hoverlap : NoOverlap path o'.history) (htaken : NotTaken o'.history) :
    o'.world.files clip.filePath ≠ none := by
  have hne : Actor.sweep ≠ .extraction := by decide
  have hsweep := PurgeMedia.execute_obeys strategies .idle
  have hextract : (extraction (Requested eventId path)).Obeys (extract eventId path request)
      Saved .idle := extract_obeys ⟨rfl, rfl⟩ request .idle
  have hinv : NoOverlap path o'.history → NotTaken o'.history →
      RaceInv eventId path (sweepPhase o'.history) (extractPhase o'.history) o'.world := by
    refine hrun.obeys_invariant (P := sweep) hne
      (fun o => NoOverlap path o.history → NotTaken o.history →
        RaceInv eventId path (sweepPhase o.history) (extractPhase o.history) o.world)
      ?_ ?_ hsweep hextract ?_
    · intro o op answer world h hpermits hserves hoverlap htaken
      have hpast : o.history <+: (o.snoc .sweep op answer world).history :=
        List.prefix_append _ _
      have h := h (hoverlap.of_prefix hpast) (htaken.of_prefix hpast)
      rw [show sweepPhase (o.snoc .sweep op answer world).history
        = (sweepPhase o.history).next op answer from Protocol.phase_snoc_self _ _ _ _ _ _,
        show extractPhase (o.snoc .sweep op answer world).history = extractPhase o.history
        from Protocol.phase_snoc_other _ _ hne _ _ _]
      exact h.sweep (hoverlap _ hpast) (htaken _ hpast) (sweepMove_of_call hpermits hserves)
    · intro o op answer world h hpermits hserves hoverlap htaken
      have hpast : o.history <+: (o.snoc .extraction op answer world).history :=
        List.prefix_append _ _
      have h := h (hoverlap.of_prefix hpast) (htaken.of_prefix hpast)
      rw [show sweepPhase (o.snoc .extraction op answer world).history = sweepPhase o.history
        from Protocol.phase_snoc_other _ _ hne.symm _ _ _,
        show extractPhase (o.snoc .extraction op answer world).history
        = (extractPhase o.history).next op answer from Protocol.phase_snoc_self _ _ _ _ _ _]
      exact h.extraction (hoverlap _ hpast) (extractMove_of_call hpermits hserves)
    · intro _ _
      exact ⟨hnamed, fun _ hhand => (by cases hhand), fun _ hpending => (by cases hpending),
        fun _ hsaved => (by cases hsaved)⟩
  -- an extraction that returned a clip has saved it
  have hsaved : extractPhase o'.history = .saved clip :=
    wp_outcome (hrun.obeys (P := sweep) hne hsweep hextract).2 hreturned
  obtain ⟨-, -, hpath, hfile, -⟩ := (hinv hoverlap htaken).saved clip (by rw [hsaved]; rfl)
  rw [hpath]
  exact hfile

/-! ### Two schedules -/

/-- An old clip of the event that is about to be sent again. -/
def expired : MediaClip where
  clipId := "clip-old"
  eventId := "evt"
  filePath := clipPath "/nvme" "evt"
  sha256Hash := ""
  timeWindow := ⟨0, 1, Int.zero_lt_one⟩
  createdAt := 0

def beforeRace : ServiceState where
  clips := ⟨[expired], by decide⟩
  files path := if path = "/nvme/evt.mp4" then some [0] else none
  purgeLog := []

theorem newWindow_nonempty : (2 : TimePoint) < 3 := by
  decide

/-- The race on the bench. -/
def race (schedule : List Bool) : Service PurgeReport × Service MediaClip × RaceState :=
  interleave (observeServer Simulation.bench.serve .sweep)
    (observeServer Simulation.bench.serve .extraction) schedule
    (PurgeMedia.execute [LgpdRetentionStrategy .default])
    (extract "evt" (clipPath "/nvme" "evt") (.wallClock ⟨2, 3, newWindow_nonempty⟩))
    (Observed.start beforeRace)

theorem race_parSteps (schedule : List Bool) :
    ParSteps
      (observe Simulation.bench.environment.serves .sweep)
      (observe Simulation.bench.environment.serves .extraction)
      (PurgeMedia.execute [LgpdRetentionStrategy .default])
      (extract "evt" (clipPath "/nvme" "evt") (.wallClock ⟨2, 3, newWindow_nonempty⟩))
      (Observed.start beforeRace) (race schedule).1 (race schedule).2.1 (race schedule).2.2 :=
  interleave_parSteps (observeServer_observe (Simulation.serve_serves _) _)
    (observeServer_observe (Simulation.serve_serves _) _) schedule .refl

/-- The extraction runs between the sweep's look at the file and its question who else uses it. -/
def apartSchedule : List Bool :=
  List.replicate 9 true ++ List.replicate 6 false ++ List.replicate 4 true

/-- The sweep has just found the file unused when the extraction writes it again. -/
def overlappingSchedule : List Bool :=
  List.replicate 10 true ++ List.replicate 2 false ++ List.replicate 4 true ++
    List.replicate 4 false

theorem extraction_keeps_its_file_apart :
    (race apartSchedule).2.2.world.files (clipPath "/nvme" "evt") ≠ none := by
  have hreturned : ∃ clip, (race apartSchedule).2.1.outcome = some (.ok clip) ∧
      clip.filePath = clipPath "/nvme" "evt" := ⟨_, rfl, rfl⟩
  obtain ⟨clip, hreturned, hpath⟩ := hreturned
  have hfile := extraction_keeps_its_file _ _ _ _ _ (s := beforeRace) (by decide +kernel)
    (race_parSteps apartSchedule) hreturned
    (fun h hpast => (by decide +kernel : ∀ h ∈ (race apartSchedule).2.2.history.inits,
      (extractPhase h).pending = some (clipPath "/nvme" "evt") →
        removing (sweepPhase h) ≠ some (clipPath "/nvme" "evt"))
      h (List.mem_inits _ _ |>.mpr hpast))
    (fun h hpast => (by decide +kernel : ∀ h ∈ (race apartSchedule).2.2.history.inits,
      ∀ saved ∈ savedClip (extractPhase h), ∀ clip ∈ (sweepPhase h).inHand,
        clip.clipId ≠ saved.clipId)
      h (List.mem_inits _ _ |>.mpr hpast))
  rw [← hpath]
  exact hfile

/-- The question who uses the file is answered before the extraction writes it, and the removal
comes after: the extraction returns a clip without a file. -/
theorem extraction_loses_its_file :
    ¬ ∀ (env : Environment) (strategies : List RetentionStrategy) (eventId path : String)
      (request : Request) (s : ServiceState),
      (∀ clip ∈ s.clips.rows, clip.filePath = path → clip.eventId = eventId) →
      ∀ (p' : Service PurgeReport) (q' : Service MediaClip) (o' : RaceState),
        ParSteps (observe env.serves .sweep) (observe env.serves .extraction)
          (PurgeMedia.execute strategies) (extract eventId path request) (Observed.start s)
          p' q' o' →
        ∀ report clip, p'.outcome = some (.ok report) → q'.outcome = some (.ok clip) →
          NotTaken o'.history → o'.world.files clip.filePath ≠ none := by
  intro h
  have hended : ∃ report, (race overlappingSchedule).1.outcome = some (.ok report) := ⟨_, rfl⟩
  have hreturned : ∃ clip, (race overlappingSchedule).2.1.outcome = some (.ok clip) ∧
      clip.filePath = clipPath "/nvme" "evt" := ⟨_, rfl, rfl⟩
  obtain ⟨report, hended⟩ := hended
  obtain ⟨clip, hreturned, hpath⟩ := hreturned
  -- at no moment is the clip that was saved in the hands of the sweep
  have htaken : ∀ h ∈ (race overlappingSchedule).2.2.history.inits,
      ∀ saved ∈ savedClip (extractPhase h), ∀ clip ∈ (sweepPhase h).inHand,
        clip.clipId ≠ saved.clipId := by
    decide +kernel
  have hfile := h _ _ _ _ _ beforeRace (by decide +kernel) _ _ _
    (race_parSteps overlappingSchedule) report clip hended hreturned
    (fun h hpast => htaken h ((List.mem_inits _ _).mpr hpast))
  rw [hpath] at hfile
  -- the sweep, which found the file unused, has deleted what the extraction wrote
  exact hfile (by decide +kernel)

end ExtractionRace

end Ods.S4
