import OdsMod2.S4.PurgeMedia.Protocol

/-!
# What a sweep does to the state

`SweepMove` lists everything one call of a sweep can do: the phase it leaves, the state it leaves,
and what the call has learned. `sweepMove_of_call` is the inversion, for any environment, and
every invariant of a sweep is a case analysis on it. A call that throws and a call that only
measures are both `rest`: the state stays and the sweep is idle.
-/

namespace Ods.S4

open Prog

namespace PurgeMedia

/-- One call of a sweep. -/
inductive SweepMove (env : Environment) (Target : String → Prop) :
    SweepPhase → ServiceState → SweepPhase → ServiceState → Prop
  | rest {phase : SweepPhase} {s : ServiceState} : SweepMove env Target phase s .idle s
  | reread {s : ServiceState} {clip : MediaClip} (hmem : clip ∈ s.clips.rows)
      (heligible : clip.isEligibleForPurge = true) (htarget : Target clip.clipId) :
      SweepMove env Target .idle s (.held clip) s
  | found {s : ServiceState} {clip : MediaClip} (hfile : s.files clip.filePath ≠ none) :
      SweepMove env Target (.held clip) s (.present clip) s
  | missing {s : ServiceState} {clip : MediaClip}
      (hfile : s.files clip.filePath = none ∨ env.hides clip.filePath) :
      SweepMove env Target (.held clip) s (.settled clip .alreadyMissing) s
  | shared {s : ServiceState} {clip sibling : MediaClip} (hmem : sibling ∈ s.clips.rows)
      (hother : sibling.clipId ≠ clip.clipId) (hevent : sibling.eventId = clip.eventId)
      (hretained : sibling.isRetained = true) (hpath : sibling.filePath = clip.filePath) :
      SweepMove env Target (.present clip) s (.settled clip .keptForOtherClip) s
  | unshared {s : ServiceState} {clip : MediaClip}
      (hnone : ∀ sibling ∈ s.clips.rows, sibling.eventId = clip.eventId →
        sibling.isRetained = true → sibling.filePath = clip.filePath →
        sibling.clipId = clip.clipId) :
      SweepMove env Target (.present clip) s (.clear clip) s
  | remove {s : ServiceState} {clip : MediaClip} :
      SweepMove env Target (.clear clip) s (.settled clip .deleted) (s.dropFile clip.filePath)
  | mark {s : ServiceState} {clip : MediaClip} {outcome : FileOutcome} :
      SweepMove env Target (.settled clip outcome) s (.marked clip outcome)
        (s.putClip clip.markAsPurged)
  | log {s : ServiceState} {clip : MediaClip} {outcome : FileOutcome} {entry : PurgeLogEntry}
      (hclip : entry.clipId = clip.clipId) :
      SweepMove env Target (.marked clip outcome) s .idle (s.appendLog entry)

section Inversion

variable {env : Environment} {Target : String → Prop}

/-- A file that is reported as missing is left to itself. -/
theorem SweepMove.after_missing {phase : SweepPhase} {clip : MediaClip} {s s' : ServiceState}
    (h : SweepMove env Target phase s (.settled clip .alreadyMissing) s') : s' = s := by
  cases h with
  | missing hfile => rfl

/-- The call that marks a clip writes its record. -/
theorem SweepMove.after_mark {clip : MediaClip} {outcome : FileOutcome} {s s' : ServiceState}
    (h : SweepMove env Target (.settled clip outcome) s (.marked clip outcome) s') :
    s' = s.putClip clip.markAsPurged := by
  cases h with
  | mark => rfl

/-- The answer of `findByEventId`, looked through for another retained clip of the same file. -/
theorem sharesFile_eq_true {clip : MediaClip} {siblings : List MediaClip} :
    sharesFile clip siblings = true ↔ ∃ sibling ∈ siblings, sibling.clipId ≠ clip.clipId ∧
      sibling.isRetained = true ∧ sibling.filePath = clip.filePath := by
  unfold sharesFile
  simp only [List.any_eq_true, Bool.and_eq_true, decide_eq_true_eq, and_assoc]

theorem mem_of_eventId {rows siblings : List MediaClip} {eventId : String}
    (hperm : siblings.Perm (rows.filter fun clip => clip.eventId = eventId))
    {sibling : MediaClip} :
    sibling ∈ siblings ↔ sibling ∈ rows ∧ sibling.eventId = eventId := by
  rw [hperm.mem_iff, List.mem_filter, decide_eq_true_eq]

/-- The row found is the one the table holds now. -/
theorem sweepMove_of_findById {phase : SweepPhase} {clipId : String} {answer : Option MediaClip}
    {s s' : ServiceState} (hpermits : phase.Permits Target (.findById clipId))
    (hserves : env.serves (.findById clipId) s (.ok answer) s') :
    SweepMove env Target phase s (phase.next (.findById clipId) (.ok answer)) s' := by
  obtain ⟨hfound, rfl⟩ := hserves
  cases phase with
  | idle =>
    match answer, hfound with
    | none, _ => exact .rest
    | some clip, hfound =>
      obtain ⟨hmem, rfl⟩ := KeyedTable.lookup_eq_some.mp hfound.symm
      show SweepMove env Target .idle s'
        (if clip.isEligibleForPurge then .held clip else .idle) s'
      split
      · next heligible => exact .reread hmem heligible hpermits
      · exact .rest
  | _ => exact hpermits.elim

/-- A file that is not found is not there, or hidden. -/
theorem sweepMove_of_fileExists {phase : SweepPhase} {path : String} {answer : Bool}
    {s s' : ServiceState} (hpermits : phase.Permits Target (.fileExists path))
    (hserves : env.serves (.fileExists path) s (.ok answer) s') :
    SweepMove env Target phase s (phase.next (.fileExists path) (.ok answer)) s' := by
  obtain ⟨hfound, rfl⟩ := hserves
  cases phase with
  | idle => exact .rest
  | held clip =>
    obtain rfl : path = clip.filePath := hpermits
    match answer, hfound with
    | true, hfound =>
      refine .found ?_
      intro hnone
      rcases hfound with hfound | ⟨hfalse, -⟩
      · rw [hnone] at hfound
        cases hfound
      · cases hfalse
    | false, hfound =>
      refine .missing ?_
      rcases hfound with hfound | ⟨-, hhides⟩
      · exact .inl (Option.isSome_eq_false_iff.mp hfound.symm |> Option.isNone_iff_eq_none.mp)
      · exact .inr hhides
  | _ => exact hpermits.elim

/-- The siblings found are those of the event now. -/
theorem sweepMove_of_findByEventId {phase : SweepPhase} {eventId : String}
    {answer : List MediaClip} {s s' : ServiceState}
    (hpermits : phase.Permits Target (.findByEventId eventId))
    (hserves : env.serves (.findByEventId eventId) s (.ok answer) s') :
    SweepMove env Target phase s (phase.next (.findByEventId eventId) (.ok answer)) s' := by
  obtain ⟨hperm, rfl⟩ := hserves
  cases phase with
  | present clip =>
    obtain rfl : eventId = clip.eventId := hpermits
    show SweepMove env Target (.present clip) s'
      (if sharesFile clip answer then .settled clip .keptForOtherClip else .clear clip) s'
    split
    · next hshares =>
      obtain ⟨sibling, hmem, hother, hretained, hpath⟩ := sharesFile_eq_true.mp hshares
      obtain ⟨hrow, hevent⟩ := (mem_of_eventId hperm).mp hmem
      exact .shared hrow hother hevent hretained hpath
    · next hshares =>
      refine .unshared ?_
      -- a sibling under another id would have been in the answer
      intro sibling hrow hevent hretained hpath
      by_contra hother
      exact hshares (sharesFile_eq_true.mpr
        ⟨sibling, (mem_of_eventId hperm).mpr ⟨hrow, hevent⟩, hother, hretained, hpath⟩)
  | _ => exact hpermits.elim

/-- **Inversion.** A permitted call, answered by the environment, is one of the moves. -/
theorem sweepMove_of_call {phase : SweepPhase} {op : PortCall}
    {answer : Except ODSException op.Answer} {s s' : ServiceState}
    (hpermits : phase.Permits Target op) (hserves : env.serves op s answer s') :
    SweepMove env Target phase s (phase.next op answer) s' := by
  cases answer with
  | error exception =>
    -- a sweep never writes a file, so a call that throws leaves the state alone
    rw [SweepPhase.next_error]
    have hnotWrite : ∀ path data, op ≠ .writeFile path data := by
      rintro path data rfl
      cases phase <;> exact hpermits
    rw [Environment.refuses_eq hserves hnotWrite]
    exact .rest
  | ok answer =>
    cases op with
    | currentUsage =>
      obtain ⟨-, rfl⟩ := hserves
      cases phase <;> exact .rest
    | now =>
      obtain ⟨-, rfl⟩ := hserves
      cases phase <;> exact .rest
    | findPurgeCandidates =>
      obtain ⟨-, -, rfl⟩ := hserves
      cases phase <;> exact .rest
    | fileSize path =>
      obtain ⟨-, rfl⟩ := hserves
      cases phase <;> exact .rest
    | findById clipId => exact sweepMove_of_findById hpermits hserves
    | fileExists path => exact sweepMove_of_fileExists hpermits hserves
    | findByEventId eventId => exact sweepMove_of_findByEventId hpermits hserves
    | removeFile path =>
      obtain rfl := hserves
      cases phase with
      | clear clip =>
        obtain rfl : path = clip.filePath := hpermits
        exact .remove
      | _ => exact hpermits.elim
    | update row =>
      obtain rfl := hserves
      cases phase with
      | settled clip outcome =>
        obtain rfl : row = clip.markAsPurged := hpermits
        exact .mark
      | _ => exact hpermits.elim
    | recordPurge entry =>
      obtain rfl := hserves
      cases phase with
      | marked clip outcome =>
        obtain ⟨reason, bytesFreed, context, rfl⟩ := hpermits
        exact .log rfl
      | _ => exact hpermits.elim
    | _ => cases phase <;> exact hpermits.elim

end Inversion

end PurgeMedia

end Ods.S4
