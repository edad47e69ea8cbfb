import OdsMod2.S4.PurgeMedia.Moves

/-!
# Where a sweep is heading

Fix the clips a sweep is after, `chosen`. Without failures the state it ends in can be told from
the state it starts in, before anything has happened: the chosen eligible clips are marked, and a
file is gone if a chosen clip names it and no retained clip of the same event that is not chosen
names it too (`finalClip`, `finalFiles`). Neither the order in which the clips are purged nor the
way they share files among themselves has a say in it.

That this *is* where the sweep is heading is `Settling`: the target does not move, whatever call of
the sweep comes next (`Settling.move`), so it is the same before the sweep, at every point at
which it may be interrupted, and when it is taken up again. A state in which nothing chosen is
left is its own target (`Settling.done`).

`Settling` also carries what is said about the way there: no file loses its last retained clip
without being removed, and no clip is logged twice.
-/

namespace Ods.S4

namespace PurgeMedia

/-! ### The target -/

/-- The clip is one the sweep is after. -/
def Selected (chosen : MediaClip → Bool) (clip : MediaClip) : Prop :=
  clip.isEligibleForPurge = true ∧ chosen clip = true

instance (chosen : MediaClip → Bool) (clip : MediaClip) : Decidable (Selected chosen clip) :=
  inferInstanceAs (Decidable (_ ∧ _))

/-- The file goes with the selected clips: one of them names it, and every retained clip of that
event that names it is selected. -/
def Doomed (chosen : MediaClip → Bool) (s : ServiceState) (path : String) : Prop :=
  ∃ clip ∈ s.clips.rows, Selected chosen clip ∧ clip.filePath = path ∧
    ∀ other ∈ s.clips.rows, other.isRetained = true → other.eventId = clip.eventId →
      other.filePath = path → Selected chosen other

instance (chosen : MediaClip → Bool) (s : ServiceState) (path : String) :
    Decidable (Doomed chosen s path) :=
  inferInstanceAs (Decidable (∃ clip ∈ s.clips.rows, Selected chosen clip ∧
    clip.filePath = path ∧ ∀ other ∈ s.clips.rows, other.isRetained = true →
      other.eventId = clip.eventId → other.filePath = path → Selected chosen other))

/-- The files a sweep for the chosen clips leaves behind. -/
def finalFiles (chosen : MediaClip → Bool) (s : ServiceState) (path : String) :
    Option (List UInt8) :=
  if Doomed chosen s path then none else s.files path

/-- The record it leaves behind under an id. -/
def finalClip (chosen : MediaClip → Bool) (s : ServiceState) (clipId : String) :
    Option MediaClip :=
  (s.clips.lookup clipId).map fun clip =>
    if Selected chosen clip then clip.markAsPurged else clip

theorem not_selected_markAsPurged (chosen : MediaClip → Bool) (clip : MediaClip) :
    ¬ Selected chosen clip.markAsPurged := by
  rintro ⟨heligible, -⟩
  rw [MediaClip.isEligibleForPurge_markAsPurged] at heligible
  cases heligible

theorem isRetained_of_selected {chosen : MediaClip → Bool} {clip : MediaClip}
    (h : Selected chosen clip) : clip.isRetained = true :=
  (MediaClip.isEligibleForPurge_iff.mp h.1).1

theorem finalFiles_eq_none {chosen : MediaClip → Bool} {s : ServiceState} {path : String}
    (h : s.files path = none) : finalFiles chosen s path = none := by
  unfold finalFiles
  split
  · rfl
  · exact h

/-- The target depends on the table and the file only. -/
theorem finalFiles_congr {chosen : MediaClip → Bool} {s s' : ServiceState} {path : String}
    (hdoomed : Doomed chosen s path ↔ Doomed chosen s' path)
    (hfiles : s.files path = s'.files path) :
    finalFiles chosen s path = finalFiles chosen s' path := by
  unfold finalFiles
  rw [if_congr hdoomed rfl hfiles]

/-! ### The two effects -/

section Effects

variable {chosen : MediaClip → Bool} {s : ServiceState} {clip : MediaClip}

/-- Removing a file that goes anyway. -/
theorem finalFiles_dropFile (hclip : clip ∈ s.clips.rows) (hselected : Selected chosen clip)
    (halone : ∀ other ∈ s.clips.rows, other.isRetained = true → other.eventId = clip.eventId →
      other.filePath = clip.filePath → other = clip) :
    finalFiles chosen (s.dropFile clip.filePath) = finalFiles chosen s := by
  ext1 path
  by_cases hpath : path = clip.filePath
  · -- the removed file was going anyway
    subst hpath
    have hdoomed : Doomed chosen s clip.filePath :=
      ⟨clip, hclip, hselected, rfl, fun other hmem hretained hevent hfile => by
        rw [halone other hmem hretained hevent hfile]
        exact hselected⟩
    unfold finalFiles
    rw [if_pos hdoomed, if_pos (show Doomed chosen (s.dropFile clip.filePath) _ from hdoomed)]
  · exact finalFiles_congr (s := s.dropFile clip.filePath) Iff.rfl (Function.update_of_ne hpath _ _)

theorem mem_putClip_of_ne {row : MediaClip} (hrow : row ∈ s.clips.rows)
    (hne : row.clipId ≠ clip.clipId) : row ∈ (s.putClip clip.markAsPurged).clips.rows :=
  KeyedTable.mem_upsert.mpr (.inr ⟨hrow, hne⟩)

/-- A retained row of the table after the mark was there before it. -/
theorem mem_of_mem_putClip {row : MediaClip}
    (hrow : row ∈ (s.putClip clip.markAsPurged).clips.rows) (hretained : row.isRetained = true) :
    row ∈ s.clips.rows ∧ row.clipId ≠ clip.clipId := by
  rcases KeyedTable.mem_upsert.mp hrow with rfl | hrow
  · cases hretained
  · exact hrow

/-- Marking a selected clip does not save a file that goes. -/
theorem doomed_of_doomed_putClip (hclip : clip ∈ s.clips.rows) (hselected : Selected chosen clip)
    {path : String} (h : Doomed chosen (s.putClip clip.markAsPurged) path) :
    Doomed chosen s path := by
  obtain ⟨named, hnamed, hsel, hpath, hall⟩ := h
  obtain ⟨hrow, -⟩ := mem_of_mem_putClip hnamed (isRetained_of_selected hsel)
  refine ⟨named, hrow, hsel, hpath, ?_⟩
  intro other hother hretained hevent hfile
  by_cases hid : other.clipId = clip.clipId
  · -- the one row the mark takes away is selected itself
    rw [s.clips.eq_of_key hother hclip hid]
    exact hselected
  · exact hall other (mem_putClip_of_ne hother hid) hretained hevent hfile

/-- Nor does it doom one, unless the clip was the last retained one of the file. -/
theorem doomed_putClip_of_doomed {path : String} (h : Doomed chosen s path)
    (hother : clip.filePath = path → ∃ other ∈ s.clips.rows, other.clipId ≠ clip.clipId ∧
      other.eventId = clip.eventId ∧ other.isRetained = true ∧ other.filePath = path)
    (hclip : clip ∈ s.clips.rows) : Doomed chosen (s.putClip clip.markAsPurged) path := by
  obtain ⟨named, hnamed, hsel, hpath, hall⟩ := h
  have hrest : ∀ row ∈ (s.putClip clip.markAsPurged).clips.rows, row.isRetained = true →
      row.eventId = named.eventId → row.filePath = path → Selected chosen row :=
    fun row hrow hretained hevent hfile =>
      hall row (mem_of_mem_putClip hrow hretained).1 hretained hevent hfile
  by_cases hid : named.clipId = clip.clipId
  · -- the clip itself stood for the file: another of its event does now
    obtain rfl := s.clips.eq_of_key hnamed hclip hid
    obtain ⟨other, hmem, hne, hevent, hretained, hfile⟩ := hother hpath
    exact ⟨other, mem_putClip_of_ne hmem hne, hall other hmem hretained hevent hfile, hfile,
      fun row hrow hrowRetained hrowEvent =>
        hrest row hrow hrowRetained (hrowEvent.trans hevent)⟩
  · exact ⟨named, mem_putClip_of_ne hnamed hid, hsel, hpath, hrest⟩

/-- Marking a selected clip whose file is gone, or stays for another clip of its event. -/
theorem finalFiles_putClip (hclip : clip ∈ s.clips.rows) (hselected : Selected chosen clip)
    (hsettled : s.files clip.filePath = none ∨ ∃ other ∈ s.clips.rows,
      other.clipId ≠ clip.clipId ∧ other.eventId = clip.eventId ∧ other.isRetained = true ∧
        other.filePath = clip.filePath) :
    finalFiles chosen (s.putClip clip.markAsPurged) = finalFiles chosen s := by
  ext1 path
  by_cases hgone : s.files path = none
  · -- a file that is not there does not come back
    rw [finalFiles_eq_none hgone]
    exact finalFiles_eq_none hgone
  · have hstays : clip.filePath = path → ∃ other ∈ s.clips.rows, other.clipId ≠ clip.clipId ∧
        other.eventId = clip.eventId ∧ other.isRetained = true ∧ other.filePath = path := by
      rintro rfl
      exact hsettled.resolve_left hgone
    have hdoomed : Doomed chosen (s.putClip clip.markAsPurged) path ↔ Doomed chosen s path :=
      ⟨doomed_of_doomed_putClip hclip hselected,
        fun hdoomed => doomed_putClip_of_doomed hdoomed hstays hclip⟩
    exact finalFiles_congr hdoomed rfl

theorem finalClip_putClip (hclip : clip ∈ s.clips.rows) (hselected : Selected chosen clip) :
    finalClip chosen (s.putClip clip.markAsPurged) = finalClip chosen s := by
  ext1 clipId
  unfold finalClip
  rw [ServiceState.putClip_clips, KeyedTable.lookup_upsert]
  by_cases hid : clipId = clip.clipId
  · -- marked already, or to be marked: the same row in the end
    subst hid
    rw [MediaClip.markAsPurged_clipId, Function.update_self,
      KeyedTable.lookup_eq_some.mpr ⟨hclip, rfl⟩, Option.map_some, Option.map_some,
      if_pos hselected, if_neg (not_selected_markAsPurged chosen clip)]
  · rw [MediaClip.markAsPurged_clipId, Function.update_of_ne hid]

end Effects

/-! ### The way there -/

/-- Every file that a retained clip named at the start, and that is still there, is named by a
retained clip. -/
def NoOrphans (start s : ServiceState) : Prop :=
  ∀ path, s.files path ≠ none →
    (∃ clip ∈ start.clips.rows, clip.isRetained = true ∧ clip.filePath = path) →
    ∃ clip ∈ s.clips.rows, clip.isRetained = true ∧ clip.filePath = path

section NoOrphans

variable {start s : ServiceState}

/-- A removed file is not missed, and no retained clip is forgotten while nothing is marked. -/
theorem NoOrphans.dropFile (h : NoOrphans start s) (path : String) :
    NoOrphans start (s.dropFile path) := by
  intro file hfile href
  by_cases hpath : file = path
  · rw [ServiceState.dropFile_files, hpath, Function.update_self] at hfile
    exact absurd rfl hfile
  · rw [ServiceState.dropFile_files, Function.update_of_ne hpath] at hfile
    exact h file hfile href

/-- A clip may be marked if its file is gone or another retained clip names it. -/
theorem NoOrphans.mark {clip : MediaClip} (h : NoOrphans start s) (hclip : clip ∈ s.clips.rows)
    (hsettled : s.files clip.filePath = none ∨ ∃ other ∈ s.clips.rows,
      other.clipId ≠ clip.clipId ∧ other.isRetained = true ∧ other.filePath = clip.filePath) :
    NoOrphans start (s.putClip clip.markAsPurged) := by
  intro file hfile href
  obtain ⟨keeper, hkeeper, hkept, hkeeperPath⟩ := h file hfile href
  by_cases hid : keeper.clipId = clip.clipId
  · -- the marked clip was the one that kept the file
    obtain rfl := s.clips.eq_of_key hkeeper hclip hid
    subst hkeeperPath
    obtain ⟨other, hother, hne, hretained, hpath⟩ := hsettled.resolve_left hfile
    exact ⟨other, mem_putClip_of_ne hother hne, hretained, hpath⟩
  · exact ⟨keeper, mem_putClip_of_ne hkeeper hid, hkept, hkeeperPath⟩

end NoOrphans

/-- A sweep for the chosen clips, begun in `start`, is on its way. -/
structure Settling (chosen : MediaClip → Bool) (start : ServiceState) (phase : SweepPhase)
    (s : ServiceState) : Prop where
  files : finalFiles chosen s = finalFiles chosen start
  clips : finalClip chosen s = finalClip chosen start
  inHand : ∀ clip ∈ phase.inHand, clip ∈ s.clips.rows ∧ Selected chosen clip
  clear : ∀ clip, phase = .clear clip → ∀ other ∈ s.clips.rows, other.isRetained = true →
    other.eventId = clip.eventId → other.filePath = clip.filePath → other = clip
  settled : ∀ clip outcome, phase = .settled clip outcome →
    s.files clip.filePath = none ∨ ∃ other ∈ s.clips.rows, other.clipId ≠ clip.clipId ∧
      other.eventId = clip.eventId ∧ other.isRetained = true ∧ other.filePath = clip.filePath
  referenced : NoOrphans start s
  /-- A clip with a new log line is retained no more, and has one line. -/
  logged : ∃ lines, s.purgeLog = start.purgeLog ++ lines ∧
    (lines.map PurgeLogEntry.clipId).Nodup ∧
    (∀ line ∈ lines, ∀ row ∈ s.clips.rows, row.clipId = line.clipId → row.isRetained = false) ∧
    ∀ clip outcome, phase = .marked clip outcome → clip.clipId ∉ lines.map PurgeLogEntry.clipId ∧
      ∀ row ∈ s.clips.rows, row.clipId = clip.clipId → row.isRetained = false

namespace Settling

variable {env : Environment} {Target : String → Prop} {chosen : MediaClip → Bool}
  {start s s' : ServiceState} {phase phase' : SweepPhase}

theorem refl (chosen : MediaClip → Bool) (start : ServiceState) :
    Settling chosen start .idle start where
  files := rfl
  clips := rfl
  inHand _ hhand := by cases hhand
  clear _ hclear := by cases hclear
  settled _ _ hsettled := by cases hsettled
  referenced _ _ h := h
  logged := ⟨[], (List.append_nil _).symm, List.nodup_nil, fun _ h => (by cases h),
    fun _ _ hmarked => (by cases hmarked)⟩

/-- A move that only learns something. -/
theorem learn (h : Settling chosen start phase s)
    (hinHand : ∀ clip ∈ phase'.inHand, clip ∈ s.clips.rows ∧ Selected chosen clip)
    (hclear : ∀ clip, phase' = .clear clip → ∀ other ∈ s.clips.rows, other.isRetained = true →
      other.eventId = clip.eventId → other.filePath = clip.filePath → other = clip)
    (hsettled : ∀ clip outcome, phase' = .settled clip outcome →
      s.files clip.filePath = none ∨ ∃ other ∈ s.clips.rows, other.clipId ≠ clip.clipId ∧
        other.eventId = clip.eventId ∧ other.isRetained = true ∧ other.filePath = clip.filePath)
    (hmarked : ∀ clip outcome, phase' ≠ .marked clip outcome) :
    Settling chosen start phase' s := by
  obtain ⟨lines, hlog, hnodup, hpurged, -⟩ := h.logged
  exact ⟨h.files, h.clips, hinHand, hclear, hsettled, h.referenced,
    lines, hlog, hnodup, hpurged, fun clip outcome hphase => absurd hphase (hmarked clip outcome)⟩

/-- Interrupted, a sweep is idle in the state it has reached. -/
theorem interrupt (h : Settling chosen start phase s) : Settling chosen start .idle s :=
  h.learn (fun _ hhand => (by cases hhand)) (fun _ hclear => (by cases hclear))
    (fun _ _ hsettled => (by cases hsettled)) (fun _ _ hmarked => (by cases hmarked))

/-- The file of a clip with nobody to share it is removed. -/
theorem afterRemove {clip : MediaClip} (h : Settling chosen start (.clear clip) s) :
    Settling chosen start (.settled clip .deleted) (s.dropFile clip.filePath) := by
  obtain ⟨hclip, hselected⟩ := h.inHand clip rfl
  obtain ⟨lines, hlog, hnodup, hpurged, -⟩ := h.logged
  refine ⟨?_, h.clips, h.inHand, fun _ hclear => (by cases hclear),
    fun clip' outcome hsettled => ?_, h.referenced.dropFile clip.filePath,
    lines, hlog, hnodup, hpurged, fun _ _ hmarked => (by cases hmarked)⟩
  · rw [finalFiles_dropFile hclip hselected (h.clear clip rfl)]
    exact h.files
  · obtain ⟨rfl, -⟩ := SweepPhase.settled.inj hsettled
    exact .inl (Function.update_self _ _ _)

/-- The clip whose file has been dealt with is marked. -/
theorem afterMark {clip : MediaClip} {outcome : FileOutcome}
    (h : Settling chosen start (.settled clip outcome) s) :
    Settling chosen start (.marked clip outcome) (s.putClip clip.markAsPurged) := by
  obtain ⟨hclip, hselected⟩ := h.inHand clip rfl
  have hsettled := h.settled clip outcome rfl
  have hshared : s.files clip.filePath = none ∨ ∃ other ∈ s.clips.rows,
      other.clipId ≠ clip.clipId ∧ other.isRetained = true ∧ other.filePath = clip.filePath := by
    refine hsettled.imp_right ?_
    rintro ⟨other, hother, hne, -, hretained, hpath⟩
    exact ⟨other, hother, hne, hretained, hpath⟩
  obtain ⟨lines, hlog, hnodup, hpurged, -⟩ := h.logged
  have hself : ∀ row ∈ (s.putClip clip.markAsPurged).clips.rows, row.clipId = clip.clipId →
      row.isRetained = false := by
    intro row hrow hid
    rcases KeyedTable.mem_upsert.mp hrow with rfl | ⟨-, hne⟩
    · rfl
    · exact absurd hid hne
  refine ⟨?_, ?_, fun _ hhand => (by cases hhand), fun _ hclear => (by cases hclear),
    fun _ _ hsettled => (by cases hsettled), h.referenced.mark hclip hshared,
    lines, hlog, hnodup, fun line hline row hrow hid => ?_, fun clip' outcome' hmarked => ?_⟩
  · rw [finalFiles_putClip hclip hselected hsettled]
    exact h.files
  · rw [finalClip_putClip hclip hselected]
    exact h.clips
  · rcases KeyedTable.mem_upsert.mp hrow with rfl | ⟨hrow, -⟩
    · rfl
    · exact hpurged line hline row hrow hid
  · -- the clip was retained until now, so it has no line yet
    obtain ⟨rfl, -⟩ := SweepPhase.marked.inj hmarked
    refine ⟨fun hmem => ?_, hself⟩
    obtain ⟨line, hline, hid⟩ := List.mem_map.mp hmem
    have hnot := hpurged line hline clip hclip hid.symm
    rw [isRetained_of_selected hselected] at hnot
    cases hnot

/-- The line of a marked clip is its only one. -/
theorem afterLog {clip : MediaClip} {outcome : FileOutcome} {entry : PurgeLogEntry}
    (h : Settling chosen start (.marked clip outcome) s) (hentry : entry.clipId = clip.clipId) :
    Settling chosen start .idle (s.appendLog entry) := by
  obtain ⟨lines, hlog, hnodup, hpurged, hmarked⟩ := h.logged
  obtain ⟨hnew, hpurgedClip⟩ := hmarked clip outcome rfl
  refine ⟨h.files, h.clips, fun _ hhand => (by cases hhand), fun _ hclear => (by cases hclear),
    fun _ _ hsettled => (by cases hsettled), h.referenced, lines ++ [entry], ?_, ?_,
    fun line hline row hrow hid => ?_, fun _ _ hmarked => (by cases hmarked)⟩
  · rw [ServiceState.appendLog_purgeLog, hlog, List.append_assoc]
  · rw [List.map_append, List.map_singleton, List.nodup_append]
    refine ⟨hnodup, List.nodup_singleton _, fun id hid id' hid' => ?_⟩
    rw [List.mem_singleton.mp hid', hentry]
    rintro rfl
    exact hnew hid
  · rcases List.mem_append.mp hline with hline | hline
    · exact hpurged line hline row hrow hid
    · rw [List.mem_singleton.mp hline, hentry] at hid
      exact hpurgedClip row hrow hid

/-- **One call of a sweep.** The target does not move. -/
theorem move (hcalm : env.Calm) (h : Settling chosen start phase s)
    (hmove : SweepMove env Target phase s phase' s')
    (hchosen : ∀ clip ∈ s.clips.rows, clip.isEligibleForPurge = true → Target clip.clipId →
      chosen clip = true) : Settling chosen start phase' s' := by
  cases hmove with
  | rest => exact h.interrupt
  | reread hmem heligible htarget =>
    -- what may be read again is chosen
    refine h.learn (fun clip hhand => ?_) (fun _ hclear => (by cases hclear))
      (fun _ _ hsettled => (by cases hsettled)) (fun _ _ hmarked => (by cases hmarked))
    obtain rfl := Option.some.inj hhand
    exact ⟨hmem, heligible, hchosen _ hmem heligible htarget⟩
  | found hfile =>
    exact h.learn h.inHand (fun _ hclear => (by cases hclear))
      (fun _ _ hsettled => (by cases hsettled)) (fun _ _ hmarked => (by cases hmarked))
  | missing hfile =>
    refine h.learn h.inHand (fun _ hclear => (by cases hclear)) (fun clip outcome hsettled => ?_)
      (fun _ _ hmarked => (by cases hmarked))
    obtain ⟨rfl, -⟩ := SweepPhase.settled.inj hsettled
    -- nothing hides a file, so it really is missing
    exact .inl (hfile.resolve_right (hcalm.hides _))
  | shared hmem hother hevent hretained hpath =>
    refine h.learn h.inHand (fun _ hclear => (by cases hclear)) (fun clip outcome hsettled => ?_)
      (fun _ _ hmarked => (by cases hmarked))
    obtain ⟨rfl, -⟩ := SweepPhase.settled.inj hsettled
    exact .inr ⟨_, hmem, hother, hevent, hretained, hpath⟩
  | unshared hnone =>
    refine h.learn h.inHand (fun clip hclear other hmem hretained hevent hpath => ?_)
      (fun _ _ hsettled => (by cases hsettled)) (fun _ _ hmarked => (by cases hmarked))
    obtain rfl := SweepPhase.clear.inj hclear
    obtain ⟨hclip, -⟩ := h.inHand _ rfl
    exact s.clips.eq_of_key hmem hclip (hnone other hmem hevent hretained hpath)
  | remove => exact h.afterRemove
  | mark => exact h.afterMark
  | log hentry => exact h.afterLog hentry

/-- Where nothing chosen is left, the sweep has arrived. -/
theorem done (h : Settling chosen start phase s)
    (hnone : ∀ clip ∈ s.clips.rows, ¬ Selected chosen clip) :
    s.files = finalFiles chosen start ∧ s.clips.lookup = finalClip chosen start := by
  rw [← h.files, ← h.clips]
  constructor
  · -- a file goes only with a selected clip
    ext1 path
    unfold finalFiles
    rw [if_neg]
    rintro ⟨clip, hmem, hselected, -⟩
    exact hnone clip hmem hselected
  · ext1 clipId
    unfold finalClip
    cases hlookup : s.clips.lookup clipId with
    | none => rfl
    | some clip =>
      rw [Option.map_some, if_neg (hnone clip (KeyedTable.lookup_eq_some.mp hlookup).1)]

end Settling

end PurgeMedia

end Ods.S4
