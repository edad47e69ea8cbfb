import OdsMod2.S4.PurgeMedia.Calm
import OdsMod2.S4.PurgeMedia.Orphans

/-!
# One failing clip and the rest of the sweep

A clip that cannot be purged is meant to be one line of `report.failures` while the others go on
being purged. Of the calls a purge makes for its clip any may throw here, and the calls that belong
to the sweep as a whole do not (`OnlyClipsFail`).

Two things do not reach the `catch` clause of `purge`: the re-read, which stands before the `try`
block, and every exception that is not an `ApplicationError`, such as the one a sibling row throws
that does not decode. Either ends the sweep. `execute_isolates_iff` says that nothing else does.

The sets of selected clips are arbitrary: `Picks` is a strategy that selects a given one. A run
whose strategies decide is the run of such strategies (`runs_of_picks`).
-/

namespace Ods.S4

open Prog

/-- The calls a purge makes for its clip. -/
def PortCall.ForOneClip : PortCall → Prop
  | .findById _ => True
  | .findByEventId _ => True
  | .update _ => True
  | .removeFile _ => True
  | .recordPurge _ => True
  | _ => False

/-- Only calls for one clip throw; a size that cannot be read throws an `ApplicationError`. -/
def OnlyClipsFail (env : Environment) : Prop :=
  ∀ op exception, env.fails op exception → op.ForOneClip ∨
    (∃ path, op = .fileSize path) ∧ ∃ error, exception = .application error

namespace PurgeMedia

abbrev SweepState := Observed PortCall.Answer ODSException ServiceState Unit

/-! ### What went wrong in a run -/

/-- Every exception thrown so far is one that `purge` catches. -/
def Contained (history : List SweepEvent) : Prop :=
  ∀ e ∈ history, ∀ exception, e.answer = .error exception →
    (∀ clipId, e.op ≠ .findById clipId) ∧ ∃ error, exception = .application error

/-- The clip whose purge is under way; it ends with the log line. -/
def SweepPhase.beingPurged : SweepPhase → Option MediaClip
  | .marked clip _ => some clip
  | phase => phase.inHand

/-- The call threw in the purge of this clip. -/
def FailsFor (before : List SweepEvent) (e : SweepEvent) (clipId : String) : Prop :=
  (∃ exception, e.answer = .error exception) ∧
    (e.op = .findById clipId ∨
      ∃ clip, (sweep.phase () before).beingPurged = some clip ∧ clip.clipId = clipId)

/-- Some call threw in the purge of this clip. -/
def FailedClip (history : List SweepEvent) (clipId : String) : Prop :=
  ∃ before e after, history = before ++ e :: after ∧ FailsFor before e clipId

theorem failedClip_snoc {history : List SweepEvent} {e : SweepEvent} {clipId : String} :
    FailedClip (history ++ [e]) clipId ↔ FailedClip history clipId ∨ FailsFor history e clipId := by
  constructor
  · rintro ⟨before, e', after, hsplit, hfails⟩
    rcases snoc_eq_split hsplit with ⟨-, rfl, rfl⟩ | ⟨after', -, hold⟩
    · exact .inr hfails
    · exact .inl ⟨before, e', after', hold, hfails⟩
  · rintro (⟨before, e', after, rfl, hfails⟩ | hfails)
    · exact ⟨before, e', after ++ [e], List.append_assoc _ _ _, hfails⟩
    · exact ⟨history, e, [], rfl, hfails⟩

theorem contained_snoc {history : List SweepEvent} {e : SweepEvent} :
    Contained (history ++ [e]) ↔ Contained history ∧ ∀ exception, e.answer = .error exception →
      (∀ clipId, e.op ≠ .findById clipId) ∧ ∃ error, exception = .application error := by
  constructor
  · intro h
    exact ⟨fun e' he' => h e' (List.mem_append_left _ he'),
      h e (List.mem_append_right _ List.mem_cons_self)⟩
  · rintro ⟨h, hnew⟩ e' he'
    rcases List.mem_append.mp he' with he' | he'
    · exact h e' he'
    · rw [List.mem_singleton.mp he']
      exact hnew

/-- Nothing more can be purged under this id, or it has failed. -/
def Dealt (o : SweepState) (clipId : String) : Prop :=
  FailedClip o.history clipId ∨
    ∀ row ∈ o.world.clips.rows, row.clipId = clipId → row.isEligibleForPurge = false

/-- A later point of the same sweep. -/
structure Later (o o' : SweepState) : Prop where
  shrinks : Shrinks o.world o'.world
  failed : ∀ clipId, FailedClip o.history clipId → FailedClip o'.history clipId

theorem Later.refl (o : SweepState) : Later o o :=
  ⟨Shrinks.refl _, fun _ h => h⟩

theorem Later.trans {o o' o'' : SweepState} (h : Later o o') (h' : Later o' o'') : Later o o'' :=
  ⟨h.shrinks.trans h'.shrinks, fun clipId hfailed => h'.failed clipId (h.failed clipId hfailed)⟩

theorem Later.snoc {o : SweepState} {op : PortCall} {answer : Except ODSException op.Answer}
    {world : ServiceState} (hshrinks : Shrinks o.world world) :
    Later o (o.snoc () op answer world) :=
  ⟨hshrinks, fun _ h => failedClip_snoc.mpr (.inl h)⟩

/-- What has been dealt with stays dealt with. -/
theorem Dealt.later {o o' : SweepState} {clipId : String} (h : Dealt o clipId) (hlater : Later o o') :
    Dealt o' clipId := by
  rcases h with hfailed | hgone
  · exact .inl (hlater.failed clipId hfailed)
  · refine .inr fun row hrow hid => ?_
    rw [← Bool.not_eq_true]
    intro heligible
    have hbefore := hlater.shrinks row hrow heligible
    rw [hgone row hbefore hid] at heligible
    cases heligible

/-! ### Keeping count -/

/-- Every record is as it was, or has been marked and counted as purged. -/
def Progress (start s : ServiceState) (purged : List String) : Prop :=
  ∀ clipId, s.clips.lookup clipId = start.clips.lookup clipId ∨
    ∃ clip, start.clips.lookup clipId = some clip ∧
      s.clips.lookup clipId = some clip.markAsPurged ∧ clipId ∈ purged

/-- The sweep has contained every failure and counted them all. -/
structure Tally (start : ServiceState) (o : SweepState) (failed purged : List String) : Prop where
  contained : Contained o.history
  failures : ∀ clipId, clipId ∈ failed ↔ FailedClip o.history clipId
  progress : Progress start o.world purged

section Tally

variable {env : Environment} {start : ServiceState} {o : SweepState} {failed purged : List String}
  {op : PortCall} {world : ServiceState}

theorem Progress.of_clips_eq {s s' : ServiceState} (h : Progress start s purged)
    (hclips : s'.clips = s.clips) : Progress start s' purged := by
  intro clipId
  rw [hclips]
  exact h clipId

/-- Marking the clip a record was read from, and counting it. -/
theorem Progress.mark {s : ServiceState} {clip : MediaClip} (h : Progress start s purged)
    (hclip : s.clips.lookup clip.clipId = some clip) (heligible : clip.isEligibleForPurge = true) :
    Progress start (s.putClip clip.markAsPurged) (purged ++ [clip.clipId]) := by
  intro clipId
  rw [ServiceState.putClip_clips, KeyedTable.lookup_upsert, MediaClip.markAsPurged_clipId]
  by_cases hid : clipId = clip.clipId
  · subst hid
    refine .inr ⟨clip, ?_, Function.update_self _ _ _, List.mem_append_right _ List.mem_cons_self⟩
    rcases h clip.clipId with hsame | ⟨marked, -, hmarked, -⟩
    · rw [← hsame]
      exact hclip
    · -- a marked record is not eligible
      rw [hclip] at hmarked
      obtain rfl := Option.some.inj hmarked
      rw [MediaClip.isEligibleForPurge_markAsPurged] at heligible
      cases heligible
  · rw [Function.update_of_ne hid]
    rcases h clipId with hsame | ⟨marked, hstart, hmarked, hmem⟩
    · exact .inl hsame
    · exact .inr ⟨marked, hstart, hmarked, List.mem_append_left _ hmem⟩

/-- A call that returns. -/
theorem Tally.answered (h : Tally start o failed purged) {purged' : List String}
    {answer : op.Answer} (hprogress : Progress start world purged') :
    Tally start (o.snoc () op (.ok answer) world) failed purged' := by
  refine ⟨contained_snoc.mpr ⟨h.contained, fun _ herror => (by cases herror)⟩, fun clipId => ?_,
    hprogress⟩
  rw [h.failures, Observed.snoc_history, failedClip_snoc]
  refine ⟨.inl, fun hfailed => hfailed.resolve_right ?_⟩
  rintro ⟨⟨_, herror⟩, -⟩
  cases herror

/-- A call that throws an `ApplicationError`; `fresh` is the clip in hand, if any. -/
theorem Tally.thrown (h : Tally start o failed purged) {error : ApplicationError}
    {fresh : List String} (hop : ∀ clipId, op ≠ .findById clipId)
    (hfresh : ∀ clipId, clipId ∈ fresh ↔
      ∃ clip, (sweep.phase () o.history).beingPurged = some clip ∧ clip.clipId = clipId)
    (hworld : world = o.world) :
    Tally start (o.snoc () op (.error (.application error)) world) (failed ++ fresh) purged := by
  refine ⟨contained_snoc.mpr ⟨h.contained, ?_⟩, fun clipId => ?_, ?_⟩
  · intro exception herror
    obtain rfl := Except.error.inj herror
    exact ⟨hop, error, rfl⟩
  · rw [List.mem_append, h.failures, hfresh, Observed.snoc_history, failedClip_snoc]
    refine or_congr Iff.rfl ⟨fun hhand => ⟨⟨_, rfl⟩, .inr hhand⟩, ?_⟩
    rintro ⟨-, hfind | hhand⟩
    · exact absurd hfind (hop clipId)
    · exact hhand
  · rw [Observed.snoc_world, hworld]
    exact h.progress

end Tally

/-! ### The functions of the use case -/

/-- Between two purges: idle, and all counted. -/
structure Between (start : ServiceState) (o : SweepState) (failed purged : List String) : Prop where
  idle : sweep.phase () o.history = .idle
  tally : Tally start o failed purged

/-- Between two purges, with the count in the report. -/
abbrev Counted (start : ServiceState) (o : SweepState) (report : PurgeReport) : Prop :=
  Between start o (report.failures.map PurgeFailure.clipId)
    (report.purged.map PurgeLogEntry.clipId)

/-- The purge of a clip has thrown: counted if it can be caught, not contained otherwise. -/
def Fault (start : ServiceState) (clipId : String) (failed purged : List String) :
    ODSException → SweepState → Prop
  | .application _, o =>
    sweep.phase () o.history = .idle ∧ Tally start o (failed ++ [clipId]) purged
  | _, o => ¬ Contained o.history

section Specs

variable {env : Environment} {start : ServiceState} {o : SweepState} {failed purged : List String}

/-- Any call may be made by the sweep. -/
abbrev AnySweepCall (_ : SweepState) (_ : PortCall) : Prop := True

theorem wp_call {op : PortCall} {Q : Except ODSException op.Answer → SweepState → Prop}
    (h : ∀ answer world, env.serves op o.world answer world →
      Q answer (o.snoc () op answer world)) :
    (perform op : Service op.Answer).wp (observe env.serves ()) AnySweepCall Q o := by
  refine wp_perform trivial ?_
  rintro answer o' ⟨world, hserves, rfl⟩
  exact h answer world hserves

/-- A call for the whole sweep answers. -/
theorem wp_sure_call (honly : OnlyClipsFail env) {op : PortCall} (hsweep : ¬ op.ForOneClip)
    (hsize : ∀ path, op ≠ .fileSize path)
    {Q : Except ODSException op.Answer → SweepState → Prop}
    (h : ∀ answer world, env.answers op answer o.world world →
      Q (.ok answer) (o.snoc () op (.ok answer) world)) :
    (perform op : Service op.Answer).wp (observe env.serves ()) AnySweepCall Q o := by
  refine wp_call fun answer world hserves => ?_
  cases answer with
  | ok answer => exact h answer world hserves
  | error exception =>
    have hfails : env.fails op exception := by
      cases op with
      | fileSize path => exact absurd rfl (hsize path)
      | _ => exact hserves.1
    rcases honly op exception hfails with hone | ⟨⟨path, hpath⟩, -⟩
    · exact absurd hone hsweep
    · exact absurd hpath (hsize path)

/-- An exception in the purge of the clip in hand. -/
theorem Tally.fault (h : Tally start o failed purged) {clip : MediaClip}
    (hhand : (sweep.phase () o.history).beingPurged = some clip) {op : PortCall}
    (hop : ∀ clipId, op ≠ .findById clipId) (exception : ODSException) :
    Fault start clip.clipId failed purged exception
      (o.snoc () op (.error exception) o.world) := by
  cases exception with
  -- caught by the sweep, which counts the clip in hand as failed and goes on
  | application error =>
    constructor
    · rw [Protocol.phase_snoc_self]
      exact SweepPhase.next_error _ _ _
    · refine h.thrown hop (fun clipId => ?_) rfl
      rw [hhand, List.mem_singleton]
      constructor
      · rintro rfl
        exact ⟨clip, rfl, rfl⟩
      · rintro ⟨held, hheld, rfl⟩
        rw [Option.some.inj hheld]
  | domain error =>
    intro hcontained
    obtain ⟨-, error', herror⟩ := (contained_snoc.mp hcontained).2 _ rfl
    cases herror
  | mediaMux message =>
    intro hcontained
    obtain ⟨-, error', herror⟩ := (contained_snoc.mp hcontained).2 _ rfl
    cases herror

/-- A call that leaves the table alone loses nothing. -/
theorem Later.of_clips_eq {op : PortCall} {answer : Except ODSException op.Answer}
    {world : ServiceState} (hclips : world.clips = o.world.clips) :
    Later o (o.snoc () op answer world) :=
  Later.snoc (Shrinks.of_clips_eq hclips)

/-- What a part of the purge of `clip` leaves behind: it returns in the phase `next` of its result,
with the table as it was, or it has thrown. -/
def PartPost {α : Type} (start : ServiceState) (o : SweepState) (clip : MediaClip)
    (failed purged : List String) (next : α → SweepPhase) :
    Except ODSException α → SweepState → Prop
  | .ok a, o' => sweep.phase () o'.history = next a ∧ Tally start o' failed purged ∧
      o'.world.clips = o.world.clips ∧ Later o o'
  | .error exception, o' => Fault start clip.clipId failed purged exception o' ∧ Later o o'

/-- A call for the clip in hand that leaves the table alone. -/
theorem partPost_call (htally : Tally start o failed purged) {clip : MediaClip}
    (hhand : (sweep.phase () o.history).beingPurged = some clip) {op : PortCall}
    (hop : ∀ clipId, op ≠ .findById clipId) (hwrite : ∀ path data, op ≠ .writeFile path data)
    {next : op.Answer → SweepPhase}
    (hnext : ∀ answer, (sweep.phase () o.history).next op (.ok answer) = next answer)
    (hclips : ∀ answer world, env.answers op answer o.world world →
      world.clips = o.world.clips) :
    (perform op : Service op.Answer).wp (observe env.serves ()) AnySweepCall
      (PartPost start o clip failed purged next) o := by
  refine wp_call fun answer world hserves => ?_
  cases answer with
  | ok answer =>
    have hsame := hclips answer world hserves
    refine ⟨?_, htally.answered (htally.progress.of_clips_eq hsame), hsame,
      Later.of_clips_eq hsame⟩
    rw [Protocol.phase_snoc_self]
    exact hnext answer
  | error exception =>
    obtain rfl := Environment.refuses_eq hserves hwrite
    exact ⟨htally.fault hhand hop exception, Later.of_clips_eq rfl⟩

/-- What comes after a part that returned begins where it ended. -/
theorem partPost_bind {α β : Type} {p : Service α} {f : α → Service β} {clip : MediaClip}
    (next : α → SweepPhase) {next' : β → SweepPhase}
    (hp : p.wp (observe env.serves ()) AnySweepCall (PartPost start o clip failed purged next) o)
    (hf : ∀ a o', sweep.phase () o'.history = next a → Tally start o' failed purged →
      (f a).wp (observe env.serves ()) AnySweepCall
        (PartPost start o' clip failed purged next') o') :
    (p >>= f).wp (observe env.serves ()) AnySweepCall
      (PartPost start o clip failed purged next') o := by
  refine wp_bind (wp_mono hp ?_)
  intro r o' hr
  cases r with
  | error exception => exact hr
  | ok a =>
    obtain ⟨hphase, htally, hclips, hlater⟩ := hr
    refine wp_mono (hf a o' hphase htally) ?_
    intro r o'' hr
    cases r with
    | error exception => exact ⟨hr.1, hlater.trans hr.2⟩
    | ok b => exact ⟨hr.1, hr.2.1, hr.2.2.1.trans hclips, hlater.trans hr.2.2.2⟩

theorem partPost_ret {α : Type} {a : α} {clip : MediaClip} {next : α → SweepPhase}
    (hphase : sweep.phase () o.history = next a) (htally : Tally start o failed purged) :
    (ret a : Service α).wp (observe env.serves ()) AnySweepCall
      (PartPost start o clip failed purged next) o :=
  ⟨hphase, htally, rfl, Later.refl o⟩

theorem releaseFile_isolates {clip : MediaClip} (hphase : sweep.phase () o.history = .held clip)
    (htally : Tally start o failed purged) :
    (releaseFile clip).wp (observe env.serves ()) AnySweepCall
      (PartPost start o clip failed purged (.settled clip)) o := by
  refine partPost_bind
    (fun found => if found = true then .present clip else .settled clip .alreadyMissing)
    (partPost_call htally (by rw [hphase]; rfl) (fun _ h => (by cases h))
      (fun _ _ h => (by cases h)) (fun found => ?_) ?_) ?_
  · rw [hphase]
    cases found <;> rfl
  · rintro found world ⟨-, rfl⟩
    rfl
  intro found o₁ hphase₁ htally₁
  match found with
  -- no file: nothing to release
  | false => exact partPost_ret hphase₁ htally₁
  | true =>
    refine partPost_bind
      (fun shared => if shared = true then .settled clip .keptForOtherClip else .clear clip)
      (partPost_bind (fun siblings =>
        if sharesFile clip siblings = true then .settled clip .keptForOtherClip else .clear clip)
        (partPost_call htally₁ (by rw [hphase₁]; rfl) (fun _ h => (by cases h))
          (fun _ _ h => (by cases h)) (fun siblings => ?_) ?_) ?_) ?_
    · rw [hphase₁]
      rfl
    · rintro siblings world ⟨-, rfl⟩
      rfl
    · intro siblings o₂ hphase₂ htally₂
      exact partPost_ret hphase₂ htally₂
    intro shared o₂ hphase₂ htally₂
    match shared with
    -- another clip of the event has the same file
    | true => exact partPost_ret hphase₂ htally₂
    | false =>
      refine partPost_bind (fun _ => .settled clip .deleted)
        (partPost_call htally₂ (by rw [hphase₂]; rfl) (fun _ h => (by cases h))
          (fun _ _ h => (by cases h)) (fun _ => ?_) ?_) ?_
      · rw [hphase₂]
        rfl
      · rintro _ world rfl
        rfl
      · intro _ o₃ hphase₃ htally₃
        exact partPost_ret hphase₃ htally₃

/-- The record of the clip is marked, or the purge has thrown. -/
def MarkPost (start : ServiceState) (o : SweepState) (clip : MediaClip)
    (failed purged : List String) : Except ODSException FileOutcome → SweepState → Prop
  | .ok outcome, o' => sweep.phase () o'.history = .marked clip outcome ∧
      Tally start o' failed (purged ++ [clip.clipId]) ∧ Later o o' ∧ Dealt o' clip.clipId
  | .error exception, o' => Fault start clip.clipId failed purged exception o' ∧ Later o o'

theorem releaseAndMark_isolates {clip : MediaClip}
    (hphase : sweep.phase () o.history = .held clip) (htally : Tally start o failed purged)
    (hclip : o.world.clips.lookup clip.clipId = some clip)
    (heligible : clip.isEligibleForPurge = true) :
    (releaseAndMark clip).wp (observe env.serves ()) AnySweepCall
      (MarkPost start o clip failed purged) o := by
  refine wp_bind (wp_mono (releaseFile_isolates hphase htally) fun r o₁ hr => ?_)
  cases r with
  | error exception => exact hr
  | ok outcome =>
    obtain ⟨hphase₁, htally₁, hclips, hlater⟩ := hr
    refine wp_bind (wp_call fun answer world hserves => ?_)
    cases answer with
    | error exception =>
      -- the mark threw: the clip counts as failed, whatever became of its file
      obtain ⟨-, rfl⟩ := hserves
      exact ⟨htally₁.fault (by rw [hphase₁]; rfl) (fun _ h => (by cases h)) exception,
        hlater.trans (Later.of_clips_eq rfl)⟩
    | ok _ =>
      obtain rfl := hserves
      -- the row of the clip is the one that was reread
      rw [← hclips] at hclip
      refine ⟨?_, htally₁.answered (htally₁.progress.mark hclip heligible),
        hlater.trans (Later.snoc (Shrinks.of_mark rfl)), .inr fun row hrow hid => ?_⟩
      · rw [Protocol.phase_snoc_self, hphase₁]
        rfl
      · rcases KeyedTable.mem_upsert.mp hrow with rfl | ⟨-, hne⟩
        · rfl
        · exact absurd hid hne

/-- The purge of a clip: everything is counted, or an exception was not contained. -/
def PurgePost (start : ServiceState) (o : SweepState) (clipId : String) :
    Except ODSException PurgeReport → SweepState → Prop
  | .ok report, o' => Counted start o' report ∧ Later o o' ∧ Dealt o' clipId
  | .error _, o' => ¬ Contained o'.history

/-- A line that cannot be written makes the clip one of the failures, although it is purged. -/
theorem recordInLog_isolates {clip : MediaClip} {outcome : FileOutcome}
    (hphase : sweep.phase () o.history = .marked clip outcome) {report : PurgeReport}
    (htally : Tally start o (report.failures.map PurgeFailure.clipId)
      (report.purged.map PurgeLogEntry.clipId)) {entry : PurgeLogEntry}
    (hentry : entry.clipId = clip.clipId) (hdealt : Dealt o clip.clipId) :
    (recordInLog entry report).wp (observe env.serves ()) AnySweepCall
      (PurgePost start o clip.clipId) o := by
  refine wp_catchApplication (wp_bind (wp_call fun answer world hserves => ?_))
  match answer with
  -- the entry is written
  | .ok _ =>
    obtain rfl := hserves
    refine ⟨⟨?_, htally.answered (htally.progress.of_clips_eq rfl)⟩, Later.of_clips_eq rfl,
      hdealt.later (Later.of_clips_eq rfl)⟩
    rw [Protocol.phase_snoc_self, hphase]
    rfl
  | .error exception =>
    obtain ⟨-, rfl⟩ := hserves
    have hfault : Fault start clip.clipId _ _ exception
        (o.snoc () (.recordPurge entry) (.error exception) o.world) :=
      htally.fault (by rw [hphase]; rfl) (fun _ h => (by cases h)) exception
    match exception with
    -- the clip is marked all the same, and counted as failed
    | .application error =>
      obtain ⟨hidle, htally₁⟩ := hfault
      refine ⟨⟨hidle, ?_⟩, Later.of_clips_eq rfl, hdealt.later (Later.of_clips_eq rfl)⟩
      rw [List.map_append, List.map_singleton]
      rw [← hentry] at htally₁
      exact htally₁
    | .domain error => exact hfault
    | .mediaMux message => exact hfault

theorem purgeCurrent_isolates {clip : MediaClip}
    (hphase : sweep.phase () o.history = .held clip) {report : PurgeReport}
    (htally : Tally start o (report.failures.map PurgeFailure.clipId)
      (report.purged.map PurgeLogEntry.clipId))
    (hclip : o.world.clips.lookup clip.clipId = some clip)
    (heligible : clip.isEligibleForPurge = true) (sizeBytes : Nat) (reason : PurgeReason)
    (context : RetentionContext) :
    (purgeCurrent clip sizeBytes reason context report).wp (observe env.serves ()) AnySweepCall
      (PurgePost start o clip.clipId) o := by
  refine wp_bind (wp_attempt (wp_mono (releaseAndMark_isolates hphase htally hclip heligible)
    fun r o₁ hr => ?_))
  match r with
  | .ok outcome =>
    obtain ⟨hphase₁, htally₁, hlater, hdealt⟩ := hr
    -- the entry is in the report before it is in the log
    have hcount : ∀ entry : PurgeLogEntry, entry.clipId = clip.clipId →
        Tally start o₁ (report.failures.map PurgeFailure.clipId)
          ((report.purged ++ [entry]).map PurgeLogEntry.clipId) := by
      intro entry hentry
      rw [List.map_append, List.map_singleton, hentry]
      exact htally₁
    refine wp_mono (recordInLog_isolates hphase₁ (hcount _ rfl) rfl hdealt) fun r o₂ hr => ?_
    cases r with
    | error exception => exact hr
    | ok report' => exact ⟨hr.1, hlater.trans hr.2.1, hr.2.2⟩
  | .error (.application error) =>
    -- caught: one more line of failures
    obtain ⟨⟨hidle, htally₁⟩, hlater⟩ := hr
    refine ⟨⟨hidle, ?_⟩, hlater, .inl ((htally₁.failures _).mp ?_)⟩
    · rw [List.map_append]
      exact htally₁
    · exact List.mem_append_right _ List.mem_cons_self
  | .error (.domain error) => exact hr.1
  | .error (.mediaMux message) => exact hr.1

theorem purge_isolates {report : PurgeReport}
    (hcounted : Counted start o report) (candidate : PurgeCandidate) (reason : PurgeReason)
    (context : RetentionContext) :
    (purge candidate reason context report).wp (observe env.serves ()) AnySweepCall
      (PurgePost start o candidate.clip.clipId) o := by
  refine wp_bind (wp_call fun answer world hserves => ?_)
  cases answer with
  | error exception =>
    -- the re-read stands before the `try` block
    intro hcontained
    exact ((contained_snoc.mp hcontained).2 _ rfl).1 _ rfl
  | ok found =>
    obtain ⟨hfound, rfl⟩ := hserves
    have htally : Tally start
        (o.snoc () (.findById candidate.clip.clipId) (.ok found) o.world)
        (report.failures.map PurgeFailure.clipId) (report.purged.map PurgeLogEntry.clipId) :=
      hcounted.tally.answered hcounted.tally.progress
    have hphase : sweep.phase () (o.snoc () (.findById candidate.clip.clipId) (.ok found)
        o.world).history = SweepPhase.idle.next (.findById candidate.clip.clipId) (.ok found) := by
      rw [Protocol.phase_snoc_self, hcounted.idle]
      rfl
    match found with
    | none =>
      refine ⟨⟨hphase, htally⟩, Later.of_clips_eq rfl, .inr fun row hrow hid => ?_⟩
      have hlookup : o.world.clips.lookup candidate.clip.clipId = some row :=
        KeyedTable.lookup_eq_some.mpr ⟨hrow, hid⟩
      rw [hlookup] at hfound
      cases hfound
    | some clip =>
      obtain ⟨hclip, hid⟩ := KeyedTable.lookup_eq_some.mp hfound.symm
      have hnext : SweepPhase.idle.next (.findById candidate.clip.clipId) (.ok (some clip))
          = if clip.isEligibleForPurge then .held clip else .idle := rfl
      rw [hnext] at hphase
      show (if clip.isEligibleForPurge then _ else _ : Service PurgeReport).wp _ _ _ _
      split
      · next heligible =>
        rw [if_pos heligible] at hphase
        refine wp_mono (purgeCurrent_isolates hphase htally
          (KeyedTable.lookup_eq_some.mpr ⟨hclip, rfl⟩) heligible _ reason context) ?_
        intro r o₁ hr
        cases r with
        | error exception => exact hr
        | ok report' =>
          rw [← hid]
          exact ⟨hr.1, (Later.of_clips_eq rfl).trans hr.2.1, hr.2.2⟩
      · next hineligible =>
        rw [if_neg hineligible] at hphase
        refine ⟨⟨hphase, htally⟩, Later.of_clips_eq rfl, .inr fun row hrow hrowId => ?_⟩
        rw [o.world.clips.eq_of_key hrow hclip (hrowId.trans hid.symm)]
        exact Bool.not_eq_true _ ▸ hineligible

/-- What the loop over a selection leaves behind. -/
def LoopPost (start : ServiceState) (o : SweepState) (selected : List PurgeCandidate) :
    Except ODSException PurgeReport → SweepState → Prop
  | .ok report, o' => Counted start o' report ∧ Later o o' ∧
      ∀ candidate ∈ selected, Dealt o' candidate.clip.clipId
  | .error _, o' => ¬ Contained o'.history

theorem purgeAll_isolates (reason : PurgeReason)
    (context : RetentionContext) (selected remaining : List PurgeCandidate)
    {report : PurgeReport} (hcounted : Counted start o report) :
    (purgeAll reason context selected remaining report).wp (observe env.serves ()) AnySweepCall
      (fun r => LoopPost start o selected (r.map Prod.snd)) o := by
  induction selected generalizing remaining report o with
  | nil => exact ⟨hcounted, Later.refl o, fun _ h => (by cases h)⟩
  | cons candidate selected ih =>
    refine wp_bind (wp_mono (purge_isolates hcounted candidate reason context)
      fun r o₁ hr => ?_)
    cases r with
    | error exception => exact hr
    | ok report₁ =>
      obtain ⟨hcounted₁, hlater, hdealt⟩ := hr
      refine wp_mono (ih _ hcounted₁) fun r o₂ hr => ?_
      cases r with
      | error exception => exact hr
      | ok result =>
        obtain ⟨hcounted₂, hlater₂, hdealt₂⟩ := hr
        refine ⟨hcounted₂, hlater.trans hlater₂, fun other hother => ?_⟩
        rcases List.mem_cons.mp hother with rfl | hother
        · exact hdealt.later hlater₂
        · exact hdealt₂ other hother

/-- A part of the sweep that belongs to no clip: it returns, and nothing is to be counted. -/
def QuietPost {α : Type} (start : ServiceState) (o : SweepState) (failed purged : List String) :
    Except ODSException α → SweepState → Prop :=
  fun r o' => (∃ a, r = .ok a) ∧ Between start o' failed purged ∧ Later o o'

theorem quietPost_call (honly : OnlyClipsFail env)
    (hcounted : Between start o failed purged) {op : PortCall} (hsweep : ¬ op.ForOneClip)
    (hsize : ∀ path, op ≠ .fileSize path)
    (hidle : ∀ answer, SweepPhase.idle.next op (.ok answer) = .idle)
    (hclips : ∀ answer world, env.answers op answer o.world world →
      world.clips = o.world.clips) :
    (perform op : Service op.Answer).wp (observe env.serves ()) AnySweepCall
      (QuietPost start o failed purged) o := by
  refine wp_sure_call honly hsweep hsize fun answer world hanswer => ?_
  have hsame := hclips answer world hanswer
  refine ⟨⟨answer, rfl⟩, ⟨?_, hcounted.tally.answered (hcounted.tally.progress.of_clips_eq hsame)⟩,
    Later.of_clips_eq hsame⟩
  rw [Protocol.phase_snoc_self, hcounted.idle]
  exact hidle answer

/-- A size that cannot be read is no failure of a clip. -/
theorem fileSize_isolates (honly : OnlyClipsFail env)
    (hcounted : Between start o failed purged) (path : String) :
    (Port.fileSize path).wp (observe env.serves ()) AnySweepCall (fun r o' =>
      ((∃ size, r = .ok size) ∨ ∃ error, r = .error (.application error)) ∧
        Between start o' failed purged ∧ Later o o') o := by
  refine wp_call fun answer world hserves => ?_
  have hidle : sweep.phase () (o.snoc () (.fileSize path) answer world).history = .idle := by
    rw [Protocol.phase_snoc_self, hcounted.idle]
    cases answer <;> rfl
  cases answer with
  | ok size =>
    obtain ⟨-, rfl⟩ := hserves
    exact ⟨.inl ⟨size, rfl⟩, ⟨hidle, hcounted.tally.answered hcounted.tally.progress⟩,
      Later.of_clips_eq rfl⟩
  | error exception =>
    obtain ⟨hrefused, rfl⟩ := hserves
    have happlication : ∃ error, exception = .application error := by
      rcases hrefused with hfails | ⟨-, rfl⟩
      · exact ((honly _ _ hfails).resolve_left fun hone => hone).2
      · exact ⟨_, rfl⟩
    obtain ⟨error, rfl⟩ := happlication
    refine ⟨.inr ⟨error, rfl⟩, ⟨hidle, ?_⟩, Later.of_clips_eq rfl⟩
    -- nothing is in hand while the candidates are measured
    rw [← List.append_nil failed]
    refine hcounted.tally.thrown (fun _ h => (by cases h)) (fun clipId => ?_) rfl
    rw [hcounted.idle]
    constructor
    · intro h
      cases h
    · rintro ⟨clip, hclip, -⟩
      cases hclip

theorem measuredSize_isolates (honly : OnlyClipsFail env)
    (hcounted : Between start o failed purged) (path : String) :
    (measuredSize path).wp (observe env.serves ()) AnySweepCall
      (QuietPost start o failed purged) o := by
  refine wp_catchApplication (wp_bind (wp_mono (quietPost_call honly hcounted (by exact id)
    (fun _ h => (by cases h)) (fun _ => rfl) ?_) ?_))
  · rintro found world ⟨-, rfl⟩
    rfl
  · rintro r o₁ ⟨⟨found, rfl⟩, hcounted₁, hlater⟩
    match found with
    | false => exact ⟨⟨_, rfl⟩, hcounted₁, hlater⟩
    | true =>
      refine wp_mono (fileSize_isolates honly hcounted₁ path) ?_
      rintro r o₂ ⟨⟨size, rfl⟩ | ⟨error, rfl⟩, hcounted₂, hlater₂⟩
      · exact ⟨⟨size, rfl⟩, hcounted₂, hlater.trans hlater₂⟩
      · -- the handler answers for it
        exact ⟨⟨0, rfl⟩, hcounted₂, hlater.trans hlater₂⟩

theorem measureAll_isolates (honly : OnlyClipsFail env) (clips : List MediaClip)
    (hcounted : Between start o failed purged) :
    (measureAll clips).wp (observe env.serves ()) AnySweepCall
      (QuietPost start o failed purged) o := by
  induction clips generalizing o with
  | nil => exact ⟨⟨_, rfl⟩, hcounted, Later.refl o⟩
  | cons clip clips ih =>
    refine wp_bind (wp_mono (measuredSize_isolates honly hcounted clip.filePath) ?_)
    rintro r o₁ ⟨⟨size, rfl⟩, hcounted₁, hlater⟩
    refine wp_bind (wp_mono (ih hcounted₁) ?_)
    rintro r o₂ ⟨⟨candidates, rfl⟩, hcounted₂, hlater₂⟩
    exact ⟨⟨_, rfl⟩, hcounted₂, hlater.trans hlater₂⟩

theorem loadCandidates_isolates (honly : OnlyClipsFail env)
    (hcounted : Between start o failed purged) :
    loadCandidates.wp (observe env.serves ()) AnySweepCall
      (QuietPost start o failed purged) o := by
  refine wp_bind (wp_mono (quietPost_call honly hcounted (by exact id)
    (fun _ h => (by cases h)) (fun _ => rfl) ?_) ?_)
  · rintro listed world ⟨-, -, rfl⟩
    rfl
  · rintro r o₁ ⟨⟨listed, rfl⟩, hcounted₁, hlater⟩
    refine wp_mono (measureAll_isolates honly listed hcounted₁) ?_
    rintro r o₂ ⟨hok, hcounted₂, hlater₂⟩
    exact ⟨hok, hcounted₂, hlater.trans hlater₂⟩

theorem currentUsage_isolates (honly : OnlyClipsFail env)
    (hcounted : Between start o failed purged) :
    (Port.currentUsage).wp (observe env.serves ()) AnySweepCall
      (QuietPost start o failed purged) o := by
  unfold Port.currentUsage
  refine quietPost_call honly hcounted (by exact id) (fun _ h => (by cases h)) (fun _ => rfl) ?_
  rintro usage world ⟨-, rfl⟩
  rfl

theorem now_isolates (honly : OnlyClipsFail env) (hcounted : Between start o failed purged) :
    (Port.now).wp (observe env.serves ()) AnySweepCall (QuietPost start o failed purged) o := by
  unfold Port.now
  refine quietPost_call honly hcounted (by exact id) (fun _ h => (by cases h)) (fun _ => rfl) ?_
  rintro now world ⟨-, rfl⟩
  rfl

end Specs

/-! ### The sweep -/

/-- Whatever it is shown, the strategy selects these clips. -/
def Picks (strategy : RetentionStrategy) (pick : List PurgeCandidate) : Prop :=
  ∀ candidates context, strategy.selectClipsToPurge candidates context = .ok pick

section Sweep

variable {env : Environment} {start : ServiceState} {strategies : List RetentionStrategy}
  {picks : List (List PurgeCandidate)}

/-- What the sweep over all selections leaves behind. -/
def SweepPost (start : ServiceState) (o : SweepState) (picks : List (List PurgeCandidate)) :
    Except ODSException PurgeReport → SweepState → Prop
  | .ok report, o' => Counted start o' report ∧ Later o o' ∧
      ∀ pick ∈ picks, ∀ candidate ∈ pick, Dealt o' candidate.clip.clipId
  | .error _, o' => ¬ Contained o'.history

theorem applyStrategies_isolates (honly : OnlyClipsFail env)
    (hpicks : List.Forall₂ Picks strategies picks) (remaining : List PurgeCandidate)
    {o : SweepState} {report : PurgeReport} (hcounted : Counted start o report) :
    (applyStrategies strategies remaining report).wp (observe env.serves ()) AnySweepCall
      (SweepPost start o picks) o := by
  induction hpicks generalizing remaining o report with
  | nil => exact ⟨hcounted, Later.refl o, fun _ h => (by cases h)⟩
  | @cons strategy pick strategies picks hpick hpicks ih =>
    refine wp_bind (wp_bind (wp_mono (now_isolates honly hcounted) ?_))
    rintro r o₁ ⟨⟨now, rfl⟩, hcounted₁, hlater₁⟩
    refine wp_bind (wp_mono (currentUsage_isolates honly hcounted₁) ?_)
    rintro r o₂ ⟨⟨usage, rfl⟩, hcounted₂, hlater₂⟩
    refine wp_bind (wp_ofExcept ?_)
    rw [hpick]
    -- this strategy, and then the others on what it leaves
    refine wp_mono (purgeAll_isolates _ _ pick remaining hcounted₂) fun r o₃ hr => ?_
    cases r with
    | error exception => exact hr
    | ok result =>
      obtain ⟨hcounted₃, hlater₃, hdealt⟩ := hr
      refine wp_mono (ih result.1 hcounted₃) fun r o₄ hr => ?_
      cases r with
      | error exception => exact hr
      | ok report₄ =>
        obtain ⟨hcounted₄, hlater₄, hdealt₄⟩ := hr
        refine ⟨hcounted₄, hlater₁.trans (hlater₂.trans (hlater₃.trans hlater₄)), ?_⟩
        intro other hother candidate hcandidate
        -- dealt with here or by a later strategy, and nothing is undone
        rcases List.mem_cons.mp hother with rfl | hother
        · exact (hdealt candidate hcandidate).later hlater₄
        · exact hdealt₄ other hother candidate hcandidate

theorem execute_isolates (honly : OnlyClipsFail env) (hpicks : List.Forall₂ Picks strategies picks)
    (s : ServiceState) :
    (execute strategies).wp (observe env.serves ()) AnySweepCall
      (SweepPost s (Observed.start s) picks) (Observed.start s) := by
  -- nothing has failed and nothing has been purged at first
  have hstart : Between s (Observed.start s) [] [] := by
    refine ⟨rfl, fun _ he => absurd he List.not_mem_nil, fun clipId => ?_, fun _ => .inl rfl⟩
    constructor
    · intro h
      cases h
    · rintro ⟨before, e, after, hsplit, -⟩
      exact absurd hsplit.symm (List.append_ne_nil_of_right_ne_nil _ (List.cons_ne_nil _ _))
  -- one call after the other, each of which keeps the count
  refine wp_bind (wp_mono (currentUsage_isolates honly hstart) ?_)
  rintro r o₁ ⟨⟨usageBefore, rfl⟩, hcounted₁, hlater₁⟩
  refine wp_bind (wp_mono (now_isolates honly hcounted₁) ?_)
  rintro r o₂ ⟨⟨startedAt, rfl⟩, hcounted₂, hlater₂⟩
  refine wp_bind (wp_mono (loadCandidates_isolates honly hcounted₂) ?_)
  rintro r o₃ ⟨⟨remaining, rfl⟩, hcounted₃, hlater₃⟩
  refine wp_bind (wp_mono (applyStrategies_isolates honly hpicks remaining hcounted₃)
    fun r o₄ hr => ?_)
  cases r with
  | error exception => exact hr
  | ok report =>
    obtain ⟨hcounted₄, hlater₄, hdealt⟩ := hr
    refine wp_bind (wp_mono (currentUsage_isolates honly hcounted₄) ?_)
    rintro r o₅ ⟨⟨usageAfter, rfl⟩, hcounted₅, hlater₅⟩
    exact ⟨hcounted₅, hlater₁.trans (hlater₂.trans (hlater₃.trans (hlater₄.trans hlater₅))),
      fun pick hpick candidate hcandidate => (hdealt pick hpick candidate hcandidate).later hlater₅⟩

/-- The sweep has kept the failures apart: it returns, it has purged every selected clip that was
eligible and did not fail, and its failures are the clips that did. -/
def Isolates (picks : List (List PurgeCandidate)) (s : ServiceState)
    (result : Except ODSException PurgeReport) (o' : SweepState) : Prop :=
  ∃ report, result = .ok report ∧
    (∀ pick ∈ picks, ∀ candidate ∈ pick, ∀ clip ∈ s.clips.rows,
      clip.clipId = candidate.clip.clipId → clip.isEligibleForPurge = true →
      ¬ FailedClip o'.history clip.clipId →
        o'.world.clips.lookup clip.clipId = some clip.markAsPurged ∧
          clip.clipId ∈ report.purged.map PurgeLogEntry.clipId) ∧
    ∀ clipId, clipId ∈ report.failures.map PurgeFailure.clipId ↔ FailedClip o'.history clipId

/-- **Failure isolation.** Whatever is selected and whichever calls for single clips throw: the
sweep keeps the failures apart if and only if no re-read throws and every exception thrown is an
`ApplicationError`. -/
theorem execute_isolates_iff (honly : OnlyClipsFail env)
    (hpicks : List.Forall₂ Picks strategies picks) {s : ServiceState}
    {result : Except ODSException PurgeReport} {o' : SweepState}
    (hruns : Runs (observe env.serves ()) (execute strategies) (Observed.start s) result o') :
    Isolates picks s result o' ↔ Contained o'.history := by
  obtain ⟨p', hsteps, hout⟩ := hruns
  have hpost := wp_outcome (hsteps.wp (execute_isolates honly hpicks s)) hout
  cases result with
  | error exception =>
    refine ⟨?_, fun hcontained => absurd hcontained hpost⟩
    rintro ⟨report, hok, -⟩
    cases hok
  | ok report =>
    obtain ⟨hcounted, -, hdealt⟩ := hpost
    refine ⟨fun _ => hcounted.tally.contained, fun _ => ⟨report, rfl, ?_, hcounted.tally.failures⟩⟩
    intro pick hpick candidate hcandidate clip hclip hid heligible hnot
    have hlookup : s.clips.lookup clip.clipId = some clip :=
      KeyedTable.lookup_eq_some.mpr ⟨hclip, rfl⟩
    have hgone := (hdealt pick hpick candidate hcandidate).resolve_left (hid ▸ hnot)
    rcases hcounted.tally.progress clip.clipId with hsame | ⟨marked, hmarked, hfinal, hmem⟩
    · -- an unchanged record would still be eligible
      rw [hlookup] at hsame
      rw [hgone clip (KeyedTable.lookup_eq_some.mp hsame).1 hid] at heligible
      cases heligible
    · rw [hlookup] at hmarked
      obtain rfl := Option.some.inj hmarked
      exact ⟨hfinal, hmem⟩

end Sweep

/-- The strategy selects something, whatever it is shown. -/
def Decides (strategy : RetentionStrategy) : Prop :=
  ∀ candidates context, ∃ pick, strategy.selectClipsToPurge candidates context = .ok pick

/-- The strategy, with its selection fixed. -/
def fixed (strategy : RetentionStrategy) (pick : List PurgeCandidate) : RetentionStrategy :=
  { strategy with selectClipsToPurge := fun _ _ => .ok pick }

theorem picks_fixed {strategies : List RetentionStrategy} {picks : List (List PurgeCandidate)}
    (hlength : strategies.length = picks.length) :
    List.Forall₂ Picks (List.zipWith fixed strategies picks) picks := by
  induction strategies generalizing picks with
  | nil =>
    cases picks with
    | nil => exact .nil
    | cons pick picks => cases hlength
  | cons strategy strategies ih =>
    cases picks with
    | nil => cases hlength
    | cons pick picks => exact .cons (fun _ _ => rfl) (ih (Nat.succ.inj hlength))

section Replay

variable {H : Handler PortCall.Answer ODSException SweepState}

theorem applyStrategy_replays {strategy : RetentionStrategy} (hdecides : Decides strategy)
    (remaining : List PurgeCandidate) (report : PurgeReport) (o : SweepState) :
    (applyStrategy strategy remaining report).wp H AnySweepCall (fun r o' =>
      ∃ pick, Runs H (applyStrategy (fixed strategy pick) remaining report) o r o') o := by
  refine wp_bind_runs Port.now o fun now o₁ => wp_bind_runs Port.currentUsage o₁ fun usage o₂ => ?_
  obtain ⟨pick, hpick⟩ := hdecides remaining ⟨now, usage⟩
  refine wp_bind (wp_ofExcept ?_)
  rw [hpick]
  exact wp_mono (wp_runs _ o₂) fun r o₃ hruns => ⟨pick, hruns⟩

/-- One selection for each strategy. -/
abbrev Selections (strategies : List RetentionStrategy) : Type :=
  {picks : List (List PurgeCandidate) // strategies.length = picks.length}

instance (strategies : List RetentionStrategy) : Inhabited (Selections strategies) :=
  ⟨⟨List.replicate strategies.length [], (List.length_replicate).symm⟩⟩

theorem applyStrategies_replays {strategies : List RetentionStrategy}
    (hdecides : ∀ strategy ∈ strategies, Decides strategy) (remaining : List PurgeCandidate)
    (report : PurgeReport) (o : SweepState) :
    (applyStrategies strategies remaining report).wp H AnySweepCall (fun r o' =>
      ∃ picks : Selections strategies,
        Runs H (applyStrategies (List.zipWith fixed strategies picks) remaining report) o r o')
      o := by
  induction strategies generalizing remaining report o with
  | nil => exact ⟨⟨[], rfl⟩, _, .refl, rfl⟩
  | cons strategy strategies ih =>
    obtain ⟨hfirst, hrest⟩ := List.forall_mem_cons.mp hdecides
    refine wp_bind (wp_mono (applyStrategy_replays hfirst remaining report o) fun r o₁ hr => ?_)
    obtain ⟨pick, hruns⟩ := hr
    cases r with
    | error exception =>
      -- the strategies that were not reached may select anything
      obtain ⟨picks, hlength⟩ := (default : Selections strategies)
      exact ⟨⟨pick :: picks, congrArg Nat.succ hlength⟩, hruns.bind_error _⟩
    | ok result =>
      refine wp_mono (ih hrest result.1 result.2 o₁) ?_
      rintro r o₂ ⟨⟨picks, hlength⟩, hruns'⟩
      exact ⟨⟨pick :: picks, congrArg Nat.succ hlength⟩, hruns.bind hruns'⟩

/-- A run of strategies that decide is one of strategies whose selections are fixed. -/
theorem runs_of_picks {strategies : List RetentionStrategy}
    (hdecides : ∀ strategy ∈ strategies, Decides strategy) {o o' : SweepState}
    {result : Except ODSException PurgeReport} (hruns : Runs H (execute strategies) o result o') :
    ∃ picks : Selections strategies,
      List.Forall₂ Picks (List.zipWith fixed strategies picks) picks ∧
        Runs H (execute (List.zipWith fixed strategies picks)) o result o' := by
  have hreplays : (execute strategies).wp H AnySweepCall (fun r o' =>
      ∃ picks : Selections strategies,
        Runs H (execute (List.zipWith fixed strategies picks)) o r o') o := by
    refine wp_bind_runs Port.currentUsage o fun usageBefore o₁ => ?_
    refine wp_bind_runs Port.now o₁ fun startedAt o₂ => ?_
    refine wp_bind_runs loadCandidates o₂ fun remaining o₃ => ?_
    refine wp_bind (wp_mono (applyStrategies_replays hdecides remaining _ o₃) ?_)
    rintro r o₄ ⟨picks, happlied⟩
    cases r with
    | error exception => exact ⟨picks, happlied.bind_error _⟩
    | ok report => exact wp_mono (wp_runs _ o₄) fun r o₅ hruns => ⟨picks, happlied.bind hruns⟩
  obtain ⟨p', hsteps, hout⟩ := hruns
  obtain ⟨picks, hreplayed⟩ := wp_outcome (hsteps.wp hreplays) hout
  exact ⟨picks, picks_fixed picks.2, hreplayed⟩

end Replay

/-! ### A clip that cannot be read again -/

/-- A sweep on the bench over one given selection, with faults. -/
def faultyPurge (faults : Faults) (pick : List PurgeCandidate) (s : ServiceState) :
    Except ODSException PurgeReport × SweepState :=
  (execute [fixed (LgpdRetentionStrategy .default) pick]).run
    (observeServer (faults.serve Simulation.bench) ()) (Observed.start s)

theorem faultyPurge_runs (faults : Faults) (pick : List PurgeCandidate) (s : ServiceState) :
    Runs (observe (faults.environment Simulation.bench).serves ())
      (execute [fixed (LgpdRetentionStrategy .default) pick]) (Observed.start s)
      (faultyPurge faults pick s).1 (faultyPurge faults pick s).2 :=
  run_runs (observeServer_observe (faults.serve_serves Simulation.bench) ()) _ _

def expiredClip (clipId filePath : String) : MediaClip where
  clipId := clipId
  eventId := clipId
  filePath := filePath
  sha256Hash := ""
  timeWindow := ⟨0, 1, Int.zero_lt_one⟩
  createdAt := 0

/-- Two clips past their deadline, each with its file. -/
def twoExpired : ServiceState where
  clips := ⟨[expiredClip "clip-a" "/nvme/a.mp4", expiredClip "clip-b" "/nvme/b.mp4"], by decide⟩
  files path := if path = "/nvme/a.mp4" ∨ path = "/nvme/b.mp4" then some [1, 2, 3] else none
  purgeLog := []

def bothSelected : List PurgeCandidate :=
  twoExpired.clips.rows.map fun clip => ⟨clip, 3⟩

/-- The file of the first clip cannot be removed. -/
def firstFileStays : Faults where
  throws
    | .removeFile path =>
      if path = "/nvme/a.mp4" then
        some (FileStorage.fileOperationError ("cannot remove file: " ++ path))
      else none
    | _ => none
  hides _ := false

theorem execute_isolates_iff_removeFails :
    Isolates [bothSelected] twoExpired (faultyPurge firstFileStays bothSelected twoExpired).1
      (faultyPurge firstFileStays bothSelected twoExpired).2 ↔
    Contained (faultyPurge firstFileStays bothSelected twoExpired).2.history := by
  have honly : OnlyClipsFail (firstFileStays.environment Simulation.bench) := by
    intro op exception hfails
    cases op with
    | removeFile path => exact .inl trivial
    | _ => cases hfails
  exact execute_isolates_iff honly (.cons (fun _ _ => rfl) .nil) (faultyPurge_runs _ _ _)

/-- The first clip cannot be read again. -/
def firstRereadFails : Faults where
  throws
    | .findById clipId =>
      if clipId = "clip-a" then some (.application ⟨.sqliteStorage, "database is locked"⟩) else none
    | _ => none
  hides _ := false

/-- The exception of the re-read ends the sweep before the second clip. -/
theorem failed_reread_ends_sweep :
    ¬ ∀ (env : Environment) (strategies : List RetentionStrategy)
      (picks : List (List PurgeCandidate)) (s : ServiceState)
      (result : Except ODSException PurgeReport) (o' : SweepState),
      OnlyClipsFail env → List.Forall₂ Picks strategies picks →
        Runs (observe env.serves ()) (execute strategies) (Observed.start s) result o' →
          Isolates picks s result o' := by
  intro h
  have honly : OnlyClipsFail (firstRereadFails.environment Simulation.bench) := by
    intro op exception hfails
    cases op with
    | findById clipId => exact .inl trivial
    | _ => cases hfails
  obtain ⟨report, hok, -⟩ := h _ _ [bothSelected] _ _ _ honly (.cons (fun _ _ => rfl) .nil)
    (faultyPurge_runs firstRereadFails bothSelected twoExpired)
  have herror : (faultyPurge firstRereadFails bothSelected twoExpired).1.isOk = false := by
    decide +kernel
  rw [hok] at herror
  cases herror

end PurgeMedia

end Ods.S4
