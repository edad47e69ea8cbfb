import Mathlib.Data.List.DropRight
import OdsMod2.Framework.Admission
import OdsMod2.Framework.TwosComplement
import OdsMod2.S4.RingBuffer.Tape

/-!
# What the buffer takes of a stream

`GStreamerAppsinkFrameSource` stamps each buffer of its sink with the decoding time, or with the
presentation time if it has no other, on top of the base time of the pipeline. The ring buffer compares
a stamp with that of the newest frame it holds. What comes of this can be told from the stream alone:
of the frames that fit in the arena it takes those that are not behind any of the frames that have come
since the session began (`Admits`), and it does not matter which of them were turned down or have been
evicted since.

A stream whose frames are presented in another order than they are decoded in loses what is behind when
it is stamped with presentation times. Nothing is lost exactly if the stamps do not go back
(`appsink_admitted`).
-/

namespace Ods.S4

open RingBuffer MediaBuffer Admission TwosComplement

/-! ### The sink -/

/-- `GST_CLOCK_TIME_NONE`. -/
def clockTimeNone : ℕ := 18446744073709551615

/-- What `on_new_sample` finds when it pulls a sample. -/
structure SinkBuffer where
  /-- The base time of the pipeline at that moment. -/
  baseTime : ℕ
  dts : ℕ
  pts : ℕ
  isDeltaUnit : Bool
  /-- Nothing if the buffer cannot be mapped. -/
  mapped : Option (List UInt8)

inductive FlowReturn where
  | ok
  | error
  deriving DecidableEq, Repr

def captureTimestamp (buffer : SinkBuffer) : Option Nanoseconds :=
  let bufferTime := if buffer.dts ≠ clockTimeNone then buffer.dts else buffer.pts
  if bufferTime = clockTimeNone then none
  else some (wrap (wrap buffer.baseTime + wrap bufferTime))

/-- `on_new_sample`, with the frame that is handed to the callback. -/
def onNewSample (sessionId : String) : Option SinkBuffer → FlowReturn × Option CapturedFrame
  | none => (.error, none)
  | some buffer =>
    match captureTimestamp buffer with
    -- there is no place on the timeline for it
    | none => (.ok, none)
    | some captureTsNs =>
      match buffer.mapped with
      | none => (.error, none)
      | some data => (.ok, some {
          captureTsNs := captureTsNs
          data := data
          isKeyframe := !buffer.isDeltaUnit
          sessionId := sessionId })

/-- The frames of a source, from `start` to `stop`. -/
def delivered (sessionId : String) (samples : List (Option SinkBuffer)) : List CapturedFrame :=
  samples.filterMap fun sample => (onNewSample sessionId sample).2

theorem sessionId_of_delivered {sessionId : String} {samples : List (Option SinkBuffer)} :
    ∀ frame ∈ delivered sessionId samples, frame.sessionId = sessionId := by
  intro frame hframe
  obtain ⟨sample, -, hdelivered⟩ := List.mem_filterMap.mp hframe
  unfold onNewSample at hdelivered
  split at hdelivered
  · cases hdelivered
  · split at hdelivered
    · cases hdelivered
    · split at hdelivered
      · cases hdelivered
      · obtain rfl := Option.some.inj hdelivered
        rfl

/-! ### The rule -/

/-- What has come of the session that goes on, whether it was taken or not. -/
def sessionSoFar (limit : Nat) (before : List CapturedFrame) (sid : String) : List CapturedFrame :=
  (fitting limit before).rtakeWhile fun frame => decide (frame.sessionId = sid)

/-- The frame is not behind any that has come since its session began. -/
def Admits (limit : Nat) (before : List CapturedFrame) (frame : CapturedFrame) : Prop :=
  frame.FitsIn limit ∧
    NotBehind CapturedFrame.captureTsNs (sessionSoFar limit before frame.sessionId) frame

instance (limit : Nat) (before : List CapturedFrame) (frame : CapturedFrame) :
    Decidable (Admits limit before frame) :=
  inferInstanceAs (Decidable (_ ∧ _))

section Rule

variable {limit : Nat} {frames : List CapturedFrame} {frame : CapturedFrame} {sid : String}

theorem sessionSoFar_concat (limit : Nat) (frames : List CapturedFrame) (frame : CapturedFrame)
    (sid : String) :
    sessionSoFar limit (frames ++ [frame]) sid =
      if frame.FitsIn limit then
        if frame.sessionId = sid then sessionSoFar limit frames sid ++ [frame] else []
      else sessionSoFar limit frames sid := by
  have hconcat : fitting limit (frames ++ [frame]) =
      fitting limit frames ++ if frame.FitsIn limit then [frame] else [] := by
    simp [fitting, List.filter_append, List.filter_singleton]
  rw [sessionSoFar, hconcat]
  by_cases hfits : frame.FitsIn limit
  · rw [if_pos hfits, if_pos hfits, List.rtakeWhile_concat]
    by_cases hsame : frame.sessionId = sid
    · rw [if_pos hsame, if_pos (decide_eq_true hsame)]
      rfl
    · rw [if_neg hsame, if_neg (by simpa using hsame)]
  · rw [if_neg hfits, if_neg hfits, List.append_nil]
    rfl

theorem refuses_iff_of_fitsIn {tape : Tape} (hfits : frame.FitsIn limit) :
    Tape.Refuses limit tape frame ↔
      ∃ newest ∈ (tape.openedFor frame.sessionId).getLast?, frame.captureTsNs < newest.captureTsNs := by
  constructor
  · rintro (hzero | hlarge | hback)
    · exact absurd hfits.1 (by rw [hzero]; exact Nat.lt_irrefl 0)
    · exact absurd hfits.2 (Nat.not_le.mpr hlarge)
    · exact hback
  · exact fun hback => .inr (.inr hback)

theorem refuses_of_not_fitsIn {tape : Tape} (hfits : ¬ frame.FitsIn limit) :
    Tape.Refuses limit tape frame := by
  unfold CapturedFrame.FitsIn at hfits
  rcases Nat.eq_zero_or_pos frame.length with hzero | hpos
  · exact .inl hzero
  · exact .inr (.inl (Nat.lt_of_not_le fun hle => hfits ⟨hpos, hle⟩))

/-- With nothing on the tape and nothing in the session, nothing is later. -/
theorem lt_newest_nil_iff (ts : Nanoseconds) :
    (∃ newest ∈ ([] : List ExtractedFrame).getLast?, ts < newest.captureTsNs) ↔
      ∃ earlier ∈ ([] : List CapturedFrame), ts < earlier.captureTsNs := by
  refine iff_of_false ?_ ?_
  · rintro ⟨newest, hnone, -⟩
    cases hnone
  · rintro ⟨earlier, hnone, -⟩
    cases hnone

theorem exists_lt_concat_iff (frames : List CapturedFrame) (frame : CapturedFrame) (ts : Nanoseconds) :
    (∃ earlier ∈ frames ++ [frame], ts < earlier.captureTsNs) ↔
      (∃ earlier ∈ frames, ts < earlier.captureTsNs) ∨ ts < frame.captureTsNs := by
  constructor
  · rintro ⟨earlier, hearlier, hts⟩
    rcases List.mem_append.mp hearlier with hbefore | hlast
    · exact .inl ⟨earlier, hbefore, hts⟩
    · rw [List.mem_singleton.mp hlast] at hts
      exact .inr hts
  · rintro (⟨earlier, hearlier, hts⟩ | hts)
    · exact ⟨earlier, List.mem_append_left _ hearlier, hts⟩
    · exact ⟨frame, List.mem_append_right _ List.mem_cons_self, hts⟩

/-- The newest frame on the tape stands for all that have come in its session. -/
theorem lt_newest_iff (limit : Nat) (frames : List CapturedFrame) (sid : String) (ts : Nanoseconds) :
    (∃ newest ∈ ((tapeAll limit frames).openedFor sid).getLast?, ts < newest.captureTsNs) ↔
      ∃ earlier ∈ sessionSoFar limit frames sid, ts < earlier.captureTsNs := by
  induction frames using List.reverseRecOn generalizing sid ts with
  | nil =>
    -- whatever session the blank tape has
    have hnothing : (tapeAll limit []).openedFor sid = [] := by
      unfold Tape.openedFor
      split <;> rfl
    rw [hnothing]
    exact lt_newest_nil_iff ts
  | append_singleton frames frame ih =>
    rw [sessionSoFar_concat, tapeAll, List.foldl_append]
    show (∃ newest ∈ ((Tape.record limit (tapeAll limit frames) frame).openedFor sid).getLast?, _) ↔ _
    by_cases hfits : frame.FitsIn limit
    · rw [if_pos hfits, Tape.record]
      by_cases hrefuses : Tape.Refuses limit (tapeAll limit frames) frame
      · -- the newest frame is ahead of this one too
        obtain ⟨newest, hnewest, hahead⟩ := (refuses_iff_of_fitsIn hfits).mp hrefuses
        rw [if_pos hrefuses]
        by_cases hsame : frame.sessionId = sid
        · obtain ⟨earlier, hearlier, hlater⟩ := (ih frame.sessionId frame.captureTsNs).mp
            ⟨newest, hnewest, hahead⟩
          rw [hsame] at hearlier
          rw [if_pos hsame, ih, exists_lt_concat_iff, or_iff_left_of_imp]
          intro hts
          exact ⟨earlier, hearlier, hts.trans hlater⟩
        · have hopened : (tapeAll limit frames).sessionId = frame.sessionId := by
            by_contra hother
            rw [Tape.openedFor, if_neg hother] at hnewest
            cases hnewest
          rw [if_neg hsame, Tape.openedFor, if_neg (by rwa [hopened])]
          exact lt_newest_nil_iff ts
      · rw [if_neg hrefuses]
        by_cases hsame : frame.sessionId = sid
        · rw [if_pos hsame, exists_lt_concat_iff, or_iff_right_of_imp, Tape.openedFor, if_pos hsame,
            List.getLast?_concat]
          · constructor
            · rintro ⟨newest, hnewest, hts⟩
              obtain rfl := Option.some.inj hnewest
              exact hts
            · intro hts
              exact ⟨_, rfl, hts⟩
          · rintro ⟨found, hfound, hts⟩
            -- the frame was taken, so nothing before it is ahead of it
            by_contra hle
            refine hrefuses ((refuses_iff_of_fitsIn hfits).mpr ((ih _ _).mpr ⟨found, ?_, ?_⟩))
            · rwa [hsame]
            · exact lt_of_le_of_lt (Int.not_lt.mp hle) hts
        · rw [if_neg hsame, Tape.openedFor, if_neg hsame]
          exact lt_newest_nil_iff ts
    · rw [if_neg hfits, Tape.record, if_pos (refuses_of_not_fitsIn hfits)]
      exact ih sid ts

/-- **The rule of the tape**, told from the stream alone. -/
theorem refuses_iff (limit : Nat) (frames : List CapturedFrame) (frame : CapturedFrame) :
    Tape.Refuses limit (tapeAll limit frames) frame ↔ ¬ Admits limit frames frame := by
  by_cases hfits : frame.FitsIn limit
  · rw [refuses_iff_of_fitsIn hfits, lt_newest_iff, Admits, and_iff_right hfits, NotBehind]
    simp only [not_forall, Int.not_le, exists_prop]
  · exact iff_of_true (refuses_of_not_fitsIn hfits) fun h => hfits h.1

end Rule

section Run

variable {capacity : BufferCapacity} {store : SharedMemoryFrameStore}

/-- The frames that are taken, in order. -/
theorem ingestAll_taken (hcap : store.capacityBytes = capacity.totalBytes)
    (hopen : store.isClosed = false) (frames : List CapturedFrame) :
    (ingestAll capacity store frames).2.map Prod.snd =
      admitted (Admits capacity.totalBytes) frames := by
  induction frames using List.reverseRecOn with
  | nil => rfl
  | append_singleton frames frame ih =>
    obtain ⟨hcapacity, accepted, h⟩ := ingestAll_taped hcap hopen frames
    rw [admitted_concat, ← ih, ingestAll, List.foldl_append]
    show (ingestStep (ingestAll capacity store frames) frame).2.map Prod.snd = _
    unfold ingestStep
    split
    · next allocation media hingest =>
      have hadmits := (h.ingested hingest).1
      rw [hcapacity, refuses_iff, not_not] at hadmits
      rw [if_pos hadmits, List.map_append]
      rfl
    · next error media hingest =>
      have hrefuses := (h.refused hingest).1
      rw [hcapacity, refuses_iff] at hrefuses
      rw [if_neg hrefuses, List.append_nil]

/-- What has come of a session that began with the frames seen. -/
theorem sessionSoFar_append {limit : Nat} {before seen : List CapturedFrame} {sid : String}
    (hseen : ∀ frame ∈ seen, frame.sessionId = sid)
    (hbefore : ∀ frame ∈ before, frame.sessionId ≠ sid) :
    sessionSoFar limit (before ++ seen) sid = fitting limit seen := by
  have hsplit : fitting limit (before ++ seen) = fitting limit before ++ fitting limit seen :=
    List.filter_append _ _
  -- the session ends where the frames before begin
  have hnone : (fitting limit before).reverse.takeWhile
      (fun frame => decide (frame.sessionId = sid)) = [] := by
    refine List.takeWhile_eq_nil_iff.mpr fun hpos => ?_
    have hmem : ((fitting limit before).reverse.get ⟨0, hpos⟩) ∈ before :=
      List.mem_of_mem_filter (List.mem_reverse.mp (List.get_mem _ _))
    simpa using hbefore _ hmem
  rw [sessionSoFar, hsplit, List.rtakeWhile, List.reverse_append, List.takeWhile_append_of_pos,
    hnone, List.append_nil, List.reverse_reverse]
  intro frame hframe
  exact decide_eq_true (hseen frame (List.mem_of_mem_filter (List.mem_reverse.mp hframe)))

/-- Frames of a session that has not come before are judged by themselves. -/
theorem admittedAfter_session {limit : Nat} {before frames : List CapturedFrame} {sid : String}
    (hsame : ∀ frame ∈ frames, frame.sessionId = sid)
    (hbefore : ∀ frame ∈ before, frame.sessionId ≠ sid) :
    admittedAfter (Admits limit) before frames =
      records CapturedFrame.captureTsNs (fitting limit frames) := by
  refine Eq.trans (admittedAfter_congr fun seen frame rest hframes => ?_)
    (admittedAfter_filter (fun frame => decide (frame.FitsIn limit)) [] frames)
  have hseen : ∀ earlier ∈ seen, earlier.sessionId = sid := fun earlier hearlier =>
    hsame earlier (by rw [hframes]; exact List.mem_append_left _ hearlier)
  have hframe : frame.sessionId = sid :=
    hsame frame (by rw [hframes]; exact List.mem_append_right _ List.mem_cons_self)
  rw [Admits, hframe, sessionSoFar_append hseen hbefore, decide_eq_true_iff, List.nil_append]
  exact Iff.rfl

/-- One source after the other, each with a session of its own. -/
theorem admittedAfter_sessions (limit : Nat) (before : List CapturedFrame)
    {runs : List (String × List CapturedFrame)}
    (hsame : ∀ run ∈ runs, ∀ frame ∈ run.2, frame.sessionId = run.1)
    (hids : (runs.map Prod.fst).Nodup)
    (hbefore : ∀ frame ∈ before, frame.sessionId ∉ runs.map Prod.fst) :
    admittedAfter (Admits limit) before (runs.flatMap Prod.snd) =
      runs.flatMap fun run => records CapturedFrame.captureTsNs (fitting limit run.2) := by
  induction runs generalizing before with
  | nil => rfl
  | cons run runs ih =>
    obtain ⟨hfirst, hrest⟩ := List.forall_mem_cons.mp hsame
    obtain ⟨hnew, hids⟩ := List.nodup_cons.mp hids
    rw [List.flatMap_cons, List.flatMap_cons, admittedAfter_append,
      admittedAfter_session hfirst fun frame hframe heq =>
        hbefore frame hframe (by rw [heq]; exact List.mem_cons_self), ih _ hrest hids]
    intro frame hframe hmem
    rcases List.mem_append.mp hframe with hframe | hframe
    · exact hbefore frame hframe (List.mem_cons_of_mem _ hmem)
    · rw [hfirst frame hframe] at hmem
      exact hnew hmem

end Run

/-- **What is taken of the frames of a sink**, one source after the other, each under a session of its
own: of each source the frames that fit and are not behind one of its earlier frames. -/
theorem appsink_admitted {capacity : BufferCapacity} {store : SharedMemoryFrameStore}
    (hcap : store.capacityBytes = capacity.totalBytes) (hopen : store.isClosed = false)
    {runs : List (String × List (Option SinkBuffer))} (hids : (runs.map Prod.fst).Nodup) :
    let taken := (ingestAll capacity store
      (runs.flatMap fun run => delivered run.1 run.2)).2.map Prod.snd
    let offered := fun run : String × List (Option SinkBuffer) =>
      fitting capacity.totalBytes (delivered run.1 run.2)
    (taken = runs.flatMap fun run => records CapturedFrame.captureTsNs (offered run)) ∧
      (taken = runs.flatMap offered ↔ ∀ run ∈ runs, (offered run).Pairwise
        fun earlier later => earlier.captureTsNs ≤ later.captureTsNs) := by
  intro taken offered
  have htaken : taken = runs.flatMap fun run =>
      records CapturedFrame.captureTsNs (offered run) := by
    have hsame : ∀ run ∈ runs.map fun run => (run.1, delivered run.1 run.2),
        ∀ frame ∈ run.2, frame.sessionId = run.1 := by
      intro run hrun
      obtain ⟨source, -, rfl⟩ := List.mem_map.mp hrun
      exact sessionId_of_delivered
    have hids' : ((runs.map fun run => (run.1, delivered run.1 run.2)).map Prod.fst).Nodup := by
      rw [List.map_map]
      exact hids
    have hsessions := admittedAfter_sessions capacity.totalBytes [] hsame hids'
      (List.forall_mem_nil _)
    rw [List.flatMap_map, List.flatMap_map] at hsessions
    exact (ingestAll_taken hcap hopen _).trans hsessions
  refine ⟨htaken, ?_⟩
  rw [htaken, flatMap_records_eq_iff]
  exact forall₂_congr fun _ _ => records_eq_self_iff

/-- Without decoding times, a frame is behind the one that is presented after it. -/
def bufferAt (pts : ℕ) : Option SinkBuffer :=
  some ⟨5, clockTimeNone, pts, true, some [0]⟩

theorem appsink_admitted_presentation :
    (ingestAll ⟨8, by decide⟩ (SharedMemoryFrameStore.create "ring" ⟨8, by decide⟩)
      ([("replay", [bufferAt 0, bufferAt 100, bufferAt 33, bufferAt 133])].flatMap fun run =>
        delivered run.1 run.2)).2.map (fun entry => entry.2.captureTsNs) = [5, 105, 138] := by
  have hcap : (SharedMemoryFrameStore.create "ring" ⟨8, by decide⟩).capacityBytes =
      (⟨8, by decide⟩ : BufferCapacity).totalBytes := rfl
  have hids : ([("replay", [bufferAt 0, bufferAt 100, bufferAt 33, bufferAt 133])].map
      Prod.fst).Nodup := List.nodup_singleton _
  have hstamps := congrArg (List.map CapturedFrame.captureTsNs) (appsink_admitted hcap rfl hids).1
  rw [List.map_map] at hstamps
  exact hstamps.trans (by decide)

end Ods.S4
