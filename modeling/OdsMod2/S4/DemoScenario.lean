import OdsMod2.Framework.Polling
import OdsMod2.S4.Http.EventWindow
import OdsMod2.S4.Http.JsonResponse
import OdsMod2.S4.RingBuffer.Accounting
import OdsMod2.S4.RingBuffer.Sizing

/-!
# The demonstration scenario

With `--scenario` the daemon (`main.cpp`) waits until there is something to cut out
(`wait_for_capture_to_settle`), asks for the window that ends with the newest frame, and extracts it
(`run_demo_scenario`). The video of a file runs through in half a second, so for a source with an end
the wait goes on until the buffer has stopped growing: three polls in a row that show what the one
before showed.

Polls that find too little are passed over without a reset of the counter. That does no harm, since
the number of frames ingested only goes up: the wait ends at the first poll that finds the buffer as
it was three polls before (`settles_iff`). Behind it, as long as nothing more arrives, the window is
in the buffer up to its end, and the clip is a function of what was delivered, not of the moments at
which somebody looked (`demo_segment`).
-/

namespace Ods.S4

open Http MediaBuffer RingBuffer TwosComplement

/-! ### The wait -/

/-- `spanSeconds`. -/
def BufferStats.spanSeconds (stats : BufferStats) : ℚ :=
  if stats.hasFrames then
    toDouble (toDouble (wrap (stats.newestCaptureTsNs - stats.oldestCaptureTsNs)) / 1000000000)
  else 0

/-- There is material enough. -/
def BufferStats.spansAtLeast (minSpanSeconds : ℚ) (stats : BufferStats) : Bool :=
  stats.hasFrames && decide (minSpanSeconds ≤ stats.spanSeconds)

/-- What has arrived since the round before, and whether there is a round: the deadline has not
passed, and nobody has asked to stop. -/
structure SettlePoll where
  goesOn : Bool
  arrived : List (TimePoint × CapturedFrame)

structure SettleCounters where
  previousIngested : ℕ
  previousSpan : ℚ
  stablePolls : ℕ

/-- No span is negative. -/
def SettleCounters.initial : SettleCounters := ⟨0, -1, 0⟩

/-- `kStablePollsRequired`. -/
def stablePollsRequired : ℕ := 3

namespace RingBufferRAMFacade

/-- `wait_for_capture_to_settle`, with the facade as the last poll has found it. After polls that have
not decided anything, it is still waiting. -/
def waitForCaptureToSettle (minSpanSeconds : ℚ) (sourceIsFinite : Bool) :
    SettleCounters → RingBufferRAMFacade → List SettlePoll → Option (Bool × RingBufferRAMFacade)
  | _, _, [] => none
  | counters, facade, poll :: polls =>
    let facade := (facade.onFrames poll.arrived).2
    if poll.goesOn then
      let stats := facade.stats
      if stats.spansAtLeast minSpanSeconds then
        if !sourceIsFinite then some (true, facade)
        else
          let stablePolls :=
            if stats.framesIngestedTotal = counters.previousIngested ∧
                stats.spanSeconds = counters.previousSpan then
              counters.stablePolls + 1
            else 0
          if stablePollsRequired ≤ stablePolls then some (true, facade)
          else
            waitForCaptureToSettle minSpanSeconds sourceIsFinite
              ⟨stats.framesIngestedTotal, stats.spanSeconds, stablePolls⟩ facade polls
      else waitForCaptureToSettle minSpanSeconds sourceIsFinite counters facade polls
    else some (false, facade)

/-- In front of a round. -/
def beforePoll (facade : RingBufferRAMFacade) (polls : List SettlePoll) (n : ℕ) :
    RingBufferRAMFacade :=
  (facade.onFrames ((polls.take n).flatMap SettlePoll.arrived)).2

/-- What a round finds. -/
def atPoll (facade : RingBufferRAMFacade) (polls : List SettlePoll) (n : ℕ) : RingBufferRAMFacade :=
  facade.beforePoll polls (n + 1)

/-- There is a round of the number, and the loop gets to its poll. -/
def GoesOn (polls : List SettlePoll) (n : ℕ) : Prop :=
  ∃ poll ∈ polls[n]?, poll.goesOn = true

/-- There is enough, and a source with an end has come to it for all one can see. -/
def SettledAt (minSpanSeconds : ℚ) (sourceIsFinite : Bool) (facade : RingBufferRAMFacade)
    (polls : List SettlePoll) (n : ℕ) : Prop :=
  (facade.atPoll polls n).stats.spansAtLeast minSpanSeconds = true ∧
    (sourceIsFinite = true → stablePollsRequired ≤ n ∧
      (facade.atPoll polls (n - stablePollsRequired)).media = (facade.atPoll polls n).media)

/-! ### What a delivery does to the buffer -/

section Deliveries

variable {facade : RingBufferRAMFacade}

/-- A delivery is turned down, or it counts. -/
theorem onFrame_still (hsound : facade.media.Sound) (now : TimePoint) (frame : CapturedFrame) :
    (facade.onFrame now frame).2.media = facade.media ∨
      (facade.onFrame now frame).2.media.Sound ∧
        (facade.onFrame now frame).2.stats.framesIngestedTotal =
          facade.stats.framesIngestedTotal + 1 := by
  cases hingest : ingestFrame facade.media frame with
  | mk result after =>
    have hafter : (facade.onFrame now frame).2.media = after := by
      rw [onFrame_media, hingest]
    cases result with
    | error error =>
      left
      rw [hafter, ingestFrame_error hsound hingest]
    | ok allocation =>
      right
      show Sound _ ∧ (facade.onFrame now frame).2.media.ringBuffer.ingestedTotal = _
      rw [hafter]
      exact ⟨(held_ingest hsound hingest).1,
        (Capture.accepted_of_ingestFrame hingest).ingestedTotal_eq⟩

/-- The count of what was ingested tells whether the buffer has changed. -/
theorem onFrames_still (hsound : facade.media.Sound) (deliveries : List (TimePoint × CapturedFrame)) :
    (facade.onFrames deliveries).2.media.Sound ∧
      facade.stats.framesIngestedTotal ≤ (facade.onFrames deliveries).2.stats.framesIngestedTotal ∧
        ((facade.onFrames deliveries).2.stats.framesIngestedTotal = facade.stats.framesIngestedTotal →
          (facade.onFrames deliveries).2.media = facade.media) := by
  induction deliveries generalizing facade with
  | nil => exact ⟨hsound, le_rfl, fun _ => rfl⟩
  | cons delivery deliveries ih =>
    rw [onFrames_cons]
    rcases onFrame_still hsound delivery.1 delivery.2 with hsame | ⟨hafter, hcount⟩
    · have hstats : (facade.onFrame delivery.1 delivery.2).2.stats = facade.stats :=
        congrArg (fun media => media.ringBuffer.stats) hsame
      rw [← hsame] at hsound
      obtain ⟨hsound', hle, hstill⟩ := ih hsound
      rw [hstats] at hle hstill
      rw [hsame] at hstill
      exact ⟨hsound', hle, hstill⟩
    · obtain ⟨hsound', hle, -⟩ := ih hafter
      rw [hcount] at hle
      refine ⟨hsound', (Nat.le_succ _).trans hle, fun heq => ?_⟩
      rw [heq] at hle
      exact absurd hle (Nat.not_succ_le_self _)

end Deliveries

/-! ### When the wait ends -/

section Settle

variable {facade after : RingBufferRAMFacade} {polls : List SettlePoll} {minSpanSeconds : ℚ}
  {sourceIsFinite : Bool}

/-- What the counters are compared with. -/
def settleKey (stats : BufferStats) : ℕ × ℚ :=
  (stats.framesIngestedTotal, stats.spanSeconds)

def countersOf (watch : Polling.Watch (ℕ × ℚ)) : SettleCounters :=
  ⟨watch.previous.1, watch.previous.2, watch.stable⟩

/-- The counters in front of a round. -/
def settleWatch (minSpanSeconds : ℚ) (facade : RingBufferRAMFacade) (polls : List SettlePoll) (n : ℕ) :
    Polling.Watch (ℕ × ℚ) :=
  Polling.watching (BufferStats.spansAtLeast minSpanSeconds) settleKey (0, -1)
    (fun n => (facade.atPoll polls n).stats) n

theorem beforePoll_le (facade : RingBufferRAMFacade) (polls : List SettlePoll) {m n : ℕ}
    (h : m ≤ n) :
    ∃ deliveries, facade.beforePoll polls n = ((facade.beforePoll polls m).onFrames deliveries).2 := by
  obtain ⟨later, hlater⟩ : polls.take m <+: polls.take n := List.take_prefix_take_left h
  refine ⟨later.flatMap SettlePoll.arrived, ?_⟩
  rw [beforePoll, beforePoll, ← onFrames_append, ← List.flatMap_append, hlater]

theorem beforePoll_succ {poll : SettlePoll} {n : ℕ} (h : polls[n]? = some poll) :
    facade.beforePoll polls (n + 1) = ((facade.beforePoll polls n).onFrames poll.arrived).2 := by
  rw [beforePoll, beforePoll, List.take_add_one, h, List.flatMap_append, onFrames_append]
  simp only [Option.toList_some, List.flatMap_singleton]

/-- The polls of a capture only see it move forward. -/
theorem steady (capacity : BufferCapacity) {store : SharedMemoryFrameStore}
    (hcap : store.capacityBytes = capacity.totalBytes) (hopen : store.isClosed = false)
    (minSpanSeconds : ℚ) (polls : List SettlePoll) :
    Polling.Steady (BufferStats.spansAtLeast minSpanSeconds) settleKey Prod.fst (0, -1)
      (fun n => ((new capacity store).atPoll polls n).stats) := by
  have hsound : ∀ n, ((new capacity store).beforePoll polls n).media.Sound := fun n =>
    (onFrames_still (Sound.new hcap hopen) _).1
  have hforward : ∀ m n, m ≤ n →
      ((new capacity store).atPoll polls m).stats.framesIngestedTotal ≤
          ((new capacity store).atPoll polls n).stats.framesIngestedTotal ∧
        (((new capacity store).atPoll polls n).stats.framesIngestedTotal =
            ((new capacity store).atPoll polls m).stats.framesIngestedTotal →
          ((new capacity store).atPoll polls n).stats = ((new capacity store).atPoll polls m).stats) := by
    intro m n hle
    obtain ⟨deliveries, hlater⟩ :=
      beforePoll_le (new capacity store) polls (Nat.add_le_add_right hle 1)
    obtain ⟨-, hcount, hstill⟩ := onFrames_still (hsound (m + 1)) deliveries
    rw [atPoll, atPoll, hlater]
    exact ⟨hcount, fun heq => congrArg (fun media => media.ringBuffer.stats) (hstill heq)⟩
  refine ⟨fun m n hle => (hforward m n hle).1, fun m n hrank => ?_, fun n hready => ?_⟩
  · have hsame : ((new capacity store).atPoll polls m).stats =
        ((new capacity store).atPoll polls n).stats := by
      rcases le_total m n with hle | hle
      · exact ((hforward m n hle).2 hrank.symm).symm
      · exact (hforward n m hle).2 hrank
    rw [hsame]
    exact ⟨rfl, rfl⟩
  · -- what is there has been ingested
    have hbooks : Books 0 (new capacity store) := ⟨RingBuffer.Balanced.new capacity, rfl⟩
    have hstored := (hbooks.onFrames
      ((polls.take (n + 1)).flatMap SettlePoll.arrived)).balanced.stored
    have hframes : ((new capacity store).atPoll polls n).media.ringBuffer.frames ≠ [] := by
      intro hnil
      have hsome : (!((new capacity store).atPoll polls n).media.ringBuffer.frames.isEmpty) = true :=
        ((Bool.and_eq_true _ _).mp hready).1
      rw [hnil] at hsome
      cases hsome
    show 0 < ((new capacity store).atPoll polls n).media.ringBuffer.ingestedTotal
    rw [atPoll, beforePoll] at hframes ⊢
    rw [hstored]
    exact Nat.add_pos_left (List.length_pos_of_ne_nil hframes) _

/-- With the counter at a poll that finds enough goes the state of the buffer. -/
theorem settledAt_iff (capacity : BufferCapacity) {store : SharedMemoryFrameStore}
    (hcap : store.capacityBytes = capacity.totalBytes) (hopen : store.isClosed = false)
    (minSpanSeconds : ℚ) (polls : List SettlePoll) (n : ℕ)
    (hready : ((new capacity store).atPoll polls n).stats.spansAtLeast minSpanSeconds = true) :
    SettledAt minSpanSeconds true (new capacity store) polls n ↔
      stablePollsRequired ≤
        (settleWatch minSpanSeconds (new capacity store) polls (n + 1)).stable := by
  have hsteady := steady capacity hcap hopen minSpanSeconds polls
  rw [settleWatch, hsteady.le_stable_iff hready, SettledAt, and_iff_right hready,
    forall_prop_of_true rfl]
  refine and_congr_right fun hle => ?_
  obtain ⟨deliveries, hlater⟩ := beforePoll_le (new capacity store) polls
    (Nat.add_le_add_right (Nat.sub_le n stablePollsRequired) 1)
  have hsound : ((new capacity store).atPoll polls (n - stablePollsRequired)).media.Sound :=
    (onFrames_still (Sound.new hcap hopen) _).1
  obtain ⟨-, -, hstill⟩ := onFrames_still hsound deliveries
  constructor
  · intro hsame
    exact congrArg (fun media => settleKey media.ringBuffer.stats) hsame
  · intro hsame
    rw [show (new capacity store).atPoll polls n = _ from hlater]
    refine (hstill ?_).symm
    have hcount := congrArg Prod.fst hsame
    rw [show (new capacity store).atPoll polls n = _ from hlater] at hcount
    exact hcount.symm

/-- A poll that does not find enough is passed over. -/
theorem countersOf_unready {n : ℕ}
    (hready : (facade.atPoll polls n).stats.spansAtLeast minSpanSeconds = false) :
    countersOf (settleWatch minSpanSeconds facade polls (n + 1)) =
      countersOf (settleWatch minSpanSeconds facade polls n) :=
  congrArg countersOf (Polling.watching_unready hready)

/-- The other polls are counted as the source counts them. -/
theorem countersOf_ready {n : ℕ} {counters : SettleCounters}
    (hready : (facade.atPoll polls n).stats.spansAtLeast minSpanSeconds = true)
    (hcounters : counters = countersOf (settleWatch minSpanSeconds facade polls n)) :
    countersOf (settleWatch minSpanSeconds facade polls (n + 1)) =
      { previousIngested := (facade.atPoll polls n).stats.framesIngestedTotal
        previousSpan := (facade.atPoll polls n).stats.spanSeconds
        stablePolls :=
          if (facade.atPoll polls n).stats.framesIngestedTotal = counters.previousIngested ∧
              (facade.atPoll polls n).stats.spanSeconds = counters.previousSpan then
            counters.stablePolls + 1
          else 0 } := by
  rw [settleWatch, Polling.watching_ready hready, hcounters]
  show SettleCounters.mk _ _ (if _ = _ then _ else 0) = SettleCounters.mk _ _ _
  rw [SettleCounters.mk.injEq]
  exact ⟨rfl, rfl, if_congr Prod.ext_iff rfl rfl⟩

/-- **A round.** -/
theorem wait_round (capacity : BufferCapacity) {store : SharedMemoryFrameStore}
    (hcap : store.capacityBytes = capacity.totalBytes) (hopen : store.isClosed = false)
    {poll : SettlePoll} {rest : List SettlePoll} {n : ℕ} {counters : SettleCounters}
    (hdrop : polls.drop n = poll :: rest)
    (hcounters : sourceIsFinite = true →
      counters = countersOf (settleWatch minSpanSeconds (new capacity store) polls n)) :
    ∃ counters', (sourceIsFinite = true →
        counters' = countersOf (settleWatch minSpanSeconds (new capacity store) polls (n + 1))) ∧
      waitForCaptureToSettle minSpanSeconds sourceIsFinite counters
          ((new capacity store).beforePoll polls n) (poll :: rest) =
        if poll.goesOn = true then
          open Classical in
          if SettledAt minSpanSeconds sourceIsFinite (new capacity store) polls n then
            some (true, (new capacity store).atPoll polls n)
          else
            waitForCaptureToSettle minSpanSeconds sourceIsFinite counters'
              ((new capacity store).beforePoll polls (n + 1)) rest
        else some (false, (new capacity store).atPoll polls n) := by
  have hpoll : polls[n]? = some poll := by
    rw [← List.head?_drop, hdrop, List.head?_cons]
  have hat : (new capacity store).atPoll polls n = _ := beforePoll_succ hpoll
  rw [waitForCaptureToSettle]
  dsimp only
  rw [← hat]
  cases hready : ((new capacity store).atPoll polls n).stats.spansAtLeast minSpanSeconds with
  | false =>
    have hnot : ¬ SettledAt minSpanSeconds sourceIsFinite (new capacity store) polls n :=
      fun h => Bool.false_ne_true (hready.symm.trans h.1)
    refine ⟨counters, fun hfinite => ?_, ?_⟩
    · rw [hcounters hfinite, countersOf_unready hready]
    · rw [if_neg Bool.false_ne_true, if_neg hnot]
      rfl
  | true =>
    rw [if_pos rfl]
    cases sourceIsFinite with
    | false =>
      have hsettled : SettledAt minSpanSeconds false (new capacity store) polls n :=
        ⟨hready, fun h => absurd h Bool.false_ne_true⟩
      refine ⟨counters, fun h => absurd h Bool.false_ne_true, ?_⟩
      rw [if_pos hsettled]
      rfl
    | true =>
      have hnext := countersOf_ready hready (hcounters rfl)
      refine ⟨_, fun _ => rfl, ?_⟩
      -- what the source asks of its counter is asked of the buffer
      have hsettled := settledAt_iff capacity hcap hopen minSpanSeconds polls n hready
      have hstable := congrArg SettleCounters.stablePolls hnext
      dsimp only [countersOf] at hstable
      rw [hnext, Bool.not_true, if_neg Bool.false_ne_true, ← hstable]
      by_cases henough : SettledAt minSpanSeconds true (new capacity store) polls n
      · rw [if_pos henough, if_pos (hsettled.mp henough)]
      · rw [if_neg henough, if_neg (mt hsettled.mpr henough)]
        rfl

/-- What is left of the wait ends with the first poll from here on that finds the buffer settled. -/
theorem wait_from (capacity : BufferCapacity) {store : SharedMemoryFrameStore}
    (hcap : store.capacityBytes = capacity.totalBytes) (hopen : store.isClosed = false)
    (after : RingBufferRAMFacade) {rest : List SettlePoll} {n : ℕ} {counters : SettleCounters}
    (hdrop : polls.drop n = rest)
    (hcounters : sourceIsFinite = true →
      counters = countersOf (settleWatch minSpanSeconds (new capacity store) polls n)) :
    waitForCaptureToSettle minSpanSeconds sourceIsFinite counters
        ((new capacity store).beforePoll polls n) rest = some (true, after) ↔
      ∃ k, Polling.DoneFrom (GoesOn polls)
          (SettledAt minSpanSeconds sourceIsFinite (new capacity store) polls) n k ∧
        after = (new capacity store).atPoll polls k := by
  induction rest generalizing n counters with
  | nil =>
    refine iff_of_false (fun h => by cases h) ?_
    rintro ⟨k, hdone, -⟩
    -- there is no round any more
    obtain ⟨poll, hpoll, -⟩ := hdone.goes n le_rfl hdone.le
    -- but the list has come to its end
    rw [List.getElem?_eq_none (List.drop_eq_nil_iff.mp hdrop)] at hpoll
    cases hpoll
  | cons poll rest ih =>
    obtain ⟨counters', hcounters', hround⟩ := wait_round capacity hcap hopen hdrop hcounters
    have hpoll : polls[n]? = some poll := by
      rw [← List.head?_drop, hdrop, List.head?_cons]
    have hrest : polls.drop (n + 1) = rest := by
      rw [← List.tail_drop, hdrop, List.tail_cons]
    rw [hround]
    by_cases hgoes : poll.goesOn = true
    · have hhere : GoesOn polls n := ⟨poll, hpoll, hgoes⟩
      rw [if_pos hgoes]
      by_cases hsettled : SettledAt minSpanSeconds sourceIsFinite (new capacity store) polls n
      · rw [if_pos hsettled, Option.some.injEq, Prod.mk.injEq, and_iff_right rfl, eq_comm]
        simp only [Polling.doneFrom_iff_eq hhere hsettled, exists_eq_left]
      · rw [if_neg hsettled, ih hrest hcounters']
        simp only [Polling.doneFrom_iff_succ hhere hsettled]
    · have hbroken : ¬ GoesOn polls n := by
        rintro ⟨poll', hpoll', hon⟩
        obtain rfl := Option.some.inj (hpoll.symm.trans hpoll')
        exact hgoes hon
      rw [if_neg hgoes]
      refine iff_of_false (fun h => by cases h) ?_
      rintro ⟨k, hdone, -⟩
      exact Polling.not_doneFrom hbroken hdone

/-- **When the wait ends**: with the first poll that finds the buffer settled, if none before has come
too late or has been told to stop. -/
theorem settles_iff (capacity : BufferCapacity) {store : SharedMemoryFrameStore}
    (hcap : store.capacityBytes = capacity.totalBytes) (hopen : store.isClosed = false)
    (minSpanSeconds : ℚ) (sourceIsFinite : Bool) (polls : List SettlePoll)
    (after : RingBufferRAMFacade) :
    waitForCaptureToSettle minSpanSeconds sourceIsFinite .initial (new capacity store) polls =
        some (true, after) ↔
      ∃ n, (∀ m ≤ n, GoesOn polls m) ∧
        SettledAt minSpanSeconds sourceIsFinite (new capacity store) polls n ∧
        (∀ m < n, ¬ SettledAt minSpanSeconds sourceIsFinite (new capacity store) polls m) ∧
        after = (new capacity store).atPoll polls n := by
  have hdrop : polls.drop 0 = polls := rfl
  have hcounters : sourceIsFinite = true →
      .initial = countersOf (settleWatch minSpanSeconds (new capacity store) polls 0) := fun _ => rfl
  have hstart := wait_from capacity hcap hopen after hdrop hcounters
  simp only [Polling.doneFrom_zero_iff, and_assoc] at hstart
  exact hstart

/-- A keyframe, a frame two seconds later, and then no more. -/
def endedPolls : List SettlePoll :=
  [⟨true, [(0, ⟨0, [1], true, "live"⟩), (0, ⟨2000000000, [2], false, "live"⟩)]⟩,
    ⟨true, []⟩, ⟨true, []⟩, ⟨true, []⟩]

/-- A buffer for them. -/
def twoSeconds : RingBufferRAMFacade :=
  new ⟨4, by decide⟩ (.create "ring" ⟨4, by decide⟩)

theorem endedPolls_enough (n : ℕ) :
    (twoSeconds.atPoll endedPolls n).stats.spansAtLeast (3 / 2) = true := by
  have hall : (twoSeconds.atPoll endedPolls n).stats = (twoSeconds.atPoll endedPolls 0).stats := by
    have hstill : (endedPolls.take (n + 1)).flatMap SettlePoll.arrived =
        (endedPolls.take 1).flatMap SettlePoll.arrived := by
      match n with
      | 0 | 1 | 2 => rfl
      | n + 3 => rw [endedPolls, List.take_of_length_le (by simp)]; rfl
    rw [atPoll, beforePoll, hstill]
    rfl
  have hdiff : toDouble ((2000000000 : ℕ) : ℚ) = (2000000000 : ℕ) :=
    BufferCapacity.toDouble_natCast (by norm_num)
  have htwo : toDouble ((2 : ℕ) : ℚ) = (2 : ℕ) := BufferCapacity.toDouble_natCast (by norm_num)
  have hspan : (twoSeconds.atPoll endedPolls 0).stats.spanSeconds = 2 := by
    show toDouble (toDouble ((2000000000 : ℕ) : ℚ) / 1000000000) = 2
    rw [hdiff, show ((2000000000 : ℕ) : ℚ) / 1000000000 = (2 : ℕ) by norm_num, htwo]
    norm_num
  rw [hall, BufferStats.spansAtLeast, hspan]
  exact decide_eq_true (by norm_num)

theorem settles_iff_endedPolls :
    twoSeconds.waitForCaptureToSettle (3 / 2) true .initial endedPolls =
      some (true, twoSeconds.atPoll endedPolls 3) := by
  refine (settles_iff _ rfl rfl _ _ _ _).mpr ⟨3, ?_, ⟨endedPolls_enough 3, fun _ => ⟨le_rfl, rfl⟩⟩,
    fun m hlt hsettled => ?_, rfl⟩
  · intro m hle
    match m with
    | 0 | 1 | 2 | 3 => exact ⟨_, rfl, rfl⟩
  · exact absurd (hsettled.2 rfl).1 (not_le.mpr hlt)

end Settle

end RingBufferRAMFacade

/-! ### The window -/

/-- `kPreSeconds + kPostSeconds`. -/
def neededSeconds : ℚ := 1 + 1 / 2

/-- The window of the scenario: it ends with the newest frame. -/
def scenarioWindow (conversions : Conversions) (stats : BufferStats) :
    Except ODSException CaptureWindow :=
  CaptureWindow.around conversions
    (wrap (stats.newestCaptureTsNs - conversions.nanoseconds (1 / 2))) 1 (1 / 2)

section Window

variable {conversions : Conversions}

theorem nanoseconds_natCast (hnearest : conversions.nearest = toDouble) {seconds : ℚ} {n : ℕ}
    (hseconds : seconds * 1000000000 = n) (hn : n < 2 ^ 53) :
    conversions.nanoseconds seconds = n := by
  have hdouble : conversions.nearest (seconds * 1000000000) = n := by
    rw [hseconds, hnearest, BufferCapacity.toDouble_natCast hn]
  have hfloor : ⌊conversions.nearest (seconds * 1000000000)⌋ = n := by
    rw [hdouble, Int.floor_natCast]
  rw [nanoseconds_of_fits, hfloor]
  · rw [hdouble]
    exact Nat.cast_nonneg n
  · rw [hfloor, Fits]
    exact ⟨by omega, by omega⟩

/-- A difference that is written as so many seconds is not below them. -/
theorem le_of_neededSeconds {d : ℤ} (hd : 0 ≤ d)
    (h : neededSeconds ≤ toDouble (toDouble (wrap d) / 1000000000)) : 1500000000 ≤ d := by
  by_contra hlt
  -- one nanosecond less is already too short after both roundings
  have hsmall : d ≤ 1499999999 := by omega
  have hwrap : wrap d = d := wrap_of_fits ⟨by omega, by omega⟩
  have hcast : toDouble ((1499999999 : ℕ) : ℚ) = (1499999999 : ℕ) :=
    BufferCapacity.toDouble_natCast (by norm_num)
  have hd_cast : (0 : ℚ) ≤ d := by exact_mod_cast hd
  have hinner : toDouble (wrap d) ≤ 1499999999 := by
    rw [hwrap]
    calc toDouble d ≤ toDouble ((1499999999 : ℕ) : ℚ) :=
          BinaryRounding.toBinary_mono hd_cast (by exact_mod_cast hsmall)
      _ = 1499999999 := by rw [hcast]; norm_num
  have hnonneg : 0 ≤ toDouble (wrap d) := by
    rw [hwrap]
    exact BufferCapacity.toDouble_nonneg hd_cast
  have houter : toDouble (toDouble (wrap d) / 1000000000) ≤
      toDouble (1499999999 / 1000000000) :=
    BinaryRounding.toBinary_mono (by positivity) (by gcongr)
  have hnear : |toDouble (1499999999 / 1000000000) - 1499999999 / 1000000000| ≤
      (1499999999 / 1000000000) / 2 ^ 53 :=
    BinaryRounding.toBinary_near (by norm_num)
  have hbelow : toDouble (1499999999 / 1000000000) < neededSeconds := by
    have hhigh := (abs_le.mp hnear).2
    rw [neededSeconds]
    norm_num at hhigh ⊢
    linarith
  exact absurd (h.trans houter) (not_le.mpr hbelow)

/-- Second by second back from the newest frame, with nothing lost on the way. -/
theorem scenarioWindow_eq (hnearest : conversions.nearest = toDouble) {stats : BufferStats}
    (hnewest : Fits stats.newestCaptureTsNs) (hstart : Fits (stats.newestCaptureTsNs - 1500000000)) :
    ∃ window, scenarioWindow conversions stats = .ok window ∧
      window.startNs = stats.newestCaptureTsNs - 1500000000 ∧
      window.endNs = stats.newestCaptureTsNs := by
  have hpre : conversions.nanoseconds 1 = 1000000000 :=
    nanoseconds_natCast hnearest (n := 1000000000) (by norm_num) (by norm_num)
  have hpost : conversions.nanoseconds (1 / 2) = 500000000 :=
    nanoseconds_natCast hnearest (n := 500000000) (by norm_num) (by norm_num)
  -- the centre lies between the two ends, which are in range
  have hcenter : wrap (stats.newestCaptureTsNs - 500000000) = stats.newestCaptureTsNs - 500000000 := by
    refine wrap_of_fits ?_
    unfold Fits at hnewest hstart ⊢
    omega
  have hlow : wrap (stats.newestCaptureTsNs - 500000000 - 1000000000) =
      stats.newestCaptureTsNs - 1500000000 := by
    rw [Int.sub_sub]
    exact wrap_of_fits hstart
  have hhigh : wrap (stats.newestCaptureTsNs - 500000000 + 500000000) = stats.newestCaptureTsNs := by
    rw [Int.sub_add_cancel]
    exact wrap_of_fits hnewest
  have hlt : stats.newestCaptureTsNs - 1500000000 < stats.newestCaptureTsNs :=
    Int.sub_lt_self _ (by decide)
  refine ⟨⟨_, _, hlt⟩, ?_, rfl, rfl⟩
  rw [scenarioWindow, hpost, hcenter, CaptureWindow.around_of_nonneg zero_le_one (by norm_num), hpre,
    hpost, hlow, hhigh, CaptureWindow.create_of_lt hlt]

end Window

/-! ### The clip -/

/-- `run_demo_scenario` up to the bytes, once the wait is over: what arrives between the poll and the
statistics that the window is taken from, and between these and the extraction. -/
def runDemoScenario (conversions : Conversions) (sourceIsFinite : Bool)
    (facade : RingBufferRAMFacade) (polls : List SettlePoll)
    (between meanwhile : List (TimePoint × CapturedFrame)) :
    Option (Except ODSException ExtractedSegment) :=
  match facade.waitForCaptureToSettle neededSeconds sourceIsFinite .initial polls with
  | some (true, facade) =>
    let facade := (facade.onFrames between).2
    some do
      let window ← scenarioWindow conversions facade.stats
      (facade.onFrames meanwhile).2.copyWindow window
  | _ => none

/-- The last keyframe that is old enough, or else the first there is. -/
def demoStart (held : List ExtractedFrame) (startNs : Nanoseconds) : Option ExtractedFrame :=
  ((held.filter fun frame => frame.isKeyframe && decide (frame.captureTsNs ≤ startNs)).getLast?).or
    (held.filter ExtractedFrame.isKeyframe).head?

/-- The clip of the scenario: everything from its first frame on. -/
structure IsDemoClip (media : MediaBuffer) (newest : ExtractedFrame) (segment : ExtractedSegment) :
    Prop where
  startNs : segment.requestedWindow.startNs = newest.captureTsNs - 1500000000
  endNs : segment.requestedWindow.endNs = newest.captureTsNs
  sessionId : segment.sessionId = media.ringBuffer.sessionId
  suffix : segment.frames <:+ media.held
  head : segment.frames.head? = demoStart media.held segment.requestedWindow.startNs
  truncatedAtStart : segment.isTruncatedAtStart = true ↔
    ∀ key ∈ media.held, key.isKeyframe = true → segment.requestedWindow.startNs < key.captureTsNs
  truncatedAtEnd : segment.isTruncatedAtEnd = false

section Clip

variable {held : List ExtractedFrame} {window : CaptureWindow} {first newest : ExtractedFrame}
  {conversions : Conversions}

/-- What is not in front of a frame ends the list, and begins with it. -/
theorem stretch_to_newest (hordered : Tape.Ordered held) (hnewest : held.getLast? = some newest)
    (hend : window.endNs = newest.captureTsNs) (hfirst : first ∈ held) :
    Tape.stretch held window first <:+ held ∧
      (Tape.stretch held window first).head? = some first := by
  obtain ⟨front, rest, rfl⟩ := List.append_of_mem hfirst
  obtain ⟨-, hrest, hfront⟩ := List.pairwise_append.mp hordered
  -- the numbers go up, so nothing in front is taken and everything behind is
  have hgone : front.filter (fun frame =>
      decide (first.sequence ≤ frame.sequence ∧ frame.captureTsNs ≤ window.endNs)) = [] := by
    refine List.filter_eq_nil_iff.mpr fun frame hframe hkept => ?_
    have hlt := (hfront frame hframe first List.mem_cons_self).1
    exact absurd (of_decide_eq_true hkept).1 (not_le.mpr hlt)
  have hkept : (first :: rest).filter (fun frame =>
      decide (first.sequence ≤ frame.sequence ∧ frame.captureTsNs ≤ window.endNs)) =
        first :: rest := by
    refine List.filter_eq_self.mpr fun frame hframe => decide_eq_true ⟨?_, ?_⟩
    · rcases List.mem_cons.mp hframe with rfl | hbehind
      · exact le_rfl
      · exact ((List.pairwise_cons.mp hrest).1 frame hbehind).1.le
    · rw [hend]
      exact Tape.le_newest hordered hnewest (List.mem_append_right front hframe)
  rw [Tape.stretch, List.filter_append, hgone, hkept]
  exact ⟨List.suffix_append _ _, rfl⟩

/-- No keyframe is old enough. -/
theorem lt_of_getLast?_eq_none {startNs : Nanoseconds}
    (h : (held.filter fun frame =>
      frame.isKeyframe && decide (frame.captureTsNs ≤ startNs)).getLast? = none) :
    ∀ key ∈ held, key.isKeyframe = true → startNs < key.captureTsNs := by
  intro key hmem hkey
  refine not_le.mp fun hle => ?_
  have hfound : key ∈ held.filter fun frame =>
      frame.isKeyframe && decide (frame.captureTsNs ≤ startNs) :=
    List.mem_filter.mpr ⟨hmem, by rw [hkey, decide_eq_true hle]; rfl⟩
  rw [List.getLast?_eq_none_iff.mp h] at hfound
  cases hfound

/-- In a window that ends with the newest frame, every keyframe is old enough or within it. -/
theorem startOf_to_newest (hordered : Tape.Ordered held) (hnewest : held.getLast? = some newest)
    (hend : window.endNs = newest.captureTsNs) :
    Tape.startOf held window = demoStart held window.startNs := by
  rw [Tape.startOf, demoStart]
  cases hold : (held.filter fun frame =>
      frame.isKeyframe && decide (frame.captureTsNs ≤ window.startNs)).getLast? with
  | some key => rfl
  | none =>
    rw [Option.none_or, Option.none_or]
    refine congrArg List.head? (List.filter_congr fun frame hframe => ?_)
    have hle : frame.captureTsNs ≤ window.endNs := by
      rw [hend]
      exact Tape.le_newest hordered hnewest hframe
    cases hkey : frame.isKeyframe with
    | false => rfl
    | true =>
      rw [Bool.true_and]
      exact decide_eq_true ⟨(lt_of_getLast?_eq_none hold frame hframe hkey).le, hle⟩

theorem demoStart_eq_none_iff {startNs : Nanoseconds} :
    demoStart held startNs = none ↔ ∀ frame ∈ held, frame.isKeyframe = false := by
  rw [demoStart, Option.or_eq_none_iff, List.getLast?_eq_none_iff, List.head?_eq_none_iff,
    List.filter_eq_nil_iff, List.filter_eq_nil_iff]
  constructor
  · rintro ⟨-, hnone⟩ frame hframe
    exact Bool.eq_false_of_not_eq_true (hnone frame hframe)
  · intro hnone
    refine ⟨fun frame hframe => ?_, fun frame hframe => ?_⟩
    · rw [hnone frame hframe]
      exact Bool.false_ne_true
    · rw [hnone frame hframe]
      exact Bool.false_ne_true

/-- The clip starts late exactly if every keyframe does. -/
theorem demoStart_lt_iff {startNs : Nanoseconds} (h : demoStart held startNs = some first) :
    startNs < first.captureTsNs ↔
      ∀ key ∈ held, key.isKeyframe = true → startNs < key.captureTsNs := by
  rw [demoStart] at h
  cases hold : (held.filter fun frame =>
      frame.isKeyframe && decide (frame.captureTsNs ≤ startNs)).getLast? with
  | some key =>
    rw [hold, Option.some_or] at h
    obtain rfl := Option.some.inj h
    obtain ⟨hmem, hkey⟩ := List.mem_filter.mp (List.mem_of_getLast? hold)
    obtain ⟨hiskey, hle⟩ := (Bool.and_eq_true _ _).mp hkey
    refine iff_of_false (not_lt.mpr (of_decide_eq_true hle)) fun hall => ?_
    exact absurd (hall key hmem hiskey) (not_lt.mpr (of_decide_eq_true hle))
  | none =>
    rw [hold, Option.none_or] at h
    have hyoung := lt_of_getLast?_eq_none hold
    obtain ⟨hmem, hkey⟩ := List.mem_filter.mp (List.mem_of_head? h)
    exact iff_of_true (hyoung first hmem hkey) hyoung

theorem demoStart_mem {startNs : Nanoseconds} (h : demoStart held startNs = some first) :
    first ∈ held := by
  rw [demoStart] at h
  rcases Option.or_eq_some_iff.mp h with hold | ⟨-, hfirst⟩
  · exact (List.mem_filter.mp (List.mem_of_getLast? hold)).1
  · exact (List.mem_filter.mp (List.mem_of_head? hfirst)).1

/-- What the statistics say of the ends. -/
theorem stats_ends {media : MediaBuffer} {oldest : ExtractedFrame}
    (holdest : media.held.head? = some oldest) (hnewest : media.held.getLast? = some newest) :
    media.ringBuffer.stats.oldestCaptureTsNs = oldest.captureTsNs ∧
      media.ringBuffer.stats.newestCaptureTsNs = newest.captureTsNs := by
  rw [MediaBuffer.held, List.head?_map, Option.map_eq_some_iff] at holdest
  rw [MediaBuffer.held, List.getLast?_map, Option.map_eq_some_iff] at hnewest
  obtain ⟨first, hfirst, rfl⟩ := holdest
  obtain ⟨last, hlast, rfl⟩ := hnewest
  constructor
  · show RingBuffer.oldestCaptureTsNs media.ringBuffer = _
    rw [RingBuffer.oldestCaptureTsNs, hfirst]
    rfl
  · show RingBuffer.newestCaptureTsNs media.ringBuffer = _
    rw [RingBuffer.newestCaptureTsNs, hlast]
    rfl

/-- What is deep enough has a first frame and a newest one, so far apart. -/
theorem exists_ends_of_deep {media : MediaBuffer} (hordered : Tape.Ordered media.held)
    (hdeep : media.ringBuffer.stats.spansAtLeast neededSeconds = true) :
    ∃ oldest newest, media.held.head? = some oldest ∧ media.held.getLast? = some newest ∧
      (1500000000 : ℤ) ≤ newest.captureTsNs - oldest.captureTsNs := by
  obtain ⟨hsome, hspan⟩ := (Bool.and_eq_true _ _).mp hdeep
  have hspan := of_decide_eq_true hspan
  rw [BufferStats.spanSeconds, if_pos hsome] at hspan
  have hne : media.held ≠ [] := by
    intro hnil
    -- the statistics of an empty buffer say so
    have hframes : media.ringBuffer.frames = [] := List.map_eq_nil_iff.mp hnil
    change (!media.ringBuffer.frames.isEmpty) = true at hsome
    rw [hframes] at hsome
    cases hsome
  obtain ⟨oldest, holdest⟩ : ∃ oldest, media.held.head? = some oldest :=
    ⟨_, List.head?_eq_some_head hne⟩
  obtain ⟨newest, hnewest⟩ := Option.isSome_iff_exists.mp (List.getLast?_isSome.mpr hne)
  have hle : oldest.captureTsNs ≤ newest.captureTsNs :=
    Tape.head_le hordered holdest (List.mem_of_getLast? hnewest)
  obtain ⟨holdestTs, hnewestTs⟩ := stats_ends holdest hnewest
  rw [holdestTs, hnewestTs] at hspan
  exact ⟨oldest, newest, holdest, hnewest, le_of_neededSeconds (Int.sub_nonneg_of_le hle) hspan⟩

/-- The window that the scenario takes from a buffer that is deep enough. -/
theorem scenarioWindow_of_deep (hnearest : conversions.nearest = toDouble) {media : MediaBuffer}
    (hordered : Tape.Ordered media.held) (hfits : ∀ frame ∈ media.held, Fits frame.captureTsNs)
    (hdeep : media.ringBuffer.stats.spansAtLeast neededSeconds = true) :
    ∃ newest window, media.held.getLast? = some newest ∧
      scenarioWindow conversions media.ringBuffer.stats = .ok window ∧
      window.startNs = newest.captureTsNs - 1500000000 ∧ window.endNs = newest.captureTsNs := by
  obtain ⟨oldest, newest, holdest, hnewest, hapart⟩ := exists_ends_of_deep hordered hdeep
  have holdestFits := hfits oldest (List.mem_of_head? holdest)
  have hnewestFits := hfits newest (List.mem_of_getLast? hnewest)
  have hstartFits : Fits (newest.captureTsNs - 1500000000) := by
    unfold Fits at holdestFits hnewestFits ⊢
    omega
  have hnewestTs := (stats_ends holdest hnewest).2
  rw [← hnewestTs] at hnewestFits hstartFits
  obtain ⟨window, hwindow, hstart, hend⟩ := scenarioWindow_eq hnearest hnewestFits hstartFits
  exact ⟨newest, window, hnewest, hwindow, by rw [hstart, hnewestTs], by rw [hend, hnewestTs]⟩

/-- **A window that ends with the newest frame.** -/
theorem extract_to_newest {media : MediaBuffer} {accepted : List FrameDescriptor} {tape : Tape}
    (h : Taped media accepted tape) (hnewest : media.held.getLast? = some newest)
    (hstart : window.startNs = newest.captureTsNs - 1500000000)
    (hend : window.endNs = newest.captureTsNs) :
    (∃ segment, extractCaptureWindow media window = .ok segment ∧
        IsDemoClip media newest segment) ∨
      (∀ frame ∈ media.held, frame.isKeyframe = false) ∧
        extractCaptureWindow media window =
          .error (.domain DomainErrorKind.noDecodableStart.default) := by
  have hordered : Tape.Ordered media.held := h.ordered.sublist h.held.sublist
  have hmem : newest ∈ media.held := List.mem_of_getLast? hnewest
  have hlow : window.startNs ≤ newest.captureTsNs := by
    rw [hstart]
    exact Int.sub_le_self _ (by decide)
  -- the newest frame is in the window, so the window is not absent
  have hwithin : (media.asTape.frames.any fun frame => window.contains frame.captureTsNs) = true :=
    List.any_eq_true.mpr ⟨newest, hmem, decide_eq_true ⟨hlow, hend.ge⟩⟩
  have hstartOf : Tape.startOf media.asTape.frames window = demoStart media.held window.startNs :=
    startOf_to_newest hordered hnewest hend
  rw [h.extract, Tape.play, if_pos hwithin, hstartOf]
  cases hfirst : demoStart media.held window.startNs with
  | none => exact .inr ⟨demoStart_eq_none_iff.mp hfirst, rfl⟩
  | some first =>
    obtain ⟨hsuffix, hhead⟩ :=
      stretch_to_newest hordered hnewest hend (demoStart_mem hfirst)
    refine .inl ⟨_, rfl, hstart, hend, rfl, hsuffix, hhead.trans hfirst.symm, ?_, ?_⟩
    · show decide _ = true ↔ _
      rw [decide_eq_true_iff]
      exact demoStart_lt_iff hfirst
    · show (media.held.getLast?.any _) = false
      rw [hnewest, hend]
      exact decide_eq_false (lt_irrefl _)

end Clip

namespace RingBufferRAMFacade

/-- The wait ends at one of its polls. -/
theorem wait_atPoll {minSpanSeconds : ℚ} {sourceIsFinite : Bool} {counters : SettleCounters}
    {facade after : RingBufferRAMFacade} {polls : List SettlePoll}
    (h : facade.waitForCaptureToSettle minSpanSeconds sourceIsFinite counters polls =
      some (true, after)) :
    ∃ n, after = facade.atPoll polls n ∧ after.stats.spansAtLeast minSpanSeconds = true := by
  induction polls generalizing facade counters with
  | nil => cases h
  | cons poll polls ih =>
    have hlater : (∃ n, after = (facade.onFrames poll.arrived).2.atPoll polls n ∧
        after.stats.spansAtLeast minSpanSeconds = true) →
          ∃ n, after = facade.atPoll (poll :: polls) n ∧
            after.stats.spansAtLeast minSpanSeconds = true := by
      rintro ⟨n, hafter, henough⟩
      refine ⟨n + 1, ?_, henough⟩
      rw [hafter, atPoll, atPoll, beforePoll, beforePoll, List.take_succ_cons, List.flatMap_cons,
        onFrames_append]
    have hnow : some (true, (facade.onFrames poll.arrived).2) = some (true, after) →
        (facade.onFrames poll.arrived).2.stats.spansAtLeast minSpanSeconds = true →
          ∃ n, after = facade.atPoll (poll :: polls) n ∧
            after.stats.spansAtLeast minSpanSeconds = true := by
      intro hfound henough
      obtain ⟨-, rfl⟩ := Prod.mk.inj (Option.some.inj hfound)
      refine ⟨0, ?_, henough⟩
      rw [atPoll, beforePoll, List.take_succ_cons, List.take_zero, List.flatMap_singleton]
    rw [waitForCaptureToSettle] at h
    dsimp only at h
    split at h
    · split at h
      · next henough =>
        split at h
        · exact hnow h henough
        · -- whatever the counter has come to
          split at h
          all_goals
            split at h
            · exact hnow h henough
            · exact hlater (ih h)
      · exact hlater (ih h)
    · cases h

theorem hasReached_newest {facade : RingBufferRAMFacade} {newest : ExtractedFrame}
    (hnewest : facade.media.held.getLast? = some newest) :
    facade.hasReached newest.captureTsNs = true := by
  rw [MediaBuffer.held, List.getLast?_map, Option.map_eq_some_iff] at hnewest
  obtain ⟨last, hlast, rfl⟩ := hnewest
  rw [hasReached, hlast]
  exact decide_eq_true le_rfl

/-- Nothing counts until the buffer has changed. -/
theorem onFrames_between {facade : RingBufferRAMFacade} (hsound : facade.media.Sound)
    {between meanwhile : List (TimePoint × CapturedFrame)}
    (hstill : (facade.onFrames (between ++ meanwhile)).2.media = facade.media) :
    (facade.onFrames between).2.media = facade.media := by
  obtain ⟨hsound', hle, hsame⟩ := onFrames_still hsound between
  obtain ⟨-, hle', -⟩ := onFrames_still hsound' meanwhile
  rw [onFrames_append] at hstill
  have hcount := congrArg (fun media => media.ringBuffer.stats.framesIngestedTotal) hstill
  exact hsame (le_antisymm (hle'.trans_eq hcount) hle)

/-- What is in the buffer at a poll has been delivered by then. -/
theorem held_fits_atPoll {capacity : BufferCapacity} {store : SharedMemoryFrameStore}
    {polls : List SettlePoll} {n : ℕ} {accepted : List FrameDescriptor}
    (htaped : Taped ((new capacity store).atPoll polls n).media accepted (tapeAll capacity.totalBytes
      (((polls.take (n + 1)).flatMap SettlePoll.arrived).map Prod.snd)))
    (hfits : ∀ poll ∈ polls, ∀ delivery ∈ poll.arrived, Fits delivery.2.captureTsNs) :
    ∀ frame ∈ ((new capacity store).atPoll polls n).media.held, Fits frame.captureTsNs := by
  intro frame hframe
  obtain ⟨captured, hcaptured, hsame⟩ := exists_captured (htaped.held.subset hframe)
  obtain ⟨delivery, hdelivery, rfl⟩ := List.mem_map.mp hcaptured
  obtain ⟨poll, hpoll, harrived⟩ := List.mem_flatMap.mp hdelivery
  rw [← (Prod.mk.inj hsame).1]
  exact hfits poll (List.mem_of_mem_take hpoll) delivery harrived

/-- While the buffer stands still, the window is looked for where the poll has found it. -/
theorem runDemoScenario_still {conversions : Conversions} {sourceIsFinite : Bool}
    {facade after : RingBufferRAMFacade} {polls : List SettlePoll} {window : CaptureWindow}
    (hsound : after.media.Sound) (hcapturing : after.isCapturing = true)
    (hsettles : facade.waitForCaptureToSettle neededSeconds sourceIsFinite .initial polls =
      some (true, after))
    (hwindow : scenarioWindow conversions after.stats = .ok window)
    {between meanwhile : List (TimePoint × CapturedFrame)}
    (hstill : (after.onFrames (between ++ meanwhile)).2.media = after.media) :
    runDemoScenario conversions sourceIsFinite facade polls between meanwhile =
      some (extractCaptureWindow after.media window) := by
  have hstats : (after.onFrames between).2.stats = after.stats :=
    congrArg (fun media => media.ringBuffer.stats) (onFrames_between hsound hstill)
  have hmeanwhile : ((after.onFrames between).2.onFrames meanwhile).2.media = after.media := by
    rw [← onFrames_append, hstill]
  -- deliveries do not stop the capture
  have hstillCapturing : ((after.onFrames between).2.onFrames meanwhile).2.isCapturing = true := by
    rw [onFrames_isCapturing, onFrames_isCapturing, hcapturing]
  rw [runDemoScenario, hsettles]
  dsimp only
  rw [hstats, hwindow]
  show some (copyWindow _ window) = _
  rw [copyWindow, if_pos hstillCapturing, hmeanwhile]

/-- **The clip of the scenario.** Once the wait is over and as long as nothing more is accepted, the
window is asked for without an exception, its end has arrived, and it is found: the clip is what the
buffer holds from the last keyframe that is old enough on, or from the first there is. The only
failure is a buffer without a keyframe. What the buffer holds depends on what was delivered, and not
on the polls. -/
theorem demo_segment {capacity : BufferCapacity} {store : SharedMemoryFrameStore}
    (hcap : store.capacityBytes = capacity.totalBytes) (hopen : store.isClosed = false)
    {conversions : Conversions} (hnearest : conversions.nearest = toDouble) {sourceIsFinite : Bool}
    {polls : List SettlePoll}
    (hfits : ∀ poll ∈ polls, ∀ delivery ∈ poll.arrived, Fits delivery.2.captureTsNs)
    {after : RingBufferRAMFacade}
    (hsettles : (new capacity store).waitForCaptureToSettle neededSeconds sourceIsFinite .initial polls =
      some (true, after))
    {between meanwhile : List (TimePoint × CapturedFrame)}
    (hstill : (after.onFrames (between ++ meanwhile)).2.media = after.media) :
    (∃ n, after.media = (ingestAll capacity store
      (((polls.take n).flatMap SettlePoll.arrived).map Prod.snd)).1) ∧
    ∃ newest ∈ after.media.held.getLast?, after.hasReached newest.captureTsNs = true ∧
      ((∃ segment, runDemoScenario conversions sourceIsFinite (new capacity store) polls between
            meanwhile = some (.ok segment) ∧ IsDemoClip after.media newest segment) ∨
        (∀ frame ∈ after.media.held, frame.isKeyframe = false) ∧
          runDemoScenario conversions sourceIsFinite (new capacity store) polls between meanwhile =
            some (.error (.domain DomainErrorKind.noDecodableStart.default))) := by
  obtain ⟨n, hafter, hdeep⟩ := wait_atPoll hsettles
  have hmedia : after.media = (ingestAll capacity store
      (((polls.take (n + 1)).flatMap SettlePoll.arrived).map Prod.snd)).1 := by
    rw [hafter, atPoll, beforePoll, onFrames_media]
  refine ⟨⟨n + 1, hmedia⟩, ?_⟩
  obtain ⟨-, accepted, htaped⟩ := ingestAll_taped hcap hopen
    (((polls.take (n + 1)).flatMap SettlePoll.arrived).map Prod.snd)
  rw [← hmedia] at htaped
  have hheldFits : ∀ frame ∈ after.media.held, Fits frame.captureTsNs := by
    rw [hafter] at htaped ⊢
    exact held_fits_atPoll htaped hfits
  have hordered : Tape.Ordered after.media.held := htaped.ordered.sublist htaped.held.sublist
  -- the wait has found the buffer deep enough for the window
  obtain ⟨newest, window, hnewest, hwindow, hstart, hend⟩ :=
    scenarioWindow_of_deep hnearest hordered hheldFits hdeep
  have hcapturing : after.isCapturing = true := by
    rw [hafter, atPoll, beforePoll, onFrames_isCapturing]
    rfl
  rw [runDemoScenario_still htaped.sound hcapturing hsettles hwindow hstill]
  refine ⟨newest, hnewest, hasReached_newest hnewest, ?_⟩
  rcases extract_to_newest htaped hnewest hstart hend with ⟨segment, hsegment, hclip⟩ | ⟨hnone, herror⟩
  · rw [hsegment]
    exact .inl ⟨segment, rfl, hclip⟩
  · rw [herror]
    exact .inr ⟨hnone, rfl⟩

/-- The numbers of the processor. -/
def binary64 : Conversions where
  nearest := toDouble
  rangeError _ := false
  outOfRange _ := -9223372036854775808

/-- The first frame is old enough, and a keyframe. -/
theorem demo_segment_endedPolls :
    ∃ segment, runDemoScenario binary64 false twoSeconds endedPolls [] [] = some (.ok segment) := by
  have hsettles : twoSeconds.waitForCaptureToSettle neededSeconds false .initial endedPolls =
      some (true, twoSeconds.atPoll endedPolls 0) := by
    have henough := endedPolls_enough 0
    rw [show (3 / 2 : ℚ) = neededSeconds by rw [neededSeconds]; norm_num] at henough
    exact if_pos henough
  have hfits : ∀ poll ∈ endedPolls, ∀ delivery ∈ poll.arrived, Fits delivery.2.captureTsNs := by
    decide
  have hnearest : binary64.nearest = toDouble := rfl
  have hstill : ((twoSeconds.atPoll endedPolls 0).onFrames ([] ++ [])).2.media =
      (twoSeconds.atPoll endedPolls 0).media := rfl
  obtain ⟨-, newest, -, -, ⟨segment, hsegment, -⟩ | ⟨hnone, -⟩⟩ :=
    demo_segment rfl rfl hnearest hfits hsettles hstill
  · exact ⟨segment, hsegment⟩
  · exact absurd (hnone ⟨0, 0, true, [1]⟩ (by decide)) (by decide)

end RingBufferRAMFacade

end Ods.S4
