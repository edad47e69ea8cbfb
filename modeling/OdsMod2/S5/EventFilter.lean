import Mathlib.Data.List.Chain
import Mathlib.Data.List.Induction
import Mathlib.Tactic.Linarith
import OdsMod2.Framework.LocalRun
import OdsMod2.S5.Aggregation
import OdsMod2.S5.Heatmap

/-!
# Ingesting events

`IngestEventUseCase` reads an envelope of the bus and asks a filter whether to let the event in. The
filter keeps, for each origin, the instant of the last event it has accepted, and refuses whatever
comes less than a minimal interval after it, or before it.
-/

namespace Ods.S5

/-! ### The filter -/

/-- `_last_accepted_at`. -/
abbrev LastAcceptedAt := String → Option Datetime

/-- `DebounceHysteresisFilterStrategy.should_accept`, for `_min_interval_seconds`. -/
def shouldAccept (minIntervalSeconds : ℚ) (event : NormalizedEvent)
    (lastAcceptedAt : LastAcceptedAt) : Bool × LastAcceptedAt :=
  let accept : Bool × LastAcceptedAt :=
    (true, fun origin => if origin = event.origin then some event.timestamp else lastAcceptedAt origin)
  match lastAcceptedAt event.origin with
  | none => accept
  | some last =>
    let elapsedSeconds := totalSeconds event.timestamp last
    if elapsedSeconds < minIntervalSeconds then (false, lastAcceptedAt) else accept

/-! ### Envelopes -/

inductive IngestRaised where
  | malformedEventEnvelope (message : String)
  | space (raised : SpaceRaised)
  | domain (raised : Raised)
  | valueError (message : String)
  deriving DecidableEq

structure RawCoords where
  x : Option Float64
  y : Option Float64

/-- An envelope as it comes from the bus, with the fields that it has. -/
structure RawEnvelope where
  eventType : Option String
  origin : Option String
  coords : Option RawCoords
  timestamp : Option String

/-- The event with the place where it happened. -/
structure LocatedEvent extends NormalizedEvent where
  coords : WorldCoordinate

def NormalizedEvent.create (eventType origin : String) (timestamp : Datetime) :
    Except Raised NormalizedEvent :=
  if htyped : isBlank eventType = true then
    .error (.invalidNormalizedEvent "event_type não pode ser vazio.")
  else if hplaced : isBlank origin = true then
    .error (.invalidNormalizedEvent "origin não pode ser vazio.")
  else
    .ok ⟨eventType, origin, timestamp, named_of_not_blank htyped, named_of_not_blank hplaced⟩

/-- `raw_envelope[key]`, where a missing key is reported as a malformed envelope. -/
def requireKey {α : Type} (key : String) (value : Option α) : Except IngestRaised α :=
  match value with
  | some value => .ok value
  | none =>
    .error (.malformedEventEnvelope ("Campo obrigatório ausente no envelope B1/B3: '" ++ key ++ "'"))

/-- `_parse`. How `datetime.fromisoformat` reads a text is left open; it may refuse it. -/
def parse (fromisoformat : String → Except String Datetime) (rawEnvelope : RawEnvelope) :
    Except IngestRaised LocatedEvent := do
  let coords ← requireKey "coords" rawEnvelope.coords
  let eventType ← requireKey "event_type" rawEnvelope.eventType
  let origin ← requireKey "origin" rawEnvelope.origin
  let x ← requireKey "x" coords.x
  let y ← requireKey "y" coords.y
  let position ← (WorldCoordinate.create x y).mapError .space
  let text ← requireKey "timestamp" rawEnvelope.timestamp
  let timestamp ← (fromisoformat text).mapError .valueError
  let event ← (NormalizedEvent.create eventType origin timestamp).mapError .domain
  return { event with coords := position }

/-- `IngestEventUseCase.execute`; an event that is not accepted is answered by `None`. -/
def ingestEvent (fromisoformat : String → Except String Datetime) (minIntervalSeconds : ℚ)
    (rawEnvelope : RawEnvelope) (lastAcceptedAt : LastAcceptedAt) :
    Except IngestRaised (Option LocatedEvent) × LastAcceptedAt :=
  match parse fromisoformat rawEnvelope with
  | .error raised => (.error raised, lastAcceptedAt)
  | .ok event =>
    match shouldAccept minIntervalSeconds event.toNormalizedEvent lastAcceptedAt with
    | (true, lastAcceptedAt) => (.ok (some event), lastAcceptedAt)
    | (false, lastAcceptedAt) => (.ok none, lastAcceptedAt)

/-- What a use case answers to the envelopes of a bus, from the beginning on. -/
def ingestRun (fromisoformat : String → Except String Datetime) (minIntervalSeconds : ℚ)
    (rawEnvelopes : List RawEnvelope) :
    List (RawEnvelope × Except IngestRaised (Option LocatedEvent)) :=
  LocalRun.outputs (ingestEvent fromisoformat minIntervalSeconds) (fun _ => none) rawEnvelopes

/-- The events of an origin that have been let in, in this order. -/
def acceptedOf (origin : String)
    (answers : List (RawEnvelope × Except IngestRaised (Option LocatedEvent))) :
    List LocatedEvent :=
  answers.filterMap fun answer =>
    match answer.2 with
    | .ok (some event) => if event.origin = origin then some event else none
    | _ => none

/-- The origin of the event in an envelope, if there is one. -/
def originOf (fromisoformat : String → Except String Datetime) (rawEnvelope : RawEnvelope) :
    Option String :=
  match parse fromisoformat rawEnvelope with
  | .ok event => some event.origin
  | .error _ => none

/-- The later event is no earlier, and by the minimal interval later. -/
def Apart (minIntervalSeconds : ℚ) (event event' : LocatedEvent) : Prop :=
  event.timestamp ≤ event'.timestamp ∧
    minIntervalSeconds ≤ totalSeconds event'.timestamp event.timestamp

section Filter

variable {minIntervalSeconds : ℚ} {event : NormalizedEvent} {lastAcceptedAt : LastAcceptedAt}

theorem shouldAccept_of_close {last : Datetime} (hlast : lastAcceptedAt event.origin = some last)
    (hclose : totalSeconds event.timestamp last < minIntervalSeconds) :
    shouldAccept minIntervalSeconds event lastAcceptedAt = (false, lastAcceptedAt) := by
  rw [shouldAccept, hlast]
  exact if_pos hclose

theorem shouldAccept_of_not_close
    (hapart : ∀ last, lastAcceptedAt event.origin = some last →
      minIntervalSeconds ≤ totalSeconds event.timestamp last) :
    shouldAccept minIntervalSeconds event lastAcceptedAt =
      (true, fun origin =>
        if origin = event.origin then some event.timestamp else lastAcceptedAt origin) := by
  rw [shouldAccept]
  cases hlast : lastAcceptedAt event.origin with
  | none => rfl
  | some last => exact if_neg (not_lt.mpr (hapart last hlast))

end Filter

/-! ### One envelope -/

section Ingest

variable {fromisoformat : String → Except String Datetime} {minIntervalSeconds : ℚ}
  {rawEnvelope : RawEnvelope} {lastAcceptedAt : LastAcceptedAt}

theorem ingestEvent_of_error {raised : IngestRaised}
    (hparse : parse fromisoformat rawEnvelope = .error raised) :
    ingestEvent fromisoformat minIntervalSeconds rawEnvelope lastAcceptedAt =
      (.error raised, lastAcceptedAt) := by
  rw [ingestEvent, hparse]

/-- What is read is let in, and is the last of its origin from then on, or it is refused, since it
is too close to the last one, and nothing changes. -/
theorem ingestEvent_cases (lastAcceptedAt : LastAcceptedAt) {event : LocatedEvent}
    (hparse : parse fromisoformat rawEnvelope = .ok event) :
    ((∀ last, lastAcceptedAt event.origin = some last →
        minIntervalSeconds ≤ totalSeconds event.timestamp last) ∧
      ingestEvent fromisoformat minIntervalSeconds rawEnvelope lastAcceptedAt =
        (.ok (some event), fun origin =>
          if origin = event.origin then some event.timestamp else lastAcceptedAt origin)) ∨
    (∃ last, lastAcceptedAt event.origin = some last ∧
      totalSeconds event.timestamp last < minIntervalSeconds ∧
      ingestEvent fromisoformat minIntervalSeconds rawEnvelope lastAcceptedAt =
        (.ok none, lastAcceptedAt)) := by
  rw [ingestEvent, hparse]
  by_cases hclose : ∃ last, lastAcceptedAt event.origin = some last ∧
      totalSeconds event.timestamp last < minIntervalSeconds
  · obtain ⟨last, hlast, hlt⟩ := hclose
    refine .inr ⟨last, hlast, hlt, ?_⟩
    dsimp only
    rw [shouldAccept_of_close hlast hlt]
  · have hapart : ∀ last, lastAcceptedAt event.origin = some last →
        minIntervalSeconds ≤ totalSeconds event.timestamp last := by
      intro last hlast
      exact not_lt.mp fun hlt => hclose ⟨last, hlast, hlt⟩
    refine .inl ⟨hapart, ?_⟩
    dsimp only
    rw [shouldAccept_of_not_close hapart]

/-- An envelope concerns its own origin only. -/
theorem ingestEvent_local (fromisoformat : String → Except String Datetime)
    (minIntervalSeconds : ℚ) :
    LocalRun.Local (ingestEvent fromisoformat minIntervalSeconds)
      (fun lastAcceptedAt origin => lastAcceptedAt origin) (originOf fromisoformat) where
  untouched := by
    intro rawEnvelope origin lastAcceptedAt hkey
    unfold originOf at hkey
    cases hparse : parse fromisoformat rawEnvelope with
    | error raised => rw [ingestEvent_of_error hparse]
    | ok event =>
      rw [hparse] at hkey
      rcases ingestEvent_cases _ hparse with ⟨-, hrun⟩ | ⟨last, -, -, hrun⟩
      · rw [hrun]
        -- what is written is the cell of the event
        exact if_neg fun h => hkey (congrArg some h.symm)
      · rw [hrun]
  determined := by
    intro rawEnvelope origin lastAcceptedAt lastAcceptedAt' hkey hcell
    unfold originOf at hkey
    cases hparse : parse fromisoformat rawEnvelope with
    | error raised =>
      rw [hparse] at hkey
      cases hkey
    | ok event =>
      rw [hparse] at hkey
      obtain rfl := Option.some.inj hkey
      -- both find the same instant, so they decide alike
      rcases ingestEvent_cases lastAcceptedAt hparse with
          ⟨hapart, hrun⟩ | ⟨last, hlast, hclose, hrun⟩
      · rcases ingestEvent_cases lastAcceptedAt' hparse with
          ⟨-, hrun'⟩ | ⟨last', hlast', hclose', -⟩
        · rw [hrun, hrun']
          exact ⟨rfl, (if_pos rfl).trans (if_pos rfl).symm⟩
        · exact absurd hclose' (not_lt.mpr (hapart last' (hcell.trans hlast')))
      · rcases ingestEvent_cases lastAcceptedAt' hparse with
          ⟨hapart', -⟩ | ⟨last', -, -, hrun'⟩
        · exact absurd hclose (not_lt.mpr (hapart' last (hcell.symm.trans hlast)))
        · rw [hrun, hrun']
          exact ⟨rfl, hcell⟩

end Ingest

/-! ### Runs -/

section Run

variable {fromisoformat : String → Except String Datetime} {minIntervalSeconds : ℚ}

theorem acceptedOf_append (origin : String)
    (answers answers' : List (RawEnvelope × Except IngestRaised (Option LocatedEvent))) :
    acceptedOf origin (answers ++ answers') =
      acceptedOf origin answers ++ acceptedOf origin answers' :=
  List.filterMap_append

theorem acceptedOf_singleton (origin : String) (rawEnvelope : RawEnvelope) (event : LocatedEvent) :
    acceptedOf origin [(rawEnvelope, .ok (some event))] =
      if event.origin = origin then [event] else [] := by
  by_cases horigin : event.origin = origin
  · simp [acceptedOf, horigin]
  · simp [acceptedOf, horigin]

/-- What the filter knows after some envelopes. -/
def knownAfter (fromisoformat : String → Except String Datetime) (minIntervalSeconds : ℚ)
    (rawEnvelopes : List RawEnvelope) : LastAcceptedAt :=
  LocalRun.finalState (ingestEvent fromisoformat minIntervalSeconds) (fun _ => none) rawEnvelopes

/-- One envelope more: nothing changes, or its event is let in. -/
theorem ingestRun_concat_cases (earlier : List RawEnvelope) (rawEnvelope : RawEnvelope) :
    (knownAfter fromisoformat minIntervalSeconds (earlier ++ [rawEnvelope]) =
        knownAfter fromisoformat minIntervalSeconds earlier ∧
      ∀ origin, acceptedOf origin
          (ingestRun fromisoformat minIntervalSeconds (earlier ++ [rawEnvelope])) =
        acceptedOf origin (ingestRun fromisoformat minIntervalSeconds earlier)) ∨
    ∃ event : LocatedEvent,
      (∀ last, knownAfter fromisoformat minIntervalSeconds earlier event.origin = some last →
        minIntervalSeconds ≤ totalSeconds event.timestamp last) ∧
      (∀ origin, knownAfter fromisoformat minIntervalSeconds (earlier ++ [rawEnvelope]) origin =
        if origin = event.origin then some event.timestamp
        else knownAfter fromisoformat minIntervalSeconds earlier origin) ∧
      ∀ origin, acceptedOf origin
          (ingestRun fromisoformat minIntervalSeconds (earlier ++ [rawEnvelope])) =
        acceptedOf origin (ingestRun fromisoformat minIntervalSeconds earlier) ++
          if event.origin = origin then [event] else [] := by
  simp only [ingestRun, knownAfter, LocalRun.outputs_concat, LocalRun.finalState_concat,
    acceptedOf_append]
  cases hparse : parse fromisoformat rawEnvelope with
  | error raised =>
    rw [ingestEvent_of_error hparse]
    exact .inl ⟨rfl, fun origin => List.append_nil _⟩
  | ok event =>
    rcases ingestEvent_cases _ hparse with ⟨hapart, hrun⟩ | ⟨last, -, -, hrun⟩
    · rw [hrun]
      exact .inr ⟨event, hapart, fun origin => rfl,
        fun origin => congrArg _ (acceptedOf_singleton origin rawEnvelope event)⟩
    · rw [hrun]
      exact .inl ⟨rfl, fun origin => List.append_nil _⟩

/-- The filter knows the last event of each origin that has been let in. -/
theorem knownAfter_eq (rawEnvelopes : List RawEnvelope) (origin : String) :
    knownAfter fromisoformat minIntervalSeconds rawEnvelopes origin =
      ((acceptedOf origin (ingestRun fromisoformat minIntervalSeconds rawEnvelopes)).getLast?).map
        fun event => event.timestamp := by
  induction rawEnvelopes using List.reverseRecOn with
  | nil => rfl
  | append_singleton earlier rawEnvelope ih =>
    rcases ingestRun_concat_cases earlier rawEnvelope with
        ⟨hknown, haccepted⟩ | ⟨event, -, hknown, haccepted⟩
    · rw [hknown, haccepted, ih]
    · rw [hknown, haccepted, ih]
      -- the event let in is the last one of its origin, and of no other
      by_cases horigin : event.origin = origin
      · rw [if_pos horigin.symm, if_pos horigin, List.getLast?_concat]
        rfl
      · rw [if_neg (Ne.symm horigin), if_neg horigin, List.append_nil]

theorem totalSeconds_add (first second third : Datetime) :
    totalSeconds third second + totalSeconds second first = totalSeconds third first := by
  rw [totalSeconds_eq, totalSeconds_eq, totalSeconds_eq]
  exact sub_add_sub_cancel _ _ _

/-- A minimal interval keeps the order of time. -/
theorem Apart.of_le (hmin : 0 ≤ minIntervalSeconds) {event event' : LocatedEvent}
    (h : minIntervalSeconds ≤ totalSeconds event'.timestamp event.timestamp) :
    Apart minIntervalSeconds event event' := by
  refine ⟨?_, h⟩
  -- the time between them is not negative
  have hnonneg := hmin.trans h
  rw [totalSeconds, le_div_iff₀ (by norm_num), zero_mul, sub_nonneg] at hnonneg
  exact Nat.cast_le.mp hnonneg

theorem Apart.trans (hmin : 0 ≤ minIntervalSeconds) {first second third : LocatedEvent}
    (h : Apart minIntervalSeconds first second) (h' : Apart minIntervalSeconds second third) :
    Apart minIntervalSeconds first third := by
  refine ⟨h.1.trans h'.1, ?_⟩
  have hsum := totalSeconds_add first.timestamp second.timestamp third.timestamp
  linarith [h.2, h'.2]

/-- The events of an origin that have been let in are apart from one another. -/
theorem acceptedOf_pairwise (hmin : 0 ≤ minIntervalSeconds) (rawEnvelopes : List RawEnvelope)
    (origin : String) :
    (acceptedOf origin (ingestRun fromisoformat minIntervalSeconds rawEnvelopes)).Pairwise
      (Apart minIntervalSeconds) := by
  have htrans : Trans (Apart minIntervalSeconds) (Apart minIntervalSeconds)
      (Apart minIntervalSeconds) := ⟨Apart.trans hmin⟩
  -- neighbours are enough
  rw [← List.isChain_iff_pairwise]
  induction rawEnvelopes using List.reverseRecOn with
  | nil => exact .nil
  | append_singleton earlier rawEnvelope ih =>
    rcases ingestRun_concat_cases earlier rawEnvelope with
        ⟨-, haccepted⟩ | ⟨event, hapart, -, haccepted⟩
    · rw [haccepted]
      exact ih
    · rw [haccepted]
      by_cases horigin : event.origin = origin
      · rw [if_pos horigin]
        refine List.isChain_append.mpr ⟨ih, .singleton event, fun last hlast event' hevent' => ?_⟩
        obtain rfl := Option.some.inj hevent'
        -- the last one let in is the one the filter compares with
        refine Apart.of_le hmin (hapart last.timestamp ?_)
        rw [knownAfter_eq, horigin, hlast]
        rfl
      · rw [if_neg horigin, List.append_nil]
        exact ih

/-- An event is refused exactly if it is too close to the last one of its origin. -/
theorem refused_iff (earlier later : List RawEnvelope) (rawEnvelope : RawEnvelope) :
    (ingestRun fromisoformat minIntervalSeconds (earlier ++ rawEnvelope :: later))[earlier.length]? =
        some (rawEnvelope, .ok none) ↔
      ∃ event last : LocatedEvent, parse fromisoformat rawEnvelope = .ok event ∧
        (acceptedOf event.origin
          (ingestRun fromisoformat minIntervalSeconds earlier)).getLast? = some last ∧
        totalSeconds event.timestamp last.timestamp < minIntervalSeconds := by
  rw [ingestRun, LocalRun.getElem?_outputs]
  cases hparse : parse fromisoformat rawEnvelope with
  | error raised =>
    rw [ingestEvent_of_error hparse]
    constructor
    · intro h
      cases h
    · rintro ⟨event, last, h, -⟩
      cases h
  | ok event =>
    have hknown : LocalRun.finalState (ingestEvent fromisoformat minIntervalSeconds)
        (fun _ => none) earlier event.origin = _ := knownAfter_eq earlier event.origin
    rcases ingestEvent_cases _ hparse with ⟨hapart, hrun⟩ | ⟨last, hlast, hclose, hrun⟩
    · rw [hrun]
      constructor
      · intro h
        cases h
      · rintro ⟨event', last, hevent', hlast, hclose⟩
        obtain rfl := Except.ok.inj hevent'
        rw [hlast] at hknown
        exact absurd hclose (not_lt.mpr (hapart last.timestamp hknown))
    · rw [hrun]
      rw [hknown] at hlast
      -- the instant it was compared with is that of an event
      obtain ⟨lastEvent, hlastEvent, rfl⟩ := Option.map_eq_some_iff.mp hlast
      exact iff_of_true rfl ⟨event, lastEvent, rfl, hlastEvent, hclose⟩

end Run

/-- **Debouncing.** -/
theorem ingestRun_debounces (fromisoformat : String → Except String Datetime)
    {minIntervalSeconds : ℚ} (hmin : 0 ≤ minIntervalSeconds) :
    -- the answers that an origin gets depend on its own events only
    (∀ (rawEnvelopes rawEnvelopes' : List RawEnvelope) (origin : String),
      (rawEnvelopes.filter fun envelope => originOf fromisoformat envelope = some origin) =
          (rawEnvelopes'.filter fun envelope => originOf fromisoformat envelope = some origin) →
        ((ingestRun fromisoformat minIntervalSeconds rawEnvelopes).filter
            fun answer => originOf fromisoformat answer.1 = some origin) =
          (ingestRun fromisoformat minIntervalSeconds rawEnvelopes').filter
            fun answer => originOf fromisoformat answer.1 = some origin) ∧
    (∀ (rawEnvelopes : List RawEnvelope) (origin : String),
      (acceptedOf origin (ingestRun fromisoformat minIntervalSeconds rawEnvelopes)).Pairwise
        (Apart minIntervalSeconds)) ∧
    ∀ (earlier later : List RawEnvelope) (rawEnvelope : RawEnvelope),
      (ingestRun fromisoformat minIntervalSeconds
          (earlier ++ rawEnvelope :: later))[earlier.length]? = some (rawEnvelope, .ok none) →
        ∃ event last : LocatedEvent, parse fromisoformat rawEnvelope = .ok event ∧
          (acceptedOf event.origin
            (ingestRun fromisoformat minIntervalSeconds earlier)).getLast? = some last ∧
          totalSeconds event.timestamp last.timestamp < minIntervalSeconds := by
  refine ⟨fun rawEnvelopes rawEnvelopes' origin hsame => ?_,
    fun rawEnvelopes origin => acceptedOf_pairwise hmin rawEnvelopes origin,
    fun earlier later rawEnvelope => (refused_iff earlier later rawEnvelope).mp⟩
  have hlocal := ingestEvent_local fromisoformat minIntervalSeconds
  calc (ingestRun fromisoformat minIntervalSeconds rawEnvelopes).filter
        (fun answer => decide (originOf fromisoformat answer.1 = some origin))
      = ingestRun fromisoformat minIntervalSeconds
          (rawEnvelopes.filter fun envelope => originOf fromisoformat envelope = some origin) :=
        hlocal.outputs_filter rfl rawEnvelopes
    _ = ingestRun fromisoformat minIntervalSeconds
          (rawEnvelopes'.filter fun envelope => originOf fromisoformat envelope = some origin) := by
        rw [hsame]
    _ = (ingestRun fromisoformat minIntervalSeconds rawEnvelopes').filter
          (fun answer => decide (originOf fromisoformat answer.1 = some origin)) :=
        (hlocal.outputs_filter rfl rawEnvelopes').symm

theorem september_inRange : 63924631200000000 < 3652059 * 86400 * 1000000 := by
  decide

/-- A reader that knows one text only. -/
def readSeptember (text : String) : Except String Datetime :=
  if text = "2026-09-10T10:00:00" then .ok ⟨63924631200000000, september_inRange⟩
  else .error "Invalid isoformat string"

/-- Somebody enters in front of a camera. -/
def cameraEnvelope : RawEnvelope where
  eventType := some "enter"
  origin := some "camera-01"
  coords := some ⟨some (some 1), some (some 2)⟩
  timestamp := some "2026-09-10T10:00:00"

theorem ingestRun_debounces_cameraTwice :
    (acceptedOf "camera-01" (ingestRun readSeptember 5 [cameraEnvelope, cameraEnvelope])).Pairwise
      (Apart 5) :=
  (ingestRun_debounces readSeptember (by norm_num)).2.1 [cameraEnvelope, cameraEnvelope] "camera-01"

example : (ingestRun readSeptember 5 [cameraEnvelope, cameraEnvelope]).map
    (fun answer => answer.2.isOk && (acceptedOf "camera-01" [answer]).isEmpty) = [false, true] := by
  decide +kernel

end Ods.S5
