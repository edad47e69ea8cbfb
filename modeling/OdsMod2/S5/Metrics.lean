import Mathlib.Data.List.Basic
import Mathlib.Algebra.Order.Ring.Rat

/-!
# Events, windows and metrics

The value objects and entities of the time series service (`s5/src/domain`). Their `__post_init__`
checks are fields here, so that what has been built is valid, and the constructors that check are
functions that raise.

Instants have microsecond resolution and a first and a last value, outside of which arithmetic
raises an `OverflowError`. An average is a rational number, whatever arithmetic it comes from.
-/

namespace Ods.S5

/-- A `datetime`: microseconds since `datetime.min`, up to `datetime.max`. -/
structure Datetime where
  micros : Nat
  inRange : micros < 3652059 * 86400 * 1000000
  deriving DecidableEq, Repr

theorem Datetime.ext_micros {t u : Datetime} (h : t.micros = u.micros) : t = u := by
  cases t
  cases u
  cases h
  rfl

instance : LinearOrder Datetime :=
  LinearOrder.lift' Datetime.micros fun _ _ => Datetime.ext_micros

theorem Datetime.le_iff {t u : Datetime} : t ≤ u ↔ t.micros ≤ u.micros := Iff.rfl

theorem Datetime.lt_iff {t u : Datetime} : t < u ↔ t.micros < u.micros := Iff.rfl

/-- The domain errors, what Python raises by itself, and DuckDB's refusal of a number that does not
fit into its column. -/
inductive Raised where
  | invalidTimeWindow (start stop : Datetime)
  | invalidNormalizedEvent (message : String)
  | invalidOccupancyMetric (message : String)
  | overflowError
  | indexError
  | conversionError
  deriving DecidableEq, Repr

/-- What `str.strip` removes. -/
def isSpace (c : Char) : Bool :=
  [0x20, 0x85, 0xA0, 0x1680, 0x2028, 0x2029, 0x202F, 0x205F, 0x3000].contains c.toNat ||
    decide (0x09 ≤ c.toNat ∧ c.toNat ≤ 0x0D) || decide (0x1C ≤ c.toNat ∧ c.toNat ≤ 0x1F) ||
    decide (0x2000 ≤ c.toNat ∧ c.toNat ≤ 0x200A)

/-- `not text.strip()`. -/
def isBlank (text : String) : Bool :=
  text.toList.all isSpace

theorem named_of_not_blank {name : String} (h : ¬ isBlank name = true) : isBlank name = false :=
  Bool.not_eq_true _ ▸ h

/-! ### Windows -/

structure TimeWindow where
  startTime : Datetime
  endTime : Datetime
  ordered : startTime < endTime
  deriving DecidableEq, Repr

def TimeWindow.create (startTime endTime : Datetime) : Except Raised TimeWindow :=
  if h : startTime < endTime then .ok ⟨startTime, endTime, h⟩
  else .error (.invalidTimeWindow startTime endTime)

/-- `moment - timedelta(seconds)`. -/
def Datetime.minusSeconds (moment : Datetime) (seconds : Int) : Except Raised Datetime :=
  let micros : Int := moment.micros - seconds * 1000000
  if h : 0 ≤ micros ∧ micros.toNat < 3652059 * 86400 * 1000000 then .ok ⟨micros.toNat, h.2⟩
  else .error .overflowError

/-! ### Events -/

/-- An event of the bus; where it happened plays no part here. -/
structure NormalizedEvent where
  eventType : String
  origin : String
  timestamp : Datetime
  typed : isBlank eventType = false
  placed : isBlank origin = false

/-! ### Metrics -/

structure OccupancyMetric where
  zoneId : String
  window : TimeWindow
  dwellTimeAvg : ℚ
  occupancyPeak : Int
  totalCount : Int
  named : isBlank zoneId = false
  dwellTimeAvg_nonneg : 0 ≤ dwellTimeAvg
  occupancyPeak_nonneg : 0 ≤ occupancyPeak
  totalCount_nonneg : 0 ≤ totalCount
  deriving DecidableEq

def OccupancyMetric.create (zoneId : String) (window : TimeWindow) (dwellTimeAvg : ℚ)
    (occupancyPeak totalCount : Int) : Except Raised OccupancyMetric :=
  if hnamed : isBlank zoneId = true then
    .error (.invalidOccupancyMetric "zone_id não pode ser vazio.")
  else if havg : dwellTimeAvg < 0 then
    .error (.invalidOccupancyMetric "dwell_time_avg não pode ser negativo.")
  else if hpeak : occupancyPeak < 0 then
    .error (.invalidOccupancyMetric "occupancy_peak não pode ser negativo.")
  else if hcount : totalCount < 0 then
    .error (.invalidOccupancyMetric "total_count não pode ser negativo.")
  else
    .ok ⟨zoneId, window, dwellTimeAvg, occupancyPeak, totalCount, Bool.not_eq_true _ ▸ hnamed,
      not_lt.mp havg, not_lt.mp hpeak, not_lt.mp hcount⟩

theorem OccupancyMetric.create_eq_ok {zoneId : String} {window : TimeWindow} {dwellTimeAvg : ℚ}
    {occupancyPeak totalCount : Int} (hnamed : isBlank zoneId = false) (havg : 0 ≤ dwellTimeAvg)
    (hpeak : 0 ≤ occupancyPeak) (hcount : 0 ≤ totalCount) :
    create zoneId window dwellTimeAvg occupancyPeak totalCount =
      .ok ⟨zoneId, window, dwellTimeAvg, occupancyPeak, totalCount, hnamed, havg, hpeak, hcount⟩ := by
  rw [create, dif_neg (by rw [hnamed]; decide), dif_neg (not_lt.mpr havg),
    dif_neg (not_lt.mpr hpeak), dif_neg (not_lt.mpr hcount)]

theorem OccupancyMetric.create_of_blank {zoneId : String} (hblank : isBlank zoneId = true)
    (window : TimeWindow) (dwellTimeAvg : ℚ) (occupancyPeak totalCount : Int) :
    create zoneId window dwellTimeAvg occupancyPeak totalCount =
      .error (.invalidOccupancyMetric "zone_id não pode ser vazio.") :=
  dif_pos hblank

theorem OccupancyMetric.create_fields {zoneId : String} {window : TimeWindow} {dwellTimeAvg : ℚ}
    {occupancyPeak totalCount : Int} {metric : OccupancyMetric}
    (h : create zoneId window dwellTimeAvg occupancyPeak totalCount = .ok metric) :
    metric.zoneId = zoneId ∧ metric.window = window ∧ metric.occupancyPeak = occupancyPeak ∧
      metric.totalCount = totalCount := by
  unfold create at h
  split_ifs at h
  obtain rfl := Except.ok.inj h
  exact ⟨rfl, rfl, rfl, rfl⟩

theorem OccupancyMetric.create_dwellTimeAvg {zoneId : String} {window : TimeWindow} {dwellTimeAvg : ℚ}
    {occupancyPeak totalCount : Int} {metric : OccupancyMetric}
    (h : create zoneId window dwellTimeAvg occupancyPeak totalCount = .ok metric) :
    metric.dwellTimeAvg = dwellTimeAvg := by
  unfold create at h
  split_ifs at h
  obtain rfl := Except.ok.inj h
  rfl

end Ods.S5
