import Mathlib.Data.Rat.Floor
import OdsMod2.Framework.ExceptList
import OdsMod2.Framework.TwosComplement
import OdsMod2.S4.Http.EventRequest
import OdsMod2.S4.RingBuffer.FacadeCalls

/-!
# The window of an event

A client asks for a window in one of two ways. Seconds before and after an instant of the capture clock
go to `CaptureWindow::around`, which computes the two ends in 64 bits and leaves it to the constructor
to compare them. Milliseconds of the wall clock become nanoseconds in `parse_event_request`, and the two
ends are compared afterwards too.

For `around` the comparison is enough: a window that has wrapped around is upside down and is refused
(`TwosComplement.fits_of_wrap_lt`). The milliseconds are scaled by a million, so they go around the
clock many times and may come back in the right order; a window that is accepted is the one that was
asked for exactly if both ends are within the range of the clock (`windows_exact_iff`).
-/

namespace Ods.S4

open Http TwosComplement

/-! ### From seconds to nanoseconds -/

namespace Http

/-- Towards zero. -/
def truncate (x : ℚ) : ℤ :=
  x.num.tdiv x.den

/-- With the conversion of a `double` to an integer of 64 bits, which the language leaves to the
platform where the number does not fit. -/
structure Conversions extends Doubles where
  outOfRange : ℚ → ℤ

def Conversions.toInt64 (conversions : Conversions) (x : ℚ) : ℤ :=
  if Fits (truncate x) then truncate x else conversions.outOfRange x

/-- What is not negative is not rounded to a negative number. -/
def Doubles.KeepsSign (doubles : Doubles) : Prop :=
  ∀ x, 0 ≤ x → 0 ≤ doubles.nearest x

/-- `static_cast<Nanoseconds>(seconds * kNanosecondsPerSecond)`: the product is a `double`. -/
def Conversions.nanoseconds (conversions : Conversions) (seconds : ℚ) : Nanoseconds :=
  conversions.toInt64 (conversions.nearest (seconds * 1000000000))

theorem truncate_of_nonneg {x : ℚ} (h : 0 ≤ x) : truncate x = ⌊x⌋ := by
  rw [truncate, Int.tdiv_eq_ediv_of_nonneg (Rat.num_nonneg.mpr h)]
  exact Rat.floor_def'.symm

variable {conversions : Conversions}

theorem nanoseconds_of_fits {seconds : ℚ}
    (hnonneg : 0 ≤ conversions.nearest (seconds * 1000000000))
    (hfits : Fits ⌊conversions.nearest (seconds * 1000000000)⌋) :
    conversions.nanoseconds seconds = ⌊conversions.nearest (seconds * 1000000000)⌋ := by
  rw [← truncate_of_nonneg hnonneg] at hfits ⊢
  exact if_pos hfits

end Http

/-! ### Around an instant -/

/-- `CaptureWindow::around`. -/
def CaptureWindow.around (conversions : Conversions) (centerNs : Nanoseconds)
    (preSeconds postSeconds : ℚ) : Except ODSException CaptureWindow :=
  if preSeconds < 0 ∨ postSeconds < 0 then
    .error (.domain
      ⟨.invalidTimeWindow, "preSeconds and postSeconds must not be negative"⟩)
  else
    let preNs := conversions.nanoseconds preSeconds
    let postNs := conversions.nanoseconds postSeconds
    CaptureWindow.create (wrap (centerNs - preNs)) (wrap (centerNs + postNs))

/-- The window between the two ends, or an exception of the domain. -/
def ExactOrRefused (startNs endNs : ℤ) : Except ODSException CaptureWindow → Prop
  | .ok window => window.startNs = startNs ∧ window.endNs = endNs
  | .error exception => ∃ error, exception = .domain error

namespace CaptureWindow

theorem create_of_lt {startNs endNs : Nanoseconds} (h : startNs < endNs) :
    CaptureWindow.create startNs endNs = .ok ⟨startNs, endNs, h⟩ :=
  dif_pos h

theorem create_of_not_lt {startNs endNs : Nanoseconds} (h : ¬ startNs < endNs) :
    CaptureWindow.create startNs endNs =
      .error (.domain ⟨.invalidTimeWindow, "startNs must be strictly before endNs"⟩) :=
  dif_neg h

variable {conversions : Conversions} {centerNs : Nanoseconds} {preSeconds postSeconds : ℚ}

theorem around_of_nonneg (hpre : 0 ≤ preSeconds) (hpost : 0 ≤ postSeconds) :
    CaptureWindow.around conversions centerNs preSeconds postSeconds =
      CaptureWindow.create (wrap (centerNs - conversions.nanoseconds preSeconds))
        (wrap (centerNs + conversions.nanoseconds postSeconds)) :=
  if_neg (not_or.mpr ⟨not_lt.mpr hpre, not_lt.mpr hpost⟩)

/-- Whatever wraps around is refused. -/
theorem around_exact (hcenter : Fits centerNs) (hpre : 0 ≤ preSeconds) (hpost : 0 ≤ postSeconds)
    {preNs postNs : ℤ} (hpreNs : conversions.nanoseconds preSeconds = preNs)
    (hpostNs : conversions.nanoseconds postSeconds = postNs) (hpre_fits : Fits preNs)
    (hpost_fits : Fits postNs) (hpre_nonneg : 0 ≤ preNs) (hpost_nonneg : 0 ≤ postNs) :
    ExactOrRefused (centerNs - preNs) (centerNs + postNs)
      (CaptureWindow.around conversions centerNs preSeconds postSeconds) := by
  rw [around_of_nonneg hpre hpost, hpreNs, hpostNs]
  by_cases hlt : wrap (centerNs - preNs) < wrap (centerNs + postNs)
  · have hfits : Fits (centerNs - preNs) ∧ Fits (centerNs + postNs) :=
      fits_of_wrap_lt hcenter hpre_fits hpost_fits hpre_nonneg hpost_nonneg hlt
    rw [create_of_lt hlt]
    exact ⟨wrap_of_fits hfits.1, wrap_of_fits hfits.2⟩
  · rw [create_of_not_lt hlt]
    exact ⟨_, rfl⟩

end CaptureWindow

/-! ### Between two instants of the wall clock -/

namespace Http

theorem wallClock_eq_wrap (milliseconds : ℤ) :
    wallClock milliseconds = wrap (milliseconds * 1000000) := rfl

/-- What is accepted when both ends are given. -/
theorem EventFields.request_window {fields : EventFields} {request : EventRequest}
    {startMs endMs : ℤ} (h : fields.request = .ok request) (hstart : fields.startMs = some startMs)
    (hend : fields.endMs = some endMs) :
    request.wallStart = wallClock startMs ∧ request.wallEnd = wallClock endMs ∧
      wallClock startMs < wallClock endMs := by
  unfold EventFields.request EventRequest.setWallClock at h
  rw [hstart, hend] at h
  dsimp only at h
  split at h
  · cases h
  · split at h
    · cases h
    · next hlt =>
      obtain rfl := Except.ok.inj h
      exact ⟨rfl, rfl, not_le.mp hlt⟩

/-- The point of the wall clock is the one that was asked for. -/
theorem wallClock_eq_iff (milliseconds : ℤ) :
    wallClock milliseconds = milliseconds * 1000000 ↔
      -9223372036854 ≤ milliseconds ∧ milliseconds ≤ 9223372036854 := by
  rw [wallClock_eq_wrap, wrap_eq_self_iff, Fits]
  constructor
  · rintro ⟨hlow, hhigh⟩
    exact ⟨by omega, by omega⟩
  · rintro ⟨hlow, hhigh⟩
    exact ⟨by omega, by omega⟩

/-- **No window is turned into another one by overflow**, except between two instants of the wall clock
that are not both within its range. -/
theorem windows_exact_iff (conversions : Conversions) (hsign : conversions.KeepsSign) :
    (∀ (centerNs : Nanoseconds) (preSeconds postSeconds : ℚ), Fits centerNs →
      0 ≤ preSeconds → 0 ≤ postSeconds →
      Fits ⌊conversions.nearest (preSeconds * 1000000000)⌋ →
      Fits ⌊conversions.nearest (postSeconds * 1000000000)⌋ →
        ExactOrRefused (centerNs - ⌊conversions.nearest (preSeconds * 1000000000)⌋)
          (centerNs + ⌊conversions.nearest (postSeconds * 1000000000)⌋)
          (CaptureWindow.around conversions centerNs preSeconds postSeconds)) ∧
    ∀ (body : List Char) (request : EventRequest) (startMs endMs : ℤ),
      parseEventRequest conversions.toDoubles body = .ok request →
      extractJsonInt body "start_ms".toList = some startMs →
      extractJsonInt body "end_ms".toList = some endMs → startMs < endMs →
        (request.wallStart = startMs * 1000000 ∧ request.wallEnd = endMs * 1000000 ∧
            request.wallStart < request.wallEnd ↔
          -9223372036854 ≤ startMs ∧ endMs ≤ 9223372036854) := by
  constructor
  · -- around an instant
    intro centerNs preSeconds postSeconds hcenter hpre hpost hpre_fits hpost_fits
    have hpre_nearest := hsign (preSeconds * 1000000000) (by positivity)
    have hpost_nearest := hsign (postSeconds * 1000000000) (by positivity)
    exact CaptureWindow.around_exact hcenter hpre hpost
      (nanoseconds_of_fits hpre_nearest hpre_fits) (nanoseconds_of_fits hpost_nearest hpost_fits)
      hpre_fits hpost_fits (Int.floor_nonneg.mpr hpre_nearest)
      (Int.floor_nonneg.mpr hpost_nearest)
  · -- between two instants: each end on its own is kept or lost
    intro body request startMs endMs hparse hstart hend hlt
    obtain ⟨hwallStart, hwallEnd, hwallLt⟩ :=
      EventFields.request_window hparse hstart hend
    rw [hwallStart, hwallEnd, wallClock_eq_iff, wallClock_eq_iff]
    constructor
    · rintro ⟨⟨hlow, -⟩, ⟨-, hhigh⟩, -⟩
      exact ⟨hlow, hhigh⟩
    · rintro ⟨hlow, hhigh⟩
      exact ⟨⟨hlow, by omega⟩, ⟨by omega, hhigh⟩, hwallLt⟩

/-- Every number is a `double`; the platform answers with the smallest integer. -/
def Conversions.exact : Conversions where
  toDoubles := .exact
  outOfRange _ := -9223372036854775808

theorem Conversions.exact_keepsSign : Conversions.exact.KeepsSign :=
  fun _ h => h

/-- A second of the wall clock. -/
def secondBody : List Char :=
  "\x7b\"start_ms\": 1720000000000, \"end_ms\": 1720000001000\x7d".toList

theorem secondBody_isOk : (parseEventRequest .exact secondBody).isOk = true := by
  decide +kernel

theorem windows_exact_second :
    ExactOrRefused 4000000000 5500000000
        (CaptureWindow.around .exact 5000000000 1 (1 / 2)) ∧
      ∃ request, parseEventRequest .exact secondBody = .ok request ∧
        request.wallStart = 1720000000000000000 ∧ request.wallEnd = 1720000001000000000 := by
  obtain ⟨haround, hwall⟩ := windows_exact_iff .exact Conversions.exact_keepsSign
  constructor
  · have hpre : ⌊Conversions.exact.nearest (1 * 1000000000)⌋ = 1000000000 := by
      norm_num [Conversions.exact, Doubles.exact]
    have hpost : ⌊Conversions.exact.nearest (1 / 2 * 1000000000)⌋ = 500000000 := by
      norm_num [Conversions.exact, Doubles.exact]
    have hwindow := haround 5000000000 1 (1 / 2) (by decide) (by norm_num) (by norm_num)
      (by rw [hpre]; decide) (by rw [hpost]; decide)
    rw [hpre, hpost] at hwindow
    exact hwindow
  · obtain ⟨request, hparse⟩ := exists_eq_ok secondBody_isOk
    have hexact := (hwall secondBody request 1720000000000 1720000001000 hparse
      (by decide +kernel) (by decide +kernel) (by decide)).mpr (by decide)
    exact ⟨request, hparse, hexact.1, hexact.2.1⟩

/-- The product of the second number and a million is `448384` more than `2 ^ 64`. -/
def scaledBody : List Char :=
  "\x7b\"start_ms\": 0, \"end_ms\": 18446744073710\x7d".toList

theorem scaledBody_isOk : (parseEventRequest .exact scaledBody).isOk = true := by
  decide +kernel

theorem scaled_window_differs :
    ¬ ∀ (body : List Char) (request : EventRequest) (startMs endMs : ℤ),
      parseEventRequest .exact body = .ok request →
      extractJsonInt body "start_ms".toList = some startMs →
      extractJsonInt body "end_ms".toList = some endMs → startMs < endMs →
        request.wallStart = startMs * 1000000 ∧ request.wallEnd = endMs * 1000000 ∧
          request.wallStart < request.wallEnd := by
  intro h
  obtain ⟨request, hparse⟩ := exists_eq_ok scaledBody_isOk
  have hend : extractJsonInt scaledBody "end_ms".toList = some 18446744073710 := by decide +kernel
  have hstart : extractJsonInt scaledBody "start_ms".toList = some 0 := by decide +kernel
  obtain ⟨-, hexact, -⟩ := h scaledBody request 0 18446744073710 hparse hstart hend (by decide)
  obtain ⟨-, hwallEnd, -⟩ := EventFields.request_window hparse hstart hend
  have hbound := (wallClock_eq_iff _).mp (hwallEnd.symm.trans hexact)
  exact absurd hbound.2 (by decide)

end Http

end Ods.S4
