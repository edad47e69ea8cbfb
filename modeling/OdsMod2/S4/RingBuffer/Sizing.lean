import OdsMod2.Framework.BinaryRounding
import OdsMod2.S4.Http.JsonResponse
import OdsMod2.S4.RingBuffer.Tape

/-!
# How large the arena has to be

`RingBufferConfig` asks for a depth in seconds and knows the bit rate of the encoder; `capacity` turns
the two into bytes, with a factor on top (`forEncodedStream`, in floating point). The comment beside the
depth says what it is to cover: the longest past that is asked for, and one group of pictures.

It is enough. While the encoder keeps to its bit rate over the depth, and the factor leaves room for two
frames of the largest size (`WithinBudget`), and keyframes come at least once in the time of a group, the
buffer answers every window that begins within the depth less that time as a tape would that has never
lost a frame (`configured_depth`).
-/

namespace Ods.S4

open BinaryRounding MediaBuffer RingBuffer

/-! ### The configuration -/

/-- The constructor of `BufferCapacity`. -/
def BufferCapacity.create (totalBytes : Nat) : Except DomainError BufferCapacity :=
  if h : 0 < totalBytes then .ok ⟨totalBytes, h⟩
  else .error DomainErrorKind.invalidCapacity.default

/-- What `forEncodedStream` computes before it is cut down to whole bytes; the product is formed from
left to right. -/
def encodedStreamBytes (bitrateBps : Nat) (windowSeconds safetyFactor : ℚ) : ℚ :=
  Http.toDouble (Http.toDouble (Http.toDouble (Http.toDouble bitrateBps / 8) * windowSeconds) *
    safetyFactor)

/-- `BufferCapacity::forEncodedStream`. -/
def BufferCapacity.forEncodedStream (bitrateBps : Nat) (windowSeconds safetyFactor : ℚ) :
    Except DomainError BufferCapacity :=
  BufferCapacity.create ⌊encodedStreamBytes bitrateBps windowSeconds safetyFactor⌋₊

structure RingBufferConfig where
  cameraId : String := "cam0"
  windowSeconds : ℚ := 30
  bitrateBps : Nat := 4000000
  safetyFactor : ℚ := 3 / 2
  shmName : String := ""
  replaceStaleSegment : Bool := false
  width : Nat := 1920
  height : Nat := 1080

def RingBufferConfig.capacity (config : RingBufferConfig) : Except DomainError BufferCapacity :=
  BufferCapacity.forEncodedStream config.bitrateBps config.windowSeconds config.safetyFactor

/-- The depth on the capture clock. -/
def RingBufferConfig.depthNs (config : RingBufferConfig) : Nanoseconds :=
  ⌊config.windowSeconds * 1000000000⌋

/-- The bytes of the depth at the bit rate. -/
def RingBufferConfig.nominalBytes (config : RingBufferConfig) : ℚ :=
  config.bitrateBps / 8 * config.windowSeconds

/-! ### The stretches of a tape -/

namespace Tape

/-- The bytes of the frames together. -/
def bytes (frames : List ExtractedFrame) : Nat :=
  (frames.map fun frame => frame.data.length).sum

/-- The length of the largest frame. -/
def longest (frames : List ExtractedFrame) : Nat :=
  frames.foldr (fun frame longest => max frame.data.length longest) 0

/-- The frames not older than the moment. -/
def since (frames : List ExtractedFrame) (ts : Nanoseconds) : List ExtractedFrame :=
  frames.filter fun frame => decide (ts ≤ frame.captureTsNs)

/-- The order of the capture clock. -/
def Ordered (frames : List ExtractedFrame) : Prop :=
  frames.Pairwise fun f g => f.sequence < g.sequence ∧ f.captureTsNs ≤ g.captureTsNs

/-- From the first frame to the newest, a keyframe is never farther back than the time. -/
def HasKeyframeEvery (gop : Nanoseconds) (frames : List ExtractedFrame) : Prop :=
  ∀ first ∈ frames.head?, ∀ newest ∈ frames.getLast?, ∀ ts, first.captureTsNs ≤ ts →
    ts ≤ newest.captureTsNs → ∃ key ∈ frames, key.isKeyframe = true ∧
      ts - gop ≤ key.captureTsNs ∧ key.captureTsNs ≤ ts

variable {frames held : List ExtractedFrame} {window : CaptureWindow} {ts : Nanoseconds}

theorem mem_since {frame : ExtractedFrame} :
    frame ∈ since frames ts ↔ frame ∈ frames ∧ ts ≤ frame.captureTsNs := by
  rw [since, List.mem_filter, decide_eq_true_iff]

/-- What is not too old ends the tape. -/
theorem since_suffix (h : Ordered frames) : since frames ts <:+ frames := by
  induction frames with
  | nil => exact List.suffix_rfl
  | cons frame frames ih =>
    obtain ⟨hlater, hrest⟩ := List.pairwise_cons.mp h
    unfold since
    by_cases hnew : ts ≤ frame.captureTsNs
    · -- nothing behind it is older
      have hall : ∀ f ∈ frame :: frames, decide (ts ≤ f.captureTsNs) = true := by
        intro f hf
        rcases List.mem_cons.mp hf with rfl | hf
        · exact decide_eq_true hnew
        · exact decide_eq_true (Int.le_trans hnew (hlater f hf).2)
      rw [List.filter_eq_self.mpr hall]
    · rw [List.filter_cons_of_neg (by rw [decide_eq_true_iff]; exact hnew)]
      exact (ih hrest).trans (List.suffix_cons _ _)

theorem bytes_le_of_suffix (h : held <:+ frames) : bytes held ≤ bytes frames := by
  obtain ⟨gone, rfl⟩ := h
  rw [bytes, bytes, List.map_append, List.sum_append]
  exact Nat.le_add_left _ _

/-- A frame at the front is not behind any other. -/
theorem head_le (h : Ordered frames) {first frame : ExtractedFrame} (hfirst : frames.head? = some first)
    (hframe : frame ∈ frames) : first.captureTsNs ≤ frame.captureTsNs := by
  obtain ⟨rest, rfl⟩ := List.head?_eq_some_iff.mp hfirst
  rcases List.mem_cons.mp hframe with rfl | hrest
  · exact Int.le_refl _
  · exact ((List.pairwise_cons.mp h).1 frame hrest).2

theorem le_newest (h : Ordered frames) {newest frame : ExtractedFrame}
    (hnewest : frames.getLast? = some newest) (hframe : frame ∈ frames) :
    frame.captureTsNs ≤ newest.captureTsNs := by
  obtain ⟨front, rfl⟩ := List.getLast?_eq_some_iff.mp hnewest
  rcases List.mem_append.mp hframe with hfront | hlast
  · exact ((List.pairwise_append.mp h).2.2 frame hfront newest List.mem_cons_self).2
  · rw [List.mem_singleton.mp hlast]

/-! ### What a torn tape plays -/

/-- The start of the window is not in front of the first keyframe that counts. -/
theorem startOf_of_key {key : ExtractedFrame} (hkey : key ∈ frames) (hkeyframe : key.isKeyframe = true)
    (hstart : key.captureTsNs ≤ window.startNs) :
    ∃ first ∈ frames, startOf frames window = some first ∧ first.captureTsNs ≤ window.startNs ∧
      (frames.filter fun frame =>
        frame.isKeyframe && decide (frame.captureTsNs ≤ window.startNs)).getLast? = some first := by
  have hmem : key ∈ frames.filter fun frame =>
      frame.isKeyframe && decide (frame.captureTsNs ≤ window.startNs) := by
    rw [List.mem_filter, hkeyframe, decide_eq_true hstart]
    exact ⟨hkey, rfl⟩
  obtain ⟨first, hfirst⟩ := Option.isSome_iff_exists.mp
    (List.getLast?_isSome.mpr (List.ne_nil_of_mem hmem))
  obtain ⟨hlive, hp⟩ := List.mem_filter.mp (List.mem_of_getLast? hfirst)
  refine ⟨first, hlive, ?_, of_decide_eq_true (Bool.and_eq_true_iff.mp hp).2, hfirst⟩
  rw [startOf, hfirst]
  rfl

/-- **A torn tape plays a window as the whole one does**, if the window and a keyframe in front of it
are on what is left. -/
theorem play_of_suffix {tape : Tape} (hordered : Ordered tape.frames) (hsuffix : held <:+ tape.frames)
    {key : ExtractedFrame} (hkey : key ∈ held) (hkeyframe : key.isKeyframe = true)
    (hstart : key.captureTsNs ≤ window.startNs)
    (hwithin : ∀ frame ∈ tape.frames, window.contains frame.captureTsNs = true → frame ∈ held) :
    Tape.play { tape with frames := held } window = tape.play window := by
  obtain ⟨gone, hgone⟩ := hsuffix
  obtain ⟨first, hfirst, hheld, -, hlast⟩ := startOf_of_key hkey hkeyframe hstart
  -- the last keyframe up to the start is the same one
  have hwhole : startOf tape.frames window = some first := by
    rw [startOf, ← hgone, List.filter_append, List.getLast?_append, hlast]
    rfl
  have hany : held.any (fun frame => window.contains frame.captureTsNs) =
      tape.frames.any (fun frame => window.contains frame.captureTsNs) := by
    rw [Bool.eq_iff_iff, List.any_eq_true, List.any_eq_true]
    constructor
    · rintro ⟨frame, hframe, hcontains⟩
      exact ⟨frame, hgone ▸ List.mem_append_right _ hframe, hcontains⟩
    · rintro ⟨frame, hframe, hcontains⟩
      exact ⟨frame, hwithin frame hframe hcontains, hcontains⟩
  have hstretch : stretch held window first = stretch tape.frames window first := by
    have hnone : gone.filter (fun frame => decide
        (first.sequence ≤ frame.sequence ∧ frame.captureTsNs ≤ window.endNs)) = [] := by
      rw [List.filter_eq_nil_iff]
      intro frame hframe
      rw [← hgone] at hordered
      have hlt := ((List.pairwise_append.mp hordered).2.2 frame hframe first hfirst).1
      rw [decide_eq_true_iff]
      exact fun h => Nat.not_le.mpr hlt h.1
    rw [stretch, stretch, ← hgone, List.filter_append, hnone, List.nil_append]
  have hnewest : held.getLast? = tape.frames.getLast? := by
    rw [← hgone, List.getLast?_append_of_ne_nil _ (List.ne_nil_of_mem hkey)]
  unfold play
  dsimp only
  rw [hany, hheld, hwhole, hnewest]
  dsimp only
  rw [hstretch]

/-- Nothing is cut off at the start if there is a keyframe in front of it. -/
theorem not_truncated_of_key {tape : Tape} {key : ExtractedFrame} (hkey : key ∈ tape.frames)
    (hkeyframe : key.isKeyframe = true) (hstart : key.captureTsNs ≤ window.startNs)
    {segment : ExtractedSegment} (h : tape.play window = .ok segment) :
    segment.isTruncatedAtStart = false := by
  obtain ⟨first, -, hfirst, hle, -⟩ := startOf_of_key hkey hkeyframe hstart
  unfold play at h
  split at h
  · rw [hfirst] at h
    rw [← Except.ok.inj h]
    exact decide_eq_false (Int.not_lt.mpr hle)
  · cases h

end Tape

/-! ### What is left on the tape -/

namespace MediaBuffer

variable {media : MediaBuffer} {accepted : List FrameDescriptor} {tape : Tape}
  {descriptors : List FrameDescriptor} {frames : List ExtractedFrame}

theorem bytes_of_shows (h : List.Forall₂ Shows descriptors frames) :
    Tape.bytes frames = totalBytes descriptors := by
  induction h with
  | nil => rfl
  | cons hshows htail ih =>
    rw [Tape.bytes, totalBytes, List.map_cons, List.map_cons, List.sum_cons, List.sum_cons]
    exact congrArg₂ (· + ·) hshows.2.2.2 ih

theorem longest_of_shows (h : List.Forall₂ Shows descriptors frames) :
    Tape.longest frames = maxLength descriptors := by
  induction h with
  | nil => rfl
  | cons hshows htail ih =>
    rw [maxLength_cons, ← ih, ← hshows.2.2.2]
    rfl

/-- The number and the time of a descriptor. -/
def stampOf (d : FrameDescriptor) : Nat × Nanoseconds :=
  (d.sequence, d.captureTsNs)

theorem stamps_of_shows (h : List.Forall₂ Shows descriptors frames) :
    (frames.map fun frame => (frame.sequence, frame.captureTsNs)) = descriptors.map stampOf := by
  induction h with
  | nil => rfl
  | cons hshows htail ih =>
    rw [List.map_cons, List.map_cons, ih, hshows.1, hshows.2.1]
    rfl

/-- In the order of arrival and of the clock, like the run of the index. -/
theorem Taped.ordered (h : Taped media accepted tape) : Tape.Ordered tape.frames := by
  have hsequence : (sessionRun accepted).Pairwise fun d e => d.sequence < e.sequence := by
    have hissued : (accepted.map FrameDescriptor.sequence).Pairwise (· < ·) := by
      rw [h.run.issued]
      exact List.pairwise_lt_range
    exact (List.pairwise_map.mp hissued).sublist (sessionRun_suffix accepted).sublist
  have hindex : ((sessionRun accepted).map stampOf).Pairwise fun s t => s.1 < t.1 ∧ s.2 ≤ t.2 :=
    List.pairwise_map.mpr (hsequence.and h.run.run_clock)
  rw [← stamps_of_shows h.shows] at hindex
  exact List.pairwise_map.mp hindex

/-- Eviction has spared the whole tape, or more than the arena less two frames is left of it. -/
theorem Taped.left (h : Taped media accepted tape) :
    media.held = tape.frames ∨
      media.ringBuffer.capacity < Tape.bytes media.held + 2 * Tape.longest tape.frames := by
  have hlength : (sessionRun accepted).length = tape.frames.length := h.shows.length_eq
  have hheldLength : media.held.length = media.ringBuffer.frames.length := List.length_map _
  -- the two ends have one length, so they show each other
  have hshows : List.Forall₂ Shows media.ringBuffer.frames media.held := by
    have hindex := List.suffix_iff_eq_drop.mp h.run.suffix
    have htape := List.suffix_iff_eq_drop.mp h.held
    rw [hheldLength, ← hlength] at htape
    rw [htape, hindex, ← hindex]
    have hdrop := List.forall₂_drop ((sessionRun accepted).length - media.ringBuffer.frames.length)
      h.shows
    rwa [← hindex] at hdrop
  rcases h.occupancy with ⟨edge, hlaps⟩ | ⟨leftover, current, front, back, hwrapped⟩
  · left
    apply h.held.eq_of_length
    rw [hheldLength, hlaps.frames_eq, List.nil_append, hlength]
  · right
    rw [bytes_of_shows hshows, longest_of_shows h.shows]
    exact hwrapped.lt_totalBytes

/-- What fits beside two frames of the largest size is held. -/
theorem Taped.held_of_room (h : Taped media accepted tape) {recent : List ExtractedFrame}
    (hrecent : recent <:+ tape.frames)
    (hroom : Tape.bytes recent + 2 * Tape.longest tape.frames ≤ media.ringBuffer.capacity) :
    recent <:+ media.held := by
  rcases h.left with hall | hlt
  · rw [hall]
    exact hrecent
  · rcases List.suffix_or_suffix_of_suffix hrecent h.held with hheld | hheld
    · exact hheld
    · have := Tape.bytes_le_of_suffix hheld
      omega

/-- Within the depth, nothing shows that frames have been lost. -/
theorem Taped.play_of_depth (h : Taped media accepted tape) {depth gop : Nanoseconds}
    {window : CaptureWindow} (hgop : 0 ≤ gop) (hdepth : gop ≤ depth)
    (hroom : ∀ newest ∈ tape.frames.getLast?,
      Tape.bytes (Tape.since tape.frames (newest.captureTsNs - depth)) +
        2 * Tape.longest tape.frames ≤ media.ringBuffer.capacity)
    (hkeys : Tape.HasKeyframeEvery gop tape.frames)
    (hwindow : ∀ newest ∈ tape.frames.getLast?,
      newest.captureTsNs - depth + gop ≤ window.startNs) :
    media.asTape.play window = tape.play window ∧
      ∀ segment, tape.play window = .ok segment →
        (∃ first ∈ tape.frames.head?, first.captureTsNs ≤ window.startNs) →
          segment.isTruncatedAtStart = false := by
  have hordered := h.ordered
  cases hnewest : tape.frames.getLast? with
  | none =>
    -- nothing on the tape, nothing held
    have hempty := List.getLast?_eq_none_iff.mp hnewest
    have hheld := h.held
    rw [hempty, List.suffix_nil] at hheld
    unfold Tape.play asTape
    dsimp only
    rw [hempty, hheld]
    refine ⟨rfl, ?_⟩
    rintro segment - ⟨first, hfirst, -⟩
    cases hfirst
  | some newest =>
    have hroom := hroom newest hnewest
    have hwindow := hwindow newest hnewest
    have hne : tape.frames ≠ [] := by
      intro hnil
      rw [hnil] at hnewest
      cases hnewest
    obtain ⟨first, rest, hfirst⟩ := List.exists_cons_of_ne_nil hne
    replace hfirst : tape.frames.head? = some first := by
      rw [hfirst]
      rfl
    -- what is no older than the depth has not been overwritten
    have hrecent := h.held_of_room (Tape.since_suffix hordered) hroom
    have hsession : media.asTape = { tape with frames := media.held } := by
      obtain ⟨hid, -⟩ := h.session hne
      rw [asTape, hid, h.nextSequence]
    rw [hsession]
    have hfirst_le : ∀ frame ∈ tape.frames, first.captureTsNs ≤ frame.captureTsNs :=
      fun frame hframe => Tape.head_le hordered hfirst hframe
    by_cases hstart : first.captureTsNs ≤ window.startNs
    · -- a keyframe within the depth stands in front of the window
      have hkey : ∃ key ∈ media.held, key.isKeyframe = true ∧ key.captureTsNs ≤ window.startNs := by
        have hend := hfirst_le newest (List.mem_of_getLast? hnewest)
        obtain ⟨key, hkey, hkeyframe, hlow, hhigh⟩ := hkeys first hfirst newest hnewest
          (min window.startNs newest.captureTsNs) (le_min hstart hend) (min_le_right _ _)
        have hmin : newest.captureTsNs - depth + gop ≤ min window.startNs newest.captureTsNs :=
          le_min hwindow (by linarith)
        refine ⟨key, hrecent.subset (Tape.mem_since.mpr ⟨hkey, ?_⟩), hkeyframe, ?_⟩
        · linarith
        · exact hhigh.trans (min_le_left _ _)
      obtain ⟨key, hkey, hkeyframe, hle⟩ := hkey
      refine ⟨Tape.play_of_suffix hordered h.held hkey hkeyframe hle ?_, ?_⟩
      · intro frame hframe hcontains
        refine hrecent.subset (Tape.mem_since.mpr ⟨hframe, ?_⟩)
        have := (contains_iff.mp hcontains).1
        linarith
      · intro segment hsegment _
        exact Tape.not_truncated_of_key (h.held.subset hkey) hkeyframe hle hsegment
    · -- the session is younger than the depth, so all of it is held
      have hall : media.held = tape.frames := by
        have hsince : Tape.since tape.frames (newest.captureTsNs - depth) = tape.frames := by
          refine List.filter_eq_self.mpr fun frame hframe => decide_eq_true ?_
          have := hfirst_le frame hframe
          linarith
        rw [hsince] at hrecent
        exact h.held.eq_of_length (Nat.le_antisymm h.held.length_le hrecent.length_le)
      rw [hall]
      refine ⟨rfl, ?_⟩
      rintro segment - ⟨first', hfirst', hle⟩
      rw [Option.mem_def, hfirst] at hfirst'
      rw [← Option.some.inj hfirst'] at hle
      exact absurd hle hstart

end MediaBuffer

/-! ### The configured depth -/

/-- The stream is what the configuration has been made for. -/
structure RingBufferConfig.WithinBudget (config : RingBufferConfig) (frames : List ExtractedFrame) :
    Prop where
  /-- Over the depth, the encoder keeps to its bit rate. -/
  rate : ∀ newest ∈ frames.getLast?,
    (Tape.bytes (Tape.since frames (newest.captureTsNs - config.depthNs)) : ℚ) ≤ config.nominalBytes
  /-- What the factor adds has room for two frames. -/
  slack : 2 * (Tape.longest frames : ℚ) ≤
    (config.safetyFactor * (1 - 1 / 2 ^ 51) - 1) * config.nominalBytes

namespace BufferCapacity

variable {capacity : BufferCapacity} {n : Nat} {x : ℚ}

theorem totalBytes_of_create (h : create n = .ok capacity) : capacity.totalBytes = n := by
  unfold create at h
  split at h
  · rw [← Except.ok.inj h]
  · cases h

/-- A `double` is hardly below the number it stands for. -/
theorem le_toDouble (hx : 0 ≤ x) : x * (1 - 1 / 2 ^ 53) ≤ Http.toDouble x := by
  have hnear : |Http.toDouble x - x| ≤ x / 2 ^ 53 := toBinary_near hx
  have hlow := (abs_le.mp hnear).1
  calc x * (1 - 1 / 2 ^ 53) = x - x / 2 ^ 53 := by ring
    _ ≤ Http.toDouble x := by linarith

theorem toDouble_nonneg (hx : 0 ≤ x) : 0 ≤ Http.toDouble x :=
  toBinary_nonneg hx

theorem toDouble_natCast (h : n < 2 ^ 53) : Http.toDouble n = n :=
  toBinary_natCast h

/-- Each of the four roundings takes at most its part. -/
theorem le_encodedStreamBytes (bitrateBps : Nat) {windowSeconds safetyFactor : ℚ}
    (hwindow : 0 ≤ windowSeconds) (hfactor : 0 ≤ safetyFactor) :
    bitrateBps / 8 * windowSeconds * safetyFactor * (1 - 1 / 2 ^ 51) ≤
      encodedStreamBytes bitrateBps windowSeconds safetyFactor := by
  have hrate : (0 : ℚ) ≤ bitrateBps := Nat.cast_nonneg _
  have hone : (0 : ℚ) ≤ 1 - 1 / 2 ^ 53 := by norm_num
  have hkeep : ((1 : ℚ) - 1 / 2 ^ 51) ≤ (1 - 1 / 2 ^ 53) ^ 4 := by norm_num
  have h₁ := le_toDouble hrate
  have h₁' := toDouble_nonneg hrate
  have h₂ := le_toDouble (div_nonneg h₁' (by norm_num : (0 : ℚ) ≤ 8))
  have h₂' := toDouble_nonneg (div_nonneg h₁' (by norm_num : (0 : ℚ) ≤ 8))
  have h₃ := le_toDouble (mul_nonneg h₂' hwindow)
  have h₃' := toDouble_nonneg (mul_nonneg h₂' hwindow)
  have h₄ := le_toDouble (mul_nonneg h₃' hfactor)
  unfold encodedStreamBytes
  calc bitrateBps / 8 * windowSeconds * safetyFactor * (1 - 1 / 2 ^ 51)
      ≤ bitrateBps / 8 * windowSeconds * safetyFactor * (1 - 1 / 2 ^ 53) ^ 4 :=
        mul_le_mul_of_nonneg_left hkeep (by positivity)
    _ = bitrateBps * (1 - 1 / 2 ^ 53) / 8 * (1 - 1 / 2 ^ 53) * windowSeconds *
          (1 - 1 / 2 ^ 53) * safetyFactor * (1 - 1 / 2 ^ 53) := by ring
    _ ≤ Http.toDouble bitrateBps / 8 * (1 - 1 / 2 ^ 53) * windowSeconds *
          (1 - 1 / 2 ^ 53) * safetyFactor * (1 - 1 / 2 ^ 53) := by gcongr
    _ ≤ Http.toDouble (Http.toDouble bitrateBps / 8) * windowSeconds *
          (1 - 1 / 2 ^ 53) * safetyFactor * (1 - 1 / 2 ^ 53) := by gcongr
    _ ≤ Http.toDouble (Http.toDouble (Http.toDouble bitrateBps / 8) * windowSeconds) *
          safetyFactor * (1 - 1 / 2 ^ 53) := by gcongr
    _ ≤ _ := h₄

end BufferCapacity

namespace RingBufferConfig

variable {config : RingBufferConfig} {capacity : BufferCapacity} {frames : List ExtractedFrame}

/-- The arena has room for the depth, and for two frames beside it. -/
theorem WithinBudget.room (h : config.WithinBudget frames) (hconfig : config.capacity = .ok capacity)
    (hwindow : 0 ≤ config.windowSeconds) (hfactor : 0 ≤ config.safetyFactor) :
    ∀ newest ∈ frames.getLast?,
      Tape.bytes (Tape.since frames (newest.captureTsNs - config.depthNs)) +
        2 * Tape.longest frames ≤ capacity.totalBytes := by
  intro newest hnewest
  rw [BufferCapacity.totalBytes_of_create hconfig]
  apply Nat.le_floor
  push_cast
  calc (Tape.bytes (Tape.since frames (newest.captureTsNs - config.depthNs)) : ℚ) +
        2 * Tape.longest frames
      ≤ config.nominalBytes +
          (config.safetyFactor * (1 - 1 / 2 ^ 51) - 1) * config.nominalBytes :=
        add_le_add (h.rate newest hnewest) h.slack
    _ = config.bitrateBps / 8 * config.windowSeconds * config.safetyFactor * (1 - 1 / 2 ^ 51) := by
        rw [nominalBytes]
        ring
    _ ≤ _ := BufferCapacity.le_encodedStreamBytes config.bitrateBps hwindow hfactor

end RingBufferConfig

namespace MediaBuffer

/-- **The configured depth is there**, after every run of ingests: a window that begins within it, less
the time of a group, is answered as if no frame of the session had ever been evicted, and is not cut off
at its start if the session had begun by then. -/
theorem configured_depth {config : RingBufferConfig} {capacity : BufferCapacity}
    {store : SharedMemoryFrameStore} {gop : Nanoseconds} {window : CaptureWindow}
    (frames : List CapturedFrame) (hconfig : config.capacity = .ok capacity)
    (hseconds : 0 ≤ config.windowSeconds) (hfactor : 0 ≤ config.safetyFactor)
    (hcap : store.capacityBytes = capacity.totalBytes) (hopen : store.isClosed = false)
    (hbudget : config.WithinBudget (tapeAll capacity.totalBytes frames).frames)
    (hgop : 0 ≤ gop) (hdepth : gop ≤ config.depthNs)
    (hkeys : Tape.HasKeyframeEvery gop (tapeAll capacity.totalBytes frames).frames)
    (hwindow : ∀ newest ∈ (tapeAll capacity.totalBytes frames).frames.getLast?,
      newest.captureTsNs - config.depthNs + gop ≤ window.startNs) :
    extractCaptureWindow (ingestAll capacity store frames).1 window =
        ((tapeAll capacity.totalBytes frames).play window).mapError .domain ∧
      ∀ segment, (tapeAll capacity.totalBytes frames).play window = .ok segment →
        (∃ first ∈ (tapeAll capacity.totalBytes frames).frames.head?,
          first.captureTsNs ≤ window.startNs) → segment.isTruncatedAtStart = false := by
  obtain ⟨hcapacity, accepted, h⟩ := ingestAll_taped hcap hopen frames
  have hroom := hbudget.room hconfig hseconds hfactor
  obtain ⟨hplay, hstart⟩ := h.play_of_depth hgop hdepth
    (fun newest hnewest => (hroom newest hnewest).trans_eq hcapacity.symm) hkeys hwindow
  refine ⟨?_, hstart⟩
  rw [h.extract, hplay]

/-- Eighty bits a second for one second, and half as much on top. -/
def slowCamera : RingBufferConfig :=
  { windowSeconds := 1, bitrateBps := 80 }

theorem fifteen_pos : 0 < 15 := by decide

theorem capacity_slowCamera : slowCamera.capacity = .ok ⟨15, fifteen_pos⟩ := by
  have hbytes : encodedStreamBytes 80 1 (3 / 2) = 15 := by
    have h₁ : Http.toDouble ((80 : Nat) : ℚ) = (80 : Nat) :=
      BufferCapacity.toDouble_natCast (by norm_num)
    have h₂ : Http.toDouble (10 : ℚ) = 10 := by
      exact_mod_cast BufferCapacity.toDouble_natCast (n := 10) (by norm_num)
    have h₃ : Http.toDouble (15 : ℚ) = 15 := by
      exact_mod_cast BufferCapacity.toDouble_natCast (n := 15) (by norm_num)
    rw [encodedStreamBytes, h₁, show ((80 : Nat) : ℚ) / 8 = 10 by norm_num, h₂,
      show (10 : ℚ) * 1 = 10 by norm_num, h₂, show (10 : ℚ) * (3 / 2) = 15 by norm_num, h₃]
  show BufferCapacity.create ⌊encodedStreamBytes 80 1 (3 / 2)⌋₊ = _
  rw [hbytes, show ⌊(15 : ℚ)⌋₊ = 15 from Nat.floor_ofNat 15]
  rfl

/-- A frame of two bytes, four times a second. -/
def quarterFrame (index : Nat) : CapturedFrame :=
  ⟨250000000 * index, [index.toUInt8, 0], true, "live"⟩

def quarterFrames : List CapturedFrame :=
  (List.range 8).map quarterFrame

theorem tape_quarterFrames : (tapeAll 15 quarterFrames).frames =
    (List.range 8).map fun index => asHeld index (quarterFrame index) := by
  rfl

theorem lastHalf_ordered : (1250000000 : Nanoseconds) < 1750000000 := by decide

/-- The quarter of a moment. -/
theorem quarter_bounds {ts : Int} (hlow : 0 ≤ ts) (hhigh : ts ≤ 1750000000) :
    (ts / 250000000).toNat < 8 ∧ ts - 250000000 ≤ 250000000 * ((ts / 250000000).toNat : Int) ∧
      250000000 * ((ts / 250000000).toNat : Int) ≤ ts := by
  omega

/-- Sixteen bytes have arrived, so the first frame is gone; the last half second is there. -/
theorem configured_depth_slowCamera :
    extractCaptureWindow (ingestAll ⟨15, fifteen_pos⟩ (.create "ring" ⟨15, fifteen_pos⟩)
        quarterFrames).1 ⟨1250000000, 1750000000, lastHalf_ordered⟩ =
      ((tapeAll 15 quarterFrames).play
        ⟨1250000000, 1750000000, lastHalf_ordered⟩).mapError .domain := by
  have hseconds : slowCamera.windowSeconds = 1 := rfl
  have hdepth : slowCamera.depthNs = 1000000000 := by
    rw [RingBufferConfig.depthNs, hseconds, one_mul]
    exact Int.floor_ofNat _
  have hnominal : slowCamera.nominalBytes = 10 := by
    rw [RingBufferConfig.nominalBytes, hseconds]
    show ((80 : Nat) : ℚ) / 8 * 1 = 10
    norm_num
  have hnewest : ∀ newest ∈ (tapeAll 15 quarterFrames).frames.getLast?,
      newest.captureTsNs = 1750000000 := by
    intro newest hnewest
    rw [tape_quarterFrames] at hnewest
    obtain rfl := Option.some.inj hnewest
    rfl
  have hgop : (0 : Nanoseconds) ≤ 250000000 := by decide
  refine (configured_depth quarterFrames capacity_slowCamera ?_ ?_ rfl rfl ⟨?_, ?_⟩ hgop
    ?_ ?_ ?_).1
  · norm_num [hseconds]
  · show (0 : ℚ) ≤ 3 / 2
    norm_num
  · intro newest hlast
    have hbytes : Tape.bytes (Tape.since (tapeAll 15 quarterFrames).frames 750000000) = 10 := by
      rfl
    rw [hnewest newest hlast, hdepth, hnominal]
    exact_mod_cast hbytes.le
  · rw [hnominal, show Tape.longest (tapeAll 15 quarterFrames).frames = 2 by rfl]
    show 2 * ((2 : Nat) : ℚ) ≤ (3 / 2 * (1 - 1 / 2 ^ 51) - 1) * 10
    norm_num
  · rw [hdepth]
    decide
  · -- the keyframe of the quarter
    intro first hfirst newest hlast ts hlow hhigh
    rw [hnewest newest hlast] at hhigh
    have hzero : first.captureTsNs = 0 := by
      rw [tape_quarterFrames] at hfirst
      obtain rfl := Option.some.inj hfirst
      rfl
    rw [hzero] at hlow
    obtain ⟨hlt, hbehind, hbefore⟩ := quarter_bounds hlow hhigh
    have hkey := List.mem_map_of_mem (f := fun index => asHeld index (quarterFrame index))
      (List.mem_range.mpr hlt)
    rw [← tape_quarterFrames] at hkey
    exact ⟨_, hkey, rfl, hbehind, hbefore⟩
  · intro newest hlast
    rw [hnewest newest hlast, hdepth]
    decide

end MediaBuffer

end Ods.S4
