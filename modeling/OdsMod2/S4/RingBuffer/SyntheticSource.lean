import OdsMod2.Framework.TwosComplement
import OdsMod2.S4.RingBuffer.Sizing

/-!
# From the synthetic source to the segment

`SyntheticFrameSource` makes up a stream: a large keyframe every so many frames, small frames between
them, at the pace of a frame rate, and in each frame its own number. A test compares what comes out of
the buffer with what must have gone in, frame by frame.

That is sound. Whatever the rate, the size of a group and the sizes of the frames, the buffer turns
none of them down if both sizes fit, so the newest frames are held with no gap. A segment is a run of
consecutive frames of the source: it begins with the last group that is not after the start of the
window, and goes on to the last frame that is not after its end (`synthetic_segment`). The times are
formed in floating point; that they never go back, as long as they are times of 64 bits, rests on the
order that rounding keeps.
-/

namespace Ods.S4

open BinaryRounding MediaBuffer RingBuffer TwosComplement

/-! ### The source -/

structure SyntheticSourceOptions where
  fps : ℚ := 30
  gop : Nat := 30
  keyframeBytes : Nat := 60000
  deltaBytes : Nat := 12000
  sessionId : String := "synthetic-session-1"
  startTsNs : Nanoseconds := 0
  /-- No limit if it is zero. -/
  maxFrames : Nat := 0

structure SyntheticFrameSource where
  options : SyntheticSourceOptions
  fps_pos : 0 < options.fps
  gop_pos : 0 < options.gop

namespace SyntheticFrameSource

/-- The constructor. -/
def create (options : SyntheticSourceOptions) : Except ApplicationError SyntheticFrameSource :=
  if h : options.fps ≤ 0 ∨ options.gop = 0 then
    .error ⟨.frameSource, "fps and gop must be positive"⟩
  else
    .ok {
      options := options
      fps_pos := not_le.mp fun hfps => h (.inl hfps)
      gop_pos := Nat.pos_of_ne_zero fun hgop => h (.inr hgop) }

variable (source : SyntheticFrameSource)

def isKeyframeAt (index : Nat) : Bool :=
  index % source.options.gop == 0

/-- The length of the payload. -/
def sizeAt (index : Nat) : Nat :=
  if source.isKeyframeAt index then source.options.keyframeBytes else source.options.deltaBytes

/-- The first four bytes are the index, the high ones first; the others are its low byte. -/
def payloadAt (index : Nat) : List UInt8 :=
  (List.range (min 4 (source.sizeAt index))).foldl
    (fun payload byte => payload.set byte (index / 2 ^ (8 * (3 - byte)) % 256).toUInt8)
    (List.replicate (source.sizeAt index) (index % 256).toUInt8)

/-- What the division gives before it is cut down to whole nanoseconds. -/
def offsetAt (index : Nat) : ℚ :=
  Http.toDouble (Http.toDouble (Http.toDouble index * 1000000000) / source.options.fps)

/-- An offset of more than 64 bits has no defined conversion; `InRange` leaves it out. -/
def timestampAt (index : Nat) : Nanoseconds :=
  wrap (source.options.startTsNs + wrap ⌊source.offsetAt index⌋₊)

/-- The times of so many frames are of 64 bits. -/
def InRange (n : Nat) : Prop :=
  ∀ index < n, Fits ⌊source.offsetAt index⌋₊ ∧
    Fits (source.options.startTsNs + ⌊source.offsetAt index⌋₊)

/-- What is delivered at the index. -/
def frameAt (index : Nat) : CapturedFrame where
  captureTsNs := source.timestampAt index
  data := source.payloadAt index
  isKeyframe := source.isKeyframeAt index
  sessionId := source.options.sessionId

/-- The loop of `produce`, over so many rounds until `stop` is seen. -/
def produce : Nat → Nat → List CapturedFrame
  | 0, _ => []
  | rounds + 1, index =>
    if source.options.maxFrames ≠ 0 ∧ source.options.maxFrames ≤ index then []
    else source.frameAt index :: produce rounds (index + 1)

variable {source : SyntheticFrameSource} {index index' n : Nat}

/-! ### A single frame -/

@[simp] theorem length_payloadAt : (source.payloadAt index).length = source.sizeAt index := by
  unfold payloadAt
  suffices h : ∀ (bytes : List Nat) (payload : List UInt8), (bytes.foldl (fun payload byte =>
      payload.set byte (index / 2 ^ (8 * (3 - byte)) % 256).toUInt8) payload).length =
        payload.length by
    rw [h, List.length_replicate]
  intro bytes
  induction bytes with
  | nil => exact fun payload => rfl
  | cons byte bytes ih =>
    intro payload
    rw [List.foldl_cons, ih, List.length_set]

/-- The bytes in front, if there are four. -/
theorem take_payloadAt (h : 4 ≤ source.sizeAt index) : (source.payloadAt index).take 4 =
    [(index / 2 ^ 24 % 256).toUInt8, (index / 2 ^ 16 % 256).toUInt8, (index / 2 ^ 8 % 256).toUInt8,
      (index / 2 ^ 0 % 256).toUInt8] := by
  obtain ⟨rest, hrest⟩ := Nat.exists_eq_add_of_le' h
  rw [payloadAt, Nat.min_eq_left h, hrest, List.replicate_succ, List.replicate_succ,
    List.replicate_succ, List.replicate_succ]
  rfl

theorem toUInt8_inj {m n : Nat} (h : (m % 256).toUInt8 = (n % 256).toUInt8) : m % 256 = n % 256 := by
  have hbytes := congrArg UInt8.toNat h
  simpa using hbytes

/-- **A payload names its frame**, among the first `2 ^ 32`. -/
theorem payloadAt_injective (h : 4 ≤ source.sizeAt index) (h' : 4 ≤ source.sizeAt index')
    (hlt : index < 2 ^ 32) (hlt' : index' < 2 ^ 32)
    (heq : source.payloadAt index = source.payloadAt index') : index = index' := by
  have hfront := congrArg (List.take 4) heq
  rw [take_payloadAt h, take_payloadAt h'] at hfront
  simp only [List.cons.injEq, and_true] at hfront
  obtain ⟨h₃, h₂, h₁, h₀⟩ := hfront
  have h₃ := toUInt8_inj h₃
  have h₂ := toUInt8_inj h₂
  have h₁ := toUInt8_inj h₁
  have h₀ := toUInt8_inj h₀
  omega

theorem InRange.of_le {m : Nat} (h : source.InRange n) (hle : m ≤ n) : source.InRange m :=
  fun index hlt => h index (hlt.trans_le hle)

theorem InRange.timestampAt_eq (h : source.InRange n) (hlt : index < n) :
    source.timestampAt index = source.options.startTsNs + ⌊source.offsetAt index⌋₊ := by
  obtain ⟨hoffset, hsum⟩ := h index hlt
  rw [timestampAt, wrap_of_fits hoffset, wrap_of_fits hsum]

/-- **The times never go back**, whatever is rounded on the way. -/
theorem InRange.timestampAt_mono (hrange : source.InRange n) (h : index ≤ index')
    (hlt : index' < n) :
    source.timestampAt index ≤ source.timestampAt index' := by
  have hfps := source.fps_pos
  have hindex : (0 : ℚ) ≤ index := Nat.cast_nonneg _
  have hcast : (index : ℚ) ≤ index' := by exact_mod_cast h
  have hfirst : Http.toDouble index ≤ Http.toDouble index' := toBinary_mono hindex hcast
  have hfirst' := BufferCapacity.toDouble_nonneg hindex
  have hnanos : Http.toDouble (Http.toDouble index * 1000000000) ≤
      Http.toDouble (Http.toDouble index' * 1000000000) :=
    toBinary_mono (by positivity) (by linarith)
  have hnanos' : 0 ≤ Http.toDouble (Http.toDouble index * 1000000000) :=
    BufferCapacity.toDouble_nonneg (by positivity)
  have hoffset : source.offsetAt index ≤ source.offsetAt index' :=
    toBinary_mono (div_nonneg hnanos' hfps.le) (div_le_div_of_nonneg_right hnanos hfps.le)
  have hfloor := Nat.floor_le_floor hoffset
  rw [hrange.timestampAt_eq (h.trans_lt hlt), hrange.timestampAt_eq hlt]
  exact Int.add_le_add_left (by exact_mod_cast hfloor) _

/-! ### The stream -/

/-- So many frames come of so many rounds. -/
def count (source : SyntheticFrameSource) (rounds : Nat) : Nat :=
  if source.options.maxFrames = 0 then rounds else min rounds source.options.maxFrames

theorem produce_eq (rounds : Nat) :
    source.produce rounds index = (List.range' index
      (if source.options.maxFrames = 0 then rounds
        else min rounds (source.options.maxFrames - index))).map source.frameAt := by
  induction rounds generalizing index with
  | zero => simp [produce]
  | succ rounds ih =>
    rw [produce]
    split
    · next hend =>
      rw [if_neg hend.1, Nat.sub_eq_zero_of_le hend.2, Nat.min_zero]
      rfl
    · next hgoes =>
      rw [ih]
      by_cases hmax : source.options.maxFrames = 0
      · rw [if_pos hmax, if_pos hmax, List.range'_succ]
        rfl
      · have hlt : index < source.options.maxFrames :=
          Nat.lt_of_not_le fun hle => hgoes ⟨hmax, hle⟩
        have hmin : min (rounds + 1) (source.options.maxFrames - index) =
            min rounds (source.options.maxFrames - (index + 1)) + 1 := by omega
        rw [if_neg hmax, if_neg hmax, hmin, List.range'_succ]
        rfl

theorem produce_zero (rounds : Nat) :
    source.produce rounds 0 = (List.range (source.count rounds)).map source.frameAt := by
  rw [produce_eq, List.range_eq_range']
  rfl

/-- What the buffer holds of the frame. -/
def heldAt (source : SyntheticFrameSource) (index : Nat) : ExtractedFrame :=
  asHeld index (source.frameAt index)

/-- Both sizes are ones the arena takes. -/
def Fits (source : SyntheticFrameSource) (capacity : BufferCapacity) : Prop :=
  (0 < source.options.keyframeBytes ∧ source.options.keyframeBytes ≤ capacity.totalBytes) ∧
    0 < source.options.deltaBytes ∧ source.options.deltaBytes ≤ capacity.totalBytes

theorem Fits.sizeAt {capacity : BufferCapacity} (h : source.Fits capacity) (index : Nat) :
    0 < source.sizeAt index ∧ source.sizeAt index ≤ capacity.totalBytes := by
  unfold SyntheticFrameSource.sizeAt
  split
  · exact h.1
  · exact h.2

/-- **No frame of the source is turned down.** -/
theorem tapeAll_produce {capacity : BufferCapacity} (h : source.Fits capacity)
    (hrange : source.InRange n) :
    tapeAll capacity.totalBytes ((List.range n).map source.frameAt) =
      ⟨if n = 0 then "" else source.options.sessionId, (List.range n).map source.heldAt, n⟩ := by
  induction n with
  | zero => rfl
  | succ n ih =>
    have ih := ih (hrange.of_le n.le_succ)
    rw [List.range_succ, List.map_append, List.map_append, tapeAll, List.foldl_append]
    change Tape.record capacity.totalBytes
      (tapeAll capacity.totalBytes ((List.range n).map source.frameAt)) (source.frameAt n) = _
    rw [ih]
    -- the session is the source's from the first frame on
    have hopened : Tape.openedFor ⟨if n = 0 then "" else source.options.sessionId,
        (List.range n).map source.heldAt, n⟩ (source.frameAt n).sessionId =
          (List.range n).map source.heldAt := by
      unfold Tape.openedFor
      by_cases hzero : n = 0
      · subst hzero
        exact ite_self _
      · exact if_pos (if_neg hzero)
    have hlength : (source.frameAt n).length = source.sizeAt n := length_payloadAt
    have hnot : ¬ Tape.Refuses capacity.totalBytes ⟨if n = 0 then "" else source.options.sessionId,
        (List.range n).map source.heldAt, n⟩ (source.frameAt n) := by
      obtain ⟨hpos, hle⟩ := h.sizeAt n
      rintro (hzero | hlarge | ⟨newest, hnewest, hback⟩)
      · omega
      · omega
      · rw [hopened] at hnewest
        obtain ⟨i, hi, rfl⟩ := List.mem_map.mp (List.mem_of_getLast? hnewest)
        exact absurd (hrange.timestampAt_mono (List.mem_range.mp hi).le n.lt_succ_self)
          (Int.not_le.mpr hback)
    rw [Tape.record, if_neg hnot, hopened, if_neg (Nat.succ_ne_zero n)]
    rfl

/-! ### What comes out -/

/-- The numbers up to which something holds. -/
theorem exists_filter_range' (p : Nat → Bool) (first n : Nat)
    (hdown : ∀ i j, i ≤ j → j < first + n → p j = true → p i = true) :
    ∃ count ≤ n, (List.range' first n).filter p = List.range' first count ∧
      (count = n ∨ p (first + count) = false) := by
  induction n generalizing first with
  | zero => exact ⟨0, le_rfl, rfl, Or.inl rfl⟩
  | succ n ih =>
    rw [List.range'_succ]
    cases hp : p first with
    | true =>
      obtain ⟨count, hle, hfilter, hlast⟩ := ih (first + 1) fun i j hij hj =>
        hdown i j hij (hj.trans_eq (Nat.succ_add_eq_add_succ first n))
      refine ⟨count + 1, Nat.succ_le_succ hle, ?_, ?_⟩
      · rw [List.filter_cons_of_pos hp, hfilter, List.range'_succ]
      · rw [show first + (count + 1) = first + 1 + count by omega]
        exact hlast.imp_left (congrArg (· + 1))
    | false =>
      -- nothing behind it is left either
      refine ⟨0, Nat.zero_le _, ?_, Or.inr hp⟩
      refine List.filter_eq_nil_iff.mpr fun i hi hpi => ?_
      have hin : first ≤ i ∧ i < first + (n + 1) := by
        rcases List.mem_cons.mp hi with rfl | hi
        · omega
        · have := List.mem_range'_1.mp hi
          omega
      exact ne_true_of_eq_false hp (hdown first i hin.1 hin.2 hpi)

section Ordered

variable {numbers : List Nat} {number other : Nat}

theorem le_of_getLast? (h : numbers.Pairwise (· < ·)) (hlast : numbers.getLast? = some number)
    (hother : other ∈ numbers) : other ≤ number := by
  obtain ⟨before, rfl⟩ := List.getLast?_eq_some_iff.mp hlast
  rcases List.mem_append.mp hother with hbefore | hother
  · exact ((List.pairwise_append.mp h).2.2 other hbefore number (List.mem_singleton_self _)).le
  · exact (List.mem_singleton.mp hother).le

theorem le_of_head? (h : numbers.Pairwise (· < ·)) (hhead : numbers.head? = some number)
    (hother : other ∈ numbers) : number ≤ other := by
  obtain ⟨rest, rfl⟩ := List.head?_eq_some_iff.mp hhead
  rcases List.mem_cons.mp hother with rfl | hrest
  · exact le_rfl
  · exact ((List.pairwise_cons.mp h).1 other hrest).le

end Ordered

/-- Where a segment of the window begins, of the frames from `oldest` on. -/
structure IsOpening (source : SyntheticFrameSource) (oldest n : Nat) (window : CaptureWindow)
    (first : Nat) : Prop where
  held : oldest ≤ first ∧ first < n
  group : source.options.gop ∣ first
  /-- It is the last group that is not after the start, if there is one. -/
  last : ∀ index, first < index → index < n → source.options.gop ∣ index →
    window.startNs < source.timestampAt index
  /-- Otherwise it is the first group that is held, and is within the window. -/
  late : window.startNs < source.timestampAt first → source.timestampAt first ≤ window.endNs ∧
    ∀ index, oldest ≤ index → index < first → ¬ source.options.gop ∣ index

/-- What a segment of the source's stream is. -/
structure IsStretch (source : SyntheticFrameSource) (oldest n : Nat) (window : CaptureWindow)
    (segment : ExtractedSegment) (first count : Nat) : Prop where
  /-- Consecutive frames, byte for byte what the source makes of their numbers. -/
  frames : segment.frames = (List.range' first count).map source.heldAt
  delivered : first + count ≤ n
  nonempty : 0 < count
  opening : source.IsOpening oldest n window first
  /-- None of them is after the end of the window. -/
  within : ∀ index < first + count, source.timestampAt index ≤ window.endNs
  /-- It goes on as far as the window does, or as the stream has come. -/
  last : first + count = n ∨ window.endNs < source.timestampAt (first + count)
  truncated : segment.isTruncatedAtStart = true ↔ window.startNs < source.timestampAt first

theorem isKeyframeAt_iff : source.isKeyframeAt index = true ↔ source.options.gop ∣ index := by
  rw [isKeyframeAt, beq_iff_eq, Nat.dvd_iff_mod_eq_zero]

/-- The newest frames of the stream. -/
theorem exists_range'_of_suffix {frames : List ExtractedFrame} {n : Nat}
    (h : frames <:+ (List.range n).map source.heldAt) :
    ∃ oldest ≤ n, frames = (List.range' oldest (n - oldest)).map source.heldAt := by
  have hdrop := List.suffix_iff_eq_drop.mp h
  rw [List.length_map, List.length_range, List.range_eq_range', ← List.map_drop, List.drop_range',
    Nat.zero_add, Nat.mul_one] at hdrop
  exact ⟨n - frames.length, Nat.sub_le _ _, hdrop⟩

/-- The frames from a number on that are not later than the window. -/
theorem stretch_eq {held : List ExtractedFrame} {window : CaptureWindow} {oldest first count n : Nat}
    (hoffset : oldest ≤ first) (hle : first ≤ n)
    (hheld : held = (List.range' oldest (n - oldest)).map source.heldAt)
    (hfilter : (List.range' first (n - first)).filter
      (fun i => decide (source.timestampAt i ≤ window.endNs)) = List.range' first count) :
    Tape.stretch held window (source.heldAt first) =
      (List.range' first count).map source.heldAt := by
  have hsplit : List.range' oldest (n - oldest) =
      List.range' oldest (first - oldest) ++ List.range' first (n - first) := by
    refine List.range'_eq_append_iff.mpr ⟨first - oldest, by omega, rfl, ?_⟩
    rw [Nat.mul_one, Nat.add_sub_cancel' hoffset, show n - oldest - (first - oldest) = n - first by omega]
  have hbefore : (List.range' oldest (first - oldest)).filter (fun i => decide
      (first ≤ i ∧ source.timestampAt i ≤ window.endNs)) = [] := by
    refine List.filter_eq_nil_iff.mpr fun i hi => ?_
    have hlt := (List.mem_range'_1.mp hi).2
    rw [decide_eq_true_iff]
    exact fun h => absurd h.1 (by omega)
  have hafter : (List.range' first (n - first)).filter (fun i => decide
      (first ≤ i ∧ source.timestampAt i ≤ window.endNs)) = List.range' first count := by
    rw [← hfilter]
    refine List.filter_congr fun i hi => ?_
    rw [decide_eq_decide]
    exact and_iff_right (List.mem_range'_1.mp hi).1
  rw [Tape.stretch, hheld, List.filter_map]
  change ((List.range' oldest (n - oldest)).filter (fun i => decide
    (first ≤ i ∧ source.timestampAt i ≤ window.endNs))).map source.heldAt = _
  rw [hsplit, List.filter_append, hbefore, hafter, List.nil_append]

/-- The start of the segment, by its number. -/
theorem isOpening_of_startOf {held : List ExtractedFrame} {window : CaptureWindow}
    {key : ExtractedFrame} {oldest : Nat} (hrange : source.InRange n)
    (hheld : held = (List.range' oldest (n - oldest)).map source.heldAt)
    (hkey : Tape.startOf held window = some key) :
    ∃ first, key = source.heldAt first ∧ source.IsOpening oldest n window first := by
  have hnumbers : ∀ {index},
      index ∈ List.range' oldest (n - oldest) ↔ oldest ≤ index ∧ index < n := by
    intro index
    rw [List.mem_range'_1]
    omega
  have hordered : (List.range' oldest (n - oldest)).Pairwise (· < ·) := List.pairwise_lt_range'
  unfold Tape.startOf at hkey
  rw [hheld, List.filter_map, List.filter_map, List.getLast?_map, List.head?_map] at hkey
  rcases Option.or_eq_some_iff.mp hkey with hlast | ⟨hnone, hhead⟩
  · -- the last group that is not after the start
    obtain ⟨first, hfirst, rfl⟩ := Option.map_eq_some_iff.mp hlast
    obtain ⟨hmem, hp⟩ := List.mem_filter.mp (List.mem_of_getLast? hfirst)
    obtain ⟨hkeyframe, hstart⟩ := Bool.and_eq_true_iff.mp hp
    have hstart : source.timestampAt first ≤ window.startNs := of_decide_eq_true hstart
    refine ⟨first, rfl, hnumbers.mp hmem, isKeyframeAt_iff.mp hkeyframe, ?_, ?_⟩
    · intro index hlt hn hgroup
      by_contra hle
      have hlater : index ∈ (List.range' oldest (n - oldest)).filter
          ((fun frame => frame.isKeyframe && decide (frame.captureTsNs ≤ window.startNs)) ∘
            source.heldAt) :=
        List.mem_filter.mpr ⟨hnumbers.mpr ⟨(hnumbers.mp hmem).1.trans hlt.le, hn⟩,
          Bool.and_eq_true_iff.mpr ⟨isKeyframeAt_iff.mpr hgroup, decide_eq_true (not_lt.mp hle)⟩⟩
      exact absurd (le_of_getLast? (hordered.filter _) hfirst hlater) (Nat.not_le.mpr hlt)
    · exact fun hlate => absurd hlate (Int.not_lt.mpr hstart)
  · -- no group is early enough
    obtain ⟨first, hfirst, rfl⟩ := Option.map_eq_some_iff.mp hhead
    obtain ⟨hmem, hp⟩ := List.mem_filter.mp (List.mem_of_head? hfirst)
    obtain ⟨hkeyframe, hwithin⟩ := Bool.and_eq_true_iff.mp hp
    have hend : source.timestampAt first ≤ window.endNs := (contains_iff.mp hwithin).2
    have hlate : ∀ index, oldest ≤ index → index < n → source.options.gop ∣ index →
        window.startNs < source.timestampAt index := by
      intro index hoffset hn hgroup
      by_contra hle
      rw [Option.map_eq_none_iff, List.getLast?_eq_none_iff, List.filter_eq_nil_iff] at hnone
      exact hnone index (hnumbers.mpr ⟨hoffset, hn⟩) (Bool.and_eq_true_iff.mpr
        ⟨isKeyframeAt_iff.mpr hgroup, decide_eq_true (not_lt.mp hle)⟩)
    obtain ⟨hoffset, hn⟩ := hnumbers.mp hmem
    refine ⟨first, rfl, ⟨hoffset, hn⟩, isKeyframeAt_iff.mp hkeyframe, ?_, fun _ => ⟨hend, ?_⟩⟩
    · exact fun index hlt => hlate index (hoffset.trans hlt.le)
    · intro index hindex hlt hgroup
      -- it would be within the window, and before the first that is
      have hearlier : index ∈ (List.range' oldest (n - oldest)).filter
          ((fun frame => frame.isKeyframe && window.contains frame.captureTsNs) ∘
            source.heldAt) := by
        refine List.mem_filter.mpr ⟨hnumbers.mpr ⟨hindex, hlt.trans hn⟩,
          Bool.and_eq_true_iff.mpr ⟨isKeyframeAt_iff.mpr hgroup, contains_iff.mpr ⟨?_, ?_⟩⟩⟩
        · exact (hlate index hindex (hlt.trans hn) hgroup).le
        · exact (hrange.timestampAt_mono hlt.le hn).trans hend
      exact absurd (le_of_head? (hordered.filter _) hfirst hearlier) (Nat.not_le.mpr hlt)

/-- What is played of the held frames. -/
theorem isStretch_of_play {media : MediaBuffer} {window : CaptureWindow} {segment : ExtractedSegment}
    {oldest : Nat} (hrange : source.InRange n)
    (hheld : media.held = (List.range' oldest (n - oldest)).map source.heldAt)
    (hplay : media.asTape.play window = .ok segment) :
    ∃ first count, source.IsStretch oldest n window segment first count := by
  unfold Tape.play asTape at hplay
  dsimp only at hplay
  split at hplay
  · split at hplay
    · cases hplay
    · next key hkey =>
      obtain rfl := Except.ok.inj hplay
      obtain ⟨first, rfl, hopening⟩ := isOpening_of_startOf hrange hheld hkey
      obtain ⟨hlow, hhigh⟩ := hopening.held
      have hend : source.timestampAt first ≤ window.endNs := by
        by_cases hlate : window.startNs < source.timestampAt first
        · exact (hopening.late hlate).1
        · exact (Int.not_lt.mp hlate).trans window.start_lt_end.le
      obtain ⟨count, hcount, hfilter, hlast⟩ := exists_filter_range'
        (fun i => decide (source.timestampAt i ≤ window.endNs)) first (n - first)
        (fun i j hij hj hp => decide_eq_true
          ((hrange.timestampAt_mono hij (by omega)).trans (of_decide_eq_true hp)))
      have hpos : 0 < count := by
        -- the keyframe itself is within the window
        by_contra hzero
        obtain rfl := Nat.eq_zero_of_not_pos hzero
        rcases hlast with hall | hout
        · omega
        · exact absurd hend (of_decide_eq_false hout)
      refine ⟨first, count, stretch_eq hlow (by omega) hheld hfilter, by omega, hpos, hopening, ?_, ?_,
        decide_eq_true_iff⟩
      · intro index hindex
        have hmem : first + count - 1 ∈ (List.range' first (n - first)).filter
            (fun i => decide (source.timestampAt i ≤ window.endNs)) := by
          rw [hfilter, List.mem_range'_1]
          omega
        exact (hrange.timestampAt_mono (by omega) (by omega)).trans
          (of_decide_eq_true (List.mem_filter.mp hmem).2)
      · rcases hlast with hall | hout
        · exact Or.inl (by omega)
        · exact Or.inr (Int.not_le.mp (of_decide_eq_false hout))
  · cases hplay

/-- One frame a second in groups of two; five of them are more than the arena has room for. -/
def slowSource : SyntheticFrameSource where
  options := { fps := 1, gop := 2, keyframeBytes := 6, deltaBytes := 3 }
  fps_pos := one_pos
  gop_pos := Nat.two_pos

theorem fits_slowSource : slowSource.Fits ⟨15, fifteen_pos⟩ :=
  ⟨⟨by decide, by decide⟩, by decide, by decide⟩

theorem inRange_slowSource : slowSource.InRange 5 := by
  unfold InRange
  decide +kernel

end SyntheticFrameSource

end Ods.S4
