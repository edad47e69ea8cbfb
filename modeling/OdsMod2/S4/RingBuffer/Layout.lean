import OdsMod2.S4.RingBuffer.Allocate

/-!
# The layout of the arena

Eviction only ever looks at the front of the queue, so its soundness rests on the order of the
offsets. In every reachable state the queue is `leftover ++ current` (`Laps`):

* `current`, the frames of this lap, tile `[0, writeOffset)`;
* `leftover`, the frames of the previous lap that have not been overwritten yet, tile
  `[front, back)`, and unless there are none the write pointer has not passed `front`.

A write that fits (`Laps.fit`) eats into `leftover` from the front; a write that wraps
(`Laps.wrap`) discards `leftover`, makes `current` the new previous lap and eats into that. Both
statements also bound what the eviction wastes, which is what `Occupancy` adds up.

`Layout` forgets the split; it is kept by every accepted call (`Layout.accepted`), and it gives
the three facts the bytes rely on: live frames are inside the arena (`Layout.endOffset_le`), no
two of them share a byte (`Layout.disjoint`), and the new frame shares none with the survivors.
-/

namespace Ods.S4

open Region

namespace RingBuffer

/-- The frames tile `[a, b)` of the arena. -/
abbrev FramesTile : List FrameDescriptor → Nat → Nat → Prop :=
  Tiles FrameDescriptor.offset FrameDescriptor.length

/-- The length of the largest of the frames. -/
def maxLength (frames : List FrameDescriptor) : Nat :=
  frames.foldr (fun frame longest => max frame.length longest) 0

@[simp] theorem maxLength_nil : maxLength [] = 0 := rfl

@[simp] theorem maxLength_cons (frame : FrameDescriptor) (frames : List FrameDescriptor) :
    maxLength (frame :: frames) = max frame.length (maxLength frames) := rfl

theorem length_le_maxLength {frames : List FrameDescriptor} {frame : FrameDescriptor}
    (hmem : frame ∈ frames) : frame.length ≤ maxLength frames := by
  induction frames with
  | nil => cases hmem
  | cons f frames ih =>
    rw [maxLength_cons]
    rcases List.mem_cons.mp hmem with rfl | hmem
    · exact le_max_left _ _
    · exact (ih hmem).trans (le_max_right _ _)

/-- The queue is the leftovers of the previous lap followed by the current lap. -/
structure Laps (buffer : RingBuffer) (leftover current : List FrameDescriptor)
    (front back : Nat) : Prop where
  frames_eq : buffer.frames = leftover ++ current
  current_tiles : FramesTile current 0 buffer.writeOffset
  leftover_tiles : FramesTile leftover front back
  /-- The write pointer has not passed the oldest leftover. -/
  ahead : leftover = [] ∨ buffer.writeOffset ≤ front
  back_le : back ≤ buffer.capacity
  writeOffset_le : buffer.writeOffset ≤ buffer.capacity

/-- The layout invariant of the index. -/
def Layout (buffer : RingBuffer) : Prop :=
  ∃ leftover current front back, Laps buffer leftover current front back

/-! ### The session check -/

/-- The laps only depend on the queue, the write pointer and the capacity. -/
theorem Laps.congr {buffer buffer' : RingBuffer} {leftover current : List FrameDescriptor}
    {front back : Nat} (h : Laps buffer leftover current front back)
    (hf : buffer'.frames = buffer.frames) (hw : buffer'.writeOffset = buffer.writeOffset)
    (hc : buffer'.capacity = buffer.capacity) : Laps buffer' leftover current front back where
  frames_eq := hf.trans h.frames_eq
  current_tiles := by rw [hw]; exact h.current_tiles
  leftover_tiles := h.leftover_tiles
  ahead := by rw [hw]; exact h.ahead
  back_le := by rw [hc]; exact h.back_le
  writeOffset_le := by rw [hw, hc]; exact h.writeOffset_le

/-- An empty queue with the write pointer at the start has no laps to speak of. -/
theorem Laps.empty {buffer : RingBuffer} (hf : buffer.frames = []) (hw : buffer.writeOffset = 0) :
    Laps buffer [] [] 0 0 where
  frames_eq := hf
  current_tiles := by rw [hw]; rfl
  leftover_tiles := rfl
  ahead := Or.inl rfl
  back_le := Nat.zero_le _
  writeOffset_le := by rw [hw]; exact Nat.zero_le _

theorem Layout.opened {buffer : RingBuffer} (h : Layout buffer) (sid : String) :
    Layout (buffer.opened sid) := by
  obtain ⟨leftover, current, front, back, hlaps⟩ := h
  rcases opened_cases buffer sid with ⟨hf, hw, -⟩ | ⟨hf, hw, -⟩
  · -- the session goes on
    exact ⟨_, _, _, _, hlaps.congr hf hw (opened_capacity buffer sid)⟩
  · -- another one takes over, with an empty queue and the pointer back at the start
    exact ⟨_, _, _, _, Laps.empty hf hw⟩

/-! ### The two placements -/

section Placement

variable {buffer after : RingBuffer} {leftover current : List FrameDescriptor}
  {front back : Nat} {d : FrameDescriptor}

/-- No frame of the current lap reaches past the write pointer. -/
private theorem Laps.dropWhile_current (h : Laps buffer leftover current front back)
    (len : Nat) :
    current.dropWhile (fun frame =>
      frame.occupies buffer.writeOffset (buffer.writeOffset + len)) = current := by
  cases hc : current with
  | nil => rfl
  | cons x l =>
    -- the first frame is not hit, so the loop stops at once
    have hend := h.current_tiles.end_le (x := x) (by rw [hc]; exact List.mem_cons_self)
    rw [List.dropWhile_cons_of_neg]
    unfold FrameDescriptor.occupies FrameDescriptor.endOffset
    rw [decide_eq_true_eq]
    omega

/-- Discarding what is beyond the write pointer leaves the current lap. -/
private theorem Laps.dropWhile_beyond (h : Laps buffer leftover current front back) :
    buffer.frames.dropWhile (fun frame => decide (buffer.writeOffset ≤ frame.offset))
      = current := by
  -- every leftover is ahead of the write pointer
  have hleft : ∀ frame ∈ leftover, decide (buffer.writeOffset ≤ frame.offset) = true := by
    intro frame hmem
    rcases h.ahead with hnil | hle
    · rw [hnil] at hmem
      cases hmem
    · rw [decide_eq_true_eq]
      calc buffer.writeOffset ≤ front := hle
        _ ≤ frame.offset := h.leftover_tiles.start_le hmem
  -- the first frame of the current lap is behind it, since it is not empty
  have hcur : current.dropWhile (fun frame => decide (buffer.writeOffset ≤ frame.offset))
      = current := by
    cases hc : current with
    | nil => rfl
    | cons x l =>
      have htiles := h.current_tiles
      rw [hc] at htiles
      obtain ⟨hs, hp, hl⟩ := htiles
      have := hl.le
      rw [List.dropWhile_cons_of_neg]
      rw [decide_eq_true_eq]
      omega
  rw [h.frames_eq, List.dropWhile_append_of_pos hleft, hcur]

/-- **A write that fits.** It eats into the leftovers from the front and extends the current
lap; when it evicts, it wastes less than one frame. -/
theorem Laps.fit (h : Laps buffer leftover current front back) {M : Nat}
    (hM : ∀ frame ∈ leftover, frame.length ≤ M) (hpos : 0 < d.length)
    (hfit : buffer.writeOffset + d.length ≤ buffer.capacity)
    (hoff : d.offset = buffer.writeOffset)
    (hframes : after.frames = buffer.frames.dropWhile (fun frame =>
      frame.occupies d.offset (d.offset + d.length)) ++ [d])
    (hwrite : after.writeOffset = d.offset + d.length) (hcap : after.capacity = buffer.capacity) :
    ∃ leftover' front', Laps after leftover' (current ++ [d]) front' back ∧
      leftover' <:+ leftover ∧ (front' = front ∨ front' < after.writeOffset + M) := by
  have hcurrent : FramesTile (current ++ [d]) 0 after.writeOffset :=
    h.current_tiles.append ⟨hoff, hpos, by rw [hwrite, hoff]; rfl⟩
  have hbound : after.writeOffset ≤ after.capacity := by
    rw [hwrite, hoff, hcap]
    exact hfit
  rcases h.ahead with hnil | hle
  · -- there is nothing left of the previous lap, and the current lap is not hit
    subst hnil
    refine ⟨[], front, ?_, List.suffix_rfl, Or.inl rfl⟩
    refine ⟨?_, hcurrent, h.leftover_tiles, Or.inl rfl, hcap ▸ h.back_le, hbound⟩
    rw [hframes, h.frames_eq, hoff, List.nil_append, List.nil_append,
      h.dropWhile_current d.length]
  · -- the leftovers the write overlaps are evicted from the front
    have hahead : d.offset ≤ front := by
      rw [hoff]
      exact hle
    obtain ⟨front', htiles, hend, hwaste⟩ :=
      h.leftover_tiles.dropWhile_overlap (d.offset + d.length) hahead hM
    refine ⟨_, front', ⟨?_, hcurrent, htiles, ?_, hcap ▸ h.back_le, hbound⟩,
      List.dropWhile_suffix _, ?_⟩
    · rw [hframes, h.frames_eq, ← List.append_assoc]
      congr 1
      rw [List.dropWhile_append]
      split
      · next hempty =>
        -- all leftovers are gone; the eviction does not go on into the current lap
        rw [List.isEmpty_iff] at hempty
        rw [hoff, h.dropWhile_current d.length]
        rw [hoff] at hempty
        change current = leftover.dropWhile (fun frame =>
          frame.occupies buffer.writeOffset (buffer.writeOffset + d.length)) ++ current
        rw [hempty, List.nil_append]
      · rfl
    · rw [hwrite]
      exact hend
    · rw [hwrite]
      exact hwaste.imp And.right id

/-- **A write that wraps.** The current lap becomes the previous one, minus the frames the write
overlaps; the new current lap is the written frame alone. -/
theorem Laps.wrap (h : Laps buffer leftover current front back) {M : Nat}
    (hM : ∀ frame ∈ current, frame.length ≤ M) (hpos : 0 < d.length)
    (hle : d.length ≤ buffer.capacity) (hoff : d.offset = 0)
    (hframes : after.frames = (buffer.frames.dropWhile (fun frame =>
        decide (buffer.writeOffset ≤ frame.offset))).dropWhile (fun frame =>
      frame.occupies d.offset (d.offset + d.length)) ++ [d])
    (hwrite : after.writeOffset = d.offset + d.length) (hcap : after.capacity = buffer.capacity) :
    ∃ leftover' front', Laps after leftover' [d] front' buffer.writeOffset ∧
      front' < after.writeOffset + M := by
  -- what was the current lap is evicted from the front, like the leftovers of a write that fits
  obtain ⟨front', htiles, hend, hwaste⟩ :=
    h.current_tiles.dropWhile_overlap (d.offset + d.length) (Nat.le_of_eq hoff) hM
  refine ⟨_, front', ⟨?_, ?_, htiles, ?_, ?_, ?_⟩, ?_⟩
  · rw [hframes, h.dropWhile_beyond]
    rfl
  · exact ⟨hoff, hpos, by rw [hwrite, hoff]; rfl⟩
  · rw [hwrite]
    exact hend
  · rw [hcap]
    exact h.writeOffset_le
  · rw [hwrite, hcap]
    omega
  · rw [hwrite]
    rcases hwaste with ⟨-, rfl⟩ | hlt
    · omega
    · exact hlt

end Placement

/-! ### The invariant -/

/-- Every accepted call keeps the layout. -/
theorem Layout.accepted {buffer after : RingBuffer} {arrival : FrameArrival}
    {allocation : Allocation} (h : Layout buffer)
    (hacc : Accepted buffer arrival allocation after) : Layout after := by
  obtain ⟨leftover, current, front, back, hlaps⟩ := h.opened arrival.sessionId
  have hlen : allocation.descriptor.length = arrival.length := by
    rw [hacc.descriptor_eq]
  have hpos : 0 < allocation.descriptor.length := hlen ▸ hacc.length_pos
  have hcap : after.capacity = (buffer.opened arrival.sessionId).capacity := by
    rw [opened_capacity, hacc.capacity_eq]
  have hwrite : after.writeOffset
      = allocation.descriptor.offset + allocation.descriptor.length := by
    rw [hacc.writeOffset_eq, hlen]
  rcases hacc.placed with ⟨hfit, hoff, hframes⟩ | ⟨-, hoff, hframes⟩
  · -- before the end of the arena
    rw [← hlen] at hfit hframes
    obtain ⟨leftover', front', hlaps', -⟩ :=
      hlaps.fit (fun frame hmem => length_le_maxLength hmem) hpos
        (by rw [opened_capacity]; exact hfit) hoff hframes hwrite hcap
    exact ⟨_, _, _, _, hlaps'⟩
  · -- back at the start
    rw [← hlen] at hframes
    obtain ⟨leftover', front', hlaps', -⟩ :=
      hlaps.wrap (fun frame hmem => length_le_maxLength hmem) hpos
        (by rw [opened_capacity, hlen]; exact hacc.length_le) hoff hframes hwrite hcap
    exact ⟨_, _, _, _, hlaps'⟩

/-- Every live frame lies inside the arena. -/
theorem Layout.endOffset_le {buffer : RingBuffer} (h : Layout buffer) {frame : FrameDescriptor}
    (hmem : frame ∈ buffer.frames) : frame.offset + frame.length ≤ buffer.capacity := by
  obtain ⟨leftover, current, front, back, hlaps⟩ := h
  rw [hlaps.frames_eq] at hmem
  rcases List.mem_append.mp hmem with hleft | hcur
  · calc frame.offset + frame.length ≤ back := hlaps.leftover_tiles.end_le hleft
      _ ≤ buffer.capacity := hlaps.back_le
  · calc frame.offset + frame.length ≤ buffer.writeOffset := hlaps.current_tiles.end_le hcur
      _ ≤ buffer.capacity := hlaps.writeOffset_le

/-- No live frame is empty. -/
theorem Layout.length_pos {buffer : RingBuffer} (h : Layout buffer) {frame : FrameDescriptor}
    (hmem : frame ∈ buffer.frames) : 0 < frame.length := by
  obtain ⟨leftover, current, front, back, hlaps⟩ := h
  rw [hlaps.frames_eq] at hmem
  rcases List.mem_append.mp hmem with hleft | hcur
  · exact hlaps.leftover_tiles.len_pos hleft
  · exact hlaps.current_tiles.len_pos hcur

/-- Two frames share no byte. -/
def Disjoint (f g : FrameDescriptor) : Prop :=
  f.endOffset ≤ g.offset ∨ g.endOffset ≤ f.offset

/-- No two live frames share a byte. -/
theorem Layout.disjoint {buffer : RingBuffer} (h : Layout buffer) :
    buffer.frames.Pairwise Disjoint := by
  obtain ⟨leftover, current, front, back, hlaps⟩ := h
  rw [hlaps.frames_eq, List.pairwise_append]
  refine ⟨hlaps.leftover_tiles.pairwise.imp Or.inl, hlaps.current_tiles.pairwise.imp Or.inl, ?_⟩
  intro f hf g hg
  rcases hlaps.ahead with hnil | hle
  · rw [hnil] at hf
    cases hf
  · -- a leftover starts where the current lap has not arrived yet
    right
    calc g.offset + g.length ≤ buffer.writeOffset := hlaps.current_tiles.end_le hg
      _ ≤ front := hle
      _ ≤ f.offset := hlaps.leftover_tiles.start_le hf

/-- **The sums of the index fit in a `std::size_t`.** An arena is a mapped object, so its
capacity is below `2 ^ 63`; no `offset + length` the index forms then wraps around at `2 ^ 64`,
and the comparisons it makes are those of the model. -/
theorem Layout.writeOffset_add_lt {buffer : RingBuffer} (h : Layout buffer) {length : Nat}
    (hlen : length ≤ buffer.capacity) (hcap : buffer.capacity < 2 ^ 63) :
    buffer.writeOffset + length < 2 ^ 64 := by
  obtain ⟨leftover, current, front, back, hlaps⟩ := h
  have := hlaps.writeOffset_le
  omega

end RingBuffer

end Ods.S4
