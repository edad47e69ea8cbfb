import OdsMod2.S4.RingBuffer.Layout
import OdsMod2.S4.RingBuffer.SessionRun

/-!
# How much of the arena eviction may lose

The promise behind "the buffer always holds the last `N` seconds" is quantitative: once frames
of a session have been dropped, more than `C - 2 * M` bytes are live, where `C` is the capacity
and `M` the longest frame of the session run. Two frames' worth can be missing, and for two
different reasons:

* a lap ends where a frame did not fit any more, so it stops less than `M` before the end of the
  arena (`Wrapped.back`);
* the oldest leftover of the previous lap was kept out of the way of the write pointer by
  evicting whole frames, so it starts less than `M` past the pointer (`Wrapped.front`).

`Occupancy` is the invariant: nothing of the run has been dropped and there are no leftovers, or
both bounds hold. A wrap establishes the bounds from nothing, so the first drop of a session
needs no history.
-/

namespace Ods.S4

namespace RingBuffer

/-- The bytes of the frames together. -/
def totalBytes (frames : List FrameDescriptor) : Nat :=
  (frames.map FrameDescriptor.length).sum

theorem maxLength_concat (frames : List FrameDescriptor) (frame : FrameDescriptor) :
    maxLength (frames ++ [frame]) = max (maxLength frames) frame.length := by
  induction frames with
  | nil => simp
  | cons f frames ih => rw [List.cons_append, maxLength_cons, maxLength_cons, ih, max_assoc]

theorem totalBytes_le_of_suffix {l m : List FrameDescriptor} (h : l <:+ m) :
    totalBytes l ≤ totalBytes m := by
  obtain ⟨t, rfl⟩ := h
  unfold totalBytes
  rw [List.map_append, List.sum_append]
  exact Nat.le_add_left _ _

/-- The laps of a buffer that has wrapped during the run, with the two bounds on the waste. -/
structure Wrapped (buffer : RingBuffer) (M : Nat) (leftover current : List FrameDescriptor)
    (front back : Nat) : Prop where
  laps : Laps buffer leftover current front back
  /-- The previous lap ends less than one frame before the end of the arena. -/
  back : buffer.capacity < back + M
  /-- The oldest leftover starts less than one frame past the write pointer. -/
  front : front < buffer.writeOffset + M

/-- Nothing of the run is gone yet, or the waste is bounded. -/
def Occupancy (buffer : RingBuffer) (run : List FrameDescriptor) : Prop :=
  (∃ edge, Laps buffer [] run edge edge) ∨
    ∃ leftover current front back, Wrapped buffer (maxLength run) leftover current front back

theorem Occupancy.congr {buffer buffer' : RingBuffer} {run : List FrameDescriptor}
    (h : Occupancy buffer run) (hf : buffer'.frames = buffer.frames)
    (hw : buffer'.writeOffset = buffer.writeOffset) (hc : buffer'.capacity = buffer.capacity) :
    Occupancy buffer' run := by
  rcases h with ⟨edge, hlaps⟩ | ⟨leftover, current, front, back, hwrap⟩
  · exact Or.inl ⟨edge, hlaps.congr hf hw hc⟩
  · refine Or.inr ⟨_, _, _, _, hwrap.laps.congr hf hw hc, ?_, ?_⟩
    · rw [hc]
      exact hwrap.back
    · rw [hw]
      exact hwrap.front

/-- The two bounds add up: the live bytes exceed the capacity less two frames. -/
theorem Wrapped.lt_totalBytes {buffer : RingBuffer} {M : Nat}
    {leftover current : List FrameDescriptor} {front back : Nat}
    (h : Wrapped buffer M leftover current front back) :
    buffer.capacity < totalBytes buffer.frames + 2 * M := by
  have hleft := h.laps.leftover_tiles.sum_len
  have hcur := h.laps.current_tiles.sum_len
  have hsum : totalBytes buffer.frames
      = (leftover.map FrameDescriptor.length).sum + (current.map FrameDescriptor.length).sum := by
    unfold totalBytes
    rw [h.laps.frames_eq, List.map_append, List.sum_append]
  have hfront := h.front
  calc buffer.capacity
      < back + M := h.back
    _ = front + (leftover.map FrameDescriptor.length).sum + M := by rw [hleft]
    _ ≤ buffer.writeOffset + M + (leftover.map FrameDescriptor.length).sum + M := by omega
    _ = totalBytes buffer.frames + 2 * M := by omega

/-- Every accepted call keeps the occupancy of the session run. -/
theorem Occupancy.accepted {buffer after : RingBuffer} {accepted : List FrameDescriptor}
    {arrival : FrameArrival} {allocation : Allocation} (hrun : RunInv buffer accepted)
    (h : Occupancy buffer (sessionRun accepted))
    (hacc : Accepted buffer arrival allocation after) :
    Occupancy after (sessionRun (accepted ++ [allocation.descriptor])) := by
  obtain ⟨run, hrun', hcont⟩ := hrun.extend hacc
  have hlen : allocation.descriptor.length = arrival.length := by
    rw [hacc.descriptor_eq]
  have hpos : 0 < allocation.descriptor.length := hlen ▸ hacc.length_pos
  have hcap : after.capacity = (buffer.opened arrival.sessionId).capacity := by
    rw [opened_capacity, hacc.capacity_eq]
  have hwrite : after.writeOffset
      = allocation.descriptor.offset + allocation.descriptor.length := by
    rw [hacc.writeOffset_eq, hlen]
  -- the longest frame of the run can only grow, which relaxes both bounds
  have hmax := maxLength_concat run allocation.descriptor
  -- what the session check leaves satisfies the invariant for the run it continues
  have hopened : Occupancy (buffer.opened arrival.sessionId) run := by
    rcases hcont.cases with ⟨rfl, hf, hw⟩ | ⟨rfl, hf, hw⟩
    · exact h.congr hf hw (opened_capacity buffer arrival.sessionId)
    · exact Or.inl ⟨0, Laps.empty hf hw⟩
  have hbound : ∀ {leftover current front back},
      Laps (buffer.opened arrival.sessionId) leftover current front back →
      ∀ frame ∈ leftover ++ current, frame.length ≤ maxLength run := by
    intro leftover current front back hlaps frame hmem
    rw [← hlaps.frames_eq] at hmem
    exact length_le_maxLength (hcont.suffix.subset hmem)
  rw [hrun']
  rcases hacc.placed with ⟨hfit, hoff, hframes⟩ | ⟨hwrap, hoff, hframes⟩
  · rw [← hlen] at hfit hframes
    rw [← opened_capacity buffer arrival.sessionId] at hfit
    rcases hopened with ⟨edge, hlaps⟩ | ⟨leftover, current, front, back, hw⟩
    · -- still the first lap of the run
      obtain ⟨leftover', front', hlaps', hsuf, -⟩ :=
        hlaps.fit (M := 0) (fun _ hmem => by cases hmem) hpos hfit hoff hframes hwrite hcap
      obtain rfl := List.suffix_nil.mp hsuf
      obtain rfl : front' = edge := hlaps'.leftover_tiles
      exact Or.inl ⟨_, hlaps'⟩
    · -- a later lap: the far bound stays, the near one is restored by the eviction
      obtain ⟨leftover', front', hlaps', -, hwaste⟩ :=
        hw.laps.fit (fun frame hmem => hbound hw.laps frame (List.mem_append_left _ hmem)) hpos
          hfit hoff hframes hwrite hcap
      refine Or.inr ⟨_, _, _, _, hlaps', ?_, ?_⟩
      · have := hw.back
        rw [hcap, hmax]
        omega
      · have := hw.front
        rw [hmax]
        omega
  · -- the write wraps: the bounds hold whatever the run was before
    rw [← hlen] at hframes
    obtain ⟨leftover, current, front, back, hlaps⟩ : Layout (buffer.opened arrival.sessionId) := by
      rcases hopened with ⟨edge, hlaps⟩ | ⟨leftover, current, front, back, hw⟩
      · exact ⟨_, _, _, _, hlaps⟩
      · exact ⟨_, _, _, _, hw.laps⟩
    obtain ⟨leftover', front', hlaps', hwaste⟩ :=
      hlaps.wrap (fun frame hmem => hbound hlaps frame (List.mem_append_right _ hmem)) hpos
        (by rw [opened_capacity, hlen]; exact hacc.length_le) hoff hframes hwrite hcap
    refine Or.inr ⟨_, _, _, _, hlaps', ?_, ?_⟩
    · rw [hacc.capacity_eq, hmax]
      omega
    · rw [hmax]
      omega

theorem Occupancy.new (capacity : BufferCapacity) : Occupancy (RingBuffer.new capacity) [] :=
  Or.inl ⟨0, Laps.empty rfl rfl⟩

/-- The occupancy holds after every run of calls. -/
theorem allocateAll_occupancy (capacity : BufferCapacity) (arrivals : List FrameArrival) :
    Occupancy (allocateAll capacity arrivals).1
      (sessionRun (allocateAll capacity arrivals).2) :=
  (allocateAll_induction
    (fun buffer accepted => RunInv buffer accepted ∧ Occupancy buffer (sessionRun accepted))
    (fun _ _ h => h.1.sessionOpen) ⟨RunInv.new capacity, Occupancy.new capacity⟩
    (fun _ _ _ _ _ h hacc => ⟨h.1.accepted hacc, h.2.accepted h.1 hacc⟩) arrivals).2

/-- The capacity never changes. -/
theorem allocateAll_capacity (capacity : BufferCapacity) (arrivals : List FrameArrival) :
    (allocateAll capacity arrivals).1.capacity = capacity.totalBytes :=
  (allocateAll_induction
    (fun buffer _ => buffer.SessionOpen ∧ buffer.capacity = capacity.totalBytes)
    (fun _ _ h => h.1) ⟨fun _ => rfl, rfl⟩
    (fun _ _ _ _ _ h hacc => ⟨hacc.sessionOpen, hacc.capacity_eq.trans h.2⟩) arrivals).2

/-- **Eviction loses less than two frames' worth of the arena.** After every run of calls either
no frame of the session run has been dropped, or the live bytes exceed the capacity less twice
the longest frame of the run; hence whatever ends the run and fits in that room is live. -/
theorem recent_frames_are_live (capacity : BufferCapacity) (arrivals : List FrameArrival) :
    ((allocateAll capacity arrivals).1.frames
        = sessionRun (allocateAll capacity arrivals).2 ∨
      capacity.totalBytes < totalBytes (allocateAll capacity arrivals).1.frames
        + 2 * maxLength (sessionRun (allocateAll capacity arrivals).2)) ∧
    ∀ recent, recent <:+ sessionRun (allocateAll capacity arrivals).2 →
      totalBytes recent + 2 * maxLength (sessionRun (allocateAll capacity arrivals).2)
        ≤ capacity.totalBytes →
      recent <:+ (allocateAll capacity arrivals).1.frames := by
  have hbound : (allocateAll capacity arrivals).1.frames
        = sessionRun (allocateAll capacity arrivals).2 ∨
      capacity.totalBytes < totalBytes (allocateAll capacity arrivals).1.frames
        + 2 * maxLength (sessionRun (allocateAll capacity arrivals).2) := by
    rcases allocateAll_occupancy capacity arrivals with
      ⟨edge, hlaps⟩ | ⟨leftover, current, front, back, hw⟩
    · exact Or.inl (by rw [hlaps.frames_eq, List.nil_append])
    · right
      rw [← allocateAll_capacity capacity arrivals]
      exact hw.lt_totalBytes
  refine ⟨hbound, ?_⟩
  intro recent hrecent hroom
  rcases hbound with hall | hlt
  · rw [hall]
    exact hrecent
  · -- two suffixes of one run: the one with fewer bytes is a suffix of the other
    rcases List.suffix_or_suffix_of_suffix hrecent
      (allocateAll_runInv capacity arrivals).suffix with h | h
    · exact h
    · have := totalBytes_le_of_suffix h
      omega

end RingBuffer

end Ods.S4
