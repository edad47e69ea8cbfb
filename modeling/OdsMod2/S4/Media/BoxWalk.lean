import OdsMod2.S4.Media.IsoBmff

/-!
# The walk stays where it belongs

The walk over the boxes writes into evidence, led by sizes that anybody may have written. Here it is
run again with every access checked, and none fails (`normalizeChecked_eq`): a box lies in its
parent, and the outermost boxes in the container. What it changes are the dates of the boxes it
reaches (`Reached`), and boxes it reaches lie side by side or one in the other, so that a date of
one box is never a byte of another.
-/

namespace Ods.S4.IsoBmff

/-! ### The walk with every access checked -/

/-- A read that fails outside of the container. -/
def byteChecked (container : List UInt8) (i : Nat) : Option UInt8 :=
  container[i]?

/-- A write that fails outside of the container. -/
def setChecked (container : List UInt8) (i : Nat) (value : UInt8) : Option (List UInt8) :=
  if i < container.length then some (container.set i value) else none

def readBe32Checked (container : List UInt8) (offset : Nat) : Option UInt32 := do
  let byte0 ← byteChecked container offset
  let byte1 ← byteChecked container (offset + 1)
  let byte2 ← byteChecked container (offset + 2)
  let byte3 ← byteChecked container (offset + 3)
  return (byte0.toUInt32 <<< 24) ||| (byte1.toUInt32 <<< 16) ||| (byte2.toUInt32 <<< 8) |||
    byte3.toUInt32

def writeBe32Checked (container : List UInt8) (offset : Nat) (value : UInt32) :
    Option (List UInt8) := do
  let container ← setChecked container offset (value >>> 24).toUInt8
  let container ← setChecked container (offset + 1) (value >>> 16).toUInt8
  let container ← setChecked container (offset + 2) (value >>> 8).toUInt8
  setChecked container (offset + 3) value.toUInt8

def zeroFillChecked (container : List UInt8) (offset width : Nat) : Option (List UInt8) :=
  (List.range width).foldlM (fun bytes i => setChecked bytes (offset + i) 0) container

def typeChecked (container : List UInt8) (offset : Nat) : Option (List UInt8) :=
  (List.range 4).mapM fun i => byteChecked container (offset + i)

def normalizeDatesChecked (container : List UInt8) (start stop : Nat) : Option (List UInt8) :=
  if start + boxHeaderSize + sizeFieldSize > stop then some container
  else do
    let version ← byteChecked container (start + boxHeaderSize)
    let width := dateWidth version
    let firstField := start + boxHeaderSize + sizeFieldSize
    let secondField := firstField + width
    if secondField + width > stop then some container
    else if width = 4 then do
      let container ← writeBe32Checked container firstField normalizedTimestamp
      writeBe32Checked container secondField normalizedTimestamp
    else do
      let container ← zeroFillChecked container firstField width
      zeroFillChecked container secondField width

mutual

def normalizeBoxesChecked (container : List UInt8) (start stop : Nat) : Option (List UInt8) :=
  if start + boxHeaderSize ≤ stop then do
    let size ← readBe32Checked container start
    if hsize : boxHeaderSize ≤ size.toNat ∧ start + size.toNat ≤ stop then do
      let container ← normalizeBoxChecked container start (start + size.toNat)
        (Nat.add_le_add_left hsize.1 _)
      normalizeBoxesChecked container (start + size.toNat) stop
    else some container
  else some container
termination_by (stop - start, 1)
decreasing_by
  all_goals simp_wf
  all_goals simp only [Prod.lex_def, boxHeaderSize] at *
  all_goals omega

def normalizeBoxChecked (container : List UInt8) (start stop : Nat)
    (_hbox : start + boxHeaderSize ≤ stop) : Option (List UInt8) := do
  let type ← typeChecked container (start + sizeFieldSize)
  if isContainer type then normalizeBoxesChecked container (start + boxHeaderSize) stop
  else if !hasDateFields type then some container
  else normalizeDatesChecked container start stop
termination_by (stop - start, 0)
decreasing_by
  simp only [Prod.lex_def, boxHeaderSize] at *
  omega

end

/-- `normalize_iso_bmff_timestamps`; nothing if an access falls outside of the container. -/
def normalizeChecked (container : List UInt8) : Option (List UInt8) :=
  if container.length < boxHeaderSize then some container
  else do
    let type ← typeChecked container sizeFieldSize
    if !isPlausible type then some container
    else normalizeBoxesChecked container 0 container.length

/-! ### Accesses within the container -/

section Accesses

variable {container : List UInt8} {offset : Nat}

theorem byteChecked_eq {i : Nat} (h : i < container.length) :
    byteChecked container i = some (byteAt container i) := by
  rw [byteChecked, byteAt, List.getElem?_eq_getElem h]
  rfl

theorem setChecked_eq {i : Nat} (h : i < container.length) (value : UInt8) :
    setChecked container i value = some (container.set i value) :=
  if_pos h

theorem readBe32Checked_eq (h : offset + 4 ≤ container.length) :
    readBe32Checked container offset = some (readBe32 container offset) := by
  rw [readBe32Checked, byteChecked_eq (by omega), byteChecked_eq (by omega),
    byteChecked_eq (by omega), byteChecked_eq (by omega)]
  rfl

theorem writeBe32Checked_eq (h : offset + 4 ≤ container.length) (value : UInt32) :
    writeBe32Checked container offset value = some (writeBe32 container offset value) := by
  have hset : ∀ (bytes : List UInt8) (i : Nat) (byte : UInt8), bytes.length = container.length →
      i < offset + 4 → setChecked bytes i byte = some (bytes.set i byte) :=
    fun bytes i byte hlength hi => setChecked_eq (by omega) byte
  rw [writeBe32Checked, hset _ _ _ rfl (by omega), Option.bind_eq_bind, Option.bind_some,
    hset _ _ _ List.length_set (by omega), Option.bind_some,
    hset _ _ _ (by simp only [List.length_set]) (by omega), Option.bind_some,
    hset _ _ _ (by simp only [List.length_set]) (by omega)]
  rfl

theorem zeroFillChecked_eq {width : Nat} (h : offset + width ≤ container.length) :
    zeroFillChecked container offset width = some (zeroFill container offset width) := by
  have hall : ∀ (is : List Nat) (bytes : List UInt8), (∀ i ∈ is, offset + i < bytes.length) →
      is.foldlM (fun bytes i => setChecked bytes (offset + i) 0) bytes =
        some (is.foldl (fun bytes i => bytes.set (offset + i) 0) bytes) := by
    intro is
    induction is with
    | nil => exact fun _ _ => rfl
    | cons i is ih =>
      intro bytes hbytes
      obtain ⟨hi, his⟩ := List.forall_mem_cons.mp hbytes
      rw [List.foldlM_cons, setChecked_eq hi, List.foldl_cons]
      refine ih _ fun j hj => ?_
      rw [List.length_set]
      exact his j hj
  refine hall _ _ fun i hi => ?_
  have hlt := List.mem_range.mp hi
  omega

theorem typeChecked_eq (h : offset + 4 ≤ container.length) :
    typeChecked container offset = some (typeAt container offset) := by
  have hall : ∀ is : List Nat, (∀ i ∈ is, offset + i < container.length) →
      is.mapM (fun i => byteChecked container (offset + i)) =
        some (is.map fun i => byteAt container (offset + i)) := by
    intro is
    induction is with
    | nil => exact fun _ => rfl
    | cons i is ih =>
      intro his
      obtain ⟨hi, his⟩ := List.forall_mem_cons.mp his
      rw [List.mapM_cons, byteChecked_eq hi, ih his]
      rfl
  refine hall _ fun i hi => ?_
  have hlt := List.mem_range.mp hi
  omega

theorem normalizeDatesChecked_eq {start stop : Nat} (hstop : stop ≤ container.length) :
    normalizeDatesChecked container start stop = some (normalizeDates container start stop) := by
  unfold normalizeDatesChecked normalizeDates
  split
  · rfl
  next hversion =>
  rw [byteChecked_eq (by simp only [boxHeaderSize, sizeFieldSize] at hversion ⊢; omega)]
  dsimp only [Option.bind_eq_bind, Option.bind_some]
  generalize hwidth : dateWidth (byteAt container (start + boxHeaderSize)) = width
  split
  · rfl
  next hfields =>
  split
  · next hnarrow =>
    subst hnarrow
    -- the first write does not change the length
    rw [writeBe32Checked_eq (by omega), Option.bind_some, writeBe32Checked_eq]
    have hlength : (writeBe32 container (start + boxHeaderSize + sizeFieldSize)
        normalizedTimestamp).length = container.length := by
      simp only [writeBe32, List.length_set]
    omega
  · rw [zeroFillChecked_eq (by omega), Option.bind_some, zeroFillChecked_eq]
    have hlength : (zeroFill container (start + boxHeaderSize + sizeFieldSize) width).length =
        container.length := by
      rw [← overwrite_zeroPatch, Patch.length_overwrite]
    omega

end Accesses

theorem length_normalizeBox (container : List UInt8) (start stop : Nat)
    (hbox : start + boxHeaderSize ≤ stop) :
    (normalizeBox container start stop hbox).length = container.length := by
  rw [normalizeBoxes_eq.2, Patch.length_overwrite]

/-- In a part of the container, no access falls outside of it. -/
theorem normalizeBoxesChecked_eq :
    (∀ container start stop, stop ≤ container.length →
      normalizeBoxesChecked container start stop = some (normalizeBoxes container start stop)) ∧
    ∀ container start stop hbox, stop ≤ container.length →
      normalizeBoxChecked container start stop hbox =
        some (normalizeBox container start stop hbox) := by
  refine normalizeBoxes.mutual_induct
    (fun container start stop => stop ≤ container.length →
      normalizeBoxesChecked container start stop = some (normalizeBoxes container start stop))
    (fun container start stop hbox => stop ≤ container.length →
      normalizeBoxChecked container start stop hbox =
        some (normalizeBox container start stop hbox)) ?_ ?_ ?_ ?_ ?_ ?_
  · intro container start stop hheader size hsize ihBox _ ihRest hstop
    have hread : readBe32Checked container start = some (readBe32 container start) :=
      readBe32Checked_eq (by simp only [boxHeaderSize] at hheader; omega)
    -- the box fits into its part, and the part into the container
    rw [normalizeBoxes_cons rfl hheader hsize, normalizeBoxesChecked, if_pos hheader, hread,
      Option.bind_eq_bind, Option.bind_some, dif_pos hsize, ihBox (Nat.le_trans hsize.2 hstop)]
    refine ihRest ?_
    rw [length_normalizeBox]
    exact hstop
  · intro container start stop hheader size hsize hstop
    have hread : readBe32Checked container start = some (readBe32 container start) :=
      readBe32Checked_eq (by simp only [boxHeaderSize] at hheader; omega)
    rw [normalizeBoxes_end rfl hsize, normalizeBoxesChecked, if_pos hheader, hread,
      Option.bind_eq_bind, Option.bind_some, dif_neg hsize]
  · intro container start stop hheader _
    rw [normalizeBoxes, if_neg hheader, normalizeBoxesChecked, if_neg hheader]
  · intro container start stop hbox type hcontainer ih hstop
    rw [normalizeBox, if_pos hcontainer, normalizeBoxChecked, typeChecked_eq
      (by simp only [boxHeaderSize, sizeFieldSize] at hbox ⊢; omega), Option.bind_eq_bind,
      Option.bind_some, if_pos hcontainer, ih hstop]
  · intro container start stop hbox type hcontainer hdates hstop
    rw [normalizeBox, if_neg hcontainer, if_pos hdates, normalizeBoxChecked, typeChecked_eq
      (by simp only [boxHeaderSize, sizeFieldSize] at hbox ⊢; omega), Option.bind_eq_bind,
      Option.bind_some, if_neg hcontainer, if_pos hdates]
  · intro container start stop hbox type hcontainer hdates hstop
    rw [normalizeBox, if_neg hcontainer, if_neg hdates, normalizeBoxChecked, typeChecked_eq
      (by simp only [boxHeaderSize, sizeFieldSize] at hbox ⊢; omega), Option.bind_eq_bind,
      Option.bind_some, if_neg hcontainer, if_neg hdates, normalizeDatesChecked_eq hstop]

/-- The walk over the container has nothing to fear from the checks. -/
theorem normalizeChecked_eq (container : List UInt8) :
    normalizeChecked container = some (normalizeIsoBmffTimestamps container) := by
  unfold normalizeChecked normalizeIsoBmffTimestamps
  split
  · rfl
  next hlong =>
  rw [typeChecked_eq (by simp only [boxHeaderSize, sizeFieldSize] at hlong ⊢; omega),
    Option.bind_eq_bind, Option.bind_some]
  split
  · rfl
  · exact normalizeBoxesChecked_eq.1 container 0 container.length (Nat.le_refl _)

/-! ### The boxes that are reached -/

/-- A box of this size stands at the beginning of a part of the container, and fits into it. -/
def BoxAt (container : List UInt8) (first last size : Nat) : Prop :=
  (readBe32 container first).toNat = size ∧ boxHeaderSize ≤ size ∧ first + size ≤ last

/-- The boxes of a part of the container, from `start` to `stop`: the first, those behind it, and
those inside of it if it is a `moov`, `trak`, `mdia`, `edts` or `minf`. -/
inductive Reached (container : List UInt8) : Nat → Nat → Nat → Nat → Prop
  | here {first last size : Nat} (hbox : BoxAt container first last size) :
      Reached container first last first (first + size)
  | behind {first last size start stop : Nat} (hbox : BoxAt container first last size)
      (hrest : Reached container (first + size) last start stop) :
      Reached container first last start stop
  | inside {first last size start stop : Nat} (hbox : BoxAt container first last size)
      (hcontainer : isContainer (typeAt container (first + sizeFieldSize)) = true)
      (hchild : Reached container (first + boxHeaderSize) (first + size) start stop) :
      Reached container first last start stop

/-- The creation and the modification time of a box. -/
def InDateFields (container : List UInt8) (start i : Nat) : Prop :=
  let width := dateWidth (byteAt container (start + boxHeaderSize))
  let firstField := start + boxHeaderSize + sizeFieldSize
  firstField ≤ i ∧ i < firstField + width + width

section Reached

variable {container : List UInt8} {first last start stop : Nat} {fields : DateFields}

/-- A box lies in the part where it is reached, and so in its parent. -/
theorem Reached.within (h : Reached container first last start stop) :
    first ≤ start ∧ start + boxHeaderSize ≤ stop ∧ stop ≤ last := by
  induction h with
  | here hbox => exact ⟨Nat.le_refl _, Nat.add_le_add_left hbox.2.1 _, hbox.2.2⟩
  | behind hbox _ ih => exact ⟨by omega, ih.2.1, ih.2.2⟩
  | inside hbox _ _ ih => exact ⟨by omega, ih.2.1, Nat.le_trans ih.2.2 hbox.2.2⟩

/-- The fields of a box are its own, or those of the boxes inside of it. -/
theorem mem_dateFieldsOfBox {hbox : start + boxHeaderSize ≤ stop} :
    fields ∈ dateFieldsOfBox container start stop hbox ↔
      (isContainer (typeAt container (start + sizeFieldSize)) = true ∧
        fields ∈ dateFieldsBetween container (start + boxHeaderSize) stop) ∨
      (isContainer (typeAt container (start + sizeFieldSize)) = false ∧
        hasDateFields (typeAt container (start + sizeFieldSize)) = true ∧
        fields ∈ dateFieldsAt container start stop) := by
  rw [dateFieldsOfBox]
  cases isContainer (typeAt container (start + sizeFieldSize)) <;>
    cases hasDateFields (typeAt container (start + sizeFieldSize)) <;> simp

theorem mem_dateFieldsBetween {size : Nat} (hbox : BoxAt container first last size) :
    fields ∈ dateFieldsBetween container first last ↔
      fields ∈ dateFieldsOfBox container first (first + size) (Nat.add_le_add_left hbox.2.1 _) ∨
        fields ∈ dateFieldsBetween container (first + size) last := by
  rw [dateFieldsBetween_cons hbox.1 (Nat.le_trans (Nat.add_le_add_left hbox.2.1 _) hbox.2.2) hbox.2,
    List.mem_append]

/-- The fields that the walk finds are those of a box that is reached. -/
theorem exists_reached (container : List UInt8) (fields : DateFields) (first last : Nat)
    (hfields : fields ∈ dateFieldsBetween container first last) :
    ∃ start stop, Reached container first last start stop ∧
      hasDateFields (typeAt container (start + sizeFieldSize)) = true ∧
      fields ∈ dateFieldsAt container start stop := by
  revert first last
  -- for a box: its own fields, or those of a box inside of it
  refine (dateFieldsBetween.mutual_induct container
    (fun first last => fields ∈ dateFieldsBetween container first last →
      ∃ start stop, Reached container first last start stop ∧
        hasDateFields (typeAt container (start + sizeFieldSize)) = true ∧
        fields ∈ dateFieldsAt container start stop)
    (fun first last hbox => fields ∈ dateFieldsOfBox container first last hbox →
      (hasDateFields (typeAt container (first + sizeFieldSize)) = true ∧
        fields ∈ dateFieldsAt container first last) ∨
      isContainer (typeAt container (first + sizeFieldSize)) = true ∧
      ∃ start stop, Reached container (first + boxHeaderSize) last start stop ∧
        hasDateFields (typeAt container (start + sizeFieldSize)) = true ∧
        fields ∈ dateFieldsAt container start stop) ?_ ?_ ?_ ?_ ?_ ?_).1
  · intro first last hheader size hsize ihBox ihRest hfields
    have hbox : BoxAt container first last size := ⟨rfl, hsize⟩
    -- the fields are in this box, or in one behind it
    rcases (mem_dateFieldsBetween hbox).mp hfields with hown | hrest
    · rcases ihBox hown with hown | ⟨hcontainer, start, stop, hreached, hdates⟩
      · exact ⟨first, first + size, .here hbox, hown⟩
      · exact ⟨start, stop, .inside hbox hcontainer hreached, hdates⟩
    · obtain ⟨start, stop, hreached, hdates⟩ := ihRest hrest
      exact ⟨start, stop, .behind hbox hreached, hdates⟩
  · intro first last hheader size hsize hfields
    rw [dateFieldsBetween_end rfl hsize] at hfields
    cases hfields
  · intro first last hheader hfields
    rw [dateFieldsBetween, if_neg hheader] at hfields
    cases hfields
  · intro first last hbox type hcontainer ih hfields
    rcases mem_dateFieldsOfBox.mp hfields with ⟨-, hinside⟩ | ⟨hnot, -⟩
    · exact .inr ⟨hcontainer, ih hinside⟩
    · exact absurd hcontainer (Bool.eq_false_iff.mp hnot)
  · intro first last hbox type hcontainer hdates hfields
    rcases mem_dateFieldsOfBox.mp hfields with ⟨hyes, -⟩ | ⟨-, hown⟩
    · exact absurd hyes hcontainer
    · exact .inl hown
  · intro first last hbox type hcontainer hdates hfields
    rcases mem_dateFieldsOfBox.mp hfields with ⟨hyes, -⟩ | ⟨-, hown⟩
    · exact absurd hyes hcontainer
    · exact .inl hown

/-- A date in a box that is reached is one of the boxes inside of it, or one of its own. -/
theorem Reached.own_or_inside (h : Reached container first last start stop)
    (hfields : fields ∈ dateFieldsBetween container first last) {i : Nat}
    (hi : i ∈ fields.positions) (hstart : start ≤ i) (hstop : i < stop) :
    start + boxHeaderSize ≤ i ∧
      (isContainer (typeAt container (start + sizeFieldSize)) = true ∨
        isContainer (typeAt container (start + sizeFieldSize)) = false ∧
        hasDateFields (typeAt container (start + sizeFieldSize)) = true ∧
        fields ∈ dateFieldsAt container start stop) := by
  obtain ⟨hbetween, hofBox⟩ := dateFields_within container
  have hpositions := DateFields.mem_positions.mp hi
  -- by the way to the box: at each step the dates are in front of it, in it, or behind it
  -- the walk finds the dates in the order in which it reaches the boxes
  induction h with
  | @here first last size hbox =>
    rcases (mem_dateFieldsBetween hbox).mp hfields with hown | hrest
    · refine ⟨?_, ?_⟩
      · have hfirst := (hofBox _ _ _ _ hown).1
        omega
      · exact (mem_dateFieldsOfBox.mp hown).imp And.left id
    · -- behind the box
      have hfirst := (hbetween _ _ _ hrest).1
      omega
  | @behind first last size start stop hbox hrest ih =>
    rcases (mem_dateFieldsBetween hbox).mp hfields with hown | hfields
    · have hlast := (hofBox _ _ _ _ hown).2
      have hwithin := hrest.within
      omega
    · exact ih hfields hstart hstop
  | @inside first last size start stop hbox hcontainer hchild ih =>
    rcases (mem_dateFieldsBetween hbox).mp hfields with hown | hrest
    · rcases mem_dateFieldsOfBox.mp hown with ⟨-, hinside⟩ | ⟨hnot, -⟩
      · exact ih hinside hstart hstop
      · exact absurd hcontainer (Bool.eq_false_iff.mp hnot)
    · have hfirst := (hbetween _ _ _ hrest).1
      have hwithin := hchild.within
      omega

/-- A date of a box with dates lies where its version says. -/
theorem inDateFields_of_mem (hfields : fields ∈ dateFieldsAt container start stop) {i : Nat}
    (hi : i ∈ fields.positions) : InDateFields container start i := by
  have hpositions := DateFields.mem_positions.mp hi
  obtain ⟨rfl, -⟩ := mem_dateFieldsAt hfields
  unfold InDateFields
  dsimp only at hpositions ⊢
  omega

end Reached

/-! ### What changes -/

/-- What changes is a date that the walk finds. -/
theorem mem_positions_of_changed {container : List UInt8} {i : Nat}
    (h : (normalizeIsoBmffTimestamps container)[i]? ≠ container[i]?) :
    ∃ fields ∈ dateFieldsBetween container 0 container.length, i ∈ fields.positions := by
  -- outside of the positions the two containers agree
  have hmem : i ∈ datePositions container := by
    by_contra hnot
    rw [datePositions, ← positions_datePatch] at hnot
    rw [normalizeIsoBmffTimestamps_eq] at h
    exact h (Patch.agreeOutside_overwrite _ _ i hnot).symm
  obtain ⟨fields, hfields, hi⟩ := List.mem_flatMap.mp hmem
  refine ⟨fields, ?_, hi⟩
  unfold dateFields at hfields
  split at hfields
  · cases hfields
  · split at hfields
    · cases hfields
    · exact hfields

/-- **Safety of the walk.** -/
theorem normalize_safe (container : List UInt8) :
    normalizeChecked container = some (normalizeIsoBmffTimestamps container) ∧
      (normalizeIsoBmffTimestamps container).length = container.length ∧
      (∀ i, (normalizeIsoBmffTimestamps container)[i]? ≠ container[i]? →
        ∃ start stop, Reached container 0 container.length start stop ∧
          hasDateFields (typeAt container (start + sizeFieldSize)) = true ∧
          InDateFields container start i ∧ i < stop) ∧
      ∀ start stop, Reached container 0 container.length start stop →
        ∀ i, start ≤ i → i < stop →
          (i < start + boxHeaderSize ∨
            isContainer (typeAt container (start + sizeFieldSize)) = false ∧
            (hasDateFields (typeAt container (start + sizeFieldSize)) = true →
              ¬ InDateFields container start i)) →
          (normalizeIsoBmffTimestamps container)[i]? = container[i]? := by
  refine ⟨normalizeChecked_eq container, ?_, fun i hchanged => ?_, ?_⟩
  · rw [normalizeIsoBmffTimestamps_eq, Patch.length_overwrite]
  · obtain ⟨fields, hfields, hi⟩ := mem_positions_of_changed hchanged
    obtain ⟨start, stop, hreached, hdates, hown⟩ := exists_reached container fields _ _ hfields
    have hlast := (dateFieldsAt_within hown).2
    have hpositions := DateFields.mem_positions.mp hi
    exact ⟨start, stop, hreached, hdates, inDateFields_of_mem hown hi, by omega⟩
  · intro start stop hreached i hstart hstop hother
    -- what changes is a date, and the box that has it is this one or lies in it
    by_contra hchanged
    obtain ⟨fields, hfields, hi⟩ := mem_positions_of_changed hchanged
    obtain ⟨hheader, hcontainer | ⟨-, hdates, hown⟩⟩ :=
      hreached.own_or_inside hfields hi hstart hstop
    · rcases hother with hbefore | ⟨hnot, -⟩
      · omega
      · exact absurd hcontainer (Bool.eq_false_iff.mp hnot)
    · rcases hother with hbefore | ⟨-, houtside⟩
      · omega
      · exact houtside hdates (inDateFields_of_mem hown hi)

end Ods.S4.IsoBmff
