import OdsMod2.Framework.Overwrite

/-!
# The dates of a container

The muxer stamps the time of muxing into the header boxes `mvhd`, `tkhd` and `mdhd`, so two
extractions of the same footage differ in these bytes. `normalize_iso_bmff_timestamps`
(`iso_bmff_timestamps.cpp`) walks the boxes and overwrites the dates with a constant, in place: the
walk goes on in the container it has already written to.

`dateFields` is the same walk without the writing. It is a search that does not read what it finds,
so overwriting is a normal form.
-/

namespace Ods.S4.IsoBmff

/-- Not an instant: a constant that no camera writes. -/
def normalizedTimestamp : UInt32 := 0x2D000000

def boxHeaderSize : Nat := 8

def sizeFieldSize : Nat := 4

/-! ### Reading and writing -/

/-- A byte of the container; all reads of the walk are within it. -/
def byteAt (container : List UInt8) (i : Nat) : UInt8 :=
  container[i]?.getD 0

def readBe32 (container : List UInt8) (offset : Nat) : UInt32 :=
  ((byteAt container offset).toUInt32 <<< 24) ||| ((byteAt container (offset + 1)).toUInt32 <<< 16)
    ||| ((byteAt container (offset + 2)).toUInt32 <<< 8)
    ||| (byteAt container (offset + 3)).toUInt32

def writeBe32 (container : List UInt8) (offset : Nat) (value : UInt32) : List UInt8 :=
  (((container.set offset (value >>> 24).toUInt8).set (offset + 1) (value >>> 16).toUInt8).set
    (offset + 2) (value >>> 8).toUInt8).set (offset + 3) value.toUInt8

/-- `memset` to zero. -/
def zeroFill (container : List UInt8) (offset width : Nat) : List UInt8 :=
  (List.range width).foldl (fun bytes i => bytes.set (offset + i) 0) container

/-- The four bytes of a box type. -/
def typeAt (container : List UInt8) (offset : Nat) : List UInt8 :=
  (List.range 4).map fun i => byteAt container (offset + i)

/-- A box type as it stands in the container. -/
def fourCc (name : String) : List UInt8 :=
  name.toList.map fun c => UInt8.ofNat c.toNat

def isContainer (type : List UInt8) : Bool :=
  type == fourCc "moov" || type == fourCc "trak" || type == fourCc "mdia" ||
    type == fourCc "edts" || type == fourCc "minf"

def hasDateFields (type : List UInt8) : Bool :=
  type == fourCc "mvhd" || type == fourCc "tkhd" || type == fourCc "mdhd"

/-! ### The walk that writes -/

/-- The two layouts of a date field. -/
def dateWidth (version : UInt8) : Nat :=
  if version = 1 then 8 else 4

/-- The part of `normalizeBox` for a box with dates. -/
def normalizeDates (container : List UInt8) (start stop : Nat) : List UInt8 :=
  if start + boxHeaderSize + sizeFieldSize > stop then container
  else
    -- the first byte behind the header is the version; three bytes of flags follow
    let width := dateWidth (byteAt container (start + boxHeaderSize))
    let firstField := start + boxHeaderSize + sizeFieldSize
    let secondField := firstField + width
    -- a box cut short in its dates keeps both
    if secondField + width > stop then container
    else if width = 4 then
      writeBe32 (writeBe32 container firstField normalizedTimestamp) secondField normalizedTimestamp
    else
      zeroFill (zeroFill container firstField width) secondField width

mutual

/-- The boxes between two offsets, one after the other. -/
def normalizeBoxes (container : List UInt8) (start stop : Nat) : List UInt8 :=
  if start + boxHeaderSize ≤ stop then
    let size := (readBe32 container start).toNat
    -- a size that is too small or does not fit ends the walk
    if hsize : boxHeaderSize ≤ size ∧ start + size ≤ stop then
      normalizeBoxes (normalizeBox container start (start + size) (Nat.add_le_add_left hsize.1 _))
        (start + size) stop
    else container
  else container
termination_by (stop - start, 1)
decreasing_by
  all_goals simp_wf
  all_goals simp only [Prod.lex_def, boxHeaderSize] at *
  all_goals omega

/-- One box; it has a header. -/
def normalizeBox (container : List UInt8) (start stop : Nat) (_hbox : start + boxHeaderSize ≤ stop) :
    List UInt8 :=
  let type := typeAt container (start + sizeFieldSize)
  if isContainer type then normalizeBoxes container (start + boxHeaderSize) stop
  -- media data and unknown boxes are not looked into
  else if !hasDateFields type then container
  else normalizeDates container start stop
termination_by (stop - start, 0)
decreasing_by
  simp only [Prod.lex_def, boxHeaderSize] at *
  omega

end

/-- Only what begins with a plausible top-level box is touched. -/
def isPlausible (type : List UInt8) : Bool :=
  type == fourCc "ftyp" || type == fourCc "moov" || type == fourCc "styp" ||
    type == fourCc "free" || type == fourCc "skip" || type == fourCc "wide"

/-- `normalize_iso_bmff_timestamps`. -/
def normalizeIsoBmffTimestamps (container : List UInt8) : List UInt8 :=
  if container.length < boxHeaderSize then container
  else if !isPlausible (typeAt container sizeFieldSize) then container
  else normalizeBoxes container 0 container.length

/-! ### The walk that only looks -/

/-- The two date fields of a box, side by side. -/
structure DateFields where
  first : Nat
  width : Nat

def DateFields.positions (fields : DateFields) : List Nat :=
  List.range' fields.first (fields.width + fields.width)

/-- The date fields of a box with dates, if it is long enough. -/
def dateFieldsAt (container : List UInt8) (start stop : Nat) : List DateFields :=
  if start + boxHeaderSize + sizeFieldSize > stop then []
  else
    let width := dateWidth (byteAt container (start + boxHeaderSize))
    let firstField := start + boxHeaderSize + sizeFieldSize
    if firstField + width + width > stop then [] else [⟨firstField, width⟩]

mutual

def dateFieldsBetween (container : List UInt8) (start stop : Nat) : List DateFields :=
  if start + boxHeaderSize ≤ stop then
    let size := (readBe32 container start).toNat
    if hsize : boxHeaderSize ≤ size ∧ start + size ≤ stop then
      dateFieldsOfBox container start (start + size) (Nat.add_le_add_left hsize.1 _) ++
        dateFieldsBetween container (start + size) stop
    else []
  else []
termination_by (stop - start, 1)
decreasing_by
  all_goals simp_wf
  all_goals simp only [Prod.lex_def, boxHeaderSize] at *
  all_goals omega

def dateFieldsOfBox (container : List UInt8) (start stop : Nat)
    (_hbox : start + boxHeaderSize ≤ stop) : List DateFields :=
  let type := typeAt container (start + sizeFieldSize)
  if isContainer type then dateFieldsBetween container (start + boxHeaderSize) stop
  else if !hasDateFields type then []
  else dateFieldsAt container start stop
termination_by (stop - start, 0)
decreasing_by
  simp only [Prod.lex_def, boxHeaderSize] at *
  omega

end

/-- The date fields that the walk over the container reaches. -/
def dateFields (container : List UInt8) : List DateFields :=
  if container.length < boxHeaderSize then []
  else if !isPlausible (typeAt container sizeFieldSize) then []
  else dateFieldsBetween container 0 container.length

def datePositions (container : List UInt8) : List Nat :=
  (dateFields container).flatMap DateFields.positions

/-! ### What is written there -/

def be32Patch (offset : Nat) (value : UInt32) : Patch UInt8 :=
  [(offset, (value >>> 24).toUInt8), (offset + 1, (value >>> 16).toUInt8),
    (offset + 2, (value >>> 8).toUInt8), (offset + 3, value.toUInt8)]

def zeroPatch (offset width : Nat) : Patch UInt8 :=
  (List.range width).map fun i => (offset + i, 0)

def DateFields.patch (fields : DateFields) : Patch UInt8 :=
  if fields.width = 4 then
    be32Patch fields.first normalizedTimestamp ++
      be32Patch (fields.first + fields.width) normalizedTimestamp
  else
    zeroPatch fields.first fields.width ++ zeroPatch (fields.first + fields.width) fields.width

def datePatch (fields : List DateFields) : Patch UInt8 :=
  fields.flatMap DateFields.patch

theorem DateFields.positions_patch (fields : DateFields) :
    fields.patch.positions = fields.positions := by
  have hzero : ∀ offset width, (zeroPatch offset width).positions = List.range' offset width := by
    intro offset width
    rw [List.range'_eq_map_range, Patch.positions, zeroPatch, List.map_map]
    rfl
  unfold DateFields.patch
  split
  · next hwidth =>
    rw [DateFields.positions, hwidth]
    rfl
  · rw [Patch.positions_append, hzero, hzero, List.range'_append_1]
    rfl

theorem positions_datePatch (fields : List DateFields) :
    (datePatch fields).positions = fields.flatMap DateFields.positions := by
  rw [datePatch, Patch.positions, List.map_flatMap]
  exact congrArg (List.flatMap · fields) (funext DateFields.positions_patch)

theorem datePatch_append (fields fields' : List DateFields) :
    datePatch (fields ++ fields') = datePatch fields ++ datePatch fields' :=
  List.flatMap_append

theorem overwrite_zeroPatch (container : List UInt8) (offset width : Nat) :
    (zeroPatch offset width).overwrite container = zeroFill container offset width :=
  List.foldl_map

theorem normalizeDates_eq (container : List UInt8) (start stop : Nat) :
    normalizeDates container start stop =
      (datePatch (dateFieldsAt container start stop)).overwrite container := by
  unfold normalizeDates dateFieldsAt
  generalize dateWidth (byteAt container (start + boxHeaderSize)) = width
  dsimp only
  split
  · rfl
  · split
    · rfl
    · rw [datePatch, List.flatMap_singleton, DateFields.patch]
      dsimp only
      split
      · rw [Patch.overwrite_append]
        rfl
      · rw [Patch.overwrite_append, overwrite_zeroPatch, overwrite_zeroPatch]

/-! ### Where the dates are -/

section Walk

variable {container other : List UInt8} {start stop : Nat} {fields : DateFields}

/-- The fields lie in the part of a box that comes after its header and its version. -/
def DateFields.Within (fields : DateFields) (start stop : Nat) : Prop :=
  start + boxHeaderSize + sizeFieldSize ≤ fields.first ∧
    fields.first + (fields.width + fields.width) ≤ stop

theorem DateFields.mem_positions {i : Nat} :
    i ∈ fields.positions ↔ fields.first ≤ i ∧ i < fields.first + (fields.width + fields.width) :=
  List.mem_range'_1

/-- Where the fields lie, and that the box is long enough for them. -/
theorem mem_dateFieldsAt (hfields : fields ∈ dateFieldsAt container start stop) :
    fields = ⟨start + boxHeaderSize + sizeFieldSize,
        dateWidth (byteAt container (start + boxHeaderSize))⟩ ∧
      fields.first + fields.width + fields.width ≤ stop := by
  unfold dateFieldsAt at hfields
  split at hfields
  · cases hfields
  · dsimp only at hfields
    split at hfields
    · cases hfields
    · next hfits =>
      obtain rfl := List.mem_singleton.mp hfields
      exact ⟨rfl, Nat.not_lt.mp hfits⟩

theorem dateFieldsAt_within (hfields : fields ∈ dateFieldsAt container start stop) :
    fields.Within start stop := by
  obtain ⟨rfl, hfits⟩ := mem_dateFieldsAt hfields
  rw [Nat.add_assoc] at hfits
  exact ⟨Nat.le_refl _, hfits⟩

/-- The walk over a box that fits, and over what follows it. -/
theorem dateFieldsBetween_cons {size : Nat} (hread : (readBe32 container start).toNat = size)
    (hheader : start + boxHeaderSize ≤ stop) (hsize : boxHeaderSize ≤ size ∧ start + size ≤ stop) :
    dateFieldsBetween container start stop =
      dateFieldsOfBox container start (start + size) (Nat.add_le_add_left hsize.1 _) ++
        dateFieldsBetween container (start + size) stop := by
  subst hread
  rw [dateFieldsBetween, if_pos hheader]
  exact dif_pos hsize

theorem dateFieldsBetween_end {size : Nat} (hread : (readBe32 container start).toNat = size)
    (hsize : ¬ (boxHeaderSize ≤ size ∧ start + size ≤ stop)) :
    dateFieldsBetween container start stop = [] := by
  subst hread
  rw [dateFieldsBetween]
  split
  · exact dif_neg hsize
  · rfl

theorem dateFields_within (container : List UInt8) :
    (∀ start stop, ∀ fields ∈ dateFieldsBetween container start stop, fields.Within start stop) ∧
    ∀ start stop hbox, ∀ fields ∈ dateFieldsOfBox container start stop hbox,
      fields.Within start stop := by
  refine dateFieldsBetween.mutual_induct container
    (fun start stop => ∀ fields ∈ dateFieldsBetween container start stop, fields.Within start stop)
    (fun start stop hbox => ∀ fields ∈ dateFieldsOfBox container start stop hbox,
      fields.Within start stop) ?_ ?_ ?_ ?_ ?_ ?_
  · -- a box and what follows it
    intro start stop hheader size hsize ihBox ihRest fields hfields
    rw [dateFieldsBetween_cons rfl hheader hsize] at hfields
    rcases List.mem_append.mp hfields with hfields | hfields
    · obtain ⟨hfirst, hlast⟩ := ihBox fields hfields
      exact ⟨hfirst, Nat.le_trans hlast hsize.2⟩
    · obtain ⟨hfirst, hlast⟩ := ihRest fields hfields
      exact ⟨by omega, hlast⟩
  · intro start stop hheader size hsize fields hfields
    rw [dateFieldsBetween_end rfl hsize] at hfields
    cases hfields
  · intro start stop hheader fields hfields
    rw [dateFieldsBetween, if_neg hheader] at hfields
    cases hfields
  · -- a container: its children
    intro start stop hbox type hcontainer ih fields hfields
    rw [dateFieldsOfBox, if_pos hcontainer] at hfields
    obtain ⟨hfirst, hlast⟩ := ih fields hfields
    exact ⟨by omega, hlast⟩
  · intro start stop hbox type hcontainer hdates fields hfields
    rw [dateFieldsOfBox, if_neg hcontainer, if_pos hdates] at hfields
    cases hfields
  · intro start stop hbox type hcontainer hdates fields hfields
    rw [dateFieldsOfBox, if_neg hcontainer, if_neg hdates] at hfields
    exact dateFieldsAt_within hfields

/-! ### What the walk reads -/

/-- The containers hold the same between two offsets, except in these fields. -/
def SameBetween (container other : List UInt8) (start stop : Nat) (fields : List DateFields) :
    Prop :=
  ∀ i, start ≤ i → i < stop → (∀ d ∈ fields, i ∉ d.positions) →
    byteAt container i = byteAt other i

theorem readBe32_congr {offset : Nat}
    (h : ∀ i, offset ≤ i → i < offset + sizeFieldSize → byteAt container i = byteAt other i) :
    readBe32 container offset = readBe32 other offset := by
  simp only [sizeFieldSize] at h
  unfold readBe32
  rw [h offset (by omega) (by omega), h (offset + 1) (by omega) (by omega),
    h (offset + 2) (by omega) (by omega), h (offset + 3) (by omega) (by omega)]

theorem typeAt_congr {offset : Nat}
    (h : ∀ i, offset ≤ i → i < offset + 4 → byteAt container i = byteAt other i) :
    typeAt container offset = typeAt other offset := by
  refine List.map_congr_left fun i hi => h _ (Nat.le_add_right _ _) ?_
  have := List.mem_range.mp hi
  omega

/-- No date lies in the header of the first box, nor in its version. -/
theorem SameBetween.header {fields : List DateFields}
    (h : SameBetween container other start stop fields)
    (hwithin : ∀ d ∈ fields, d.Within start stop) {i : Nat} (hstart : start ≤ i)
    (hheader : i < start + boxHeaderSize + sizeFieldSize) (hstop : i < stop) :
    byteAt container i = byteAt other i := by
  refine h i hstart hstop fun d hd hmem => ?_
  have hfirst := (hwithin d hd).1
  have hi := (DateFields.mem_positions.mp hmem).1
  omega

theorem SameBetween.typeAt {fields : List DateFields}
    (h : SameBetween container other start stop fields)
    (hwithin : ∀ d ∈ fields, d.Within start stop) (hbox : start + boxHeaderSize ≤ stop) :
    typeAt other (start + sizeFieldSize) = IsoBmff.typeAt container (start + sizeFieldSize) := by
  simp only [boxHeaderSize] at hbox
  refine typeAt_congr fun i hi hlt => ?_
  simp only [sizeFieldSize] at hi hlt
  exact (h.header hwithin (by omega) (by simp only [boxHeaderSize, sizeFieldSize]; omega)
    (by omega)).symm

theorem dateFieldsAt_congr
    (h : SameBetween container other start stop (dateFieldsAt container start stop)) :
    dateFieldsAt other start stop = dateFieldsAt container start stop := by
  unfold dateFieldsAt
  split
  · rfl
  · next hfits =>
    simp only [boxHeaderSize, sizeFieldSize] at hfits
    rw [h.header (fun d hd => dateFieldsAt_within hd) (Nat.le_add_right _ _)
      (by simp only [sizeFieldSize]; omega) (by simp only [boxHeaderSize]; omega)]

/-- The fields of what follows lie behind the box. -/
theorem SameBetween.left {here there : List DateFields} {middle : Nat}
    (h : SameBetween container other start stop (here ++ there)) (hmiddle : middle ≤ stop)
    (hwithin : ∀ d ∈ there, d.Within middle stop) :
    SameBetween container other start middle here := by
  intro i hstart hlt hnot
  refine h i hstart (Nat.lt_of_lt_of_le hlt hmiddle) fun d hd hmem => ?_
  rcases List.mem_append.mp hd with hd | hd
  · exact hnot d hd hmem
  · have hfirst := (hwithin d hd).1
    have hi := (DateFields.mem_positions.mp hmem).1
    omega

theorem SameBetween.right {here there : List DateFields} {middle : Nat}
    (h : SameBetween container other start stop (here ++ there)) (hmiddle : start ≤ middle)
    (hwithin : ∀ d ∈ here, d.Within start middle) :
    SameBetween container other middle stop there := by
  intro i hge hstop hnot
  refine h i (Nat.le_trans hmiddle hge) hstop fun d hd hmem => ?_
  rcases List.mem_append.mp hd with hd | hd
  · have hlast := (hwithin d hd).2
    have hi := (DateFields.mem_positions.mp hmem).2
    omega
  · exact hnot d hd hmem

/-- **The walk does not read the dates it finds.** -/
theorem dateFieldsBetween_congr (container other : List UInt8) :
    (∀ start stop, SameBetween container other start stop (dateFieldsBetween container start stop) →
      dateFieldsBetween other start stop = dateFieldsBetween container start stop) ∧
    ∀ start stop hbox,
      SameBetween container other start stop (dateFieldsOfBox container start stop hbox) →
        dateFieldsOfBox other start stop hbox = dateFieldsOfBox container start stop hbox := by
  obtain ⟨hbetween, hofBox⟩ := dateFields_within container
  refine dateFieldsBetween.mutual_induct container
    (fun start stop =>
      SameBetween container other start stop (dateFieldsBetween container start stop) →
        dateFieldsBetween other start stop = dateFieldsBetween container start stop)
    (fun start stop hbox =>
      SameBetween container other start stop (dateFieldsOfBox container start stop hbox) →
        dateFieldsOfBox other start stop hbox = dateFieldsOfBox container start stop hbox)
    ?_ ?_ ?_ ?_ ?_ ?_
  · -- a box and the boxes behind it: its size is not a date, so both containers step alike
    intro start stop hheader size hsize ihBox ihRest h
    have hread : readBe32 other start = readBe32 container start :=
      readBe32_congr fun i hi hlt => (h.header (hbetween _ _) hi (by omega)
        (by simp only [boxHeaderSize, sizeFieldSize] at *; omega)).symm
    rw [dateFieldsBetween_cons rfl hheader hsize] at h
    rw [dateFieldsBetween_cons (congrArg UInt32.toNat hread) hheader hsize,
      dateFieldsBetween_cons rfl hheader hsize,
      ihBox (h.left hsize.2 (hbetween _ _)),
      ihRest (h.right (Nat.le_add_right _ _) (hofBox _ _ _))]
  · intro start stop hheader size hsize h
    have hread : readBe32 other start = readBe32 container start :=
      readBe32_congr fun i hi hlt => (h.header (hbetween _ _) hi (by omega)
        (by simp only [boxHeaderSize, sizeFieldSize] at *; omega)).symm
    rw [dateFieldsBetween_end (congrArg UInt32.toNat hread) hsize, dateFieldsBetween_end rfl hsize]
  · intro start stop hheader h
    rw [dateFieldsBetween, if_neg hheader, dateFieldsBetween, if_neg hheader]
  · -- the type of a box is not a date either
    intro start stop hbox type hcontainer ih h
    have htype := h.typeAt (hofBox _ _ _) hbox
    rw [dateFieldsOfBox, if_pos hcontainer] at h
    rw [dateFieldsOfBox, dateFieldsOfBox, htype, if_pos hcontainer, if_pos hcontainer]
    exact ih fun i hstart hstop hnot => h i (by omega) hstop hnot
  · intro start stop hbox type hcontainer hdates h
    have htype := h.typeAt (hofBox _ _ _) hbox
    rw [dateFieldsOfBox, dateFieldsOfBox, htype, if_neg hcontainer, if_pos hdates,
      if_neg hcontainer, if_pos hdates]
  · intro start stop hbox type hcontainer hdates h
    have htype := h.typeAt (hofBox _ _ _) hbox
    rw [dateFieldsOfBox, if_neg hcontainer, if_neg hdates] at h
    rw [dateFieldsOfBox, dateFieldsOfBox, htype, if_neg hcontainer, if_neg hdates,
      if_neg hcontainer, if_neg hdates]
    exact dateFieldsAt_congr h

/-! ### The walk that writes finds the same -/

theorem normalizeBoxes_cons {size : Nat} (hread : (readBe32 container start).toNat = size)
    (hheader : start + boxHeaderSize ≤ stop) (hsize : boxHeaderSize ≤ size ∧ start + size ≤ stop) :
    normalizeBoxes container start stop =
      normalizeBoxes
        (normalizeBox container start (start + size) (Nat.add_le_add_left hsize.1 _))
        (start + size) stop := by
  subst hread
  rw [normalizeBoxes, if_pos hheader]
  exact dif_pos hsize

theorem normalizeBoxes_end {size : Nat} (hread : (readBe32 container start).toNat = size)
    (hsize : ¬ (boxHeaderSize ≤ size ∧ start + size ≤ stop)) :
    normalizeBoxes container start stop = container := by
  subst hread
  rw [normalizeBoxes]
  split
  · exact dif_neg hsize
  · rfl

/-- What was written in a box does not change what is found behind it. -/
theorem dateFieldsBetween_overwrite {fields : List DateFields} {middle : Nat}
    (hwithin : ∀ d ∈ fields, d.Within start middle) :
    dateFieldsBetween ((datePatch fields).overwrite container) middle stop =
      dateFieldsBetween container middle stop := by
  refine (dateFieldsBetween_congr container _).1 middle stop fun i hi _ _ => ?_
  unfold byteAt
  rw [Patch.agreeOutside_overwrite (datePatch fields) container i fun hmem => ?_]
  rw [positions_datePatch] at hmem
  obtain ⟨d, hd, hmem⟩ := List.mem_flatMap.mp hmem
  have hlast := (hwithin d hd).2
  have hlt := (DateFields.mem_positions.mp hmem).2
  omega

theorem normalizeBoxes_eq :
    (∀ container start stop, normalizeBoxes container start stop =
      (datePatch (dateFieldsBetween container start stop)).overwrite container) ∧
    ∀ container start stop hbox, normalizeBox container start stop hbox =
      (datePatch (dateFieldsOfBox container start stop hbox)).overwrite container := by
  refine normalizeBoxes.mutual_induct
    (fun container start stop => normalizeBoxes container start stop =
      (datePatch (dateFieldsBetween container start stop)).overwrite container)
    (fun container start stop hbox => normalizeBox container start stop hbox =
      (datePatch (dateFieldsOfBox container start stop hbox)).overwrite container)
    ?_ ?_ ?_ ?_ ?_ ?_
  · -- the boxes behind it are looked for in a container whose dates are already overwritten
    intro container start stop hheader size hsize ihBox _ ihRest
    rw [normalizeBoxes_cons rfl hheader hsize, ihRest, ihBox,
      dateFieldsBetween_overwrite ((dateFields_within container).2 _ _ _),
      dateFieldsBetween_cons rfl hheader hsize, datePatch_append, Patch.overwrite_append]
  · intro container start stop hheader size hsize
    rw [normalizeBoxes_end rfl hsize, dateFieldsBetween_end rfl hsize]
    rfl
  · intro container start stop hheader
    rw [normalizeBoxes, if_neg hheader, dateFieldsBetween, if_neg hheader]
    rfl
  · intro container start stop hbox type hcontainer ih
    rw [normalizeBox, if_pos hcontainer, dateFieldsOfBox, if_pos hcontainer]
    exact ih
  · intro container start stop hbox type hcontainer hdates
    rw [normalizeBox, if_neg hcontainer, if_pos hdates, dateFieldsOfBox, if_neg hcontainer,
      if_pos hdates]
    rfl
  · intro container start stop hbox type hcontainer hdates
    rw [normalizeBox, if_neg hcontainer, if_neg hdates, dateFieldsOfBox, if_neg hcontainer,
      if_neg hdates]
    exact normalizeDates_eq container start stop

end Walk

/-! ### The normal form -/

theorem normalizeIsoBmffTimestamps_eq (container : List UInt8) :
    normalizeIsoBmffTimestamps container =
      (datePatch (dateFields container)).overwrite container := by
  unfold normalizeIsoBmffTimestamps dateFields
  split
  · rfl
  · split
    · rfl
    · exact normalizeBoxes_eq.1 container 0 container.length

theorem dateFields_locates : Locates fun container => datePatch (dateFields container) := by
  intro container other hlength hagree
  rw [positions_datePatch] at hagree
  refine congrArg datePatch ?_
  have hsame : ∀ fields, dateFields container = fields →
      SameBetween container other 0 container.length fields := by
    rintro fields rfl i _ _ hnot
    refine congrArg (Option.getD · 0) (hagree i fun hmem => ?_)
    obtain ⟨d, hd, hmem⟩ := List.mem_flatMap.mp hmem
    exact hnot d hd hmem
  unfold dateFields at hsame ⊢
  rw [← hlength]
  split
  · rfl
  next hlong =>
  -- the first eight bytes are no date
  have htype : ∀ fields, SameBetween container other 0 container.length fields →
      (∀ d ∈ fields, d.Within 0 container.length) →
        typeAt other sizeFieldSize = typeAt container sizeFieldSize := by
    intro fields h hwithin
    have := h.typeAt hwithin (by omega)
    rwa [Nat.zero_add] at this
  rw [if_neg hlong] at hsame
  have hbetween := (dateFields_within container).1 0 container.length
  by_cases hplausible : (!isPlausible (typeAt container sizeFieldSize)) = true
  · rw [htype [] (hsame [] (if_pos hplausible)) fun _ hd => (by cases hd), if_pos hplausible,
      if_pos hplausible]
  · have h := hsame _ (if_neg hplausible)
    rw [htype _ h hbetween, if_neg hplausible, if_neg hplausible]
    exact (dateFieldsBetween_congr container other).1 _ _ h

/-- **Canonical form.** Containers of one size are normalized to the same bytes, and so to the same
hash, if and only if they differ in dates only; what is normalized stays as it is. -/
theorem normalize_canonical {container other : List UInt8}
    (hlength : container.length = other.length) :
    (normalizeIsoBmffTimestamps container = normalizeIsoBmffTimestamps other ↔
        AgreeOutside (datePositions container) container other) ∧
      normalizeIsoBmffTimestamps (normalizeIsoBmffTimestamps container) =
        normalizeIsoBmffTimestamps container ∧
      (AgreeOutside (datePositions container) container other →
        ∀ sha256Of : List UInt8 → String,
          sha256Of (normalizeIsoBmffTimestamps container) =
            sha256Of (normalizeIsoBmffTimestamps other)) := by
  have hiff : normalizeIsoBmffTimestamps container = normalizeIsoBmffTimestamps other ↔
      AgreeOutside (datePositions container) container other := by
    rw [datePositions, ← positions_datePatch, normalizeIsoBmffTimestamps_eq,
      normalizeIsoBmffTimestamps_eq]
    exact dateFields_locates.overwrite_eq_iff hlength
  refine ⟨hiff, ?_, fun hagree sha256Of => congrArg sha256Of (hiff.mpr hagree)⟩
  rw [normalizeIsoBmffTimestamps_eq, normalizeIsoBmffTimestamps_eq]
  exact dateFields_locates.overwrite_idem container

/-- A `moov` box with nothing in it but a movie header, cut after its dates. -/
def movie (created : UInt8) : List UInt8 :=
  [0, 0, 0, 28] ++ fourCc "moov" ++ [0, 0, 0, 20] ++ fourCc "mvhd" ++ [0, 0, 0, 0] ++
    [0, 0, 0, created] ++ [0, 0, 0, created]

theorem normalize_canonical_movie :
    normalizeIsoBmffTimestamps (movie 1) = normalizeIsoBmffTimestamps (movie 2) ↔
      AgreeOutside (datePositions (movie 1)) (movie 1) (movie 2) :=
  (normalize_canonical (by rfl)).1

end Ods.S4.IsoBmff
