import Mathlib.Algebra.Group.Nat.Defs
import OdsMod2.S4.Media.IsoBmff

/-!
# Containers as trees of boxes

A container of video is a tree of boxes written out, each with its size in front. On such a container,
the walk in place does what its purpose is: it is the map that fixes the dates of every header box of
the tree, wherever it stands (`normalize_serialize`).
-/

namespace Ods.S4.IsoBmff

/-! ### Numbers -/

/-- Four bytes, the highest first. -/
def be32 (value : UInt32) : List UInt8 :=
  [(value >>> 24).toUInt8, (value >>> 16).toUInt8, (value >>> 8).toUInt8, value.toUInt8]

/-- Eight bytes, the highest first. -/
def be64 (value : UInt64) : List UInt8 :=
  [(value >>> 56).toUInt8, (value >>> 48).toUInt8, (value >>> 40).toUInt8, (value >>> 32).toUInt8,
    (value >>> 24).toUInt8, (value >>> 16).toUInt8, (value >>> 8).toUInt8, value.toUInt8]

theorem lor_eq_add {x y : Nat} (k : Nat) (hx : 2 ^ k ∣ x) (hy : y < 2 ^ k) : x ||| y = x + y := by
  obtain ⟨a, rfl⟩ := hx
  exact (Nat.two_pow_add_eq_or_of_lt hy a).symm

/-- The bytes of a number, each in its place. -/
theorem lor_bytes (n : Nat) :
    n / 2 ^ 24 * 2 ^ 24 ||| n / 2 ^ 16 % 2 ^ 8 * 2 ^ 16 ||| n / 2 ^ 8 % 2 ^ 8 * 2 ^ 8 ||| n % 2 ^ 8 =
      n := by
  -- no two of the bytes share a bit, so or is addition
  have hupper : n / 2 ^ 24 * 2 ^ 24 ||| n / 2 ^ 16 % 2 ^ 8 * 2 ^ 16 = n / 2 ^ 16 * 2 ^ 16 := by
    rw [lor_eq_add 24 (Nat.dvd_mul_left _ _) (by omega)]
    omega
  have hthree : n / 2 ^ 16 * 2 ^ 16 ||| n / 2 ^ 8 % 2 ^ 8 * 2 ^ 8 = n / 2 ^ 8 * 2 ^ 8 := by
    rw [lor_eq_add 16 (Nat.dvd_mul_left _ _) (by omega)]
    omega
  rw [hupper, hthree, lor_eq_add 8 (Nat.dvd_mul_left _ _) (by omega)]
  omega

/-- What was written is read back. -/
theorem be32_join (value : UInt32) :
    ((value >>> 24).toUInt8.toUInt32 <<< 24) ||| ((value >>> 16).toUInt8.toUInt32 <<< 16) |||
      ((value >>> 8).toUInt8.toUInt32 <<< 8) ||| value.toUInt8.toUInt32 = value := by
  have hlt := value.toNat_lt
  have hbyte3 : ((value >>> 24).toUInt8.toUInt32 <<< 24).toNat =
      value.toNat / 2 ^ 24 * 2 ^ 24 := by
    simp [Nat.shiftRight_eq_div_pow, Nat.shiftLeft_eq]
    omega
  have hbyte2 : ((value >>> 16).toUInt8.toUInt32 <<< 16).toNat =
      value.toNat / 2 ^ 16 % 2 ^ 8 * 2 ^ 16 := by
    simp [Nat.shiftRight_eq_div_pow, Nat.shiftLeft_eq]
    omega
  have hbyte1 : ((value >>> 8).toUInt8.toUInt32 <<< 8).toNat =
      value.toNat / 2 ^ 8 % 2 ^ 8 * 2 ^ 8 := by
    simp [Nat.shiftRight_eq_div_pow, Nat.shiftLeft_eq]
    omega
  have hbyte0 : value.toUInt8.toUInt32.toNat = value.toNat % 2 ^ 8 := by
    simp
  refine UInt32.toNat_inj.mp ?_
  rw [UInt32.toNat_or, UInt32.toNat_or, UInt32.toNat_or, hbyte3, hbyte2, hbyte1, hbyte0, lor_bytes]

/-! ### Boxes -/

/-- The two dates of a header box, in one of the two versions. -/
inductive Dates where
  | version0 (creation modification : UInt32)
  | version1 (creation modification : UInt64)

def Dates.version : Dates → UInt8
  | .version0 _ _ => 0
  | .version1 _ _ => 1

def Dates.serialize : Dates → List UInt8
  | .version0 creation modification => be32 creation ++ be32 modification
  | .version1 creation modification => be64 creation ++ be64 modification

/-- The fixed value of the version. -/
def Dates.fixed : Dates → Dates
  | .version0 _ _ => .version0 normalizedTimestamp normalizedTimestamp
  | .version1 _ _ => .version1 0 0

/-- A box is a container of boxes, a header box with complete dates, or anything else. -/
inductive Box where
  | container (type : List UInt8) (contains : isContainer type = true) (children : List Box)
  | header (type : List UInt8) (dated : hasDateFields type = true) (flags : List UInt8)
      (flagged : flags.length = 3) (dates : Dates) (rest : List UInt8)
  | other (type : List UInt8) (typed : type.length = 4) (contains : isContainer type = false)
      (dated : hasDateFields type = false) (payload : List UInt8)

/-- A payload behind its size and its type. -/
def appendBox (type payload : List UInt8) : List UInt8 :=
  be32 (UInt32.ofNat (boxHeaderSize + payload.length)) ++ type ++ payload

mutual

def Box.serialize : Box → List UInt8
  | .container type _ children => appendBox type (Box.serializeAll children)
  | .header type _ flags _ dates rest =>
    appendBox type ([dates.version] ++ flags ++ dates.serialize ++ rest)
  | .other type _ _ _ payload => appendBox type payload

def Box.serializeAll : List Box → List UInt8
  | [] => []
  | box :: boxes => box.serialize ++ Box.serializeAll boxes

end

mutual

/-- The tree with the dates of every header box fixed. -/
def Box.normalized : Box → Box
  | .container type contains children => .container type contains (Box.normalizedAll children)
  | .header type dated flags flagged dates rest => .header type dated flags flagged dates.fixed rest
  | .other type typed contains dated payload => .other type typed contains dated payload

def Box.normalizedAll : List Box → List Box
  | [] => []
  | box :: boxes => box.normalized :: Box.normalizedAll boxes

end

def Box.type : Box → List UInt8
  | .container type _ _ => type
  | .header type _ _ _ _ _ => type
  | .other type _ _ _ _ => type

/-! ### The dates in place -/

section InPlace

variable (front back : List UInt8)

theorem byteAt_append (old : List UInt8) {i : Nat} (h : i < old.length) :
    byteAt (front ++ old ++ back) (front.length + i) = byteAt old i := by
  unfold byteAt
  rw [List.append_assoc, List.getElem?_append_right (Nat.le_add_right _ _), Nat.add_sub_cancel_left,
    List.getElem?_append_left h]

theorem set_append (old : List UInt8) {i : Nat} (h : i < old.length) (byte : UInt8) :
    (front ++ old ++ back).set (front.length + i) byte = front ++ old.set i byte ++ back := by
  rw [List.append_assoc, List.set_append_right _ _ (Nat.le_add_right _ _), Nat.add_sub_cancel_left,
    List.set_append_left _ _ h, List.append_assoc]

theorem readBe32_append (value : UInt32) :
    readBe32 (front ++ be32 value ++ back) front.length = value := by
  have hbyte : ∀ i < 4, byteAt (front ++ be32 value ++ back) (front.length + i) =
      byteAt (be32 value) i := fun i hi => byteAt_append front back (be32 value) hi
  have hfirst : byteAt (front ++ be32 value ++ back) front.length = byteAt (be32 value) 0 :=
    hbyte 0 (by decide)
  rw [readBe32, hfirst, hbyte 1 (by decide), hbyte 2 (by decide), hbyte 3 (by decide)]
  exact be32_join value

theorem typeAt_append {type : List UInt8} (htype : type.length = 4) :
    typeAt (front ++ type ++ back) front.length = type := by
  refine List.ext_getElem ?_ fun i hi hi' => ?_
  · rw [typeAt, List.length_map, List.length_range, htype]
  · simp only [typeAt, List.getElem_map, List.getElem_range]
    rw [byteAt_append front back type hi', byteAt, List.getElem?_eq_getElem hi']
    rfl

theorem writeBe32_append {old : List UInt8} (hold : old.length = 4) (value : UInt32) :
    writeBe32 (front ++ old ++ back) front.length value = front ++ be32 value ++ back := by
  have hset : ∀ (bytes : List UInt8) (i : Nat) (byte : UInt8), bytes.length = 4 → i < 4 →
      (front ++ bytes ++ back).set (front.length + i) byte = front ++ bytes.set i byte ++ back :=
    fun bytes i byte hlength hi => set_append front back bytes (hlength ▸ hi) byte
  have hfirst := hset old 0 (value >>> 24).toUInt8 hold (by decide)
  rw [Nat.add_zero] at hfirst
  rw [writeBe32, hfirst, hset _ 1 _ (by simpa using hold) (by decide),
    hset _ 2 _ (by simpa using hold) (by decide), hset _ 3 _ (by simpa using hold) (by decide)]
  match old, hold with
  | [_, _, _, _], _ => rfl

theorem zeroFill_append (old : List UInt8) :
    zeroFill (front ++ old ++ back) front.length old.length =
      front ++ List.replicate old.length 0 ++ back := by
  have hfilled : ∀ n ≤ old.length, zeroFill (front ++ old ++ back) front.length n =
      front ++ (List.replicate n 0 ++ old.drop n) ++ back := by
    intro n
    induction n with
    | zero => exact fun _ => rfl
    | succ n ih =>
      intro hn
      -- zeros in front, the old bytes behind, and the border moves by one
      have hlast : old.drop n = old[n] :: old.drop (n + 1) := List.drop_eq_getElem_cons hn
      have hset : (List.replicate n 0 ++ old.drop n).set n 0 =
          List.replicate (n + 1) 0 ++ old.drop (n + 1) := by
        rw [List.set_append_right _ _ (Nat.le_of_eq List.length_replicate), List.length_replicate,
          Nat.sub_self, hlast, List.set_cons_zero, List.replicate_succ', List.append_assoc]
        rfl
      have hlt : n < (List.replicate n 0 ++ old.drop n).length := by
        rw [List.length_append, List.length_replicate, List.length_drop]
        omega
      have hstep : zeroFill (front ++ old ++ back) front.length (n + 1) =
          (zeroFill (front ++ old ++ back) front.length n).set (front.length + n) 0 := by
        rw [zeroFill, List.range_succ, List.foldl_append]
        rfl
      rw [hstep, ih (Nat.le_of_succ_le hn), set_append front back _ hlt, hset]
  rw [hfilled old.length (Nat.le_refl _), List.drop_length, List.append_nil]

/-- The dates of a header box are overwritten with those of its version. -/
theorem fixed_inPlace (dates : Dates) :
    (if dateWidth dates.version = 4 then
      writeBe32 (writeBe32 (front ++ dates.serialize ++ back) front.length normalizedTimestamp)
        (front.length + dateWidth dates.version) normalizedTimestamp
    else
      zeroFill (zeroFill (front ++ dates.serialize ++ back) front.length (dateWidth dates.version))
        (front.length + dateWidth dates.version) (dateWidth dates.version)) =
      front ++ dates.fixed.serialize ++ back := by
  cases dates with
  | version0 creation modification =>
    -- two writes of four bytes, the second behind the first
    have hwidth : dateWidth (Dates.version0 creation modification).version = 4 := rfl
    have hlength : (front ++ be32 normalizedTimestamp).length = front.length + 4 :=
      List.length_append
    have hcreation : (be32 creation).length = 4 := rfl
    have hmodification : (be32 modification).length = 4 := rfl
    have hfirst := writeBe32_append front (be32 modification ++ back) hcreation normalizedTimestamp
    have hsecond := writeBe32_append (front ++ be32 normalizedTimestamp) back hmodification
      normalizedTimestamp
    rw [hlength] at hsecond
    simp only [List.append_assoc] at hfirst hsecond
    rw [hwidth, if_pos rfl, Dates.serialize, Dates.fixed, Dates.serialize]
    simp only [List.append_assoc]
    rw [hfirst, hsecond]
  | version1 creation modification =>
    -- two fills of eight
    have hwidth : dateWidth (Dates.version1 creation modification).version = 8 := rfl
    have hlength : (front ++ be64 0).length = front.length + 8 := List.length_append
    have hfirst : zeroFill (front ++ be64 creation ++ (be64 modification ++ back)) front.length 8 =
        front ++ be64 0 ++ (be64 modification ++ back) :=
      zeroFill_append front (be64 modification ++ back) (be64 creation)
    have hsecond : zeroFill (front ++ be64 0 ++ be64 modification ++ back) (front ++ be64 0).length
        8 = front ++ be64 0 ++ be64 0 ++ back :=
      zeroFill_append (front ++ be64 0) back (be64 modification)
    rw [hlength] at hsecond
    simp only [List.append_assoc] at hfirst hsecond
    rw [hwidth, if_neg (by decide), Dates.serialize, Dates.fixed, Dates.serialize]
    simp only [List.append_assoc]
    rw [hfirst, hsecond]

end InPlace

/-! ### The walk over a tree -/

theorem length_serialize_dates (dates : Dates) :
    dates.serialize.length = dateWidth dates.version + dateWidth dates.version := by
  cases dates <;> rfl

theorem Dates.version_fixed (dates : Dates) : dates.fixed.version = dates.version := by
  cases dates <;> rfl

theorem length_appendBox (type payload : List UInt8) :
    (appendBox type payload).length = sizeFieldSize + type.length + payload.length := by
  rw [appendBox, List.length_append, List.length_append]
  rfl

theorem isContainer_length {type : List UInt8} (h : isContainer type = true) : type.length = 4 := by
  simp only [isContainer, Bool.or_eq_true, beq_iff_eq] at h
  rcases h with (((rfl | rfl) | rfl) | rfl) | rfl <;> rfl

theorem hasDateFields_length {type : List UInt8} (h : hasDateFields type = true) :
    type.length = 4 := by
  simp only [hasDateFields, Bool.or_eq_true, beq_iff_eq] at h
  rcases h with (rfl | rfl) | rfl <;> rfl

theorem isContainer_of_dated {type : List UInt8} (h : hasDateFields type = true) :
    isContainer type = false := by
  simp only [hasDateFields, Bool.or_eq_true, beq_iff_eq] at h
  rcases h with (rfl | rfl) | rfl <;> rfl

mutual

/-- Fixing the dates moves nothing. -/
theorem Box.length_normalized : ∀ box : Box,
    box.normalized.serialize.length = box.serialize.length
  | .container type contains children => by
    rw [Box.normalized, Box.serialize, Box.serialize, length_appendBox, length_appendBox,
      Box.length_normalizedAll children]
  | .header type dated flags flagged dates rest => by
    rw [Box.normalized, Box.serialize, Box.serialize, length_appendBox, length_appendBox]
    simp only [List.length_append, length_serialize_dates, dates.version_fixed]
  | .other _ _ _ _ _ => rfl

theorem Box.length_normalizedAll : ∀ boxes : List Box,
    (Box.serializeAll (Box.normalizedAll boxes)).length = (Box.serializeAll boxes).length
  | [] => rfl
  | box :: boxes => by
    rw [Box.normalizedAll, Box.serializeAll, Box.serializeAll, List.length_append,
      List.length_append, box.length_normalized, Box.length_normalizedAll boxes]

end

def Box.payload : Box → List UInt8
  | .container _ _ children => Box.serializeAll children
  | .header _ _ flags _ dates rest => [dates.version] ++ flags ++ dates.serialize ++ rest
  | .other _ _ _ _ payload => payload

theorem Box.serialize_eq (box : Box) : box.serialize = appendBox box.type box.payload := by
  cases box <;> rw [Box.serialize] <;> rfl

theorem Box.length_type (box : Box) : box.type.length = 4 := by
  cases box with
  | container type contains children => exact isContainer_length contains
  | header type dated flags flagged dates rest => exact hasDateFields_length dated
  | other type typed contains dated payload => exact typed

theorem Box.length_serialize (box : Box) :
    box.serialize.length = boxHeaderSize + box.payload.length := by
  rw [box.serialize_eq, length_appendBox, box.length_type]
  rfl

section Walk

variable (front back : List UInt8)

/-- The size of a box is read where it begins. -/
theorem readBe32_box {box : Box} (hfits : box.serialize.length < 2 ^ 32) :
    (readBe32 (front ++ box.serialize ++ back) front.length).toNat = box.serialize.length := by
  have hread := readBe32_append front (box.type ++ box.payload ++ back)
    (UInt32.ofNat (boxHeaderSize + box.payload.length))
  rw [← box.length_serialize] at hread
  have hcontainer : front ++ be32 (UInt32.ofNat box.serialize.length) ++
      (box.type ++ box.payload ++ back) = front ++ box.serialize ++ back := by
    rw [box.length_serialize, box.serialize_eq, appendBox]
    simp only [List.append_assoc]
  rw [hcontainer] at hread
  rw [hread, UInt32.toNat_ofNat_of_lt' hfits]

/-- Behind it stands its type. -/
theorem typeAt_box (box : Box) :
    typeAt (front ++ box.serialize ++ back) (front.length + sizeFieldSize) = box.type := by
  have htype := typeAt_append (front ++ be32 (UInt32.ofNat (boxHeaderSize + box.payload.length)))
    (box.payload ++ back) box.length_type
  rw [List.length_append] at htype
  rw [box.serialize_eq, appendBox]
  simp only [List.append_assoc] at htype ⊢
  exact htype

/-- What stands in front of the dates of a header box. -/
def headerFront (type flags : List UInt8) (dates : Dates) (rest : List UInt8) : List UInt8 :=
  be32 (UInt32.ofNat (boxHeaderSize + ([dates.version] ++ flags ++ dates.serialize ++ rest).length)) ++
    type ++ [dates.version] ++ flags

theorem length_headerFront {type flags : List UInt8} (htype : type.length = 4)
    (hflags : flags.length = 3) (dates : Dates) (rest : List UInt8) :
    (headerFront type flags dates rest).length = boxHeaderSize + sizeFieldSize := by
  rw [headerFront, List.length_append, List.length_append, List.length_append, htype, hflags]
  rfl

theorem headerFront_fixed (type flags : List UInt8) (dates : Dates) (rest : List UInt8) :
    headerFront type flags dates.fixed rest = headerFront type flags dates rest := by
  simp only [headerFront, List.length_append, length_serialize_dates, dates.version_fixed]

theorem serialize_header {type : List UInt8} {dated : hasDateFields type = true}
    {flags : List UInt8} {flagged : flags.length = 3} (dates : Dates) (rest : List UInt8) :
    (Box.header type dated flags flagged dates rest).serialize =
      headerFront type flags dates rest ++ dates.serialize ++ rest := by
  rw [Box.serialize, appendBox, headerFront]
  simp only [List.append_assoc]

theorem length_boxHeader (size : UInt32) {type : List UInt8} (htype : type.length = 4) :
    (front ++ be32 size ++ type).length = front.length + boxHeaderSize := by
  rw [List.length_append, List.length_append, htype]
  rfl

theorem version_header {type : List UInt8} (htype : type.length = 4) (flags : List UInt8)
    (dates : Dates) (rest behind : List UInt8) :
    byteAt (front ++ headerFront type flags dates rest ++ behind) (front.length + boxHeaderSize) =
      dates.version := by
  have hversion := byteAt_append
    (front ++ be32 (UInt32.ofNat (boxHeaderSize +
      ([dates.version] ++ flags ++ dates.serialize ++ rest).length)) ++ type)
    (flags ++ behind) [dates.version] (i := 0) Nat.one_pos
  rw [length_boxHeader front _ htype] at hversion
  simp only [headerFront, List.append_assoc] at hversion ⊢
  exact hversion

/-- The dates of a header box are fixed in place. -/
theorem normalizeDates_header {type : List UInt8} {dated : hasDateFields type = true}
    {flags : List UInt8} {flagged : flags.length = 3} (dates : Dates) (rest : List UInt8) :
    normalizeDates (front ++ (Box.header type dated flags flagged dates rest).serialize ++ back)
        front.length
        (front.length + (Box.header type dated flags flagged dates rest).serialize.length) =
      front ++ (Box.header type dated flags flagged dates.fixed rest).serialize ++ back := by
  have htype := hasDateFields_length dated
  have hfront : (front ++ headerFront type flags dates rest).length =
      front.length + boxHeaderSize + sizeFieldSize := by
    rw [List.length_append, length_headerFront htype flagged, Nat.add_assoc]
  have hversion := version_header front htype flags dates rest (dates.serialize ++ (rest ++ back))
  have hfixed := fixed_inPlace (front ++ headerFront type flags dates rest) (rest ++ back) dates
  rw [hfront] at hfixed
  rw [serialize_header, serialize_header, headerFront_fixed, List.length_append, List.length_append,
    length_headerFront htype flagged, length_serialize_dates]
  simp only [List.append_assoc] at hversion hfixed ⊢
  -- both fields are complete, so neither check returns early
  rw [normalizeDates, if_neg (by omega)]
  dsimp only
  rw [hversion, if_neg (by omega)]
  exact hfixed

end Walk

theorem Box.fits_of_mem {boxes : List Box} (h : (Box.serializeAll boxes).length < 2 ^ 32) :
    ∀ box ∈ boxes, box.serialize.length < 2 ^ 32 := by
  induction boxes with
  | nil => exact List.forall_mem_nil _
  | cons box boxes ih =>
    rw [Box.serializeAll, List.length_append] at h
    exact List.forall_mem_cons.mpr ⟨by omega, ih (by omega)⟩

mutual

/-- **One box of a tree.** -/
theorem Box.normalizeBox_eq : ∀ (box : Box) (front back : List UInt8),
    box.serialize.length < 2 ^ 32 →
      ∀ hbox, normalizeBox (front ++ box.serialize ++ back) front.length
        (front.length + box.serialize.length) hbox = front ++ box.normalized.serialize ++ back
  | .container type contains children, front, back, hfits, hbox => by
    have htype := typeAt_box front back (.container type contains children)
    have hlength := (Box.container type contains children).length_serialize
    -- the children stand behind the size and the type
    have hchildren := Box.normalizeBoxes_eq children
      (front ++ be32 (UInt32.ofNat (boxHeaderSize + (Box.serializeAll children).length)) ++ type) back
      (Box.fits_of_mem (by rw [hlength] at hfits; exact Nat.lt_of_le_of_lt (Nat.le_add_left _ _) hfits))
    rw [length_boxHeader front _ (isContainer_length contains)] at hchildren
    rw [normalizeBox, htype, if_pos (by rw [Box.type, contains]), hlength, Box.normalized,
      Box.serialize, Box.serialize, appendBox, appendBox, Box.length_normalizedAll]
    simp only [List.append_assoc] at hchildren ⊢
    rw [← Nat.add_assoc]
    exact hchildren
  | .header type dated flags flagged dates rest, front, back, hfits, hbox => by
    have htype := typeAt_box front back (.header type dated flags flagged dates rest)
    rw [normalizeBox, htype, if_neg (by rw [Box.type, isContainer_of_dated dated]; decide),
      if_neg (by rw [Box.type, dated]; decide)]
    exact normalizeDates_header front back dates rest
  | .other type typed contains dated payload, front, back, hfits, hbox => by
    have htype := typeAt_box front back (.other type typed contains dated payload)
    rw [normalizeBox, htype, if_neg (by rw [Box.type, contains]; decide),
      if_pos (by rw [Box.type, dated]; rfl)]
    rfl

theorem Box.normalizeBoxes_eq : ∀ (boxes : List Box) (front back : List UInt8),
    (∀ box ∈ boxes, box.serialize.length < 2 ^ 32) →
      normalizeBoxes (front ++ Box.serializeAll boxes ++ back) front.length
        (front.length + (Box.serializeAll boxes).length) =
      front ++ Box.serializeAll (Box.normalizedAll boxes) ++ back
  | [], front, back, _ => by
    rw [normalizeBoxes, if_neg (by simp only [boxHeaderSize, Box.serializeAll, List.length_nil]; omega)]
    rfl
  | box :: boxes, front, back, hfits => by
    obtain ⟨hbox, hboxes⟩ := List.forall_mem_cons.mp hfits
    have hlength := box.length_serialize
    have hread := readBe32_box front (Box.serializeAll boxes ++ back) hbox
    have hfirst := box.normalizeBox_eq front (Box.serializeAll boxes ++ back) hbox
      (Nat.add_le_add_left (by omega) _)
    -- the box in front of the rest has its old length, so the walk goes on where the rest begins
    have hrest := Box.normalizeBoxes_eq boxes (front ++ box.normalized.serialize) back hboxes
    rw [List.length_append, box.length_normalized] at hrest
    rw [Box.normalizedAll, Box.serializeAll, Box.serializeAll, List.length_append, ← Nat.add_assoc]
    simp only [List.append_assoc] at hread hfirst hrest ⊢
    rw [normalizeBoxes_cons hread (by omega) ⟨by omega, by omega⟩, hfirst]
    exact hrest

end

/-- **The walk in place is the map over the tree.** -/
theorem normalize_serialize {boxes : List Box}
    (hfirst : ∀ first ∈ boxes.head?, isPlausible first.type = true)
    (hfits : ∀ box ∈ boxes, box.serialize.length < 2 ^ 32) :
    normalizeIsoBmffTimestamps (Box.serializeAll boxes) =
      Box.serializeAll (Box.normalizedAll boxes) := by
  cases boxes with
  | nil => rfl
  | cons first boxes =>
    have hwalk := Box.normalizeBoxes_eq (first :: boxes) [] [] hfits
    have htype := typeAt_box [] (Box.serializeAll boxes) first
    have hlength := first.length_serialize
    rw [List.nil_append, List.append_nil, List.length_nil, Nat.zero_add, List.nil_append,
      List.append_nil] at hwalk
    rw [List.nil_append, List.length_nil, Nat.zero_add] at htype
    have hlong : ¬ (Box.serializeAll (first :: boxes)).length < boxHeaderSize := by
      rw [Box.serializeAll, List.length_append]
      omega
    rw [normalizeIsoBmffTimestamps, if_neg hlong, hwalk]
    rw [Box.serializeAll, htype, if_neg (by rw [hfirst first rfl]; decide)]

theorem ftyp_typed : (fourCc "ftyp").length = 4 := rfl

theorem ftyp_contains : isContainer (fourCc "ftyp") = false := by
  decide

theorem ftyp_dated : hasDateFields (fourCc "ftyp") = false := by
  decide

theorem moov_contains : isContainer (fourCc "moov") = true := by
  decide

theorem trak_contains : isContainer (fourCc "trak") = true := by
  decide

theorem mvhd_dated : hasDateFields (fourCc "mvhd") = true := by
  decide

theorem tkhd_dated : hasDateFields (fourCc "tkhd") = true := by
  decide

theorem noFlags : [(0 : UInt8), 0, 0].length = 3 := rfl

/-- A header box of version 0, and one of version 1 further down and behind it. -/
def film : List Box :=
  [.other (fourCc "ftyp") ftyp_typed ftyp_contains ftyp_dated [0x69, 0x73, 0x6F, 0x6D],
    .container (fourCc "moov") moov_contains
      [.header (fourCc "mvhd") mvhd_dated [0, 0, 0] noFlags (.version0 0x5AE0E63D 0x5AE0E63D)
          [0, 0, 3, 0xE8],
        .container (fourCc "trak") trak_contains
          [.header (fourCc "tkhd") tkhd_dated [0, 0, 0] noFlags (.version1 0x5AE0E63D 0x5AE0E641) []]]]

theorem normalize_serialize_film :
    normalizeIsoBmffTimestamps (Box.serializeAll film) =
      Box.serializeAll (Box.normalizedAll film) := by
  refine normalize_serialize ?_ (Box.fits_of_mem ?_)
  · rintro first ⟨⟩
    decide
  · decide

end Ods.S4.IsoBmff
