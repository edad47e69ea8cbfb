import OdsMod2.Framework.GeneralFormat
import OdsMod2.S4.Http.EventRequest
import OdsMod2.S4.SqliteRepository

/-!
# The text of the points of interest

The points of a clip are one column: `serialize_points` writes the entries with a semicolon between
them, two coordinates and a label with commas between them. `parse_points` cuts the text at the
semicolons and an entry at its first two commas, so a label may contain commas; a semicolon in a label
is taken for the end of its entry, and there is no way to write one that is not.

The coordinates go through the default format of a stream and `std::stod`, six significant digits there
and back. A coordinate that a decimal number of six digits stands for (`Printable`) survives that, so it
is the labels that decide (`parse_serialize_iff`).
-/

namespace Ods.S4

namespace Sqlite

open Http (Doubles)
open TextStream

/-! ### Coordinates -/

/-- `operator<<` of a stream, with its default precision, and `std::stod` of the decimal numbers that
it writes. -/
def streamNumbers (doubles : Doubles) : NumberText where
  text x := String.ofList (general 6 x)
  stod text :=
    match Http.stod doubles text.toList with
    | none => .error "stod"
    | some x => .ok x

/-- The coordinate is what a decimal number of at most six digits is read as. A `double` is closer to
that number than the seventh digit. -/
def Printable (doubles : Doubles) (x : ℚ) : Prop :=
  ∃ d, HasDigits 6 d ∧ doubles.rangeError d = false ∧ doubles.nearest d = x ∧
    |x - d| * 10 ^ 7 ≤ |d|

section Coordinates

variable {doubles : Doubles} {x : ℚ}

theorem stod_text (h : Printable doubles x) :
    (streamNumbers doubles).stod ((streamNumbers doubles).text x) = .ok x := by
  obtain ⟨d, hdigits, hrange, hnearest, hnear⟩ := h
  have hread : readDecimal (general 6 x) = some d := by
    rw [readDecimal_general (by decide), rounded_near (by decide) hdigits hnear]
  simp [streamNumbers, Http.stod, hread, hrange, hnearest]

/-- A coordinate contains none of the two separators. -/
theorem separator_not_mem_text {separator : Char} (h : separator = ',' ∨ separator = ';') :
    separator ∉ ((streamNumbers doubles).text x).toList := by
  intro hmem
  rw [streamNumbers, String.toList_ofList] at hmem
  rcases h with rfl | rfl
  all_goals exact absurd (mem_general hmem) (by decide)

end Coordinates

/-! ### One entry -/

/-- The text of one point. -/
def entryText (numbers : NumberText) (point : PointOfInterest) : List Char :=
  (numbers.text point.x).toList ++ ',' :: ((numbers.text point.y).toList ++ ',' :: point.label.toList)

theorem parseEntry_entryText {doubles : Doubles} {point : PointOfInterest}
    (hx : Printable doubles point.x) (hy : Printable doubles point.y) :
    parseEntry (streamNumbers doubles) (entryText (streamNumbers doubles) point) = .ok point := by
  have hspan : ∀ {first rest : List Char}, ',' ∉ first →
      (first ++ ',' :: rest).span (fun c => decide (c ≠ ',')) = (first, ',' :: rest) := by
    intro first rest hfirst
    have hbefore : ∀ c ∈ first, decide (c ≠ ',') = true := by
      intro c hc
      rw [decide_eq_true_iff]
      rintro rfl
      exact hfirst hc
    have hstops : Stops (fun c => decide (c ≠ ',')) (',' :: rest) := by simp
    rw [List.span_eq_takeWhile_dropWhile, takeWhile_append hbefore hstops,
      dropWhile_append hbefore hstops]
  unfold parseEntry entryText
  rw [hspan (separator_not_mem_text (.inl rfl))]
  dsimp only
  rw [hspan (separator_not_mem_text (.inl rfl))]
  dsimp only
  rw [String.ofList_toList, String.ofList_toList, String.ofList_toList, stod_text hx, stod_text hy]
  rfl

/-- A label is cut out of its entry. -/
theorem label_subset_of_parseEntry {numbers : NumberText} {entry : List Char} {point : PointOfInterest}
    (h : parseEntry numbers entry = .ok point) : point.label.toList ⊆ entry := by
  -- what is behind a comma is a part of the text
  have hrest : ∀ {text first rest : List Char} {c : Char},
      text.span (fun c => decide (c ≠ ',')) = (first, c :: rest) → rest ⊆ text := by
    intro text first rest c hspan
    rw [List.span_eq_takeWhile_dropWhile] at hspan
    have hdrop := (Prod.mk.inj hspan).2
    have hsuffix := List.dropWhile_suffix (fun c => decide (c ≠ ',')) (l := text)
    rw [hdrop] at hsuffix
    exact List.Subset.trans (List.subset_cons_self c rest) hsuffix.subset
  unfold parseEntry at h
  split at h
  · cases h
  · next first c afterFirst hfirst =>
    split at h
    · cases h
    · next second c' label hsecond =>
      -- the label is what the two commas leave, whatever the coordinates are
      have hlabel : point.label = String.ofList label := by
        cases hx : numbers.stod (String.ofList first) with
        | error what =>
          rw [hx] at h
          cases h
        | ok x =>
          cases hy : numbers.stod (String.ofList second) with
          | error what =>
            rw [hx, hy] at h
            cases h
          | ok y =>
            rw [hx, hy] at h
            exact congrArg PointOfInterest.label (Except.ok.inj h).symm
      rw [hlabel, String.toList_ofList]
      exact List.Subset.trans (hrest hsecond) (hrest hfirst)

/-! ### All entries -/

theorem toList_serializePoints (numbers : NumberText) (points : List PointOfInterest) :
    (serializePoints numbers points).toList = [';'].intercalate (points.map (entryText numbers)) := by
  unfold serializePoints
  rw [String.toList_intercalate, List.map_map]
  congr 2
  funext point
  simp [entryText, String.toList_append]

/-- What stands between two separators contains none. -/
theorem not_mem_of_mem_splitOn {separator : Char} {text part : List Char}
    (h : part ∈ text.splitOn separator) : separator ∉ part := by
  induction text generalizing part with
  | nil =>
    rw [List.splitOn_nil, List.mem_singleton] at h
    rw [h]
    exact List.not_mem_nil
  | cons c text ih =>
    rw [List.splitOn_cons_eq_if_modifyHead] at h
    split at h
    · rcases List.mem_cons.mp h with rfl | h
      · exact List.not_mem_nil
      · exact ih h
    · next hc =>
      -- the character goes to the first part
      cases hparts : text.splitOn separator with
      | nil => exact absurd hparts (List.splitOn_ne_nil _ _)
      | cons first rest =>
        rw [hparts, List.modifyHead_cons] at h
        rcases List.mem_cons.mp h with rfl | h
        · intro hmem
          rcases List.mem_cons.mp hmem with rfl | hmem
          · exact hc BEq.rfl
          · exact ih (by rw [hparts]; exact List.mem_cons_self) hmem
        · exact ih (by rw [hparts]; exact List.mem_cons_of_mem _ h)

theorem semicolon_not_mem_of_parsePoints {numbers : NumberText} {raw : String}
    {points : List PointOfInterest} (h : parsePoints numbers raw = .ok points) :
    ∀ point ∈ points, ';' ∉ point.label.toList := by
  intro point hpoint hmem
  obtain ⟨entry, hentry, hparse⟩ :=
    Forall₂.exists_of_mem (List.Forall₂.flip (mapM_eq_ok_iff.mp h)) hpoint
  exact not_mem_of_mem_splitOn (List.mem_of_mem_filter hentry)
    (label_subset_of_parseEntry hparse hmem)

/-- **The labels decide.** Points with coordinates that six digits are enough for are read back as they
were written if and only if no label contains a semicolon. -/
theorem parse_serialize_iff (doubles : Doubles) (points : List PointOfInterest)
    (hprintable : ∀ point ∈ points, Printable doubles point.x ∧ Printable doubles point.y) :
    parsePoints (streamNumbers doubles) (serializePoints (streamNumbers doubles) points) =
        .ok points ↔
      ∀ point ∈ points, ';' ∉ point.label.toList := by
  constructor
  · exact semicolon_not_mem_of_parsePoints
  · intro hlabels
    have hentries : ((serializePoints (streamNumbers doubles) points).toList.splitOn ';').filter
        (fun entry => !entry.isEmpty) = points.map (entryText (streamNumbers doubles)) := by
      rw [toList_serializePoints]
      by_cases hnone : points = []
      · rw [hnone]
        rfl
      have hseparate : ∀ entry ∈ points.map (entryText (streamNumbers doubles)), ';' ∉ entry := by
        intro entry hentry
        obtain ⟨point, hpoint, rfl⟩ := List.mem_map.mp hentry
        have hx : ';' ∉ ((streamNumbers doubles).text point.x).toList :=
          separator_not_mem_text (.inr rfl)
        have hy : ';' ∉ ((streamNumbers doubles).text point.y).toList :=
          separator_not_mem_text (.inr rfl)
        simp [entryText, hx, hy, hlabels point hpoint]
      rw [List.splitOn_intercalate ';' hseparate (mt List.map_eq_nil_iff.mp hnone)]
      -- no entry is empty: there are two commas in it
      refine List.filter_eq_self.mpr fun entry hentry => ?_
      obtain ⟨point, -, rfl⟩ := List.mem_map.mp hentry
      simp [entryText]
    unfold parsePoints
    rw [hentries]
    refine mapM_eq_ok_iff.mpr (List.forall₂_map_left_iff.mpr ?_)
    refine List.forall₂_same.mpr fun point hpoint => ?_
    exact parseEntry_entryText (hprintable point hpoint).1 (hprintable point hpoint).2

theorem printable_exact {x : ℚ} (h : HasDigits 6 x) : Printable .exact x := by
  refine ⟨x, h, rfl, rfl, ?_⟩
  rw [sub_self, abs_zero, zero_mul]
  exact abs_nonneg x

/-- A label with a comma, and one that is empty. -/
def commaPoints : List PointOfInterest :=
  [⟨1 / 4, 3 / 4, "casca, rachada"⟩, ⟨1 / 2, -3, ""⟩]

theorem parse_serialize_comma :
    (∀ point ∈ commaPoints, Printable .exact point.x ∧ Printable .exact point.y) ∧
      parsePoints (streamNumbers .exact)
        (serializePoints (streamNumbers .exact) commaPoints) = .ok commaPoints := by
  have hprintable : ∀ point ∈ commaPoints,
      Printable .exact point.x ∧ Printable .exact point.y := by
    intro point hpoint
    rw [commaPoints, List.mem_pair] at hpoint
    rcases hpoint with rfl | rfl
    · exact ⟨printable_exact ⟨25, -2, by decide, by norm_num⟩,
        printable_exact ⟨75, -2, by decide, by norm_num⟩⟩
    · exact ⟨printable_exact ⟨5, -1, by decide, by norm_num⟩,
        printable_exact ⟨-3, 0, by decide, by norm_num⟩⟩
  exact ⟨hprintable, (parse_serialize_iff .exact commaPoints hprintable).mpr (by decide)⟩

/-- A point whose label contains a semicolon is not read back. -/
theorem parse_serialize_semicolon :
    ¬ ∀ points : List PointOfInterest,
      (∀ point ∈ points, Printable .exact point.x ∧ Printable .exact point.y) →
        parsePoints (streamNumbers .exact)
          (serializePoints (streamNumbers .exact) points) = .ok points := by
  intro h
  have hread := h [⟨1 / 4, 1 / 2, "a;b"⟩] fun point hpoint => by
    rw [List.mem_singleton.mp hpoint]
    exact ⟨printable_exact ⟨25, -2, by decide, by norm_num⟩,
      printable_exact ⟨5, -1, by decide, by norm_num⟩⟩
  exact semicolon_not_mem_of_parsePoints hread _ List.mem_cons_self (by decide)

end Sqlite

end Ods.S4
