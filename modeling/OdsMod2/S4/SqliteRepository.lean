import OdsMod2.Framework.ExceptList
import OdsMod2.Framework.KeyedTable
import OdsMod2.S4.MediaClip
import Mathlib.Data.List.Sort
import Mathlib.Data.List.TakeWhile

/-!
# The SQLite repository

`SQLiteMediaClipRepository` (`sqlite_media_clip_repository.cpp`) stores a clip as a row of texts
and integers and rebuilds it when it is read. The database is a table keyed by `clip_id`; SQLite
itself is trusted to store and compare values faithfully, and enters as the order in which a query
visits its rows (`SqliteEngine`).

What the repository is for is a map from ids to clips, the last version stored of each (`stored`).
`Faithful` says that the three queries read that map, up to the resolution of the columns, which is
a millisecond.

Reading a row can fail. The columns hold the ends of the time window truncated to milliseconds,
and the row is decoded through the constructor of `TimeWindow`, which wants its start before its
end; a window inside one millisecond is encoded and cannot be decoded (`clipFromRow_bindClip`).
The queries decode every row they visit, so one such clip makes `findPurgeCandidates` throw.
`queries_faithful_iff` is the exact condition.
-/

namespace Ods.S4

namespace Sqlite

/-! ### Instants -/

/-- `to_epoch_ms`: `duration_cast` truncates towards zero. -/
def toEpochMs (instant : TimePoint) : Int :=
  instant.tdiv 1000000

def fromEpochMs (ms : Int) : TimePoint :=
  ms * 1000000

/-- What a column keeps of an instant. -/
def truncated (instant : TimePoint) : TimePoint :=
  fromEpochMs (toEpochMs instant)

theorem truncated_lt_iff {a b : TimePoint} :
    truncated a < truncated b ↔ toEpochMs a < toEpochMs b := by
  unfold truncated fromEpochMs
  exact Int.mul_lt_mul_right (by decide)

/-! ### Points of interest -/

/-- How the standard library writes a double and reads it back; `stod` throws
`std::invalid_argument` or `std::out_of_range`. -/
structure NumberText where
  text : Rat → String
  stod : String → Except String Rat

/-- What the repository throws: its own exceptions and those of the standard library. -/
inductive StorageException where
  | ods (exception : ODSException)
  | standard (what : String)
  deriving DecidableEq, Repr

def serializePoints (numbers : NumberText) (points : List PointOfInterest) : String :=
  ";".intercalate (points.map fun point =>
    numbers.text point.x ++ "," ++ numbers.text point.y ++ "," ++ point.label)

/-- One entry between semicolons: two commas, and the rest is the label. -/
def parseEntry (numbers : NumberText) (entry : List Char) :
    Except StorageException PointOfInterest :=
  match entry.span (· ≠ ',') with
  | (_, []) => .error malformed
  -- the comma itself belongs to neither part
  | (first, _ :: afterFirst) =>
    match afterFirst.span (· ≠ ',') with
    | (_, []) => .error malformed
    | (second, _ :: label) => do
      let x ← (numbers.stod (String.ofList first)).mapError .standard
      let y ← (numbers.stod (String.ofList second)).mapError .standard
      return ⟨x, y, String.ofList label⟩
where
  malformed : StorageException :=
    .ods (.application ⟨.sqliteStorage, "malformed points_of_interest payload"⟩)

/-- Empty entries are skipped. -/
def parsePoints (numbers : NumberText) (raw : String) :
    Except StorageException (List PointOfInterest) :=
  ((raw.toList.splitOn ';').filter fun entry => !entry.isEmpty).mapM (parseEntry numbers)

/-! ### Rows -/

/-- The columns of `media_clips`. -/
structure ClipRow where
  clipId : String
  eventId : String
  filePath : String
  sha256Hash : String
  startTimeMs : Int
  endTimeMs : Int
  isRetained : Int
  isLockedForAudit : Int
  createdAtMs : Int
  pointsOfInterest : String
  deriving DecidableEq, Repr

/-- A text that passes through a C string ends at its first NUL. -/
def cString (text : String) : String :=
  String.ofList (text.toList.takeWhile (· ≠ Char.ofNat 0))

/-- A text without NUL bytes. -/
def NulFree (text : String) : Prop :=
  ∀ c ∈ text.toList, c ≠ Char.ofNat 0

instance (text : String) : Decidable (NulFree text) :=
  List.decidableBAll (fun c => c ≠ Char.ofNat 0) text.toList

theorem cString_of_nulFree {text : String} (h : NulFree text) : cString text = text := by
  unfold cString
  rw [List.takeWhile_eq_self_iff.mpr (fun c hc => decide_eq_true (h c hc)), String.ofList_toList]

/-- `bind_clip`. -/
def bindClip (numbers : NumberText) (clip : MediaClip) : ClipRow where
  clipId := cString clip.clipId
  eventId := cString clip.eventId
  filePath := cString clip.filePath
  sha256Hash := cString clip.sha256Hash
  startTimeMs := toEpochMs clip.timeWindow.startTime
  endTimeMs := toEpochMs clip.timeWindow.endTime
  -- a flag is an INTEGER column
  isRetained := if clip.isRetained then 1 else 0
  isLockedForAudit := if clip.isLockedForAudit then 1 else 0
  createdAtMs := toEpochMs clip.createdAt
  pointsOfInterest := cString (serializePoints numbers clip.pointsOfInterest)

/-- `clip_from_row`. -/
def clipFromRow (numbers : NumberText) (row : ClipRow) : Except StorageException MediaClip := do
  -- the domain constructor checks what the database holds
  let timeWindow ← (TimeWindow.make (fromEpochMs row.startTimeMs)
    (fromEpochMs row.endTimeMs)).mapError fun error => .ods (.domain error)
  let points ← parsePoints numbers row.pointsOfInterest
  return {
    clipId := row.clipId
    eventId := row.eventId
    filePath := row.filePath
    sha256Hash := row.sha256Hash
    timeWindow := timeWindow
    isRetained := row.isRetained ≠ 0
    isLockedForAudit := row.isLockedForAudit ≠ 0
    createdAt := fromEpochMs row.createdAtMs
    pointsOfInterest := points }

/-! ### Encoding and decoding -/

/-- A clip with texts a C string can carry and no points of interest. -/
structure Plain (clip : MediaClip) : Prop where
  clipId : NulFree clip.clipId
  eventId : NulFree clip.eventId
  filePath : NulFree clip.filePath
  sha256Hash : NulFree clip.sha256Hash
  pointsOfInterest : clip.pointsOfInterest = []

/-- The start and the end of the window fall into different milliseconds. -/
def Separated (window : TimeWindow) : Prop :=
  toEpochMs window.startTime < toEpochMs window.endTime

instance (window : TimeWindow) : Decidable (Separated window) :=
  inferInstanceAs (Decidable (toEpochMs window.startTime < toEpochMs window.endTime))

/-- The clip as the columns keep it: equal but for the three instants, which are truncated. -/
def IsTruncation (clip kept : MediaClip) : Prop :=
  ∃ window : TimeWindow, window.startTime = truncated clip.timeWindow.startTime ∧
    window.endTime = truncated clip.timeWindow.endTime ∧
    kept = { clip with timeWindow := window, createdAt := truncated clip.createdAt }

theorem isTruncation_separated {clip kept : MediaClip} (h : IsTruncation clip kept) :
    Separated clip.timeWindow := by
  obtain ⟨window, hstart, hend, -⟩ := h
  have hlt := window.start_lt_end
  rw [hstart, hend] at hlt
  exact truncated_lt_iff.mp hlt

theorem parsePoints_none (numbers : NumberText) :
    parsePoints numbers (cString (serializePoints numbers [])) = .ok [] := by
  rfl

/-- Every field but the instants comes back as it went in, so decoding is the construction of the
window. -/
theorem clipFromRow_eq {numbers : NumberText} {clip : MediaClip} (h : Plain clip) :
    clipFromRow numbers (bindClip numbers clip) =
      ((TimeWindow.make (truncated clip.timeWindow.startTime)
        (truncated clip.timeWindow.endTime)).mapError
          (fun error => StorageException.ods (.domain error))).map
        fun window => { clip with timeWindow := window, createdAt := truncated clip.createdAt } := by
  -- each column gives back what was bound to it; a clip without points has an empty text
  have hpoints : parsePoints numbers (bindClip numbers clip).pointsOfInterest = .ok [] := by
    show parsePoints numbers (cString (serializePoints numbers clip.pointsOfInterest)) = _
    rw [h.pointsOfInterest]
    exact parsePoints_none numbers
  have hretained : decide ((bindClip numbers clip).isRetained ≠ 0) = clip.isRetained := by
    show decide ((if clip.isRetained then (1 : Int) else 0) ≠ 0) = _
    cases clip.isRetained <;> rfl
  have hlocked : decide ((bindClip numbers clip).isLockedForAudit ≠ 0) = clip.isLockedForAudit := by
    show decide ((if clip.isLockedForAudit then (1 : Int) else 0) ≠ 0) = _
    cases clip.isLockedForAudit <;> rfl
  have hkept : ∀ window : TimeWindow,
      ({ clipId := (bindClip numbers clip).clipId
         eventId := (bindClip numbers clip).eventId
         filePath := (bindClip numbers clip).filePath
         sha256Hash := (bindClip numbers clip).sha256Hash
         timeWindow := window
         isRetained := (bindClip numbers clip).isRetained ≠ 0
         isLockedForAudit := (bindClip numbers clip).isLockedForAudit ≠ 0
         createdAt := fromEpochMs (bindClip numbers clip).createdAtMs
         pointsOfInterest := [] } : MediaClip)
        = { clip with timeWindow := window, createdAt := truncated clip.createdAt } := by
    intro window
    rw [hretained, hlocked, ← h.pointsOfInterest]
    show MediaClip.mk (cString clip.clipId) (cString clip.eventId) (cString clip.filePath)
      (cString clip.sha256Hash) _ _ _ _ _ = _
    rw [cString_of_nulFree h.clipId, cString_of_nulFree h.eventId, cString_of_nulFree h.filePath,
      cString_of_nulFree h.sha256Hash]
    rfl
  unfold clipFromRow
  rw [hpoints]
  show ((TimeWindow.make (truncated clip.timeWindow.startTime)
    (truncated clip.timeWindow.endTime)).mapError
      (fun error => StorageException.ods (.domain error)) >>= _) = _
  -- only the window can be refused
  cases TimeWindow.make (truncated clip.timeWindow.startTime)
    (truncated clip.timeWindow.endTime) with
  | error error => rfl
  | ok window => exact congrArg Except.ok (hkept window)

/-- A truncation of the clip has a window that the constructor accepts. -/
theorem isTruncation_iff {clip kept : MediaClip} :
    IsTruncation clip kept ↔ ∃ window,
      TimeWindow.make (truncated clip.timeWindow.startTime)
        (truncated clip.timeWindow.endTime) = .ok window ∧
      kept = { clip with timeWindow := window, createdAt := truncated clip.createdAt } := by
  unfold IsTruncation
  simp only [TimeWindow.make_ok_iff, and_assoc]

/-- **Decoding after encoding.** A row is read back as the truncated clip, and it can be read back
only if the window survives the truncation. -/
theorem clipFromRow_bindClip {numbers : NumberText} {clip kept : MediaClip} (h : Plain clip) :
    clipFromRow numbers (bindClip numbers clip) = .ok kept ↔ IsTruncation clip kept := by
  rw [clipFromRow_eq h, isTruncation_iff]
  cases TimeWindow.make (truncated clip.timeWindow.startTime)
    (truncated clip.timeWindow.endTime) with
  | error error =>
    constructor
    · intro hok
      cases hok
    · rintro ⟨window, hmake, -⟩
      cases hmake
  | ok window =>
    constructor
    · intro hok
      exact ⟨window, rfl, (Except.ok.inj hok).symm⟩
    · rintro ⟨window', hmake, rfl⟩
      rw [Except.ok.inj hmake]
      rfl

/-! ### The repository -/

/-- What SQLite leaves open, and what it promises: a query visits each row it matches once, and
`ORDER BY` sorts. -/
structure SqliteEngine where
  scan : List ClipRow → List ClipRow
  scan_perm : ∀ rows, (scan rows).Perm rows
  orderByCreatedAt : List ClipRow → List ClipRow
  order_perm : ∀ rows, (orderByCreatedAt rows).Perm rows
  order_sorted : ∀ rows,
    (orderByCreatedAt rows).Pairwise fun row row' => row.createdAtMs ≤ row'.createdAtMs

/-- The table `media_clips`. -/
abbrev Database := KeyedTable ClipRow.clipId

section Queries

variable (numbers : NumberText) (engine : SqliteEngine)

/-- `INSERT OR REPLACE`. -/
def save (db : Database) (clip : MediaClip) : Database :=
  db.upsert (bindClip numbers clip)

def update (db : Database) (clip : MediaClip) : Database :=
  save numbers db clip

def remove (db : Database) (clipId : String) : Database :=
  db.erase (cString clipId)

def findById (db : Database) (clipId : String) : Except StorageException (Option MediaClip) :=
  match db.lookup (cString clipId) with
  | some row => (clipFromRow numbers row).map some
  | none => .ok none

def findByEventId (db : Database) (eventId : String) :
    Except StorageException (List MediaClip) :=
  (engine.scan (db.rows.filter fun row => row.eventId = cString eventId)).mapM
    (clipFromRow numbers)

def findPurgeCandidates (db : Database) : Except StorageException (List MediaClip) :=
  (engine.orderByCreatedAt
    (db.rows.filter fun row => row.isRetained = 1 ∧ row.isLockedForAudit = 0)).mapM
      (clipFromRow numbers)

end Queries

/-! ### What the repository is for -/

/-- A call that changes the repository. -/
inductive StoreCall where
  | save (clip : MediaClip)
  | update (clip : MediaClip)
  | remove (clipId : String)

/-- The texts of the call fit a C string, and a clip it stores has no points of interest. -/
def StoreCall.Plain : StoreCall → Prop
  | .save clip => Sqlite.Plain clip
  | .update clip => Sqlite.Plain clip
  | .remove clipId => NulFree clipId

def StoreCall.run (numbers : NumberText) (db : Database) : StoreCall → Database
  | .save clip => Sqlite.save numbers db clip
  | .update clip => Sqlite.update numbers db clip
  | .remove clipId => Sqlite.remove db clipId

/-- The database after a sequence of calls on a fresh file. -/
def runAll (numbers : NumberText) (calls : List StoreCall) : Database :=
  calls.foldl (StoreCall.run numbers) KeyedTable.empty

/-- The call, on a map from ids to clips. -/
def StoreCall.record (clips : String → Option MediaClip) : StoreCall → String → Option MediaClip
  | .save clip => Function.update clips clip.clipId (some clip)
  | .update clip => Function.update clips clip.clipId (some clip)
  | .remove clipId => Function.update clips clipId none

/-- The last version stored of each clip. -/
def stored (calls : List StoreCall) : String → Option MediaClip :=
  calls.foldl StoreCall.record fun _ => none

/-- A query answered with the clips that satisfy `P`, each once, as the columns keep them. -/
structure Reads (clips : String → Option MediaClip) (P : MediaClip → Prop)
    (answer : List MediaClip) : Prop where
  once : (answer.map MediaClip.clipId).Nodup
  mem_iff : ∀ kept, kept ∈ answer ↔
    ∃ clip, clips clip.clipId = some clip ∧ P clip ∧ IsTruncation clip kept

/-- All three queries succeed and read the map. -/
structure Faithful (numbers : NumberText) (engine : SqliteEngine) (db : Database)
    (clips : String → Option MediaClip) : Prop where
  findById_none : ∀ clipId, NulFree clipId → clips clipId = none →
    findById numbers db clipId = .ok none
  findById_some : ∀ clipId clip, NulFree clipId → clips clipId = some clip →
    ∃ kept, findById numbers db clipId = .ok (some kept) ∧ IsTruncation clip kept
  findByEventId : ∀ eventId, NulFree eventId →
    ∃ answer, findByEventId numbers engine db eventId = .ok answer ∧
      Reads clips (fun clip => clip.eventId = eventId) answer
  findPurgeCandidates : ∃ answer, findPurgeCandidates numbers engine db = .ok answer ∧
    Reads clips (fun clip => clip.isRetained = true ∧ clip.isLockedForAudit = false) answer ∧
      answer.Pairwise fun kept kept' => kept.createdAt ≤ kept'.createdAt

/-! ### The table represents the map -/

/-- The table holds the encoding of each stored clip, and nothing else. -/
structure Represents (numbers : NumberText) (db : Database) (clips : String → Option MediaClip) :
    Prop where
  lookup : ∀ clipId, db.lookup clipId = (clips clipId).map (bindClip numbers)
  plain : ∀ clipId clip, clips clipId = some clip → Plain clip ∧ clip.clipId = clipId

section Represents

variable {numbers : NumberText} {engine : SqliteEngine} {db : Database}
  {clips : String → Option MediaClip}

/-- What changes at one key is represented by the map that changes there. -/
theorem Represents.update (h : Represents numbers db clips) {clipId : String}
    {value : Option MediaClip} {db' : Database}
    (hlookup : db'.lookup = Function.update db.lookup clipId (value.map (bindClip numbers)))
    (hvalue : ∀ clip, value = some clip → Plain clip ∧ clip.clipId = clipId) :
    Represents numbers db' (Function.update clips clipId value) := by
  constructor
  · intro clipId'
    rw [hlookup]
    by_cases heq : clipId' = clipId
    · subst heq
      rw [Function.update_self, Function.update_self]
    · rw [Function.update_of_ne heq, Function.update_of_ne heq]
      exact h.lookup clipId'
  · intro clipId' clip hclip
    by_cases heq : clipId' = clipId
    · subst heq
      rw [Function.update_self] at hclip
      exact hvalue clip hclip
    · rw [Function.update_of_ne heq] at hclip
      exact h.plain clipId' clip hclip

theorem Represents.save (h : Represents numbers db clips) {clip : MediaClip} (hplain : Plain clip) :
    Represents numbers (save numbers db clip) (Function.update clips clip.clipId (some clip)) := by
  have hid : (bindClip numbers clip).clipId = clip.clipId := cString_of_nulFree hplain.clipId
  apply h.update
  · unfold Sqlite.save
    rw [KeyedTable.lookup_upsert, hid]
    rfl
  · intro clip' hclip'
    obtain rfl := Option.some.inj hclip'
    exact ⟨hplain, rfl⟩

theorem Represents.remove (h : Represents numbers db clips) {clipId : String}
    (hid : NulFree clipId) :
    Represents numbers (remove db clipId) (Function.update clips clipId none) := by
  apply h.update
  · unfold Sqlite.remove
    rw [KeyedTable.lookup_erase, cString_of_nulFree hid]
    rfl
  · intro clip hclip
    cases hclip

/-- **The refinement.** After any sequence of calls the table represents the map of last
versions. -/
theorem represents_runAll (numbers : NumberText) {calls : List StoreCall}
    (hplain : ∀ call ∈ calls, call.Plain) :
    Represents numbers (runAll numbers calls) (stored calls) := by
  have hinit : Represents numbers KeyedTable.empty fun _ => none :=
    ⟨fun _ => rfl, fun _ _ h => by cases h⟩
  unfold runAll stored
  -- the two folds run side by side, from any table that represents a map
  generalize (KeyedTable.empty : Database) = db at hinit ⊢
  generalize (fun _ => none : String → Option MediaClip) = clips at hinit ⊢
  induction calls generalizing db clips with
  | nil => exact hinit
  | cons call calls ih =>
    have hrest : ∀ call' ∈ calls, call'.Plain :=
      fun call' hcall' => hplain call' (List.mem_cons_of_mem _ hcall')
    refine ih hrest _ _ ?_
    have hcall := hplain call List.mem_cons_self
    cases call with
    | save clip => exact hinit.save hcall
    | update clip => exact hinit.save hcall
    | remove clipId => exact hinit.remove hcall

theorem Represents.mem_rows (h : Represents numbers db clips) {row : ClipRow} :
    row ∈ db.rows ↔ ∃ clip, clips clip.clipId = some clip ∧ row = bindClip numbers clip := by
  constructor
  · intro hrow
    have hlookup := h.lookup row.clipId
    rw [KeyedTable.lookup_eq_some.mpr ⟨hrow, rfl⟩] at hlookup
    obtain ⟨clip, hclip, hbind⟩ := Option.map_eq_some_iff.mp hlookup.symm
    obtain ⟨-, hid⟩ := h.plain _ clip hclip
    exact ⟨clip, by rw [hid]; exact hclip, hbind.symm⟩
  · rintro ⟨clip, hclip, rfl⟩
    have hlookup := h.lookup clip.clipId
    rw [hclip] at hlookup
    exact (KeyedTable.lookup_eq_some.mp hlookup).1

end Represents

/-! ### Reading the rows -/

section Queries

variable {numbers : NumberText} {engine : SqliteEngine} {db : Database}
  {clips : String → Option MediaClip}

/-- What a decoded row keeps of its columns. -/
theorem clipFromRow_columns {row : ClipRow} {kept : MediaClip}
    (h : clipFromRow numbers row = .ok kept) :
    kept.clipId = row.clipId ∧ kept.createdAt = fromEpochMs row.createdAtMs := by
  unfold clipFromRow at h
  cases hwindow : TimeWindow.make (fromEpochMs row.startTimeMs) (fromEpochMs row.endTimeMs) with
  | error error =>
    rw [hwindow] at h
    cases h
  | ok window =>
    rw [hwindow] at h
    cases hpoints : parsePoints numbers row.pointsOfInterest with
    | error error =>
      rw [hpoints] at h
      cases h
    | ok points =>
      rw [hpoints] at h
      obtain rfl := Except.ok.inj h
      exact ⟨rfl, rfl⟩

theorem map_clipId_of_decoded {rows : List ClipRow} {answer : List MediaClip}
    (h : List.Forall₂ (fun row kept => clipFromRow numbers row = .ok kept) rows answer) :
    answer.map MediaClip.clipId = rows.map ClipRow.clipId := by
  induction h with
  | nil => rfl
  | cons hdecode _ ih =>
    rw [List.map_cons, List.map_cons, ih, (clipFromRow_columns hdecode).1]

theorem map_createdAt_of_decoded {rows : List ClipRow} {answer : List MediaClip}
    (h : List.Forall₂ (fun row kept => clipFromRow numbers row = .ok kept) rows answer) :
    answer.map MediaClip.createdAt = rows.map fun row => fromEpochMs row.createdAtMs := by
  induction h with
  | nil => rfl
  | cons hdecode _ ih =>
    rw [List.map_cons, List.map_cons, ih, (clipFromRow_columns hdecode).2]

/-- A clip whose window survives the truncation is decoded. -/
theorem exists_isTruncation {clip : MediaClip} (h : Separated clip.timeWindow) :
    ∃ kept, IsTruncation clip kept :=
  ⟨_, ⟨truncated clip.timeWindow.startTime, truncated clip.timeWindow.endTime,
    truncated_lt_iff.mpr h⟩, rfl, rfl, rfl⟩

/-- **A query.** When every stored window survives the truncation, a query that visits the rows
matching `p` succeeds, and reads the clips that satisfy `P`. -/
theorem query_reads (hrep : Represents numbers db clips)
    (hsep : ∀ clipId clip, clips clipId = some clip → Separated clip.timeWindow)
    {p : ClipRow → Bool} {P : MediaClip → Prop}
    (hp : ∀ clip, Plain clip → (p (bindClip numbers clip) = true ↔ P clip))
    {rows : List ClipRow} (hperm : rows.Perm (db.rows.filter p)) :
    ∃ answer, rows.mapM (clipFromRow numbers) = .ok answer ∧
      List.Forall₂ (fun row kept => clipFromRow numbers row = .ok kept) rows answer ∧
      Reads clips P answer := by
  have hrow : ∀ row, row ∈ rows ↔
      ∃ clip, clips clip.clipId = some clip ∧ P clip ∧ row = bindClip numbers clip := by
    intro row
    rw [hperm.mem_iff, List.mem_filter, hrep.mem_rows]
    constructor
    · rintro ⟨⟨clip, hclip, rfl⟩, hpass⟩
      exact ⟨clip, hclip, (hp clip (hrep.plain _ clip hclip).1).mp hpass, rfl⟩
    · rintro ⟨clip, hclip, hP, rfl⟩
      exact ⟨⟨clip, hclip, rfl⟩, (hp clip (hrep.plain _ clip hclip).1).mpr hP⟩
  -- one row that does not decode would fail the whole query
  obtain ⟨answer, hanswer, hall⟩ : ∃ answer, rows.mapM (clipFromRow numbers) = .ok answer ∧
      List.Forall₂ (fun row kept => clipFromRow numbers row = .ok kept) rows answer := by
    have hdecodes : ∀ row ∈ rows, ∃ kept, clipFromRow numbers row = .ok kept := by
      intro row hmem
      obtain ⟨clip, hclip, -, rfl⟩ := (hrow row).mp hmem
      obtain ⟨kept, hkept⟩ := exists_isTruncation (hsep _ clip hclip)
      exact ⟨kept, (clipFromRow_bindClip (hrep.plain _ clip hclip).1).mpr hkept⟩
    obtain ⟨answer, hall⟩ := exists_forall₂ hdecodes
    exact ⟨answer, mapM_eq_ok_iff.mpr hall, hall⟩
  refine ⟨answer, hanswer, hall, ?_, fun kept => ⟨fun hkept => ?_, ?_⟩⟩
  · -- a row is visited once, and its id is a key
    rw [map_clipId_of_decoded hall, (hperm.map _).nodup_iff]
    exact db.nodup_key.sublist (List.filter_sublist.map _)
  · -- what is answered was decoded from a row
    obtain ⟨row, hmem, hdecode⟩ := Forall₂.exists_of_mem hall.flip hkept
    obtain ⟨clip, hclip, hP, rfl⟩ := (hrow row).mp hmem
    exact ⟨clip, hclip, hP, (clipFromRow_bindClip (hrep.plain _ clip hclip).1).mp hdecode⟩
  · -- and every row is visited
    rintro ⟨clip, hclip, hP, htrunc⟩
    obtain ⟨kept', hmem, hdecode⟩ := Forall₂.exists_of_mem hall ((hrow _).mpr ⟨clip, hclip, hP, rfl⟩)
    rw [(clipFromRow_bindClip (hrep.plain _ clip hclip).1).mpr htrunc] at hdecode
    rw [Except.ok.inj hdecode]
    exact hmem

theorem Represents.faithful (hrep : Represents numbers db clips)
    (hsep : ∀ clipId clip, clips clipId = some clip → Separated clip.timeWindow) :
    Faithful numbers engine db clips := by
  refine ⟨fun clipId hid hnone => ?_, fun clipId clip hid hclip => ?_, fun eventId hevent => ?_, ?_⟩
  · unfold findById
    rw [cString_of_nulFree hid, hrep.lookup, hnone]
    rfl
  · obtain ⟨kept, hkept⟩ := exists_isTruncation (hsep clipId clip hclip)
    refine ⟨kept, ?_, hkept⟩
    unfold findById
    rw [cString_of_nulFree hid, hrep.lookup, hclip]
    show (clipFromRow numbers (bindClip numbers clip)).map some = _
    rw [(clipFromRow_bindClip (hrep.plain clipId clip hclip).1).mpr hkept]
    rfl
  · have hp : ∀ clip, Plain clip →
        (decide ((bindClip numbers clip).eventId = cString eventId) = true
          ↔ clip.eventId = eventId) := by
      intro clip hplain
      rw [decide_eq_true_eq, cString_of_nulFree hevent]
      show cString clip.eventId = eventId ↔ _
      rw [cString_of_nulFree hplain.eventId]
    obtain ⟨answer, hanswer, -, hreads⟩ := query_reads hrep hsep
      (p := fun row => row.eventId = cString eventId) hp (engine.scan_perm _)
    exact ⟨answer, hanswer, hreads⟩
  · have hp : ∀ clip, Plain clip →
        (decide ((bindClip numbers clip).isRetained = 1 ∧
          (bindClip numbers clip).isLockedForAudit = 0) = true
          ↔ clip.isRetained = true ∧ clip.isLockedForAudit = false) := by
      intro clip hplain
      rw [decide_eq_true_eq]
      show (if clip.isRetained then (1 : Int) else 0) = 1 ∧
        (if clip.isLockedForAudit then (1 : Int) else 0) = 0 ↔ _
      cases clip.isRetained <;> cases clip.isLockedForAudit <;> decide
    obtain ⟨answer, hanswer, hall, hreads⟩ := query_reads hrep hsep
      (p := fun row => row.isRetained = 1 ∧ row.isLockedForAudit = 0) hp (engine.order_perm _)
    refine ⟨answer, hanswer, hreads, ?_⟩
    rw [← List.pairwise_map (f := MediaClip.createdAt) (R := (· ≤ ·)),
      map_createdAt_of_decoded hall, List.pairwise_map]
    refine (engine.order_sorted _).imp fun hle => ?_
    exact Int.mul_le_mul_of_nonneg_right hle (by decide)

end Queries

/-- **When the repository reads what was stored.** After any sequence of calls on a fresh database,
the three queries succeed and read the last version of each clip if and only if the window of every
stored clip has its ends in different milliseconds. -/
theorem queries_faithful_iff (numbers : NumberText) (engine : SqliteEngine)
    {calls : List StoreCall} (hplain : ∀ call ∈ calls, call.Plain) :
    Faithful numbers engine (runAll numbers calls) (stored calls) ↔
      ∀ clipId clip, stored calls clipId = some clip → Separated clip.timeWindow := by
  have hrep := represents_runAll numbers hplain
  constructor
  · -- each stored clip can be asked for by its id, and what comes back has a window
    intro h clipId clip hclip
    obtain ⟨hclipPlain, rfl⟩ := hrep.plain clipId clip hclip
    obtain ⟨kept, -, hkept⟩ := h.findById_some _ clip hclipPlain.clipId hclip
    exact isTruncation_separated hkept
  · intro hsep
    exact hrep.faithful hsep

/-! ### Two windows -/

/-- An engine that visits rows as they were inserted. -/
def insertionEngine : SqliteEngine where
  scan := id
  scan_perm rows := List.Perm.refl rows
  orderByCreatedAt rows := rows.insertionSort fun row row' => row.createdAtMs ≤ row'.createdAtMs
  order_perm rows := List.perm_insertionSort _ rows
  order_sorted rows := List.pairwise_insertionSort _ rows

/-- Numbers that are never written. -/
def noNumbers : NumberText where
  text _ := ""
  stod _ := .error "stod"

/-- A clip whose window ends the given number of nanoseconds after the epoch. -/
def clipUntil (endTime : TimePoint) (h : 0 < endTime) : MediaClip where
  clipId := "clip-a"
  eventId := "evt"
  filePath := "/nvme/evt.mp4"
  sha256Hash := ""
  timeWindow := ⟨0, endTime, h⟩
  createdAt := 0

theorem clipUntil_plain (endTime : TimePoint) (h : 0 < endTime) : Plain (clipUntil endTime h) where
  clipId := (by decide : NulFree "clip-a")
  eventId := (by decide : NulFree "evt")
  filePath := (by decide : NulFree "/nvme/evt.mp4")
  sha256Hash := (by decide : NulFree "")
  pointsOfInterest := rfl

/-- Two clips are saved. The window of the first is corrected to a millisecond, and the second is
removed. -/
def correctedCalls : List StoreCall :=
  [.save (clipUntil 999999 (by decide)),
    .save { clipUntil 2000000 (by decide) with clipId := "clip-b" },
    .update (clipUntil 1000000 (by decide)), .remove "clip-b"]

theorem plain_correctedCalls : ∀ call ∈ correctedCalls, call.Plain := by
  have hsecond : Plain { clipUntil 2000000 (by decide) with clipId := "clip-b" } :=
    { clipUntil_plain 2000000 (by decide) with clipId := (by decide : NulFree "clip-b") }
  refine List.forall_mem_cons.mpr ⟨clipUntil_plain _ _, List.forall_mem_cons.mpr ⟨hsecond,
    List.forall_mem_cons.mpr ⟨clipUntil_plain _ _, List.forall_mem_cons.mpr ⟨?_, ?_⟩⟩⟩⟩
  · exact (by decide : NulFree "clip-b")
  · exact List.forall_mem_nil _

theorem queries_faithful_iff_millisecond :
    Faithful noNumbers insertionEngine (runAll noNumbers correctedCalls) (stored correctedCalls) ∧
      stored correctedCalls "clip-a" = some (clipUntil 1000000 (by decide)) ∧
        stored correctedCalls "clip-b" = none := by
  refine ⟨(queries_faithful_iff noNumbers insertionEngine plain_correctedCalls).mpr ?_, rfl, rfl⟩
  intro clipId clip hclip
  simp only [stored, correctedCalls, List.foldl_cons, List.foldl_nil, StoreCall.record,
    Function.update_apply] at hclip
  split_ifs at hclip with hsecond hfirst hbefore
  · obtain rfl := Option.some.inj hclip
    decide
  -- the first version is stored under the same id
  · exact absurd hbefore hfirst

/-- A stored window shorter than a millisecond: `findPurgeCandidates` throws. -/
theorem short_window_stops_the_purge :
    ¬ ∀ (numbers : NumberText) (engine : SqliteEngine) (calls : List StoreCall),
      (∀ call ∈ calls, call.Plain) →
        Faithful numbers engine (runAll numbers calls) (stored calls) := by
  intro h
  have hfaithful := h noNumbers insertionEngine [.save (clipUntil 999999 (by decide))]
    fun call hcall => by
      rw [List.mem_singleton.mp hcall]
      exact clipUntil_plain _ _
  obtain ⟨answer, hanswer, -⟩ := hfaithful.findPurgeCandidates
  have hthrows : findPurgeCandidates noNumbers insertionEngine
      (runAll noNumbers [.save (clipUntil 999999 (by decide))])
      = .error (.ods (.domain DomainErrorKind.invalidTimeWindow.default)) := by
    rfl
  rw [hthrows] at hanswer
  cases hanswer

end Sqlite

end Ods.S4
