import Mathlib.Data.NNRat.Defs
import OdsMod2.Framework.GeneralFormat
import OdsMod2.Framework.JsonLine
import OdsMod2.S4.Ports

/-!
# The purge log on disk

`JsonLinesPurgeLog` appends one JSON object to a file for each purge. The ids and the path are byte
strings of the clip, whatever they contain, and `json_string` escapes what would end the string or
the line. The disk ratio is printed into a buffer of sixteen bytes, so that only fifteen characters
of it reach the line.

A line is well logged when it ends in its only newline and a JSON reader finds in it what was logged.
That is so exactly when the ratio fits the buffer as a number: an infinite one is no JSON, and with
fourteen characters in front of the point the text is cut behind the point. Every ratio that
`DiskUsage` computes fits.
-/

namespace Ods.S4

open JsonLine TextStream

/-! ### Numbers and instants as text -/

/-- A `double`. -/
inductive Double where
  | finite (negative : Bool) (magnitude : ℚ≥0)
  | infinite (negative : Bool)
  | nan (negative : Bool)
  deriving DecidableEq

/-- `%.*f`. -/
def Double.fixed (precision : ℕ) : Double → List Char
  | .finite negative magnitude =>
    let digits := nearestEven (magnitude * 10 ^ precision)
    minus negative ++ decimal (digits / 10 ^ precision) ++ '.' :: lastDigits precision digits
  | .infinite negative => minus negative ++ "inf".toList
  | .nan negative => minus negative ++ "nan".toList

/-- What `snprintf` leaves in a buffer of so many bytes. -/
def snprintf {α : Type} (size : ℕ) (text : List α) : List α :=
  text.take (size - 1)

/-- `std::tm`, as far as it is printed. -/
structure Tm where
  year : Int
  month : ℕ
  day : ℕ
  hour : ℕ
  minute : ℕ
  second : ℕ

/-- The calendar date and the time of day of a number of seconds since the epoch. -/
def gmtime (rawTime : Int) : Tm :=
  -- the days since the first of March of the year 0, in cycles of 400 years
  let days := rawTime / 86400 + 719468
  let dayOfEra := (days % 146097).toNat
  let yearOfEra :=
    (dayOfEra - dayOfEra / 1460 + dayOfEra / 36524 - dayOfEra / 146096) / 365
  let dayOfYear := dayOfEra - (365 * yearOfEra + yearOfEra / 4 - yearOfEra / 100)
  let month := (5 * dayOfYear + 2) / 153
  let secondOfDay := (rawTime % 86400).toNat
  { year := days / 146097 * 400 + yearOfEra + (if month < 10 then 0 else 1)
    month := if month < 10 then month + 3 else month - 9
    day := dayOfYear - (153 * month + 2) / 5 + 1
    hour := secondOfDay / 3600
    minute := secondOfDay / 60 % 60
    second := secondOfDay % 60 }

/-- `to_iso8601`: seconds and milliseconds are both cut off towards the epoch. -/
def toIso8601 (timestamp : TimePoint) : List Char :=
  let millis := timestamp.tdiv 1000000
  let tm := gmtime (timestamp.tdiv 1000000000)
  integer tm.year ++ '-' :: lastDigits 2 tm.month ++ '-' :: lastDigits 2 tm.day ++
    'T' :: lastDigits 2 tm.hour ++ ':' :: lastDigits 2 tm.minute ++ ':' :: lastDigits 2 tm.second ++
    '.' :: List.leftpad 3 '0' (integer (millis.tmod 1000)) ++ ['Z']

example : toIso8601 1790000000123456789 = "2026-09-21T14:13:20.123Z".toList := by decide +kernel

/-! ### A line of the log -/

def PurgeReason.toText : PurgeReason → List Char
  | .retentionPeriodExpired => "lgpd_retention_expired".toList
  | .diskQuotaExceeded => "disk_quota_fifo".toList

def FileOutcome.toText : FileOutcome → List Char
  | .deleted => "deleted".toList
  | .alreadyMissing => "already_missing".toList
  | .keptForOtherClip => "kept_for_other_clip".toList

/-- `PurgeLogEntry` with its strings as bytes and its ratio as a `double`. -/
structure PurgeRecord where
  clipId : List UInt8
  eventId : List UInt8
  filePath : List UInt8
  reason : PurgeReason
  fileOutcome : FileOutcome
  bytesFreed : ℕ
  diskUsedRatio : Double
  purgedAt : TimePoint

/-- One round of the loop of `json_string`. -/
def jsonByte (c : UInt8) : List UInt8 :=
  if c = quote then [backslash, quote]
  else if c = backslash then [backslash, backslash]
  else if c < 0x20 then
    snprintf 8 (ascii ("\\u".toList ++ List.leftpad 4 '0' (Nat.toDigits 16 c.toNat)))
  else [c]

/-- `json_string`. -/
def jsonString (value : List UInt8) : List UInt8 :=
  quote :: (value.flatMap jsonByte ++ [quote])

/-- `to_json_line`. -/
def toJsonLine (entry : PurgeRecord) : List UInt8 :=
  let ratio := snprintf 16 (entry.diskUsedRatio.fixed 4)
  ascii "\x7b\"purged_at\":".toList ++ jsonString (ascii (toIso8601 entry.purgedAt)) ++
    ascii ",\"clip_id\":".toList ++ jsonString entry.clipId ++
    ascii ",\"event_id\":".toList ++ jsonString entry.eventId ++
    ascii ",\"file_path\":".toList ++ jsonString entry.filePath ++
    ascii ",\"reason\":".toList ++ jsonString (ascii entry.reason.toText) ++
    ascii ",\"file\":".toList ++ jsonString (ascii entry.fileOutcome.toText) ++
    ascii ",\"bytes_freed\":".toList ++ ascii (decimal entry.bytesFreed) ++
    ascii ",\"disk_used_ratio\":".toList ++ ascii ratio ++ ascii "\x7d\n".toList

/-- `record`: what is in the file after the line was appended. -/
def JsonLinesPurgeLog.record (contents : List UInt8) (entry : PurgeRecord) : List UInt8 :=
  contents ++ toJsonLine entry

/-! ### Reading it back -/

/-- What an auditor reads in a line. -/
structure AuditLine where
  clipId : List UInt8
  eventId : List UInt8
  filePath : List UInt8
  reason : PurgeReason
  file : FileOutcome
  bytesFreed : ℕ
  deriving DecidableEq

def PurgeRecord.audited (entry : PurgeRecord) : AuditLine where
  clipId := entry.clipId
  eventId := entry.eventId
  filePath := entry.filePath
  reason := entry.reason
  file := entry.fileOutcome
  bytesFreed := entry.bytesFreed

def PurgeReason.ofText (text : List UInt8) : Option PurgeReason :=
  [.retentionPeriodExpired, .diskQuotaExceeded].find? fun reason => ascii reason.toText = text

def FileOutcome.ofText (text : List UInt8) : Option FileOutcome :=
  [.deleted, .alreadyMissing, .keptForOtherClip].find? fun outcome => ascii outcome.toText = text

/-- The fields of a line, by their names. -/
def readAuditLine (line : List UInt8) : Option AuditLine := do
  let members ← decode line
  let clipId ← (lookup members "clip_id".toList).bind Value.string?
  let eventId ← (lookup members "event_id".toList).bind Value.string?
  let filePath ← (lookup members "file_path".toList).bind Value.string?
  let reason ← ((lookup members "reason".toList).bind Value.string?).bind PurgeReason.ofText
  let file ← ((lookup members "file".toList).bind Value.string?).bind FileOutcome.ofText
  let bytesFreed ← (lookup members "bytes_freed".toList).bind Value.natural?
  some ⟨clipId, eventId, filePath, reason, file, bytesFreed⟩

/-- The line of the entry ends in its only newline, and what was logged is read in it. -/
def WellLogged (entry : PurgeRecord) : Prop :=
  ∃ line, toJsonLine entry = line ++ [newline] ∧ newline ∉ line ∧
    readAuditLine line = some entry.audited

/-! ### Strings -/

/-- The digit in hexadecimal, as a byte. -/
def hexByte (n : ℕ) : UInt8 :=
  n.digitChar.toUInt8

theorem jsonByte_control (n : Fin 32) :
    snprintf 8 (ascii ("\\u".toList ++ List.leftpad 4 '0' (Nat.toDigits 16 n))) =
        [backslash, 0x75, 0x30, 0x30, hexByte (n / 16), hexByte (n % 16)] ∧
      readHex 0x30 0x30 (hexByte (n / 16)) (hexByte (n % 16)) = some n.val := by
  revert n
  decide

/-- However `json_string` writes a byte, a JSON reader reads it. -/
theorem spells_jsonByte (c : UInt8) : Spells (jsonByte c) c := by
  unfold jsonByte
  split
  · rename_i hquote
    rw [hquote]
    exact spells_escape (by decide) (by decide) (by decide)
  · rename_i hquote
    split
    · rename_i hbackslash
      rw [hbackslash]
      exact spells_escape (by decide) (by decide) (by decide)
    · rename_i hbackslash
      split
      · rename_i hcontrol
        have hlt : c.toNat < 32 := hcontrol
        -- six bytes and the terminator fit into the buffer
        obtain ⟨htext, hunit⟩ := jsonByte_control ⟨c.toNat, hlt⟩
        rw [htext]
        exact spells_unicode (by omega) hunit
      · rename_i hcontrol
        -- also where the byte is a part of a longer character
        exact spells_plain (isPlain_iff.mpr ⟨hquote, hbackslash, hcontrol⟩)

theorem readString_jsonString (value rest : List UInt8) :
    readString (jsonString value ++ rest) = some (value, rest) := by
  have hread := readString_flatMap (fun c (_ : c ∈ value) => spells_jsonByte c) rest
  rwa [jsonString, List.cons_append, List.append_assoc, List.singleton_append]

theorem newline_notMem_jsonByte (c : UInt8) : newline ∉ jsonByte c := by
  unfold jsonByte
  split
  · decide
  · split
    · decide
    · split
      · rename_i hcontrol
        have hlt : c.toNat < 32 := hcontrol
        have hnone : ∀ n : Fin 32, newline ∉
            snprintf 8 (ascii ("\\u".toList ++ List.leftpad 4 '0' (Nat.toDigits 16 n))) := by
          decide
        exact hnone ⟨c.toNat, hlt⟩
      · rename_i hcontrol
        intro hmem
        -- a newline is a control character, and those are escaped
        rw [← List.mem_singleton.mp hmem] at hcontrol
        exact hcontrol (by decide)

theorem newline_notMem_jsonString (value : List UInt8) : newline ∉ jsonString value := by
  intro hmem
  rcases List.mem_cons.mp hmem with hquote | hmem
  · exact absurd hquote (by decide)
  rcases List.mem_append.mp hmem with hmem | hquote
  · obtain ⟨c, -, hc⟩ := List.mem_flatMap.mp hmem
    exact newline_notMem_jsonByte c hc
  · exact absurd (List.mem_singleton.mp hquote) (by decide)

/-! ### The ratio -/

/-- The text in front of the point. -/
def Double.wholeText (precision : ℕ) (negative : Bool) (magnitude : ℚ≥0) : List Char :=
  minus negative ++ decimal (nearestEven (magnitude * 10 ^ precision) / 10 ^ precision)

/-- The ratio is a number, and the buffer does not end right behind its point. -/
def Double.FitsBuffer : Double → Prop
  | .finite negative magnitude => (wholeText 4 negative magnitude).length ≠ 14
  | .infinite _ => False
  | .nan _ => False

instance : DecidablePred Double.FitsBuffer
  | .finite negative magnitude =>
    inferInstanceAs (Decidable ((Double.wholeText 4 negative magnitude).length ≠ 14))
  | .infinite _ => inferInstanceAs (Decidable False)
  | .nan _ => inferInstanceAs (Decidable False)

theorem Double.fixed_finite (precision : ℕ) (negative : Bool) (magnitude : ℚ≥0) :
    (Double.finite negative magnitude).fixed precision =
      wholeText precision negative magnitude ++
        '.' :: lastDigits precision (nearestEven (magnitude * 10 ^ precision)) := rfl

/-- The state after a sign and some of the digits of a number. -/
theorem run_minus_take (negative : Bool) (n : ℕ) {k : ℕ} (hk : 0 < k) :
    NumberState.start.run (minus negative ++ (decimal n).take k) =
      some (if n = 0 then .zero else .whole) := by
  cases negative with
  | false => exact NumberState.run_take_decimal (.inl rfl) n hk
  | true =>
    have hminus : NumberState.start.run (minus true) = some .minus := rfl
    rw [NumberState.run_append, hminus, Option.bind_some]
    exact NumberState.run_take_decimal (.inr rfl) n hk

theorem run_wholeText (precision : ℕ) (negative : Bool) (magnitude : ℚ≥0) :
    ∃ state : NumberState, (state = .zero ∨ state = .whole) ∧
      NumberState.start.run (Double.wholeText precision negative magnitude) = some state := by
  rw [Double.wholeText]
  generalize nearestEven (magnitude * 10 ^ precision) / 10 ^ precision = whole
  have hpos : 0 < (decimal whole).length := List.length_pos_of_ne_nil Nat.toDigits_ne_nil
  have hrun := run_minus_take negative whole hpos
  rw [List.take_length] at hrun
  refine ⟨_, ?_, hrun⟩
  split
  · exact .inl rfl
  · exact .inr rfl

theorem isNumeric_fixed (precision : ℕ) (negative : Bool) (magnitude : ℚ≥0) :
    ∀ c ∈ (Double.finite negative magnitude).fixed precision, IsNumeric c := by
  intro c hc
  rw [Double.fixed_finite, Double.wholeText, List.append_assoc] at hc
  rcases List.mem_append.mp hc with hminus | hc
  · cases negative with
    | false => cases hminus
    | true =>
      rw [List.mem_singleton.mp hminus]
      exact ⟨by decide, by decide⟩
  rcases List.mem_append.mp hc with hwhole | hc
  · exact isNumeric_of_mem_decimal hwhole
  rcases List.mem_cons.mp hc with rfl | hfraction
  · exact ⟨by decide, by decide⟩
  · exact isNumeric_of_isDigit (isDigit_of_mem_lastDigits hfraction)

theorem isNumeric_snprintf_fixed (negative : Bool) (magnitude : ℚ≥0) :
    ∀ c ∈ snprintf 16 ((Double.finite negative magnitude).fixed 4), IsNumeric c :=
  fun c hc => isNumeric_fixed 4 negative magnitude c (List.mem_of_mem_take hc)

/-- A finite number with digits behind its point is one of JSON. -/
theorem isNumber_fixed {precision : ℕ} (hpos : 0 < precision) (negative : Bool)
    (magnitude : ℚ≥0) : isNumber ((Double.finite negative magnitude).fixed precision) = true := by
  obtain ⟨state, hstate, hrun⟩ := run_wholeText precision negative magnitude
  have hne : lastDigits precision (nearestEven (magnitude * 10 ^ precision)) ≠ [] := by
    apply List.ne_nil_of_length_pos
    rwa [length_lastDigits]
  rw [Double.fixed_finite, isNumber, NumberState.run_append, hrun, Option.bind_some,
    NumberState.run, List.foldlM_cons, NumberState.step_point hstate]
  show ((NumberState.point.run _).any _) = true
  rw [NumberState.run_point fun c hc => isDigit_of_mem_lastDigits hc, if_neg hne]
  rfl

/-- What is left of a finite ratio in the buffer is a number, unless it is cut behind the point. -/
theorem isNumber_snprintf_fixed (negative : Bool) (magnitude : ℚ≥0) :
    isNumber (snprintf 16 ((Double.finite negative magnitude).fixed 4)) = true ↔
      (Double.finite negative magnitude).FitsBuffer := by
  show _ ↔ (Double.wholeText 4 negative magnitude).length ≠ 14
  obtain ⟨state, hstate, hrun⟩ := run_wholeText 4 negative magnitude
  rw [Double.fixed_finite, snprintf]
  generalize hwhole : Double.wholeText 4 negative magnitude = whole at hrun ⊢
  generalize hfraction : lastDigits 4 (nearestEven (magnitude * 10 ^ 4)) = fraction
  have hlength : fraction.length = 4 := by rw [← hfraction, length_lastDigits]
  have hdigits : ∀ c ∈ fraction, c.isDigit = true := by
    intro c hc
    rw [← hfraction] at hc
    exact isDigit_of_mem_lastDigits hc
  rcases Nat.lt_or_ge whole.length 15 with hshort | hlong
  -- the point and some of the digits behind it are left
  · have htaken : (whole ++ '.' :: fraction).take 15 =
        whole ++ '.' :: fraction.take (14 - whole.length) := by
      rw [List.take_append, List.take_of_length_le (by omega),
        show 15 - whole.length = 14 - whole.length + 1 by omega, List.take_succ_cons]
    have hstep : NumberState.start.run (whole ++ '.' :: fraction.take (14 - whole.length)) =
        some (if fraction.take (14 - whole.length) = [] then .point else .fraction) := by
      rw [NumberState.run_append, hrun, Option.bind_some, NumberState.run, List.foldlM_cons,
        NumberState.step_point hstate]
      exact NumberState.run_point fun c hc => hdigits c (List.mem_of_mem_take hc)
    rw [show 16 - 1 = 15 from rfl, htaken, isNumber, hstep]
    split
    · rename_i hnil
      have hcut := congrArg List.length hnil
      rw [List.length_take, hlength, List.length_nil] at hcut
      exact iff_of_false (by decide) (by omega)
    · rename_i hne
      refine iff_of_true rfl fun hcut => hne ?_
      rw [hcut]
      rfl
  -- the digits in front of the point fill the buffer
  · refine iff_of_true ?_ (by omega)
    rw [List.take_append_of_le_length hlong, ← hwhole, Double.wholeText, List.take_append,
      List.take_of_length_le (by cases negative <;> decide), isNumber,
      run_minus_take _ _ (by cases negative <;> decide)]
    split <;> rfl

/-! ### The line -/

def stringField (name : List Char) (isPlain_name : (ascii name).all isPlain = true)
    (content : List UInt8) : Field where
  name := name
  isPlain_name := isPlain_name
  text := jsonString content
  value := .string content
  writes := writes_string (readString_jsonString content)

def numberField (name : List Char) (isPlain_name : (ascii name).all isPlain = true) (text : List Char)
    (hnumeric : ∀ c ∈ text, IsNumeric c) (hnumber : isNumber text = true) : Field where
  name := name
  isPlain_name := isPlain_name
  text := ascii text
  value := .number text
  writes := writes_number hnumeric hnumber

/-- The fields in front of the ratio. -/
def PurgeRecord.fields (entry : PurgeRecord) : List Field :=
  [stringField "purged_at".toList (by decide) (ascii (toIso8601 entry.purgedAt)),
    stringField "clip_id".toList (by decide) entry.clipId,
    stringField "event_id".toList (by decide) entry.eventId,
    stringField "file_path".toList (by decide) entry.filePath,
    stringField "reason".toList (by decide) (ascii entry.reason.toText),
    stringField "file".toList (by decide) (ascii entry.fileOutcome.toText),
    numberField "bytes_freed".toList (by decide) (decimal entry.bytesFreed)
      (fun _ hc => isNumeric_of_mem_decimal hc) (isNumber_decimal _)]

/-- The text of the ratio with its name. -/
def ratioText (ratio : List Char) : List UInt8 :=
  quote :: (ascii "disk_used_ratio".toList ++ quote :: colon :: ascii ratio)

/-- The line is an object of seven fields and the ratio. -/
theorem toJsonLine_eq (entry : PurgeRecord) :
    toJsonLine entry =
      openBrace :: (entry.fields.flatMap (fun field => field.fieldText ++ [comma]) ++
        ratioText (snprintf 16 (entry.diskUsedRatio.fixed 4)) ++ [closeBrace]) ++ [newline] := by
  -- the literals of the source, token by token
  have hopen : ascii "\x7b\"purged_at\":".toList =
      openBrace :: quote :: (ascii "purged_at".toList ++ [quote, colon]) := rfl
  have hclip : ascii ",\"clip_id\":".toList =
      comma :: quote :: (ascii "clip_id".toList ++ [quote, colon]) := rfl
  have hevent : ascii ",\"event_id\":".toList =
      comma :: quote :: (ascii "event_id".toList ++ [quote, colon]) := rfl
  have hpath : ascii ",\"file_path\":".toList =
      comma :: quote :: (ascii "file_path".toList ++ [quote, colon]) := rfl
  have hreason : ascii ",\"reason\":".toList =
      comma :: quote :: (ascii "reason".toList ++ [quote, colon]) := rfl
  have hfile : ascii ",\"file\":".toList =
      comma :: quote :: (ascii "file".toList ++ [quote, colon]) := rfl
  have hbytes : ascii ",\"bytes_freed\":".toList =
      comma :: quote :: (ascii "bytes_freed".toList ++ [quote, colon]) := rfl
  have hratio : ascii ",\"disk_used_ratio\":".toList =
      comma :: quote :: (ascii "disk_used_ratio".toList ++ [quote, colon]) := rfl
  have hclose : ascii "\x7d\n".toList = [closeBrace, newline] := rfl
  simp only [toJsonLine, PurgeRecord.fields, stringField, numberField, Field.fieldText, ratioText,
    hopen, hclip, hevent, hpath, hreason, hfile, hbytes, hratio, hclose, List.flatMap_cons,
    List.flatMap_nil, List.append_assoc, List.cons_append, List.nil_append]

theorem natural?_decimal (n : ℕ) : (Value.number (decimal n)).natural? = some n := by
  have hread : readDigits (decimal n ++ []) = some (n, []) := readDigits_decimal stops_nil
  rw [List.append_nil] at hread
  rw [Value.natural?, hread]
  rfl

theorem PurgeReason.ofText_toText (reason : PurgeReason) :
    PurgeReason.ofText (ascii reason.toText) = some reason := by
  cases reason <;> decide

theorem FileOutcome.ofText_toText (outcome : FileOutcome) :
    FileOutcome.ofText (ascii outcome.toText) = some outcome := by
  cases outcome <;> decide

/-- The fields of an entry are found under their names. -/
theorem readAuditLine_of_decode {entry : PurgeRecord} {line : List UInt8} {ratio : Value}
    (h : decode line =
      some (entry.fields.map Field.member ++ [(ascii "disk_used_ratio".toList, ratio)])) :
    readAuditLine line = some entry.audited := by
  generalize hmembers :
    entry.fields.map Field.member ++ [(ascii "disk_used_ratio".toList, ratio)] = members at h
  -- each key stands at its place
  have hlookup : ∀ {key value}, lookup (entry.fields.map Field.member ++
      [(ascii "disk_used_ratio".toList, ratio)]) key = some value →
        lookup members key = some value := by
    intro key value hfound
    rw [← hmembers]
    exact hfound
  have hclip : lookup members "clip_id".toList = some (.string entry.clipId) := hlookup rfl
  have hevent : lookup members "event_id".toList = some (.string entry.eventId) := hlookup rfl
  have hpath : lookup members "file_path".toList = some (.string entry.filePath) := hlookup rfl
  have hreason : lookup members "reason".toList = some (.string (ascii entry.reason.toText)) :=
    hlookup rfl
  have hfile : lookup members "file".toList = some (.string (ascii entry.fileOutcome.toText)) :=
    hlookup rfl
  have hbytes : lookup members "bytes_freed".toList =
      some (.number (decimal entry.bytesFreed)) := hlookup rfl
  rw [readAuditLine, h]
  simp only [Option.bind_eq_bind, Option.bind_some, hclip, hevent, hpath, hreason, hfile, hbytes,
    Value.string?, PurgeReason.ofText_toText, FileOutcome.ofText_toText, natural?_decimal]
  rfl

/-! ### What the log holds -/

/-- A ratio that does not fit is no value. -/
theorem readMember_ratioText {ratio : Double} (h : ¬ ratio.FitsBuffer) :
    readMember (ratioText (snprintf 16 (ratio.fixed 4)) ++ [closeBrace]) = none := by
  have hvalue : readValue (ascii (snprintf 16 (ratio.fixed 4)) ++ [closeBrace]) = none := by
    cases ratio with
    | finite negative magnitude =>
      have hnumber := mt (isNumber_snprintf_fixed negative magnitude).mp h
      refine readValue_eq_none (isNumeric_snprintf_fixed negative magnitude) ?_
        (Bool.eq_false_iff.mpr hnumber) (.inr rfl) []
      intro hnil
      -- there is a point at least
      have hlength := congrArg List.length hnil
      rw [Double.fixed_finite, snprintf, List.length_take, List.length_append,
        List.length_cons] at hlength
      exact absurd hlength (by simp)
    | infinite negative => cases negative <;> decide
    | nan negative => cases negative <;> decide
  have hname := readString_plain
    (show (ascii "disk_used_ratio".toList).all isPlain = true by decide)
    (colon :: (ascii (snprintf 16 (ratio.fixed 4)) ++ [closeBrace]))
  have htext : ratioText (snprintf 16 (ratio.fixed 4)) ++ [closeBrace] =
      quote :: (ascii "disk_used_ratio".toList ++
        quote :: colon :: (ascii (snprintf 16 (ratio.fixed 4)) ++ [closeBrace])) := by
    rw [ratioText, List.cons_append, List.append_assoc]
    rfl
  rw [htext, readMember, hname]
  show (readValue (ascii (snprintf 16 (ratio.fixed 4)) ++ [closeBrace])).bind _ = none
  rw [hvalue]
  rfl

/-- With a ratio that fits, the line is an object. -/
theorem exists_line {entry : PurgeRecord} (h : entry.diskUsedRatio.FitsBuffer) :
    ∃ line, toJsonLine entry = line ++ [newline] ∧ newline ∉ line ∧
      decode line = some (entry.fields.map Field.member ++
        [(ascii "disk_used_ratio".toList, .number (snprintf 16 (entry.diskUsedRatio.fixed 4)))]) := by
  obtain ⟨negative, magnitude, hratio⟩ :
      ∃ negative magnitude, entry.diskUsedRatio = .finite negative magnitude := by
    cases hratio : entry.diskUsedRatio with
    | finite negative magnitude => exact ⟨negative, magnitude, rfl⟩
    | infinite negative => rw [hratio] at h; exact h.elim
    | nan negative => rw [hratio] at h; exact h.elim
  have hnumeric : ∀ c ∈ snprintf 16 (entry.diskUsedRatio.fixed 4), IsNumeric c := by
    rw [hratio]
    exact isNumeric_snprintf_fixed negative magnitude
  have hnumber : isNumber (snprintf 16 (entry.diskUsedRatio.fixed 4)) = true := by
    rw [hratio] at h ⊢
    exact (isNumber_snprintf_fixed negative magnitude).mpr h
  -- no field has a line break: strings escape it, numbers have none
  have hfields : ∀ field ∈ entry.fields ++
      [numberField "disk_used_ratio".toList (by decide) _ hnumeric hnumber],
      newline ∉ field.text := by
    simp only [PurgeRecord.fields, stringField, numberField, List.cons_append, List.nil_append,
      List.forall_mem_cons, newline_notMem_jsonString, not_false_eq_true, true_and]
    exact ⟨newline_notMem_ascii fun _ hc => isNumeric_of_mem_decimal hc,
      newline_notMem_ascii hnumeric, fun _ hc => absurd hc List.not_mem_nil⟩
  refine ⟨objectText (entry.fields ++
    [numberField "disk_used_ratio".toList (by decide) _ hnumeric hnumber]), ?_,
    newline_notMem_objectText hfields, ?_⟩
  · rw [toJsonLine_eq, objectText, fieldsText_concat]
    rfl
  · rw [decode_objectText (List.append_ne_nil_of_right_ne_nil _ (List.cons_ne_nil _ _)),
      List.map_append]
    rfl

/-- An entry is well logged exactly when its ratio fits the buffer. -/
theorem wellLogged_iff (entry : PurgeRecord) :
    WellLogged entry ↔ entry.diskUsedRatio.FitsBuffer := by
  constructor
  · rintro ⟨line, hline, -, hread⟩
    by_contra hfits
    rw [toJsonLine_eq] at hline
    -- the object ends with a member that cannot be read
    have hnone : decode line = none := by
      rw [← List.append_cancel_right hline]
      exact decode_eq_none (readMember_ratioText hfits) (List.cons_ne_nil _ _)
    rw [readAuditLine, hnone] at hread
    cases hread
  · intro hfits
    obtain ⟨line, hline, hnewline, hdecode⟩ := exists_line hfits
    exact ⟨line, hline, hnewline, readAuditLine_of_decode hdecode⟩

/-- The file after the entries were appended. -/
theorem contents_record (contents : List UInt8) (entries : List PurgeRecord) :
    entries.foldl JsonLinesPurgeLog.record contents = contents ++ entries.flatMap toJsonLine := by
  induction entries generalizing contents with
  | nil => exact (List.append_nil contents).symm
  | cons entry entries ih =>
    rw [List.foldl_cons, ih, JsonLinesPurgeLog.record, List.flatMap_cons, List.append_assoc]

/-- The lines of well logged entries, and what is read in them. -/
theorem exists_written {entries : List PurgeRecord} (h : ∀ entry ∈ entries, WellLogged entry) :
    ∃ written : List (List UInt8), entries.flatMap toJsonLine = written.flatMap (· ++ [newline]) ∧
      (∀ line ∈ written, newline ∉ line) ∧
      written.map readAuditLine = entries.map fun entry => some entry.audited := by
  induction entries with
  | nil => exact ⟨[], rfl, fun _ hline => absurd hline List.not_mem_nil, rfl⟩
  | cons entry entries ih =>
    obtain ⟨line, hline, hnewline, hread⟩ := h entry List.mem_cons_self
    obtain ⟨written, hwritten, hnone, hreads⟩ :=
      ih fun entry' hentry' => h entry' (List.mem_cons_of_mem entry hentry')
    refine ⟨line :: written, ?_, List.forall_mem_cons.mpr ⟨hnewline, hnone⟩, ?_⟩
    · rw [List.flatMap_cons, List.flatMap_cons, hline, hwritten]
    · rw [List.map_cons, List.map_cons, hread, hreads]

/-- The log of well logged entries has one line for each, in their order. -/
theorem map_readAuditLine_lines {entries : List PurgeRecord}
    (h : ∀ entry ∈ entries, WellLogged entry) :
    (lines (entries.foldl JsonLinesPurgeLog.record [])).map readAuditLine =
      entries.map fun entry => some entry.audited := by
  obtain ⟨written, hcontents, hnewline, hread⟩ := exists_written h
  rw [contents_record, List.nil_append, hcontents, lines_flatMap hnewline, hread]

/-- Every entry whose ratio fits is read back from its own line of the log. -/
theorem readAuditLine_record {entries : List PurgeRecord}
    (h : ∀ entry ∈ entries, entry.diskUsedRatio.FitsBuffer) :
    (∀ entry ∈ entries, WellLogged entry) ∧
      (lines (entries.foldl JsonLinesPurgeLog.record [])).map readAuditLine =
        entries.map fun entry => some entry.audited := by
  have hwell : ∀ entry ∈ entries, WellLogged entry :=
    fun entry hentry => (wellLogged_iff entry).mpr (h entry hentry)
  exact ⟨hwell, map_readAuditLine_lines hwell⟩

/-- An entry with a quote in its id, a line break in its path, and the ratio. -/
def quotedRecord (ratio : Double) : PurgeRecord where
  clipId := ascii "clip-1".toList
  eventId := ascii "evt-\"aspas\"".toList
  filePath := ascii "/data/media/\nevt.mp4".toList
  reason := .retentionPeriodExpired
  fileOutcome := .deleted
  bytesFreed := 1048576
  diskUsedRatio := ratio
  purgedAt := 1790000000000000000

/-- Two entries with a ratio below one are read back. -/
theorem readAuditLine_record_quoted :
    (lines ([quotedRecord (.finite false (421 / 1000)), quotedRecord (.finite true 0)].foldl
      JsonLinesPurgeLog.record [])).map readAuditLine =
        [some (quotedRecord (.finite false (421 / 1000))).audited,
          some (quotedRecord (.finite true 0)).audited] := by
  have hfits : ∀ entry ∈ [quotedRecord (.finite false (421 / 1000)), quotedRecord (.finite true 0)],
      entry.diskUsedRatio.FitsBuffer := by
    decide +kernel
  exact (readAuditLine_record hfits).2

/-- A ratio that is no number is no JSON, and one of fourteen digits is cut behind its point. -/
theorem not_wellLogged_quoted :
    ¬ WellLogged (quotedRecord (.nan false)) ∧
      ¬ WellLogged (quotedRecord (.finite false 70368744177663)) := by
  rw [wellLogged_iff, wellLogged_iff]
  exact ⟨id, by decide +kernel⟩

/-! ### The ratios of the service -/

/-- No ratio up to one is cut. -/
theorem Double.fitsBuffer_of_le_one {magnitude : ℚ≥0} (h : magnitude ≤ 1) (negative : Bool) :
    (Double.finite negative magnitude).FitsBuffer := by
  show (wholeText 4 negative magnitude).length ≠ 14
  have hle : nearestEven (magnitude * 10 ^ 4) ≤ 10 ^ 4 := by
    refine nearestEven_le ?_
    have hone : (magnitude : ℚ) ≤ 1 := by exact_mod_cast h
    push_cast
    linarith
  -- one digit in front of the point, and a sign
  have hwhole : nearestEven (magnitude * 10 ^ 4) / 10 ^ 4 < 10 := by omega
  rw [wholeText, List.length_append, decimal, Nat.toDigits_of_lt_base hwhole,
    List.length_singleton]
  cases negative <;> decide

/-- The entry of the service, as the log gets it. -/
def PurgeLogEntry.toRecord (entry : PurgeLogEntry) : PurgeRecord where
  clipId := entry.clipId.toUTF8.toList
  eventId := entry.eventId.toUTF8.toList
  filePath := entry.filePath.toUTF8.toList
  reason := entry.reason
  fileOutcome := entry.fileOutcome
  bytesFreed := entry.bytesFreed
  diskUsedRatio := .finite (entry.diskUsedRatio < 0) |entry.diskUsedRatio|.toNNRat
  purgedAt := entry.purgedAt

theorem DiskUsage.abs_usedRatio_le_one (usage : DiskUsage) : |usage.usedRatio| ≤ 1 := by
  have hcapacity : (0 : ℚ) < usage.capacityBytes := by exact_mod_cast usage.capacity_pos
  have hle : (usage.usedBytes : ℚ) ≤ usage.capacityBytes := by
    exact_mod_cast Nat.le_add_right usage.usedBytes usage.availableBytes
  rw [DiskUsage.usedRatio, abs_of_nonneg (div_nonneg (Nat.cast_nonneg _) hcapacity.le),
    div_le_one hcapacity]
  exact hle

/-- The log of entries that bear the occupation of a disk is read back. -/
theorem map_readAuditLine_usedRatio {log : List PurgeLogEntry}
    (h : ∀ entry ∈ log, ∃ usage : DiskUsage, entry.diskUsedRatio = usage.usedRatio) :
    (lines ((log.map PurgeLogEntry.toRecord).foldl JsonLinesPurgeLog.record [])).map readAuditLine =
      log.map fun entry => some entry.toRecord.audited := by
  have hwell : ∀ record ∈ log.map PurgeLogEntry.toRecord, WellLogged record := by
    intro record hrecord
    obtain ⟨entry, hentry, rfl⟩ := List.mem_map.mp hrecord
    obtain ⟨usage, husage⟩ := h entry hentry
    refine (wellLogged_iff _).mpr (Double.fitsBuffer_of_le_one ?_ _)
    rw [husage]
    exact Rat.toNNRat_le_iff_le_coe.mpr usage.abs_usedRatio_le_one
  rw [map_readAuditLine_lines hwell, List.map_map]
  rfl

end Ods.S4
