import OdsMod2.S4.ExtractClip
import OdsMod2.S4.Http.JsonResponse
import OdsMod2.S4.SqliteRepository

/-!
# The descriptor of a clip

`GET /api/v1/clips/{id}` (`clip_descriptor_http_server.cpp`) takes the id from the path, has
`ClipDescriptorController::getClipDescriptor` look it up, and writes what it finds. The end of
`POST /api/v1/events` does the same with the clip it has just made, and dereferences the descriptor
without asking whether there is one.

The repository is the one in SQLite, whose columns hold milliseconds, while a clip is made with
nanoseconds. The descriptor writes milliseconds as well, and what it cuts off is what the columns
cut off (`toIso8601_truncated`), so a client cannot tell the row from the clip that was stored
(`descriptor_served`). What it can see is a window inside one millisecond: its row is not decoded,
and both handlers answer 500.
-/

namespace Ods.S4

open JsonLine Sqlite

/-- `error.what()`, as the handlers catch it. -/
def Sqlite.StorageException.what : StorageException → String
  | .ods exception => exception.what
  | .standard what => what

namespace Http

/-! ### The handlers -/

structure HttpAnswer where
  status : ℕ
  body : List UInt8
  deriving DecidableEq

section Handlers

variable (numbers : NumberText) (db : Database)

/-- `ClipDescriptorController::getClipDescriptor`. -/
def getClipDescriptor (clipId : String) : Except StorageException (Option ClipDescriptorDTO) :=
  (findById numbers db clipId).map (Option.map .ofClip)

/-- What is behind the last `/` of a path. -/
def clipIdOf (path : String) : String :=
  if '/' ∈ path.toList then
    String.ofList (path.toList.reverse.takeWhile (· ≠ '/')).reverse
  else ""

/-- The handlers end with `catch (const std::exception&)`. -/
def failed (exception : StorageException) : HttpAnswer :=
  ⟨500, errorToJson exception.what.toUTF8.toList⟩

def clipNotFound : HttpAnswer :=
  ⟨404, ascii "\x7b\"error\":\"clip not found\"\x7d".toList⟩

/-- `GET /api/v1/clips/{id}`. -/
def answerGet (path : String) : HttpAnswer :=
  match getClipDescriptor numbers db (clipIdOf path) with
  | .error exception => failed exception
  | .ok none => clipNotFound
  | .ok (some descriptor) => ⟨200, toJson descriptor⟩

/-- The end of `POST /api/v1/events`, once there is a clip; `none` is `*descriptor` of an empty
optional. -/
def answerCreated (clip : MediaClip) : Option HttpAnswer :=
  match getClipDescriptor numbers db clip.clipId with
  | .error exception => some (failed exception)
  | .ok none => none
  | .ok (some descriptor) => some ⟨201, toJson descriptor⟩

end Handlers

/-- The pattern of the route, `/api/v1/clips/[A-Za-z0-9_-]+`. -/
def clipRoute (clipId : String) : String :=
  "/api/v1/clips/" ++ clipId

/-! ### Milliseconds -/

/-- The columns and the text cut off the same. -/
theorem toIso8601_truncated (instant : TimePoint) :
    toIso8601 (truncated instant) = toIso8601 instant := by
  have hmillis : (truncated instant).tdiv 1000000 = instant.tdiv 1000000 := by
    show (instant.tdiv 1000000 * 1000000).tdiv 1000000 = _
    exact Int.mul_tdiv_cancel _ (by decide)
  -- seconds are cut from milliseconds, on either side of the epoch
  have hseconds : ∀ t : Int, t.tdiv 1000000000 = (t.tdiv 1000000).tdiv 1000 := by
    have hnat : ∀ n : ℕ, (n : Int).tdiv 1000000000 = ((n : Int).tdiv 1000000).tdiv 1000 :=
      fun n => congrArg Int.ofNat (Nat.div_div_eq_div_mul n 1000000 1000).symm
    intro t
    obtain ⟨n, rfl | rfl⟩ := Int.eq_nat_or_neg t
    · exact hnat n
    · rw [Int.neg_tdiv, Int.neg_tdiv, Int.neg_tdiv, hnat]
  simp only [toIso8601, hseconds, hmillis]

/-- A clip and its row have one descriptor. -/
theorem ofClip_of_isTruncation {clip kept : MediaClip} (h : IsTruncation clip kept) :
    ClipDescriptorDTO.ofClip kept = .ofClip clip := by
  obtain ⟨window, hstart, hend, rfl⟩ := h
  have hstart : toIso8601 window.startTime = toIso8601 clip.timeWindow.startTime := by
    rw [hstart, toIso8601_truncated]
  have hend : toIso8601 window.endTime = toIso8601 clip.timeWindow.endTime := by
    rw [hend, toIso8601_truncated]
  show ClipDescriptorDTO.mk _ _ (ascii (toIso8601 window.startTime))
    (ascii (toIso8601 window.endTime)) _ _ _ _ = _
  rw [hstart, hend]
  rfl

/-! ### The path -/

theorem clipIdOf_clipRoute {clipId : String} (h : isValidEventId clipId = true) :
    clipIdOf (clipRoute clipId) = clipId := by
  have hslash : ∀ c ∈ clipId.toList.reverse, decide (c ≠ '/') = true := by
    intro c hc
    obtain ⟨-, hall⟩ := Bool.and_eq_true_iff.mp h
    have hvalid := List.all_eq_true.mp hall c (List.mem_reverse.mp hc)
    rw [decide_eq_true_eq]
    rintro rfl
    exact absurd hvalid (by decide)
  have hpath : (clipRoute clipId).toList.reverse =
      clipId.toList.reverse ++ '/' :: "/api/v1/clips".toList.reverse := by
    rw [clipRoute, String.toList_append, List.reverse_append]
    rfl
  have hmem : '/' ∈ (clipRoute clipId).toList := by
    rw [← List.mem_reverse, hpath]
    exact List.mem_append_right _ List.mem_cons_self
  rw [clipIdOf, if_pos hmem, hpath, List.takeWhile_append_of_pos hslash,
    List.takeWhile_cons_of_neg (by decide), List.append_nil, List.reverse_reverse,
    String.ofList_toList]

/-! ### What is served -/

section Served

variable {numbers : NumberText} {db : Database} {clips : String → Option MediaClip}

/-- The exception that a window inside one millisecond throws when it is read. -/
def windowRefused : StorageException :=
  .ods (.domain DomainErrorKind.invalidTimeWindow.default)

theorem nulFree_of_isValidEventId {clipId : String} (h : isValidEventId clipId = true) :
    NulFree clipId := by
  obtain ⟨-, hall⟩ := Bool.and_eq_true_iff.mp h
  rintro c hc rfl
  exact absurd (List.all_eq_true.mp hall _ hc) (by decide)

/-- What the controller says of a stored clip. -/
def storedDescriptor (clip : MediaClip) : Except StorageException ClipDescriptorDTO :=
  if Separated clip.timeWindow then .ok (.ofClip clip) else .error windowRefused

theorem getClipDescriptor_none (hrep : Represents numbers db clips) {clipId : String}
    (hid : NulFree clipId) (hclip : clips clipId = none) :
    getClipDescriptor numbers db clipId = .ok none := by
  rw [getClipDescriptor, findById, cString_of_nulFree hid, hrep.lookup, hclip]
  rfl

/-- **The controller** finds the clip that was stored, not what its columns keep of it. -/
theorem getClipDescriptor_some (hrep : Represents numbers db clips) {clipId : String}
    (hid : NulFree clipId) {clip : MediaClip} (hclip : clips clipId = some clip) :
    getClipDescriptor numbers db clipId = (storedDescriptor clip).map some := by
  have hplain := (hrep.plain clipId clip hclip).1
  have hfind : findById numbers db clipId =
      (clipFromRow numbers (bindClip numbers clip)).map some := by
    rw [findById, cString_of_nulFree hid, hrep.lookup, hclip]
    rfl
  rw [getClipDescriptor, hfind, storedDescriptor]
  by_cases hsep : Separated clip.timeWindow
  · obtain ⟨kept, hkept⟩ := exists_isTruncation hsep
    rw [if_pos hsep, (clipFromRow_bindClip hplain).mpr hkept]
    exact congrArg (fun descriptor => Except.ok (some descriptor)) (ofClip_of_isTruncation hkept)
  · have hmake : TimeWindow.make (truncated clip.timeWindow.startTime)
        (truncated clip.timeWindow.endTime) =
          .error DomainErrorKind.invalidTimeWindow.default := by
      rw [TimeWindow.make, dif_neg (mt truncated_lt_iff.mp hsep)]
      rfl
    rw [if_neg hsep, clipFromRow_eq hplain, hmake]
    rfl

/-- The answer to a request for a clip, with the status of a success. -/
def served (status : ℕ) (clip : MediaClip) : HttpAnswer :=
  if Separated clip.timeWindow then ⟨status, toJson (.ofClip clip)⟩ else failed windowRefused

theorem answerGet_eq (hrep : Represents numbers db clips) {clipId : String}
    (hid : isValidEventId clipId = true) :
    answerGet numbers db (clipRoute clipId) = (clips clipId).elim clipNotFound (served 200) := by
  have hnul := nulFree_of_isValidEventId hid
  rw [answerGet, clipIdOf_clipRoute hid]
  cases hclip : clips clipId with
  | none => rw [getClipDescriptor_none hrep hnul hclip, Option.elim_none]
  | some clip =>
    rw [getClipDescriptor_some hrep hnul hclip, storedDescriptor, Option.elim_some, served]
    by_cases hsep : Separated clip.timeWindow
    · rw [if_pos hsep, if_pos hsep]
      rfl
    · rw [if_neg hsep, if_neg hsep]
      rfl

/-- The descriptor of a clip that was made is there, in its present version. -/
theorem answerCreated_eq (hrep : Represents numbers db clips) {clip now : MediaClip}
    (hnow : clips clip.clipId = some now) :
    answerCreated numbers db clip = some (served 201 now) := by
  obtain ⟨hplain, hid⟩ := hrep.plain _ now hnow
  have hnul : NulFree clip.clipId := hid ▸ hplain.clipId
  rw [answerCreated, getClipDescriptor_some hrep hnul hnow, storedDescriptor, served]
  by_cases hsep : Separated now.timeWindow
  · rw [if_pos hsep, if_pos hsep]
    rfl
  · rw [if_neg hsep, if_neg hsep]
    rfl

end Served

/-- A client reads the descriptor in the answer exactly if the window is longer than a millisecond
and the strings can be written. -/
theorem decode_served_iff (status : ℕ) (clip : MediaClip) :
    JsonText.decode (served status clip).body = some (ClipDescriptorDTO.ofClip clip).toValue ↔
      Separated clip.timeWindow ∧ (ClipDescriptorDTO.ofClip clip).Writable := by
  by_cases hsep : Separated clip.timeWindow
  · rw [served, if_pos hsep, decode_toJson_iff]
    exact (and_iff_right hsep).symm
  · have hcovered : Covered windowRefused.what.toUTF8.toList := by decide +kernel
    have herror := (decode_errorToJson_iff _).mpr hcovered
    rw [served, if_neg hsep]
    constructor
    · intro hdecode
      have hdecode : JsonText.decode (errorToJson windowRefused.what.toUTF8.toList) = _ := hdecode
      rw [herror] at hdecode
      -- an error has one member, a descriptor eight
      cases Option.some.inj hdecode
    · rintro ⟨h, -⟩
      exact absurd h hsep

/-- **What a client sees of a clip.** After any sequence of calls on a fresh database whose clips have no
points of interest, a request for a clip is answered with the clip as it was last stored, nanoseconds
and all, or with 404 if there is none; the handler that has made one never dereferences an empty
optional while the clip is stored, whatever the purge or an auditor has done to it meanwhile, and
answers with the same text. -/
theorem descriptor_served (numbers : NumberText) {calls : List StoreCall}
    (hplain : ∀ call ∈ calls, call.Plain) :
    (∀ clipId, isValidEventId clipId = true →
      answerGet numbers (runAll numbers calls) (clipRoute clipId) =
        (stored calls clipId).elim clipNotFound (served 200)) ∧
    (∀ clip now, stored calls clip.clipId = some now →
      answerCreated numbers (runAll numbers calls) clip = some (served 201 now)) ∧
    ∀ clip, isValidEventId clip.clipId = true → stored calls clip.clipId = some clip →
      (JsonText.decode (answerGet numbers (runAll numbers calls) (clipRoute clip.clipId)).body =
          some (ClipDescriptorDTO.ofClip clip).toValue ↔
        Separated clip.timeWindow ∧ (ClipDescriptorDTO.ofClip clip).Writable) := by
  have hrep := represents_runAll numbers hplain
  refine ⟨fun clipId hid => answerGet_eq hrep hid, fun clip now hnow => answerCreated_eq hrep hnow,
    fun clip hid hclip => ?_⟩
  rw [answerGet_eq hrep hid, hclip, Option.elim_some]
  exact decode_served_iff 200 clip

/-- A second and three nanoseconds from the epoch on: the row has no nanoseconds, and the text of
the clip is served. -/
theorem descriptor_served_nanoseconds :
    answerGet noNumbers (runAll noNumbers [.save (clipUntil 1000000003 (by decide))])
      (clipRoute "clip-a") = served 200 (clipUntil 1000000003 (by decide)) := by
  have hplain : ∀ call ∈ [StoreCall.save (clipUntil 1000000003 (by decide))], call.Plain := by
    intro call hcall
    rw [List.mem_singleton.mp hcall]
    exact clipUntil_plain _ _
  exact (descriptor_served noNumbers hplain).1 "clip-a" (by decide)

end Http

end Ods.S4
