import OdsMod2.S4.SqliteRepository
import Mathlib.Data.List.Induction

/-!
# The repository in memory

`InMemoryMediaClipRepository` (`in_memory_media_clip_repository.hpp`) keeps the clips themselves in
a hash table, under the interface that the one in SQLite has; it is what the tests run the use cases
on. It reads exactly the map of last versions (`lookup_runAll`), whatever was stored.

Where one repository stands for the other, every query has to answer both ways alike: the same
clips, each as the columns of SQLite keep it. The order is not the same, since a hash table has none.
`agree_iff` is the condition for that, over all sequences of calls.
-/

namespace Ods.S4

open Sqlite

namespace InMemory

/-- `m_storage`. -/
abbrev Storage := KeyedTable MediaClip.clipId

/-- The order in which a hash table is iterated: some order of its entries. -/
structure HashOrder where
  visit : List MediaClip → List MediaClip
  visit_perm : ∀ clips, (visit clips).Perm clips

def save (storage : Storage) (clip : MediaClip) : Storage :=
  storage.upsert clip

def update (storage : Storage) (clip : MediaClip) : Storage :=
  storage.upsert clip

def remove (storage : Storage) (clipId : String) : Storage :=
  storage.erase clipId

def findById (storage : Storage) (clipId : String) : Option MediaClip :=
  storage.lookup clipId

section Queries

variable (order : HashOrder) (storage : Storage)

def findByEventId (eventId : String) : List MediaClip :=
  (order.visit storage.rows).filter fun clip => clip.eventId = eventId

def findPurgeCandidates : List MediaClip :=
  (order.visit storage.rows).filter fun clip => clip.isRetained && !clip.isLockedForAudit

end Queries

/-- The call, on the hash table. -/
def run (storage : Storage) : StoreCall → Storage
  | .save clip => save storage clip
  | .update clip => update storage clip
  | .remove clipId => remove storage clipId

/-- The hash table after a sequence of calls. -/
def runAll (calls : List StoreCall) : Storage :=
  calls.foldl run KeyedTable.empty

/-! ### What the hash table holds -/

theorem lookup_run (storage : Storage) (call : StoreCall) :
    (run storage call).lookup = call.record storage.lookup := by
  cases call with
  | save clip => exact KeyedTable.lookup_upsert storage clip
  | update clip => exact KeyedTable.lookup_upsert storage clip
  | remove clipId => exact KeyedTable.lookup_erase storage clipId

/-- **The hash table is the map** of the last versions stored. -/
theorem lookup_runAll (calls : List StoreCall) : (runAll calls).lookup = stored calls := by
  induction calls using List.reverseRecOn with
  | nil => rfl
  | append_singleton calls call ih =>
    rw [runAll, List.foldl_concat, lookup_run]
    show call.record (runAll calls).lookup = _
    rw [ih, stored, stored, List.foldl_concat]

/-- A query visits each clip that it is about once. -/
theorem mem_filter_visit {order : HashOrder} {storage : Storage} {p : MediaClip → Bool}
    {clip : MediaClip} :
    clip ∈ (order.visit storage.rows).filter p ↔
      storage.lookup clip.clipId = some clip ∧ p clip = true := by
  rw [List.mem_filter, (order.visit_perm storage.rows).mem_iff, KeyedTable.lookup_eq_some]
  exact and_congr_left' (and_iff_left rfl).symm

theorem nodup_filter_visit {order : HashOrder} {storage : Storage} {p : MediaClip → Bool} :
    ((order.visit storage.rows).filter p).Nodup := by
  refine List.Nodup.filter p ?_
  rw [(order.visit_perm storage.rows).nodup_iff]
  exact .of_map _ storage.nodup_key

/-! ### The two answers -/

/-- The same clips, in some order, each as the columns keep it. -/
def SameClips (clips kept : List MediaClip) : Prop :=
  ∃ clips', clips'.Perm clips ∧ List.Forall₂ IsTruncation clips' kept

/-- The queries of SQLite succeed and answer as those of the hash table do. -/
structure Agree (numbers : NumberText) (engine : SqliteEngine) (order : HashOrder) (db : Database)
    (storage : Storage) : Prop where
  findById : ∀ clipId, NulFree clipId → ∃ answer, Sqlite.findById numbers db clipId = .ok answer ∧
    Option.Rel IsTruncation (findById storage clipId) answer
  findByEventId : ∀ eventId, NulFree eventId →
    ∃ answer, Sqlite.findByEventId numbers engine db eventId = .ok answer ∧
      SameClips (findByEventId order storage eventId) answer
  findPurgeCandidates : ∃ answer, Sqlite.findPurgeCandidates numbers engine db = .ok answer ∧
    SameClips (findPurgeCandidates order storage) answer

theorem clipId_of_isTruncation {clip kept : MediaClip} (h : IsTruncation clip kept) :
    kept.clipId = clip.clipId := by
  obtain ⟨window, -, -, rfl⟩ := h
  rfl

theorem map_clipId_of_truncated {clips kept : List MediaClip}
    (h : List.Forall₂ IsTruncation clips kept) :
    kept.map MediaClip.clipId = clips.map MediaClip.clipId := by
  induction h with
  | nil => rfl
  | cons htrunc _ ih => rw [List.map_cons, List.map_cons, ih, clipId_of_isTruncation htrunc]

/-- What SQLite reads of the map is what the hash table holds of it. -/
theorem sameClips_of_reads {order : HashOrder} {storage : Storage} {P : MediaClip → Prop}
    {p : MediaClip → Bool} {answer : List MediaClip} (h : Reads storage.lookup P answer)
    (hsep : ∀ clipId clip, storage.lookup clipId = some clip → Separated clip.timeWindow)
    (hp : ∀ clip, p clip = true ↔ P clip) :
    SameClips ((order.visit storage.rows).filter p) answer := by
  -- each clip that was read is one of the stored ones, as its columns keep it
  have hread : ∀ kept ∈ answer, ∃ clip,
      (storage.lookup clip.clipId = some clip ∧ P clip) ∧ IsTruncation clip kept := by
    intro kept hkept
    obtain ⟨clip, hclip, hP, htrunc⟩ := (h.mem_iff kept).mp hkept
    exact ⟨clip, ⟨hclip, hP⟩, htrunc⟩
  obtain ⟨clips, hclips⟩ := exists_forall₂ hread
  have htruncated : List.Forall₂ IsTruncation clips answer := (hclips.imp fun _ _ h => h.2).flip
  have hnodup : clips.Nodup := by
    refine .of_map MediaClip.clipId ?_
    rw [← map_clipId_of_truncated htruncated]
    exact h.once
  refine ⟨clips, (List.perm_ext_iff_of_nodup hnodup nodup_filter_visit).mpr fun clip => ?_,
    htruncated⟩
  rw [mem_filter_visit]
  constructor
  · intro hclip
    obtain ⟨kept, -, ⟨hlookup, hP⟩, -⟩ := Forall₂.exists_of_mem hclips.flip hclip
    exact ⟨hlookup, (hp clip).mpr hP⟩
  · -- a stored clip is read, and its id tells it from the others
    rintro ⟨hlookup, hpass⟩
    obtain ⟨kept, htrunc⟩ := exists_isTruncation (hsep _ clip hlookup)
    have hkept := (h.mem_iff kept).mpr ⟨clip, hlookup, (hp clip).mp hpass, htrunc⟩
    obtain ⟨clip', hclip', ⟨hlookup', -⟩, htrunc'⟩ := Forall₂.exists_of_mem hclips hkept
    have hid : clip'.clipId = clip.clipId :=
      (clipId_of_isTruncation htrunc').symm.trans (clipId_of_isTruncation htrunc)
    rw [hid, hlookup] at hlookup'
    rwa [Option.some.inj hlookup']

theorem agree_of_faithful {numbers : NumberText} {engine : SqliteEngine} {order : HashOrder}
    {db : Database} {storage : Storage} (h : Faithful numbers engine db storage.lookup)
    (hsep : ∀ clipId clip, storage.lookup clipId = some clip → Separated clip.timeWindow) :
    Agree numbers engine order db storage := by
  refine ⟨fun clipId hid => ?_, fun eventId hevent => ?_, ?_⟩
  · rw [findById]
    cases hclip : storage.lookup clipId with
    | none => exact ⟨none, h.findById_none clipId hid hclip, .none⟩
    | some clip =>
      obtain ⟨kept, hkept, htrunc⟩ := h.findById_some clipId clip hid hclip
      exact ⟨some kept, hkept, .some htrunc⟩
  · obtain ⟨answer, hanswer, hreads⟩ := h.findByEventId eventId hevent
    exact ⟨answer, hanswer, sameClips_of_reads hreads hsep fun clip => decide_eq_true_iff⟩
  · obtain ⟨answer, hanswer, hreads, -⟩ := h.findPurgeCandidates
    refine ⟨answer, hanswer, sameClips_of_reads hreads hsep fun clip => ?_⟩
    rw [Bool.and_eq_true, Bool.not_eq_true']

/-- **When one repository stands for the other.** After any sequence of calls with clips that have no
points of interest, the queries of SQLite answer as those of the hash table do, if and only if the
window of every stored clip has its ends in different milliseconds. -/
theorem agree_iff (numbers : NumberText) (engine : SqliteEngine) (order : HashOrder)
    {calls : List StoreCall} (hplain : ∀ call ∈ calls, call.Plain) :
    Agree numbers engine order (Sqlite.runAll numbers calls) (runAll calls) ↔
      ∀ clipId clip, stored calls clipId = some clip → Separated clip.timeWindow := by
  have hrep := represents_runAll numbers hplain
  have hlookup := lookup_runAll calls
  constructor
  · intro h clipId clip hclip
    obtain ⟨hclipPlain, rfl⟩ := hrep.plain clipId clip hclip
    obtain ⟨answer, -, hsame⟩ := h.findById clip.clipId hclipPlain.clipId
    rw [findById, hlookup, hclip] at hsame
    cases hsame with
    | some htrunc => exact isTruncation_separated htrunc
  · intro hsep
    rw [← hlookup] at hrep hsep
    exact agree_of_faithful (hrep.faithful hsep) hsep

/-- A hash table that is iterated as it was filled. -/
def inOrder : HashOrder where
  visit := id
  visit_perm := List.Perm.refl

theorem agree_iff_millisecond :
    Agree noNumbers insertionEngine inOrder
        (Sqlite.runAll noNumbers [.save (clipUntil 1000000 (by decide))])
        (runAll [.save (clipUntil 1000000 (by decide))]) ↔
      ∀ clipId clip, stored [.save (clipUntil 1000000 (by decide))] clipId = some clip →
        Separated clip.timeWindow :=
  agree_iff noNumbers insertionEngine inOrder fun call hcall => by
    rw [List.mem_singleton.mp hcall]
    exact clipUntil_plain _ _

end InMemory

end Ods.S4
