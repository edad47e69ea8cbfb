import OdsMod2.S4.Ports

/-!
# Locking a clip for audit

An auditor locks a clip with the two repository calls the tests of the repository use: read the
row, write it back with the flag set. As a protocol (`audit`), an auditor writes a row only right
after reading it; `AuditMove` is what each of its calls does to the state.
-/

namespace Ods.S4

open Prog

/-- An auditor locks a clip. -/
def lockForAudit (clipId : String) : Service Unit := do
  match ← Port.findById clipId with
  -- the whole row goes back, with the other fields as they were read
  | some clip => Port.update clip.lockForAudit
  | none => ret ()

/-- Where an auditor stands. -/
inductive AuditPhase where
  | idle
  | read (clip : MediaClip)
  deriving DecidableEq

namespace AuditPhase

def next : AuditPhase → (op : PortCall) → Except ODSException op.Answer → AuditPhase
  | _, .findById _, .ok (some clip) => read clip
  | _, _, _ => idle

/-- What an auditor of the clips in `Audited` may call. -/
def Permits (Audited : String → Prop) : AuditPhase → PortCall → Prop
  | _, .findById clipId => Audited clipId
  | read clip, .update row => row = clip.lockForAudit
  | _, _ => False

end AuditPhase

def audit (Audited : String → Prop) : Protocol PortCall.Answer ODSException AuditPhase where
  start := .idle
  next := AuditPhase.next
  Permits := AuditPhase.Permits Audited

theorem lockForAudit_obeys {Audited : String → Prop} {clipId : String} (h : Audited clipId)
    (phase : AuditPhase) :
    (audit Audited).Obeys (lockForAudit clipId) (fun _ _ => True) phase := by
  have hfind : (audit Audited).Permits phase (.findById clipId) := by
    cases phase <;> exact h
  refine wp_bind (Protocol.obeys_perform hfind fun answer => ?_)
  match answer with
  | .error exception => trivial
  | .ok none => trivial
  | .ok (some clip) => exact Protocol.obeys_perform rfl fun _ => trivial

/-! ### What an auditor does to the state -/

/-- An auditor writes back the row it has read, locked. -/
theorem AuditPhase.update_permitted {Audited : String → Prop} {auditing : AuditPhase}
    {row : MediaClip} (h : auditing.Permits Audited (.update row)) :
    ∃ clip, auditing = .read clip ∧ row = clip.lockForAudit := by
  cases auditing with
  | idle => exact h.elim
  | read clip => exact ⟨clip, rfl, h⟩

/-- One call of an auditor of the clips in `Audited`. -/
inductive AuditMove (Audited : String → Prop) :
    AuditPhase → ServiceState → AuditPhase → ServiceState → Prop
  | rest {auditing : AuditPhase} {s : ServiceState} : AuditMove Audited auditing s .idle s
  | read {auditing : AuditPhase} {s : ServiceState} {clip : MediaClip}
      (hmem : clip ∈ s.clips.rows) (haudited : Audited clip.clipId) :
      AuditMove Audited auditing s (.read clip) s
  | lock {s : ServiceState} {clip : MediaClip} :
      AuditMove Audited (.read clip) s .idle (s.putClip clip.lockForAudit)

/-- Whoever makes the call, a row an auditor has just read is in the table. -/
theorem AuditPhase.mem_of_read {env : Environment} {auditing : AuditPhase} {op : PortCall}
    {answer : Except ODSException op.Answer} {s s' : ServiceState} {clip : MediaClip}
    (hserves : env.serves op s answer s') (hread : auditing.next op answer = .read clip) :
    clip ∈ s'.clips.rows ∧ ∃ clipId, op = .findById clipId ∧ clip.clipId = clipId ∧ s' = s := by
  cases op with
  | findById clipId =>
    match answer, hserves, hread with
    | .ok (some found), hserves, hread =>
      -- a lookup changes nothing, so the row is still there after it
      obtain rfl := AuditPhase.read.inj hread
      obtain ⟨hfound, rfl⟩ := hserves
      obtain ⟨hmem, hid⟩ := KeyedTable.lookup_eq_some.mp hfound.symm
      exact ⟨hmem, clipId, rfl, hid, rfl⟩
    | .ok none, _, hread => cases hread
    | .error _, _, hread => cases hread
  | _ => cases hread

theorem auditMove_of_call {env : Environment} {Audited : String → Prop} {auditing : AuditPhase}
    {op : PortCall} {answer : Except ODSException op.Answer} {s s' : ServiceState}
    (hpermits : auditing.Permits Audited op) (hserves : env.serves op s answer s') :
    AuditMove Audited auditing s (auditing.next op answer) s' := by
  cases op with
  | findById clipId =>
    have haudited : Audited clipId := by
      cases auditing <;> exact hpermits
    match answer, hserves with
    | .ok none, hserves =>
      obtain ⟨-, rfl⟩ := hserves
      exact .rest
    | .ok (some clip), hserves =>
      obtain ⟨hfound, rfl⟩ := hserves
      obtain ⟨hmem, rfl⟩ := KeyedTable.lookup_eq_some.mp hfound.symm
      exact .read hmem haudited
    | .error exception, hserves =>
      obtain ⟨-, rfl⟩ := hserves
      exact .rest
  | update row =>
    obtain ⟨clip, rfl, rfl⟩ := AuditPhase.update_permitted hpermits
    match answer, hserves with
    | .ok _, hserves =>
      obtain rfl := hserves
      exact .lock
    -- an update that throws has not been made
    | .error exception, hserves =>
      obtain ⟨-, rfl⟩ := hserves
      exact .rest
  | _ => cases auditing <;> exact hpermits.elim

end Ods.S4
