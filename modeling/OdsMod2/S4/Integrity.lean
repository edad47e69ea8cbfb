import OdsMod2.S4.PurgeMedia.Moves
import OdsMod2.S4.ExtractClip
import OdsMod2.S4.AuditLock

/-!
# Evidential integrity of a session

A session is any sequence of requests, one after the other: events posted to the server, audit
locks and purge sweeps. `Intact` is the contract of the whole service, that the file of a retained
clip still has the SHA-256 published for it.

Each request keeps the contract for its own clip. What breaks it is the naming: the server puts a
clip at `mediaDir/eventId.mp4`, so the same event sent again overwrites the file of a clip that is
still retained, under the hash of the old bytes (`second_post_breaks_first_clip`). That is the only
way. `session_intact_iff` says that the contract holds along a run exactly if every write puts the
bytes that the retained clips of the path already stand for (`WriteAgrees`).
-/

namespace Ods.S4

open Prog PurgeMedia ExtractClip

/-! ### Sessions -/

/-- A request to the service. -/
inductive SessionRequest where
  | postEvent (eventId : String) (request : ExtractClip.Request)
  | lockForAudit (clipId : String)
  | sweep (strategies : List RetentionStrategy)

/-- What a request runs; its result goes to the client or the log. -/
def SessionRequest.program (mediaDir : String) : SessionRequest → Service Unit
  | .postEvent eventId request => do
    let _ ← Ods.S4.postEvent mediaDir eventId request
    ret ()
  | .lockForAudit clipId => Ods.S4.lockForAudit clipId
  | .sweep strategies => do
    let _ ← PurgeMedia.execute strategies
    ret ()

/-- The server and the daemon catch what a request throws and go on. -/
def session (mediaDir : String) : List SessionRequest → Service Unit
  | [] => ret ()
  | request :: requests => do
    let _ ← attempt (request.program mediaDir)
    session mediaDir requests

/-! ### The contract -/

/-- The file of every retained clip has the hash of its record. -/
def Intact (env : Environment) (s : ServiceState) : Prop :=
  ∀ clip ∈ s.clips.rows, clip.isRetained = true →
    ∀ content ∈ s.files clip.filePath, env.sha256 content = clip.sha256Hash

abbrev SessionEvent := Event PortCall.Answer ODSException ServiceState Unit

/-- A write over the file of a retained clip brings the bytes the clip was published for. -/
def WriteAgrees (env : Environment) (e : SessionEvent) : Prop :=
  ∀ path data, e.op = .writeFile path data →
    ∀ clip ∈ e.before.clips.rows, clip.isRetained = true → clip.filePath = path →
      match e.answer with
      | .ok _ => env.sha256 data = clip.sha256Hash
      -- a write that fails midway has truncated the file and put a part of its data there
      | .error _ => ∀ part ∈ e.after.files path, e.before.files path ≠ some part →
          env.sha256 part = clip.sha256Hash

/-- The contract, with what an extraction and a lock know in the middle of their calls. -/
structure IntegrityInv (env : Environment) (extracting : ExtractPhase) (auditing : AuditPhase)
    (s : ServiceState) : Prop where
  intact : Intact env s
  written : ∀ path data, extracting = .written path data → s.files path = some data
  hashed : ∀ path data sha256Hash, extracting = .hashed path data sha256Hash →
    s.files path = some data ∧ sha256Hash = env.sha256 data
  auditing : ∀ clip, auditing = .read clip → clip ∈ s.clips.rows

section Steps

variable {env : Environment} {extracting : ExtractPhase} {auditing : AuditPhase}
  {s s' : ServiceState}

/-- Between the calls of an extraction or a lock only the contract is known. -/
theorem IntegrityInv.between (h : Intact env s) : IntegrityInv env .idle .idle s :=
  ⟨h, fun _ _ hphase => (by cases hphase), fun _ _ _ hphase => (by cases hphase),
    fun _ hphase => (by cases hphase)⟩

theorem Intact.dropFile (h : Intact env s) (path : String) : Intact env (s.dropFile path) := by
  intro clip hmem hretained content hcontent
  rw [ServiceState.dropFile_files] at hcontent
  by_cases hpath : clip.filePath = path
  · -- there is no content left to disagree
    subst hpath
    rw [Function.update_self] at hcontent
    cases hcontent
  · rw [Function.update_of_ne hpath] at hcontent
    exact h clip hmem hretained content hcontent

/-- Rewriting a row keeps the contract if the new row does. -/
theorem Intact.putClip (h : Intact env s) {clip : MediaClip}
    (hclip : clip.isRetained = true → ∀ content ∈ s.files clip.filePath,
      env.sha256 content = clip.sha256Hash) : Intact env (s.putClip clip) := by
  intro row hrow hretained
  rcases KeyedTable.mem_upsert.mp hrow with rfl | ⟨hrow, -⟩
  · exact hclip hretained
  · exact h row hrow hretained

/-- A write keeps the contract if the bytes agree with the retained clips of the path. -/
theorem Intact.putFile (h : Intact env s) {path : String} {content : List UInt8}
    (hagrees : s.files path ≠ some content → ∀ clip ∈ s.clips.rows, clip.isRetained = true →
      clip.filePath = path → env.sha256 content = clip.sha256Hash) :
    Intact env (s.putFile path content) := by
  intro clip hmem hretained content' hcontent'
  rw [ServiceState.putFile_files] at hcontent'
  by_cases hpath : clip.filePath = path
  · subst hpath
    rw [Function.update_self] at hcontent'
    obtain rfl := Option.some.inj hcontent'
    by_cases hsame : s.files clip.filePath = some content
    · -- the same bytes again
      exact h clip hmem hretained content hsame
    · exact hagrees hsame clip hmem hretained rfl
  · rw [Function.update_of_ne hpath] at hcontent'
    exact h clip hmem hretained content' hcontent'

/-- A sweep keeps the contract: it removes files and gives up clips. -/
theorem Intact.sweep {Target : String → Prop} {phase phase' : SweepPhase} (h : Intact env s)
    (hmove : SweepMove env Target phase s phase' s') : Intact env s' := by
  cases hmove with
  | remove => exact h.dropFile _
  | mark => exact h.putClip fun hretained => by cases hretained
  | log => exact h
  | _ => exact h

/-- The calls of a sweep are none of an extraction's. -/
theorem extract_idle_of_sweep {Target : String → Prop} {phase : SweepPhase} {op : PortCall}
    (h : phase.Permits Target op) (extracting : ExtractPhase)
    (answer : Except ODSException op.Answer) : extracting.next op answer = .idle := by
  cases op <;> first
    | (cases extracting <;> rfl)
    | (cases phase <;> exact h.elim)

/-- Nor are an auditor's. -/
theorem extract_idle_of_audit {Audited : String → Prop} {auditing : AuditPhase} {op : PortCall}
    (h : auditing.Permits Audited op) (extracting : ExtractPhase)
    (answer : Except ODSException op.Answer) : extracting.next op answer = .idle := by
  cases op <;> first
    | (cases extracting <;> rfl)
    | (cases auditing <;> exact h.elim)

/-- A step outside an extraction: only the contract has to be kept. -/
theorem IntegrityInv.outside {op : PortCall} {answer : Except ODSException op.Answer}
    (hintact : Intact env s') (hidle : extracting.next op answer = .idle)
    (hserves : env.serves op s answer s') :
    IntegrityInv env (extracting.next op answer) (auditing.next op answer) s' := by
  rw [hidle]
  exact ⟨hintact, fun _ _ hphase => (by cases hphase), fun _ _ _ hphase => (by cases hphase),
    fun clip hread => (AuditPhase.mem_of_read hserves hread).1⟩

theorem IntegrityInv.extraction {Names : String → String → Prop} {op : PortCall}
    {answer : Except ODSException op.Answer} (h : IntegrityInv env extracting auditing s)
    (hpermits : extracting.Permits Names op) (hserves : env.serves op s answer s')
    (hagrees : WriteAgrees env ⟨(), op, answer, s, s'⟩) :
    IntegrityInv env (extracting.next op answer) (auditing.next op answer) s' := by
  have hwrite : ∀ path content, s'.files path = some content → s.files path ≠ some content →
      ∀ clip ∈ s.clips.rows, clip.isRetained = true → clip.filePath = path →
        env.sha256 content = clip.sha256Hash := by
    intro path content hafter hbefore clip hclip hretained hpath
    obtain ⟨data, rfl⟩ := Environment.writeFile_of_changed hserves hafter hbefore
    have hagreed := hagrees path data rfl clip hclip hretained hpath
    cases answer with
    | ok _ =>
      -- all of the data is in the file
      obtain rfl := hserves
      rw [ServiceState.putFile_files, Function.update_self] at hafter
      rw [← Option.some.inj hafter]
      exact hagreed
    | error _ => exact hagreed content hafter hbefore
  have haudit : ∀ clip, auditing.next op answer = .read clip → clip ∈ s'.clips.rows :=
    fun clip hread => (AuditPhase.mem_of_read hserves hread).1
  have hmove := extractMove_of_call hpermits hserves
  generalize extracting.next op answer = extracting' at hmove ⊢
  cases hmove with
  | rest =>
    exact ⟨h.intact, fun _ _ hphase => (by cases hphase), fun _ _ _ hphase => (by cases hphase),
      haudit⟩
  -- a write, complete or not, is where the agreement is needed
  | @write _ path data hnames =>
    refine ⟨h.intact.putFile (hwrite path data (Function.update_self _ _ _)),
      fun path' data' hphase => ?_, fun _ _ _ hphase => (by cases hphase), haudit⟩
    obtain ⟨rfl, rfl⟩ := ExtractPhase.written.inj hphase
    exact Function.update_self _ _ _
  | @truncate _ path written hnames =>
    exact ⟨h.intact.putFile (hwrite path written (Function.update_self _ _ _)),
      fun _ _ hphase => (by cases hphase), fun _ _ _ hphase => (by cases hphase), haudit⟩
  | hash =>
    refine ⟨h.intact, fun _ _ hphase => (by cases hphase), fun path' data' hash' hphase => ?_,
      haudit⟩
    obtain ⟨rfl, rfl, rfl⟩ := ExtractPhase.hashed.inj hphase
    exact ⟨h.written _ _ rfl, rfl⟩
  | record => exact ⟨h.intact, h.written, h.hashed, haudit⟩
  | save hnames hretained =>
    -- the new record carries the hash of the bytes that are in its file
    obtain ⟨hfile, hhash⟩ := h.hashed _ _ _ rfl
    refine ⟨h.intact.putClip fun _ content hcontent => ?_, fun _ _ hphase => (by cases hphase),
      fun _ _ _ hphase => (by cases hphase), haudit⟩
    rw [hfile] at hcontent
    rw [hhash, Option.some.inj hcontent]

/-- Locking a clip writes back the row it was read from. -/
theorem Intact.audit {Audited : String → Prop} {auditing' : AuditPhase}
    (h : IntegrityInv env extracting auditing s)
    (hmove : AuditMove Audited auditing s auditing' s') : Intact env s' := by
  cases hmove with
  | rest => exact h.intact
  | read hmem haudited => exact h.intact
  | @lock _ clip => exact h.intact.putClip (h.intact clip (h.auditing clip rfl))

end Steps

/-! ### Every call of a session -/

namespace Session

abbrev SessionState := Observed PortCall.Answer ODSException ServiceState Unit

def sweepPhase (history : List SessionEvent) : SweepPhase :=
  PurgeMedia.sweep.phase () history

def extractPhase (history : List SessionEvent) : ExtractPhase :=
  (extraction fun _ _ => True).phase () history

def auditPhase (history : List SessionEvent) : AuditPhase :=
  (audit fun _ => True).phase () history

/-- A call of a session is a call of a sweep, of an extraction or of an auditor. -/
def SessionPermits (o : SessionState) (op : PortCall) : Prop :=
  (sweepPhase o.history).Permits (fun _ => True) op ∨
    (extractPhase o.history).Permits (fun _ _ => True) op ∨
    (auditPhase o.history).Permits (fun _ => True) op

theorem program_wp (env : Environment) (mediaDir : String)
    (request : SessionRequest) (o : SessionState) :
    (request.program mediaDir).wp (observe env.serves ()) SessionPermits (fun _ _ => True) o := by
  cases request with
  | postEvent eventId request =>
    refine wp_bind ?_
    unfold Ods.S4.postEvent
    split
    · -- each program keeps to its own protocol, and so to their union
      have hobeys : (extraction fun _ _ => True).Obeys
          (extract eventId (clipPath mediaDir eventId) request) Saved (extractPhase o.history) :=
        extract_obeys trivial request _
      refine wp_bind (wp_mono (wp_permits hobeys.observed fun _ _ h => .inr (.inl h))
        fun r _ _ => ?_)
      cases r with
      | ok clip => trivial
      | error exception => trivial
    · trivial
  | lockForAudit clipId =>
    have hobeys : (audit fun _ => True).Obeys (Ods.S4.lockForAudit clipId) (fun _ _ => True)
        (auditPhase o.history) := lockForAudit_obeys trivial _
    exact wp_permits hobeys.observed fun _ _ h => .inr (.inr h)
  | sweep strategies =>
    have hobeys := PurgeMedia.execute_obeys strategies (sweepPhase o.history)
    refine wp_bind (wp_mono (wp_permits hobeys.observed fun _ _ h => .inl h) fun r _ _ => ?_)
    cases r with
    | ok report => trivial
    | error exception => trivial

theorem session_wp (env : Environment) (mediaDir : String) (requests : List SessionRequest)
    (o : SessionState) :
    (session mediaDir requests).wp (observe env.serves ()) SessionPermits (fun _ _ => True) o := by
  induction requests generalizing o with
  | nil => trivial
  | cons request requests ih =>
    exact wp_bind (wp_attempt (wp_mono (program_wp env mediaDir request o) fun _ o' _ => ih o'))

theorem step_intact {env : Environment} {o : SessionState} {op : PortCall}
    {answer : Except ODSException op.Answer} {world : ServiceState}
    (h : IntegrityInv env (extractPhase o.history) (auditPhase o.history) o.world)
    (hpermits : SessionPermits o op) (hserves : env.serves op o.world answer world)
    (hagrees : WriteAgrees env ⟨(), op, answer, o.world, world⟩) :
    IntegrityInv env ((extractPhase o.history).next op answer) ((auditPhase o.history).next op answer)
      world := by
  rcases hpermits with hsweep | hextract | haudit
  · exact IntegrityInv.outside (h.intact.sweep (sweepMove_of_call hsweep hserves))
      (extract_idle_of_sweep hsweep _ _) hserves
  · exact h.extraction hextract hserves hagrees
  · exact IntegrityInv.outside (Intact.audit h (auditMove_of_call haudit hserves))
      (extract_idle_of_audit haudit _ _) hserves

/-! ### The contract along a run -/

/-- **Evidential integrity.** Along every run of a session that starts intact, in any environment,
every state reached is intact if and only if every write agrees with the retained clips of its
path. -/
theorem session_intact_iff (env : Environment) (mediaDir : String)
    (requests : List SessionRequest) {s : ServiceState} (hs : Intact env s)
    {p' : Service Unit} {o' : SessionState}
    (hrun : Steps (observe env.serves ()) (session mediaDir requests) (Observed.start s) p' o') :
    (∀ e ∈ o'.history, WriteAgrees env e) ↔
      Intact env o'.world ∧ ∀ e ∈ o'.history, Intact env e.after := by
  constructor
  · intro hagree
    have hinv : (∀ e ∈ o'.history, WriteAgrees env e) →
        IntegrityInv env (extractPhase o'.history) (auditPhase o'.history) o'.world ∧
          ∀ e ∈ o'.history, Intact env e.after := by
      -- the agreement of the history so far is the premise the induction carries along
      refine hrun.invariant (fun o => (∀ e ∈ o.history, WriteAgrees env e) →
        IntegrityInv env (extractPhase o.history) (auditPhase o.history) o.world ∧
          ∀ e ∈ o.history, Intact env e.after) ?_ (session_wp env mediaDir requests _) ?_
      · rintro op o answer o' hinv hpermits ⟨world, hserves, rfl⟩ hagree
        obtain ⟨h, hafter⟩ := hinv fun e he => hagree e (List.mem_append_left _ he)
        have hnext := step_intact h hpermits hserves
          (hagree _ (List.mem_append_right _ List.mem_cons_self))
        refine ⟨?_, fun e he => ?_⟩
        · rw [show extractPhase (o.snoc () op answer world).history
            = (extractPhase o.history).next op answer from Protocol.phase_snoc_self _ _ _ _ _ _,
            show auditPhase (o.snoc () op answer world).history
            = (auditPhase o.history).next op answer from Protocol.phase_snoc_self _ _ _ _ _ _]
          exact hnext
        · rcases List.mem_append.mp he with hold | hnew
          · exact hafter e hold
          · rw [List.mem_singleton.mp hnew]
            exact hnext.intact
      · exact fun _ => ⟨IntegrityInv.between hs, fun e he => absurd he List.not_mem_nil⟩
    obtain ⟨h, hafter⟩ := hinv hagree
    exact ⟨h.intact, hafter⟩
  · rintro ⟨-, hafter⟩ e he path data hop clip hclip hretained rfl
    have hserved := hrun.served e he
    have hintact := hafter e he
    obtain ⟨actor, op, answer, before, after⟩ := e
    obtain rfl : op = .writeFile clip.filePath data := hop
    -- a write leaves the table alone, so the clip is still recorded for what is now in its file
    have hrow : clip ∈ after.clips.rows := by
      rw [show after.clips = before.clips from Environment.writeFile_clips hserved]
      exact hclip
    cases answer with
    | ok _ =>
      obtain rfl : after = before.putFile clip.filePath data := hserved
      exact hintact clip hrow hretained data (Function.update_self _ _ _)
    | error _ => exact fun part hpart _ => hintact clip hrow hretained part hpart

/-! ### The same event twice -/

instance (env : Environment) (s : ServiceState) : Decidable (Intact env s) :=
  inferInstanceAs (Decidable (∀ clip ∈ s.clips.rows, clip.isRetained = true →
    ∀ content ∈ s.files clip.filePath, env.sha256 content = clip.sha256Hash))

/-- A service that has stored nothing yet. -/
def empty : ServiceState where
  clips := ⟨[], by decide⟩
  files _ := none
  purgeLog := []

/-- The recorded run of a session on the bench. -/
def onBench (requests : List SessionRequest) : Except ODSException Unit × SessionState :=
  (session "/nvme" requests).run
    (observeServer Simulation.bench.serve ())
    (Observed.start empty)

theorem onBench_runs (requests : List SessionRequest) :
    Runs (observe Simulation.bench.environment.serves ())
      (session "/nvme" requests) (Observed.start empty) (onBench requests).1
      (onBench requests).2 :=
  run_runs (observeServer_observe (Simulation.serve_serves _) ()) _ _

/-- Two events, a lock, and a sweep that has nothing to do. -/
def distinctEvents : List SessionRequest :=
  [.postEvent "evt-1" (.wallClock ⟨2, 3, by decide⟩), .lockForAudit "clip-0",
    .postEvent "evt-2" (.wallClock ⟨4, 5, by decide⟩), .sweep [LgpdRetentionStrategy .default]]

theorem session_intact_iff_distinct :
    (∀ e ∈ (onBench distinctEvents).2.history,
      WriteAgrees Simulation.bench.environment e) ↔
      Intact Simulation.bench.environment
          (onBench distinctEvents).2.world ∧
        ∀ e ∈ (onBench distinctEvents).2.history,
          Intact Simulation.bench.environment e.after := by
  obtain ⟨p', hrun, -⟩ := onBench_runs distinctEvents
  exact session_intact_iff _ _ _ (by decide) hrun

/-- The event sent again writes other bytes under the hash of the first clip, which is still
retained. -/
theorem second_post_breaks_first_clip :
    ¬ ∀ (env : Environment) (mediaDir : String) (requests : List SessionRequest),
      Function.Injective env.sha256 → ∀ (p' : Service Unit) (o' : SessionState),
        Steps (observe env.serves ()) (session mediaDir requests) (Observed.start empty) p' o' →
        Intact env o'.world := by
  intro h
  obtain ⟨p', hrun, -⟩ := onBench_runs
    [.postEvent "evt" (.wallClock ⟨2, 3, by decide⟩), .postEvent "evt" (.wallClock ⟨4, 5, by decide⟩)]
  have hintact := h _ _ _ Simulation.bench_sha256_injective p' _ hrun
  exact absurd hintact (by decide +kernel)

end Session

end Ods.S4
