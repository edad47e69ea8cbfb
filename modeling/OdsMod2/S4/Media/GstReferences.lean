import Mathlib.Algebra.Order.Group.Multiset
import Mathlib.Data.List.Induction
import Mathlib.Tactic.Abel
import OdsMod2.Framework.References
import OdsMod2.S4.Media.Container

/-!
# References to GStreamer objects

A pipeline, an element found by its name, a bus and a message are references that the caller has to give
back, a main loop and its thread too. `GStreamerAppsinkFrameSource` keeps what it has in its fields, and
`stop` gives all of it back: however `start` and `stop` are called, and wherever a start fails, nothing
is given back twice and nothing is lost (`source_references`). `GStreamerMp4Muxer` has fields for the
two ends of its pipeline and writes over them. It never gives these two references back, and each call
that gets its pipeline leaves them behind (`muxer_references`).
-/

namespace Ods.S4

open References

/-- The objects that belong to the pipeline launched as the `n`-th, and the pipeline. -/
inductive GstObject where
  | pipeline (n : ℕ)
  | source (n : ℕ)
  | sink (n : ℕ)
  | loop (n : ℕ)
  | loopThread (n : ℕ)
  | bus (n : ℕ)
  | message (n : ℕ)
  deriving DecidableEq

/-- How many pipelines have been launched, and the references that the program holds. -/
structure GstRuntime where
  launched : ℕ
  held : Multiset GstObject

/-- A pointer that is null unless something is found. -/
def found (there : Bool) (object : GstObject) : Option GstObject :=
  if there then some object else none

/-! ### The frame source -/

/-- `GStreamerAppsinkFrameSource::Impl`, as far as it holds references. -/
structure AppsinkImpl where
  pipeline : Option GstObject
  sink : Option GstObject
  loop : Option GstObject
  loopThread : Option GstObject

/-- What GStreamer answers in one `start`. -/
structure SourceLaunch where
  hasPipeline : Bool
  /-- The text of the `GError`; a pipeline may come with it. -/
  error : Option String
  hasSink : Bool
  plays : Bool

/-- Nothing fails on the way. -/
def SourceLaunch.Succeeds (launch : SourceLaunch) : Prop :=
  launch.hasPipeline = true ∧ launch.error = none ∧ launch.hasSink = true ∧ launch.plays = true

namespace AppsinkImpl

def idle : AppsinkImpl := ⟨none, none, none, none⟩

def isRunning (impl : AppsinkImpl) : Bool :=
  impl.pipeline.isSome

/-- The first half of `stop`. -/
def stopPipeline (impl : AppsinkImpl) (held : Multiset GstObject) :
    Option (AppsinkImpl × Multiset GstObject) :=
  match impl.pipeline with
  | none => some (impl, held)
  | some pipeline => do
    let held ← giveBackIfAny impl.sink held
    let held ← giveBack pipeline held
    some ({ impl with pipeline := none, sink := none }, held)

/-- The second half: the thread is joined, and the loop given back. -/
def stopLoop (impl : AppsinkImpl) (held : Multiset GstObject) :
    Option (AppsinkImpl × Multiset GstObject) :=
  match impl.loop with
  | none => some (impl, held)
  | some loop => do
    let held ← giveBackIfAny impl.loopThread held
    let held ← giveBack loop held
    some ({ impl with loop := none, loopThread := none }, held)

def stop (impl : AppsinkImpl) (held : Multiset GstObject) :
    Option (AppsinkImpl × Multiset GstObject) := do
  let (impl, held) ← impl.stopPipeline held
  impl.stopLoop held

/-- `start`, with what it throws. -/
def start (description : String) (launch : SourceLaunch) (impl : AppsinkImpl) (gst : GstRuntime) :
    Option (Except ODSException Unit × AppsinkImpl × GstRuntime) :=
  if impl.isRunning then some (.ok (), impl, gst)
  else
    let n := gst.launched
    let pipeline := found launch.hasPipeline (.pipeline n)
    let held := gst.held + owned pipeline
    if pipeline.isNone ∨ launch.error.isSome then do
      let held ← giveBackIfAny pipeline held
      some (.error (.application ⟨.frameSource,
          "invalid pipeline [" ++ description ++ "]: " ++ launch.error.getD "unknown"⟩),
        { impl with pipeline := none }, ⟨n + 1, held⟩)
    else
      let sink := found launch.hasSink (.sink n)
      let impl := { impl with pipeline := pipeline, sink := sink }
      let held := held + owned sink
      if sink.isNone then do
        let (impl, held) ← impl.stop held
        some (.error (.application
          ⟨.frameSource, "pipeline must end in 'appsink name=ods_sink'"⟩), impl, ⟨n + 1, held⟩)
      else
        let impl := { impl with loop := some (.loop n), loopThread := some (.loopThread n) }
        let held := held + {.loop n} + {.loopThread n}
        if !launch.plays then do
          let (impl, held) ← impl.stop held
          some (.error (.application ⟨.frameSource, "pipeline could not reach PLAYING"⟩), impl,
            ⟨n + 1, held⟩)
        else some (.ok (), impl, ⟨n + 1, held⟩)

/-- What the fields account for. -/
def owns (impl : AppsinkImpl) : Multiset GstObject :=
  owned impl.pipeline + owned impl.sink + owned impl.loop + owned impl.loopThread

/-- An element without its pipeline, and a thread without its loop, are never left. -/
def Grouped (impl : AppsinkImpl) : Prop :=
  (impl.pipeline = none → impl.sink = none) ∧ (impl.loop = none → impl.loopThread = none)

section Stop

variable {impl : AppsinkImpl}

theorem stopPipeline_eq (h : impl.Grouped) (rest : Multiset GstObject) :
    impl.stopPipeline (rest + owned impl.pipeline + owned impl.sink) =
      some ({ impl with pipeline := none, sink := none }, rest) := by
  -- without a pipeline there is no element either, and nothing to give back
  obtain ⟨pipeline, sink, loop, loopThread⟩ := impl
  cases pipeline with
  | none =>
    obtain rfl : sink = none := h.1 rfl
    rw [stopPipeline, owned_none, Multiset.add_zero, Multiset.add_zero]
  | some object =>
    rw [stopPipeline]
    dsimp only
    rw [giveBackIfAny_add, Option.bind_eq_bind, Option.bind_some, owned_some, giveBack_add]
    rfl

theorem stopLoop_eq (h : impl.Grouped) (rest : Multiset GstObject) :
    impl.stopLoop (rest + owned impl.loop + owned impl.loopThread) =
      some ({ impl with loop := none, loopThread := none }, rest) := by
  -- likewise the thread goes with its loop
  obtain ⟨pipeline, sink, loop, loopThread⟩ := impl
  cases loop with
  | none =>
    obtain rfl : loopThread = none := h.2 rfl
    rw [stopLoop, owned_none, Multiset.add_zero, Multiset.add_zero]
  | some object =>
    rw [stopLoop]
    dsimp only
    rw [giveBackIfAny_add, Option.bind_eq_bind, Option.bind_some, owned_some, giveBack_add]
    rfl

/-- **`stop`** gives back what the fields account for. -/
theorem stop_eq (h : impl.Grouped) (rest : Multiset GstObject) :
    impl.stop (rest + impl.owns) = some (idle, rest) := by
  -- what goes back first stands last
  have hsplit : rest + impl.owns =
      rest + owned impl.loop + owned impl.loopThread + owned impl.pipeline + owned impl.sink := by
    unfold owns
    abel
  rw [stop, hsplit, stopPipeline_eq h, Option.bind_eq_bind, Option.bind_some]
  have hloop : ({ impl with pipeline := none, sink := none } : AppsinkImpl).Grouped :=
    ⟨fun _ => rfl, h.2⟩
  exact stopLoop_eq hloop rest

end Stop

/-- What is in the fields of a source that plays its pipeline. -/
def playing (n : ℕ) : AppsinkImpl :=
  ⟨some (.pipeline n), some (.sink n), some (.loop n), some (.loopThread n)⟩

/-- Nothing runs, or everything is there. -/
def Whole (impl : AppsinkImpl) : Prop :=
  impl = idle ∨ ∃ n, impl = playing n

theorem Whole.grouped {impl : AppsinkImpl} (h : impl.Whole) : impl.Grouped := by
  rcases h with rfl | ⟨n, rfl⟩
  · exact ⟨fun _ => rfl, fun _ => rfl⟩
  · exact ⟨nofun, nofun⟩

/-! ### What a start leaves, by where it ends -/

section Start

variable (description : String) (rest : Multiset GstObject) (n : ℕ)

theorem start_unparsed {launch : SourceLaunch}
    (h : (found launch.hasPipeline (.pipeline n)).isNone ∨ launch.error.isSome) :
    idle.start description launch ⟨n, rest⟩ =
      some (.error (.application ⟨.frameSource,
        "invalid pipeline [" ++ description ++ "]: " ++ launch.error.getD "unknown"⟩), idle,
        ⟨n + 1, rest⟩) := by
  have hidle : ¬ idle.isRunning = true := Bool.false_ne_true
  rw [start, if_neg hidle]
  dsimp only
  -- a pipeline that came with an error goes back
  rw [if_pos h, giveBackIfAny_add]
  rfl

theorem start_without_sink (plays : Bool) :
    idle.start description ⟨true, none, false, plays⟩ ⟨n, rest⟩ =
      some (.error (.application
        ⟨.frameSource, "pipeline must end in 'appsink name=ods_sink'"⟩), idle,
        ⟨n + 1, rest⟩) := by
  -- `stop` is called with the fields as they are by then
  have hheld : rest + {.pipeline n} + 0 = rest + owns ⟨some (.pipeline n), none, none, none⟩ := by
    unfold owns
    rw [owned_some, owned_none]
    abel
  have hgrouped : Grouped ⟨some (.pipeline n), none, none, none⟩ := ⟨nofun, fun _ => rfl⟩
  show (stop ⟨some (.pipeline n), none, none, none⟩ (rest + {.pipeline n} + 0)).bind _ = _
  rw [hheld, stop_eq hgrouped]
  rfl

/-- The loop and its thread are there before the pipeline plays. -/
theorem start_plays (plays : Bool) :
    idle.start description ⟨true, none, true, plays⟩ ⟨n, rest⟩ =
      if plays then some (.ok (), playing n, ⟨n + 1, rest + (playing n).owns⟩)
      else some (.error (.application ⟨.frameSource, "pipeline could not reach PLAYING"⟩), idle,
        ⟨n + 1, rest⟩) := by
  have hheld : rest + {.pipeline n} + {.sink n} + {.loop n} + {.loopThread n} =
      rest + (playing n).owns := by
    unfold owns playing
    dsimp only [owned_some]
    abel
  cases plays with
  | true =>
    rw [if_pos rfl, ← hheld]
    rfl
  | false =>
    rw [if_neg Bool.false_ne_true]
    show (stop (playing n)
      (rest + {.pipeline n} + {.sink n} + {.loop n} + {.loopThread n})).bind _ = _
    rw [hheld, stop_eq (Whole.grouped (.inr ⟨n, rfl⟩))]
    rfl

end Start

/-- What a call leaves: all that is held is accounted for, and whether the source runs. -/
structure Leaves (rest : Multiset GstObject) (runs : Prop) (impl : AppsinkImpl) (gst : GstRuntime) :
    Prop where
  held : gst.held = rest + impl.owns
  whole : impl.Whole
  running : impl.isRunning = true ↔ runs

theorem leaves_idle {runs : Prop} (rest : Multiset GstObject) (n : ℕ) (h : ¬ runs) :
    Leaves rest runs idle ⟨n, rest⟩ where
  held := (Multiset.add_zero rest).symm
  whole := .inl rfl
  running := iff_of_false Bool.false_ne_true h

/-- **`start`**, wherever it ends: it throws exactly if the source does not run afterwards. -/
theorem start_leaves {impl : AppsinkImpl} {gst : GstRuntime} {rest : Multiset GstObject} {runs : Prop}
    (h : Leaves rest runs impl gst) (description : String) (launch : SourceLaunch) :
    ∃ result impl' gst', impl.start description launch gst = some (result, impl', gst') ∧
      Leaves rest (runs ∨ launch.Succeeds) impl' gst' ∧
      (result = .ok () ↔ impl'.isRunning = true) := by
  obtain ⟨n, held⟩ := gst
  obtain ⟨rfl : held = _, hwhole, hruns⟩ := h
  rcases hwhole with rfl | ⟨m, rfl⟩
  · have hidle : ¬ runs := fun h => Bool.false_ne_true (hruns.mpr h)
    rw [show rest + idle.owns = rest from Multiset.add_zero rest]
    -- the ways out of `start`, in the order of the source
    by_cases hparse : (found launch.hasPipeline (.pipeline n)).isNone ∨ launch.error.isSome
    · refine ⟨_, _, _, start_unparsed description rest n hparse, leaves_idle rest _ ?_,
        iff_of_false nofun Bool.false_ne_true⟩
      rintro (hran | ⟨hpipeline, herror, -⟩)
      · exact hidle hran
      · rw [hpipeline, herror] at hparse
        exact hparse.elim Bool.false_ne_true Bool.false_ne_true
    · obtain ⟨hasPipeline, error, hasSink, plays⟩ := launch
      obtain ⟨hpipeline, herror⟩ := not_or.mp hparse
      obtain rfl : error = none := Option.not_isSome_iff_eq_none.mp herror
      obtain rfl : hasPipeline = true := by
        cases hasPipeline with
        | true => rfl
        | false => exact absurd rfl hpipeline
      cases hasSink with
      | false =>
        refine ⟨_, _, _, start_without_sink description rest n plays, leaves_idle rest _ ?_,
          iff_of_false nofun Bool.false_ne_true⟩
        rintro (hran | ⟨-, -, hsink, -⟩)
        · exact hidle hran
        · exact Bool.false_ne_true hsink
      | true =>
        cases plays with
        | true =>
          exact ⟨_, _, _, start_plays description rest n true,
            ⟨rfl, .inr ⟨n, rfl⟩, iff_of_true rfl (.inr ⟨rfl, rfl, rfl, rfl⟩)⟩, iff_of_true rfl rfl⟩
        | false =>
          refine ⟨_, _, _, start_plays description rest n false, leaves_idle rest _ ?_,
            iff_of_false nofun Bool.false_ne_true⟩
          rintro (hran | ⟨-, -, -, hplays⟩)
          · exact hidle hran
          · exact Bool.false_ne_true hplays
  · -- a source that runs is left as it is
    exact ⟨.ok (), _, _, rfl, ⟨rfl, .inr ⟨m, rfl⟩, iff_of_true rfl (.inl (hruns.mp rfl))⟩,
      iff_of_true rfl rfl⟩

theorem stop_leaves {impl : AppsinkImpl} {gst : GstRuntime} {rest : Multiset GstObject} {runs : Prop}
    (h : Leaves rest runs impl gst) : impl.stop gst.held = some (idle, rest) := by
  rw [h.held]
  exact stop_eq h.whole.grouped rest

end AppsinkImpl

/-! ### Calls in any order -/

/-- What the program may ask of a frame source. -/
inductive SourceCall where
  | start (launch : SourceLaunch)
  | stop

open AppsinkImpl

/-- One call. What a `start` throws does not stop the program from calling again. -/
def SourceCall.run (description : String) (state : AppsinkImpl × GstRuntime) :
    SourceCall → Option (AppsinkImpl × GstRuntime)
  | .start launch => (state.1.start description launch state.2).map Prod.snd
  | .stop => (state.1.stop state.2.held).map fun left => (left.1, ⟨state.2.launched, left.2⟩)

/-- A start has succeeded, and no stop has come after it. -/
def StartedIn (calls : List SourceCall) : Prop :=
  ∃ earlier launch later,
    calls = earlier ++ .start launch :: later ∧ launch.Succeeds ∧ .stop ∉ later

theorem not_startedIn_nil : ¬ StartedIn [] := by
  rintro ⟨earlier, launch, later, hcalls, -, -⟩
  exact List.append_ne_nil_of_right_ne_nil earlier (List.cons_ne_nil _ _) hcalls.symm

/-- A call is the start that has succeeded, or leaves the source as the calls before it have. -/
theorem startedIn_concat {calls : List SourceCall} {call : SourceCall} :
    StartedIn (calls ++ [call]) ↔
      (∃ launch, call = .start launch ∧ launch.Succeeds) ∨ call ≠ .stop ∧ StartedIn calls := by
  constructor
  · rintro ⟨earlier, launch, later, hcalls, hsucceeds, hstop⟩
    -- the call is the start itself, or one of those behind it
    rcases later.eq_nil_or_concat with rfl | ⟨later, last, rfl⟩
    · obtain ⟨-, hlast⟩ := List.append_inj' hcalls rfl
      obtain rfl := List.singleton_inj.mp hlast
      exact .inl ⟨launch, rfl, hsucceeds⟩
    · rw [List.concat_eq_append, ← List.cons_append, ← List.append_assoc] at hcalls
      obtain ⟨rfl, hlast⟩ := List.append_inj' hcalls rfl
      obtain rfl := List.singleton_inj.mp hlast
      rw [List.concat_eq_append, List.mem_append, List.mem_singleton, not_or] at hstop
      exact .inr ⟨Ne.symm hstop.2, earlier, launch, later, rfl, hsucceeds, hstop.1⟩
  · rintro (⟨launch, rfl, hsucceeds⟩ | ⟨hcall, earlier, launch, later, rfl, hsucceeds, hstop⟩)
    · exact ⟨calls, launch, [], rfl, hsucceeds, List.not_mem_nil⟩
    · have hsplit : earlier ++ .start launch :: later ++ [call] =
          earlier ++ .start launch :: (later ++ [call]) := by
        rw [List.append_assoc, List.cons_append]
      refine ⟨earlier, launch, later ++ [call], hsplit, hsucceeds, ?_⟩
      rw [List.mem_append, List.mem_singleton, not_or]
      exact ⟨hstop, Ne.symm hcall⟩

theorem startedIn_start {calls : List SourceCall} {launch : SourceLaunch} :
    StartedIn (calls ++ [.start launch]) ↔ StartedIn calls ∨ launch.Succeeds := by
  rw [startedIn_concat]
  constructor
  · rintro (⟨launch', hcall, hsucceeds⟩ | ⟨-, hstarted⟩)
    · cases hcall
      exact .inr hsucceeds
    · exact .inl hstarted
  · rintro (hstarted | hsucceeds)
    · exact .inr ⟨nofun, hstarted⟩
    · exact .inl ⟨launch, rfl, hsucceeds⟩

theorem not_startedIn_stop {calls : List SourceCall} : ¬ StartedIn (calls ++ [.stop]) := by
  rw [startedIn_concat]
  rintro (⟨launch, hcall, -⟩ | ⟨hother, -⟩)
  · cases hcall
  · exact hother rfl

/-- Whatever has been called. -/
theorem run_leaves (description : String) (rest : Multiset GstObject) (n : ℕ)
    (calls : List SourceCall) :
    ∃ impl gst, calls.foldlM (SourceCall.run description) (idle, ⟨n, rest⟩) = some (impl, gst) ∧
      Leaves rest (StartedIn calls) impl gst := by
  induction calls using List.reverseRecOn with
  | nil => exact ⟨_, _, rfl, leaves_idle rest n not_startedIn_nil⟩
  | append_singleton calls call ih =>
    obtain ⟨impl, gst, hrun, hleaves⟩ := ih
    rw [List.foldlM_append, hrun, Option.bind_eq_bind, Option.bind_some, List.foldlM_cons]
    cases call with
    | start launch =>
      obtain ⟨result, impl', gst', hstart, hleaves', -⟩ := start_leaves hleaves description launch
      -- a source that ran before runs still, whatever the launch would have come to
      rw [← startedIn_start] at hleaves'
      refine ⟨impl', gst', ?_, hleaves'⟩
      rw [SourceCall.run, hstart]
      rfl
    | stop =>
      refine ⟨idle, ⟨gst.launched, rest⟩, ?_, leaves_idle rest _ not_startedIn_stop⟩
      rw [SourceCall.run, stop_leaves hleaves]
      rfl

/-- **No reference is lost, and none is given back twice**: however a frame source is started and
stopped, and wherever a start fails, every step can be taken, the fields account for everything that
is held, and another `stop`, as the destructor makes it, gives back all of it. -/
theorem source_references (description : String) (rest : Multiset GstObject) (n : ℕ)
    (calls : List SourceCall) :
    ∃ impl gst, calls.foldlM (SourceCall.run description) (idle, ⟨n, rest⟩) = some (impl, gst) ∧
      gst.held = rest + impl.owns ∧ impl.stop gst.held = some (idle, rest) ∧
      (impl.isRunning = true ↔ StartedIn calls) := by
  obtain ⟨impl, gst, hrun, hleaves⟩ := run_leaves description rest n calls
  exact ⟨impl, gst, hrun, hleaves.held, stop_leaves hleaves, hleaves.running⟩

/-! ### The muxer -/

/-- `GStreamerMp4Muxer::Impl`. -/
structure MuxerImpl where
  pipeline : Option GstObject
  source : Option GstObject
  sink : Option GstObject

/-- What GStreamer answers in one `mux`, with the two ends told apart. -/
structure MuxLaunch where
  hasPipeline : Bool
  /-- The text of the `GError`; a pipeline may come with it. -/
  error : Option String
  hasSource : Bool
  hasSink : Bool
  starts : Bool
  flow : List GstBuffer → Int
  message : List GstBuffer → Option BusMessage
  container : List GstBuffer → List UInt8

/-- There is a pipeline, and no error with it. -/
def MuxLaunch.Parses (launch : MuxLaunch) : Prop :=
  launch.hasPipeline = true ∧ launch.error = none

instance (launch : MuxLaunch) : Decidable launch.Parses :=
  inferInstanceAs (Decidable (_ ∧ _))

/-- The same answers, as far as the container depends on them. -/
def MuxLaunch.answers (launch : MuxLaunch) : MuxPipeline where
  parse := if launch.Parses then .ok () else .error (launch.error.getD "unknown")
  hasEnds := launch.hasSource && launch.hasSink
  starts := launch.starts
  flow := launch.flow
  message := launch.message
  container := launch.container

namespace MuxerImpl

def idle : MuxerImpl := ⟨none, none, none⟩

/-- The wait on the bus. The bus and the message go back, in whatever way it ends. -/
def awaitMessage (n : ℕ) (message : Option BusMessage) (held : Multiset GstObject) :
    Option (Multiset GstObject) :=
  let held := held + {.bus n}
  match message with
  | none => giveBack (.bus n) held
  | some _ => do
    let held ← giveBack (.message n) (held + {.message n})
    giveBack (.bus n) held

/-- `mux`, with the references it takes and gives back. -/
def mux (normalizeTimestamps : Bool) (segment : ExtractedSegment) (launch : MuxLaunch)
    (impl : MuxerImpl) (gst : GstRuntime) :
    Option (Except ODSException (List UInt8) × MuxerImpl × GstRuntime) :=
  if segment.frames = [] then
    some (.error (.mediaMux "cannot mux a segment with no frames"), impl, gst)
  else do
    let n := gst.launched
    let held ← giveBackIfAny impl.pipeline gst.held
    let pipeline := found launch.hasPipeline (.pipeline n)
    let held := held + owned pipeline
    if pipeline.isNone ∨ launch.error.isSome then
      let held ← giveBackIfAny pipeline held
      some (.error (.mediaMux ("invalid mux pipeline: " ++ launch.error.getD "unknown")),
        { impl with pipeline := none }, ⟨n + 1, held⟩)
    else
      -- what the two fields pointed to before is written over
      let source := found launch.hasSource (.source n)
      let sink := found launch.hasSink (.sink n)
      let impl : MuxerImpl := ⟨pipeline, source, sink⟩
      let held := held + owned source + owned sink
      if source.isNone ∨ sink.isNone then
        some (.error (.mediaMux "mux pipeline is missing appsrc or appsink"), impl, ⟨n + 1, held⟩)
      else if !launch.starts then
        some (.error (.mediaMux "mux pipeline refused to start"), impl, ⟨n + 1, held⟩)
      else
        let deltas := GStreamerMp4Muxer.deltas segment.frames
        match GStreamerMp4Muxer.pushFrames launch.answers (GStreamerMp4Muxer.lastDelta deltas) 0
            GStreamerMp4Muxer.firstSampleTs [] segment.frames deltas with
        | .error error => some (.error error, impl, ⟨n + 1, held⟩)
        | .ok sent => do
          let held ← awaitMessage n (launch.message sent) held
          some (GStreamerMp4Muxer.finish launch.answers normalizeTimestamps sent, impl, ⟨n + 1, held⟩)

/-- The ends that a pipeline was found to have. -/
def ends (n : ℕ) (launch : MuxLaunch) : Multiset GstObject :=
  owned (found launch.hasSource (.source n)) + owned (found launch.hasSink (.sink n))

/-- What one `mux` of some frames leaves behind. -/
def leaves (n : ℕ) (launch : MuxLaunch) : Multiset GstObject :=
  if launch.Parses then ends n launch else 0

theorem awaitMessage_eq (n : ℕ) (message : Option BusMessage) (held : Multiset GstObject) :
    awaitMessage n message held = some held := by
  cases message with
  | none => exact giveBack_add (.bus n) held
  | some message =>
    show (giveBack (.message n) (held + {.bus n} + {.message n})).bind _ = _
    rw [giveBack_add, Option.bind_some, giveBack_add]

section Mux

variable {launch : MuxLaunch}

theorem parse_of_parses (h : launch.Parses) : launch.answers.parse = .ok () :=
  if_pos h

theorem parse_of_not_parses (h : ¬ launch.Parses) :
    launch.answers.parse = .error (launch.error.getD "unknown") :=
  if_neg h

/-- The test of the source for a pipeline that did not parse. -/
theorem not_parses_iff (n : ℕ) :
    (found launch.hasPipeline (.pipeline n)).isNone ∨ launch.error.isSome ↔ ¬ launch.Parses := by
  rw [MuxLaunch.Parses, not_and_or, ← Option.not_isSome_iff_eq_none, not_not]
  refine or_congr_left ?_
  cases launch.hasPipeline with
  | true => exact iff_of_false Bool.false_ne_true fun h => h rfl
  | false => exact iff_of_true rfl Bool.false_ne_true

/-- The test for a missing end. -/
theorem no_ends_iff (n : ℕ) :
    (found launch.hasSource (.source n)).isNone ∨ (found launch.hasSink (.sink n)).isNone ↔
      (!launch.answers.hasEnds) = true := by
  show _ ↔ (!(launch.hasSource && launch.hasSink)) = true
  cases launch.hasSource with
  | false => exact iff_of_true (.inl rfl) rfl
  | true =>
    cases launch.hasSink with
    | false => exact iff_of_true (.inr rfl) rfl
    | true =>
      exact iff_of_false (fun h => h.elim Bool.false_ne_true Bool.false_ne_true) Bool.false_ne_true

/-- **One `mux`**: the result is that of the model without references, and whatever the pipeline field
held has gone back. What the two other fields point to has been added, and nothing of it goes back. -/
theorem mux_eq (normalizeTimestamps : Bool) {segment : ExtractedSegment}
    (hframes : segment.frames ≠ []) (launch : MuxLaunch) (impl : MuxerImpl)
    (rest : Multiset GstObject) (n : ℕ) :
    ∃ impl', impl.mux normalizeTimestamps segment launch ⟨n, rest + owned impl.pipeline⟩ =
      some (GStreamerMp4Muxer.muxContainer launch.answers normalizeTimestamps segment, impl',
        ⟨n + 1, rest + leaves n launch + owned impl'.pipeline⟩) := by
  rw [mux, if_neg hframes, GStreamerMp4Muxer.muxContainer, if_neg hframes]
  dsimp only
  rw [giveBackIfAny_add, Option.bind_eq_bind, Option.bind_some, leaves]
  by_cases hparses : launch.Parses
  · have hheld : rest + owned (found launch.hasPipeline (.pipeline n)) +
        owned (found launch.hasSource (.source n)) + owned (found launch.hasSink (.sink n)) =
        rest + ends n launch + owned (found launch.hasPipeline (.pipeline n)) := by
      unfold ends
      abel
    rw [if_neg (fun h => (not_parses_iff n).mp h hparses), parse_of_parses hparses, if_pos hparses,
      hheld]
    dsimp only
    by_cases hends : (!launch.answers.hasEnds) = true
    · rw [if_pos ((no_ends_iff n).mpr hends), if_pos hends]
      exact ⟨_, rfl⟩
    · rw [if_neg (fun h => hends ((no_ends_iff n).mp h)), if_neg hends]
      rw [show launch.answers.starts = launch.starts from rfl]
      by_cases hstarts : (!launch.starts) = true
      · rw [if_pos hstarts, if_pos hstarts]
        exact ⟨_, rfl⟩
      · rw [if_neg hstarts, if_neg hstarts]
        cases GStreamerMp4Muxer.pushFrames launch.answers
            (GStreamerMp4Muxer.lastDelta (GStreamerMp4Muxer.deltas segment.frames)) 0
            GStreamerMp4Muxer.firstSampleTs [] segment.frames
            (GStreamerMp4Muxer.deltas segment.frames) with
        | error error => exact ⟨_, rfl⟩
        | ok sent =>
          dsimp only
          rw [awaitMessage_eq]
          exact ⟨_, rfl⟩
  · rw [if_pos ((not_parses_iff n).mpr hparses), parse_of_not_parses hparses, if_neg hparses,
      giveBackIfAny_add, Multiset.add_zero]
    exact ⟨{ impl with pipeline := none }, congrArg (fun held => some (_, _, GstRuntime.mk _ held))
      (Multiset.add_zero rest).symm⟩

end Mux

end MuxerImpl

/-! ### One container after the other -/

open MuxerImpl

/-- One call after the other, each with what GStreamer answers, and what comes of it. -/
def muxAll (normalizeTimestamps : Bool) (impl : MuxerImpl) (gst : GstRuntime) :
    List (ExtractedSegment × MuxLaunch) →
      Option (List (Except ODSException (List UInt8)) × MuxerImpl × GstRuntime)
  | [] => some ([], impl, gst)
  | (segment, launch) :: calls => do
    let (result, impl, gst) ← impl.mux normalizeTimestamps segment launch gst
    let (results, impl, gst) ← muxAll normalizeTimestamps impl gst calls
    some (result :: results, impl, gst)

/-- What a run of calls leaves behind, from the `n`-th pipeline on. -/
def leftBehind (n : ℕ) : List (ExtractedSegment × MuxLaunch) → Multiset GstObject
  | [] => 0
  | (segment, launch) :: calls =>
    if segment.frames = [] then leftBehind n calls
    else leaves n launch + leftBehind (n + 1) calls

/-- How many references one call leaves behind. -/
def endsLeft (call : ExtractedSegment × MuxLaunch) : ℕ :=
  if call.1.frames = [] ∨ ¬ call.2.Parses then 0
  else call.2.hasSource.toNat + call.2.hasSink.toNat

theorem card_owned_found (there : Bool) (object : GstObject) :
    Multiset.card (owned (found there object)) = there.toNat := by
  cases there <;> rfl

theorem card_leftBehind (n : ℕ) (calls : List (ExtractedSegment × MuxLaunch)) :
    Multiset.card (leftBehind n calls) = (calls.map endsLeft).sum := by
  induction calls generalizing n with
  | nil => rfl
  | cons call calls ih =>
    obtain ⟨segment, launch⟩ := call
    rw [leftBehind, List.map_cons, List.sum_cons, endsLeft]
    dsimp only
    by_cases hframes : segment.frames = []
    · rw [if_pos hframes, if_pos (.inl hframes), ih, Nat.zero_add]
    · rw [if_neg hframes, Multiset.card_add, ih, leaves]
      by_cases hparses : launch.Parses
      · rw [if_pos hparses, if_neg (not_or.mpr ⟨hframes, not_not.mpr hparses⟩), ends,
          Multiset.card_add, card_owned_found, card_owned_found]
      · rw [if_neg hparses, if_pos (.inr hparses), Multiset.card_zero]

theorem muxAll_eq (normalizeTimestamps : Bool) (calls : List (ExtractedSegment × MuxLaunch))
    (impl : MuxerImpl) (rest : Multiset GstObject) (n : ℕ) :
    ∃ impl' n', muxAll normalizeTimestamps impl ⟨n, rest + owned impl.pipeline⟩ calls =
      some (calls.map fun call =>
          GStreamerMp4Muxer.muxContainer call.2.answers normalizeTimestamps call.1, impl',
        ⟨n', rest + leftBehind n calls + owned impl'.pipeline⟩) := by
  induction calls generalizing impl rest n with
  | nil => exact ⟨impl, n, by rw [leftBehind, Multiset.add_zero]; rfl⟩
  | cons call calls ih =>
    obtain ⟨segment, launch⟩ := call
    rw [muxAll, leftBehind]
    by_cases hframes : segment.frames = []
    · obtain ⟨impl', n', hrest⟩ := ih impl rest n
      refine ⟨impl', n', ?_⟩
      rw [mux, if_pos hframes, Option.bind_eq_bind, Option.bind_some]
      dsimp only
      rw [hrest, if_pos hframes, List.map_cons, GStreamerMp4Muxer.muxContainer, if_pos hframes]
      rfl
    · obtain ⟨impl₁, hmux⟩ := mux_eq normalizeTimestamps hframes launch impl rest n
      obtain ⟨impl', n', hrest⟩ := ih impl₁ (rest + leaves n launch) (n + 1)
      refine ⟨impl', n', ?_⟩
      rw [hmux, Option.bind_eq_bind, Option.bind_some]
      dsimp only
      rw [hrest, if_neg hframes, ← Multiset.add_assoc]
      rfl

/-- **The ends stay behind**: whatever is muxed, and wherever it fails, nothing is given back twice and
the results are those of the segments alone, but once the muxer is destroyed the ends of every pipeline
that it got are still held. -/
theorem muxer_references (normalizeTimestamps : Bool) (rest : Multiset GstObject) (n : ℕ)
    (calls : List (ExtractedSegment × MuxLaunch)) :
    ∃ impl gst, muxAll normalizeTimestamps .idle ⟨n, rest⟩ calls =
        some (calls.map fun call =>
          GStreamerMp4Muxer.muxContainer call.2.answers normalizeTimestamps call.1, impl, gst) ∧
      giveBackIfAny impl.pipeline gst.held = some (rest + leftBehind n calls) ∧
      Multiset.card (leftBehind n calls) = (calls.map endsLeft).sum := by
  obtain ⟨impl, n', hrun⟩ := muxAll_eq normalizeTimestamps calls .idle rest n
  rw [show rest + owned MuxerImpl.idle.pipeline = rest from Multiset.add_zero rest] at hrun
  exact ⟨impl, _, hrun, giveBackIfAny_add _ _, card_leftBehind n calls⟩

end Ods.S4
