import OdsMod2.Framework.EventRun
import OdsMod2.Framework.SortBy
import Mathlib.Algebra.Order.Ring.Rat

/-!
# The overlay player

`OverlayPlayer` (`b6_overlay_player.ts`) lays a canvas over a video and paints on it the boxes of the
intervals that the video is in. While the video plays, a loop asks for one animation frame after the
other; it is started and stopped by the `play` and `pause` events of the video, which the browser
queues and fires later.

The browser is modelled as far as the player can tell: the video fires what it has queued in that
order, loading another source empties the queue and stops the video without an event, and a canvas
that is given a size is blank. A run is a list of the tasks the browser gives to the page, in any
order.

Two things hold over whole runs. What is on the canvas is the picture of the last repaint, at the
time of that repaint and in the present size of the canvas (`canvas_of_run`); a repaint with an empty
timeline paints nothing and clears nothing. And there is one loop while the video plays and none
while it is paused, up to the events still queued, exactly if no other video is loaded while a loop
runs (`oneLoop_iff`): the loop goes on then, and the next `play` starts a second one.
-/

namespace Ods.B6

open EventRun

/-! ### The player and what it sees of the browser -/

structure BoundingBox where
  id : String
  label : String
  color : String
  x : ℚ
  y : ℚ
  width : ℚ
  height : ℚ

/-- The boxes of an interval of the video, in seconds. -/
structure FrameIntervalMetadata where
  startTime : ℚ
  endTime : ℚ
  boxes : List BoundingBox

/-- A call of the drawing context, with the style set for it. -/
inductive PaintCall where
  | strokeRect (strokeStyle : String) (lineWidth x y width height : ℚ)
  | fillRect (fillStyle : String) (x y width height : ℚ)
  | fillText (fillStyle : String) (text : String) (x y : ℚ)

/-- The canvas, with the calls since it was blank. -/
structure CanvasLayer where
  width : ℚ
  height : ℚ
  painted : List PaintCall

/-- The events of the video that the player waits for and the browser queues. -/
inductive MediaEvent where
  | play
  | pause
  deriving DecidableEq

/-- The video element; its duration is not known before the metadata. -/
structure Video where
  currentTime : ℚ
  duration : Option ℚ
  paused : Bool
  ended : Bool
  -- `networkState === NETWORK_EMPTY`
  networkEmpty : Bool
  queue : List MediaEvent

/-- The handles of the animation frames that have been asked for. -/
structure AnimationFrames where
  scheduled : List ℕ
  lastHandle : ℕ

structure OverlayPlayer where
  timelineData : List FrameIntervalMetadata
  animationFrameId : Option ℕ
  isDraggingProgress : Bool
  video : Video
  canvas : CanvasLayer
  frames : AnimationFrames

namespace Video

def play (video : Video) : Video :=
  let video := { video with ended := false }
  if video.paused then { video with paused := false, queue := video.queue ++ [.play] } else video

def pause (video : Video) : Video :=
  if video.paused then video else { video with paused := true, queue := video.queue ++ [.pause] }

/-- Playback has reached the end. -/
def finish (video : Video) : Video :=
  { video.pause with ended := true }

/-- The load algorithm: what is queued is dropped, and a video that had a source is paused without
an event. -/
def load (video : Video) : Video where
  currentTime := if video.networkEmpty then video.currentTime else 0
  duration := none
  paused := video.paused || !video.networkEmpty
  ended := false
  networkEmpty := false
  queue := []

end Video

namespace OverlayPlayer

/-! ### Painting -/

/-- A round of the loops in `drawCurrentFrame`; the width of a text is the browser's. -/
def drawBox (textWidth : String → ℚ) (canvasWidth canvasHeight : ℚ) (box : BoundingBox) :
    List PaintCall :=
  let pixelX := box.x * canvasWidth
  let pixelY := box.y * canvasHeight
  let pixelWidth := box.width * canvasWidth
  let pixelHeight := box.height * canvasHeight
  [.strokeRect box.color 3 pixelX pixelY pixelWidth pixelHeight,
    .fillRect box.color pixelX (pixelY - 25) (textWidth box.label + 10) 25,
    .fillText "#000000" box.label (pixelX + 5) (pixelY - 7)]

/-- The intervals that the video is in. -/
def activeIntervals (player : OverlayPlayer) : List FrameIntervalMetadata :=
  player.timelineData.filter fun item =>
    item.startTime ≤ player.video.currentTime ∧ player.video.currentTime ≤ item.endTime

/-- The calls that a repaint makes. -/
def picture (textWidth : String → ℚ) (player : OverlayPlayer) : List PaintCall :=
  player.activeIntervals.flatMap fun interval =>
    interval.boxes.flatMap (drawBox textWidth player.canvas.width player.canvas.height)

/-- `drawCurrentFrame`. Without a timeline it returns before `clearRect`. -/
def drawCurrentFrame (textWidth : String → ℚ) (player : OverlayPlayer) : OverlayPlayer :=
  if player.timelineData.isEmpty then player
  else { player with
    canvas := { player.canvas with painted := player.picture textWidth } }

def forceRender (textWidth : String → ℚ) (player : OverlayPlayer) : OverlayPlayer :=
  player.drawCurrentFrame textWidth

/-- `resizeCanvas`; to give a canvas a size makes it blank. -/
def resizeCanvas (clientWidth clientHeight : ℚ) (player : OverlayPlayer) : OverlayPlayer :=
  if 0 < clientWidth ∧ 0 < clientHeight then
    { player with canvas := ⟨clientWidth, clientHeight, []⟩ }
  else player

/-- `loadMetadataTimeline`. -/
def loadMetadataTimeline (textWidth : String → ℚ) (data : List FrameIntervalMetadata)
    (player : OverlayPlayer) : OverlayPlayer :=
  { player with
    timelineData := sortBy FrameIntervalMetadata.startTime data }.forceRender textWidth

/-! ### The loop -/

/-- `animationFrameId = requestAnimationFrame(loop)`. -/
def requestFrame (player : OverlayPlayer) : OverlayPlayer :=
  let handle := player.frames.lastHandle + 1
  { player with
    animationFrameId := some handle
    frames := ⟨player.frames.scheduled ++ [handle], handle⟩ }

def startRenderLoop (player : OverlayPlayer) : OverlayPlayer :=
  player.requestFrame

/-- `stopRenderLoop`. -/
def stopRenderLoop (player : OverlayPlayer) : OverlayPlayer :=
  match player.animationFrameId with
  | some handle =>
    { player with
      animationFrameId := none
      frames := { player.frames with scheduled := player.frames.scheduled.erase handle } }
  | none => player

/-- The body of the loop, called for a frame that was asked for. -/
def loop (textWidth : String → ℚ) (handle : ℕ) (player : OverlayPlayer) : OverlayPlayer :=
  if handle ∈ player.frames.scheduled then
    let player := { player with
      frames := { player.frames with scheduled := player.frames.scheduled.erase handle } }
    (player.drawCurrentFrame textWidth).requestFrame
  else player

/-! ### The video -/

/-- `loadVideo`: to set `src` loads as well. -/
def loadVideo (player : OverlayPlayer) : OverlayPlayer :=
  { player with video := player.video.load.load }

def togglePlay (player : OverlayPlayer) : OverlayPlayer :=
  if player.video.paused || player.video.ended then { player with video := player.video.play }
  else { player with video := player.video.pause }

/-- The listeners of `play` and `pause`. -/
def onMediaEvent : MediaEvent → OverlayPlayer → OverlayPlayer
  | .play, player => player.startRenderLoop
  | .pause, player => player.stopRenderLoop

/-- The first event in the queue is fired. -/
def fire (player : OverlayPlayer) : OverlayPlayer :=
  match player.video.queue with
  | [] => player
  | event :: queue =>
    onMediaEvent event { player with video := { player.video with queue := queue } }

/-- The listener of `change`. A duration that is not known is `NaN`, and to assign it to
`currentTime` throws. -/
def onChange (textWidth : String → ℚ) (value : ℚ) (player : OverlayPlayer) : OverlayPlayer :=
  match player.video.duration with
  | none => player
  | some duration =>
    { player with
      video := { player.video with currentTime := value / 100 * duration, ended := false }
      isDraggingProgress := false }.forceRender textWidth

/-- The constructor. -/
def new (hasVideoUrl autoPlay : Bool) : OverlayPlayer :=
  let player : OverlayPlayer := {
    timelineData := []
    animationFrameId := none
    isDraggingProgress := false
    video := ⟨0, none, true, false, true, []⟩
    canvas := ⟨300, 150, []⟩
    frames := ⟨[], 0⟩ }
  if hasVideoUrl then
    let player := player.loadVideo
    if autoPlay then { player with video := player.video.play } else player
  else player

/-- What the browser gives to the page, and the two calls of its own. -/
inductive Task where
  | click
  | fires
  | frame (handle : ℕ)
  | plays (currentTime : ℚ)
  | ends
  | metadata (duration : ℚ)
  | seeked
  | input
  | change (value : ℚ)
  | resize (clientWidth clientHeight : ℚ)
  | loadMetadataTimeline (data : List FrameIntervalMetadata)
  | loadVideo

def handle (textWidth : String → ℚ) : Task → OverlayPlayer → OverlayPlayer
  | .click, player => player.togglePlay
  | .fires, player => player.fire
  | .frame handle, player => player.loop textWidth handle
  | .plays currentTime, player => { player with video := { player.video with currentTime } }
  | .ends, player => { player with video := player.video.finish }
  | .metadata duration, player =>
    { player with video := { player.video with duration := some duration } }
  | .seeked, player => player.forceRender textWidth
  | .input, player => { player with isDraggingProgress := true }
  | .change value, player => player.onChange textWidth value
  | .resize clientWidth clientHeight, player =>
    (player.resizeCanvas clientWidth clientHeight).forceRender textWidth
  | .loadMetadataTimeline data, player => player.loadMetadataTimeline textWidth data
  | .loadVideo, player => player.loadVideo

/-! ### What is on the canvas -/

section Painting

variable {textWidth : String → ℚ} {player : OverlayPlayer} {task : Task}

/-- The canvas shows the boxes of this very moment. -/
def Fresh (textWidth : String → ℚ) (player : OverlayPlayer) : Prop :=
  player.canvas.painted = player.picture textWidth

/-- The task makes the canvas blank, or paints on it. -/
def Repaints : Task → OverlayPlayer → Prop
  | .frame handle, player => handle ∈ player.frames.scheduled ∧ player.timelineData ≠ []
  | .seeked, player => player.timelineData ≠ []
  | .change _, player => player.video.duration ≠ none ∧ player.timelineData ≠ []
  | .resize clientWidth clientHeight, player =>
    (0 < clientWidth ∧ 0 < clientHeight) ∨ player.timelineData ≠ []
  | .loadMetadataTimeline data, _ => data ≠ []
  | _, _ => False

/-- Whatever is painted, it is on the canvas. -/
theorem exists_drawCurrentFrame (textWidth : String → ℚ) (player : OverlayPlayer) :
    ∃ canvas, player.drawCurrentFrame textWidth = { player with canvas := canvas } := by
  rw [drawCurrentFrame]
  split
  · exact ⟨player.canvas, rfl⟩
  · exact ⟨_, rfl⟩

theorem drawCurrentFrame_of_nil (h : player.timelineData = []) :
    player.drawCurrentFrame textWidth = player := by
  rw [drawCurrentFrame, h]
  rfl

theorem canvas_drawCurrentFrame_of_nil (h : player.timelineData = []) :
    (player.drawCurrentFrame textWidth).canvas = player.canvas := by
  rw [drawCurrentFrame_of_nil h]

theorem drawCurrentFrame_of_ne_nil (h : player.timelineData ≠ []) :
    player.drawCurrentFrame textWidth =
      { player with canvas := { player.canvas with painted := player.picture textWidth } } := by
  rw [drawCurrentFrame, if_neg (by rwa [List.isEmpty_iff])]

/-- The picture does not depend on what is on the canvas already. -/
theorem fresh_drawCurrentFrame (h : player.timelineData ≠ []) :
    (player.drawCurrentFrame textWidth).Fresh textWidth := by
  rw [drawCurrentFrame_of_ne_nil h]
  rfl

theorem picture_of_nil (h : player.timelineData = []) : player.picture textWidth = [] := by
  rw [picture, activeIntervals, h]
  rfl

/-- A task that repaints leaves a fresh canvas. -/
theorem fresh_of_repaints (h : Repaints task player) : (handle textWidth task player).Fresh textWidth := by
  cases task with
  | frame handle =>
    obtain ⟨hscheduled, hdata⟩ := h
    show (player.loop textWidth handle).Fresh textWidth
    rw [loop, if_pos hscheduled]
    exact fresh_drawCurrentFrame hdata
  | seeked => exact fresh_drawCurrentFrame h
  | change value =>
    obtain ⟨hduration, hdata⟩ := h
    obtain ⟨duration, hduration⟩ := Option.ne_none_iff_exists'.mp hduration
    show (player.onChange textWidth value).Fresh textWidth
    rw [onChange, hduration]
    exact fresh_drawCurrentFrame hdata
  | resize clientWidth clientHeight =>
    show ((player.resizeCanvas clientWidth clientHeight).drawCurrentFrame textWidth).Fresh textWidth
    have hdata : (player.resizeCanvas clientWidth clientHeight).timelineData = player.timelineData := by
      rw [resizeCanvas]
      split <;> rfl
    by_cases hnil : player.timelineData = []
    · -- nothing is painted, and the canvas is blank because it has a new size
      have hsize := h.resolve_right (absurd hnil)
      rw [drawCurrentFrame_of_nil (hdata.trans hnil), Fresh, picture_of_nil (hdata.trans hnil),
        resizeCanvas, if_pos hsize]
    · exact fresh_drawCurrentFrame (hdata ▸ hnil)
  | loadMetadataTimeline data =>
    refine fresh_drawCurrentFrame fun hnil => h ?_
    have hlength : (sortBy FrameIntervalMetadata.startTime data).length = data.length :=
      length_sortBy data
    rw [← List.length_eq_zero_iff, ← hlength]
    exact List.length_eq_zero_iff.mpr hnil
  | _ => exact h.elim

/-- Any other task leaves the canvas alone. -/
theorem canvas_of_not_repaints (h : ¬ Repaints task player) :
    (handle textWidth task player).canvas = player.canvas := by
  cases task with
  | frame handle =>
    show (player.loop textWidth handle).canvas = _
    rw [loop]
    split
    · next hscheduled =>
      have hdata : player.timelineData = [] := not_not.mp fun hdata => h ⟨hscheduled, hdata⟩
      show (drawCurrentFrame textWidth _).canvas = _
      exact canvas_drawCurrentFrame_of_nil hdata
    · rfl
  | seeked =>
    show (player.drawCurrentFrame textWidth).canvas = _
    exact canvas_drawCurrentFrame_of_nil (not_not.mp h)
  | change value =>
    show (player.onChange textWidth value).canvas = _
    rw [onChange]
    cases hduration : player.video.duration with
    | none => rfl
    | some duration =>
      have hdata : player.timelineData = [] := not_not.mp fun hdata =>
        h ⟨hduration ▸ Option.some_ne_none duration, hdata⟩
      show (drawCurrentFrame textWidth _).canvas = _
      exact canvas_drawCurrentFrame_of_nil hdata
  | resize clientWidth clientHeight =>
    -- a canvas whose size stays is not cleared
    obtain ⟨hsize, hdata⟩ := not_or.mp h
    show ((player.resizeCanvas clientWidth clientHeight).drawCurrentFrame textWidth).canvas = _
    rw [resizeCanvas, if_neg hsize, drawCurrentFrame_of_nil (not_not.mp hdata)]
  | loadMetadataTimeline data =>
    obtain rfl : data = [] := not_not.mp h
    rfl
  | fires =>
    show player.fire.canvas = _
    rw [fire]
    split
    · rfl
    · next event queue hqueue =>
      cases event with
      | play => rfl
      | pause =>
        show (stopRenderLoop _).canvas = _
        rw [stopRenderLoop]
        split <;> rfl
  | click =>
    show player.togglePlay.canvas = _
    rw [togglePlay]
    split <;> rfl
  | _ => rfl

/-- The timeline is in the order of the starts. -/
def InOrder (player : OverlayPlayer) : Prop :=
  player.timelineData.Pairwise fun item item' => item.startTime ≤ item'.startTime

@[simp] theorem timelineData_drawCurrentFrame :
    (player.drawCurrentFrame textWidth).timelineData = player.timelineData := by
  obtain ⟨canvas, hdraw⟩ := exists_drawCurrentFrame textWidth player
  rw [hdraw]

/-- Only one call touches the timeline. -/
theorem timelineData_handle (h : ∀ data, task ≠ .loadMetadataTimeline data) :
    (handle textWidth task player).timelineData = player.timelineData := by
  cases task with
  | loadMetadataTimeline data => exact absurd rfl (h data)
  | click =>
    show player.togglePlay.timelineData = _
    rw [togglePlay]
    split <;> rfl
  | fires =>
    show player.fire.timelineData = _
    rw [fire]
    split
    · rfl
    · next event queue hqueue =>
      cases event with
      | play => rfl
      | pause =>
        show (stopRenderLoop _).timelineData = _
        rw [stopRenderLoop]
        split <;> rfl
  | frame handle =>
    show (player.loop textWidth handle).timelineData = _
    rw [loop]
    split
    · show (drawCurrentFrame textWidth _).timelineData = _
      rw [timelineData_drawCurrentFrame]
    · rfl
  | seeked => exact timelineData_drawCurrentFrame
  | change value =>
    show (player.onChange textWidth value).timelineData = _
    rw [onChange]
    split
    · rfl
    · exact timelineData_drawCurrentFrame
  | resize clientWidth clientHeight =>
    show ((player.resizeCanvas clientWidth clientHeight).drawCurrentFrame textWidth).timelineData = _
    rw [timelineData_drawCurrentFrame, resizeCanvas]
    split <;> rfl
  | _ => rfl

theorem InOrder.handle (h : player.InOrder) : (handle textWidth task player).InOrder := by
  by_cases hload : ∃ data, task = .loadMetadataTimeline data
  · obtain ⟨data, rfl⟩ := hload
    show (drawCurrentFrame textWidth _).InOrder
    rw [InOrder, timelineData_drawCurrentFrame]
    exact sorted_sortBy data
  · rw [InOrder, timelineData_handle fun data hdata => hload ⟨data, hdata⟩]
    exact h

end Painting

section Run

variable (textWidth : String → ℚ) (hasVideoUrl autoPlay : Bool)

theorem new_timelineData : (new hasVideoUrl autoPlay).timelineData = [] := by
  cases hasVideoUrl <;> cases autoPlay <;> rfl

theorem fresh_new : (new hasVideoUrl autoPlay).Fresh textWidth := by
  rw [Fresh, picture_of_nil (new_timelineData hasVideoUrl autoPlay)]
  cases hasVideoUrl <;> cases autoPlay <;> rfl

/-- **What the canvas shows.** In every run it is what the last task that repaints left there: the
boxes of the intervals that the video was in at that moment, in the order in which the intervals
begin, in the size the canvas has now. -/
theorem canvas_of_run (tasks : List Task) :
    ∃ earlier later, tasks = earlier ++ later ∧
      let last := run (handle textWidth) (new hasVideoUrl autoPlay) earlier
      last.Fresh textWidth ∧ last.InOrder ∧
        EachStep (handle textWidth) last later (fun task player => ¬ Repaints task player) ∧
          (run (handle textWidth) (new hasVideoUrl autoPlay) tasks).canvas = last.canvas := by
  obtain ⟨earlier, later, rfl, hearlier, hlater⟩ :=
    exists_last_step (handle textWidth) (new hasVideoUrl autoPlay) Repaints tasks
  refine ⟨earlier, later, rfl, ?_, ?_, hlater, ?_⟩
  · rcases hearlier with rfl | ⟨before, task, rfl, hrepaints⟩
    · exact fresh_new textWidth hasVideoUrl autoPlay
    · rw [run_concat]
      exact fresh_of_repaints hrepaints
  · have hstart : (new hasVideoUrl autoPlay).InOrder := by
      rw [InOrder, new_timelineData]
      exact .nil
    exact always_of_step hstart (fun _ _ => InOrder.handle) earlier earlier List.prefix_rfl
  · rw [run_append]
    exact eq_of_eachStep hlater fun _ _ => canvas_of_not_repaints

end Run

/-! ### One loop -/

/-- The events in the queue start and stop the loop by turns, and lead to the present state of the
video. -/
def Settles : Bool → List MediaEvent → Bool → Prop
  | looping, [], paused => looping = !paused
  | looping, .play :: queue, paused => looping = false ∧ Settles true queue paused
  | looping, .pause :: queue, paused => looping = true ∧ Settles false queue paused

/-- The loop that the player knows of is the only one, and it runs while the video plays, up to the
events that are still queued. -/
structure OneLoop (player : OverlayPlayer) : Prop where
  scheduled : player.frames.scheduled = player.animationFrameId.toList
  settles : Settles player.animationFrameId.isSome player.video.queue player.video.paused

/-- Another video is loaded only while no loop runs. -/
def LoadsAtRest (task : Task) (player : OverlayPlayer) : Prop :=
  task = .loadVideo → player.animationFrameId = none

section Settles

variable {looping : Bool} {queue : List MediaEvent}

theorem Settles.play (h : Settles looping queue true) : Settles looping (queue ++ [.play]) false := by
  induction queue generalizing looping with
  | nil => exact ⟨h, rfl⟩
  | cons event queue ih =>
    cases event with
    | play => exact ⟨h.1, ih h.2⟩
    | pause => exact ⟨h.1, ih h.2⟩

theorem Settles.pause (h : Settles looping queue false) : Settles looping (queue ++ [.pause]) true := by
  induction queue generalizing looping with
  | nil => exact ⟨h, rfl⟩
  | cons event queue ih =>
    cases event with
    | play => exact ⟨h.1, ih h.2⟩
    | pause => exact ⟨h.1, ih h.2⟩

end Settles

section Loop

variable {textWidth : String → ℚ} {player : OverlayPlayer} {task : Task}

/-- What a task does to the loop is all that counts. -/
theorem OneLoop.of_eq (h : player.OneLoop) {player' : OverlayPlayer}
    (hframes : player'.frames.scheduled = player.frames.scheduled)
    (hid : player'.animationFrameId = player.animationFrameId)
    (hqueue : player'.video.queue = player.video.queue)
    (hpaused : player'.video.paused = player.video.paused) : player'.OneLoop := by
  constructor
  · rw [hframes, hid]
    exact h.scheduled
  · rw [hid, hqueue, hpaused]
    exact h.settles

theorem OneLoop.drawCurrentFrame (h : player.OneLoop) :
    (player.drawCurrentFrame textWidth).OneLoop := by
  obtain ⟨canvas, hdraw⟩ := exists_drawCurrentFrame textWidth player
  rw [hdraw]
  exact h.of_eq rfl rfl rfl rfl

theorem OneLoop.video_play (h : player.OneLoop) :
    OneLoop { player with video := player.video.play } := by
  by_cases hpaused : player.video.paused = true
  · have hplay : player.video.play =
        { player.video with ended := false, paused := false, queue := player.video.queue ++ [.play] } :=
      if_pos hpaused
    have hsettles := h.settles
    rw [hpaused] at hsettles
    rw [hplay]
    exact ⟨h.scheduled, hsettles.play⟩
  · have hplay : player.video.play = { player.video with ended := false } := if_neg hpaused
    rw [hplay]
    exact h.of_eq rfl rfl rfl rfl

theorem OneLoop.video_pause (h : player.OneLoop) :
    OneLoop { player with video := player.video.pause } := by
  by_cases hpaused : player.video.paused = true
  · rw [Video.pause, if_pos hpaused]
    exact h
  · have hsettles := h.settles
    rw [Bool.eq_false_of_not_eq_true hpaused] at hsettles
    rw [Video.pause, if_neg hpaused]
    exact ⟨h.scheduled, hsettles.pause⟩

/-- An event is fired: the queue says that it finds the loop as it should. -/
theorem OneLoop.fire (h : player.OneLoop) : player.fire.OneLoop := by
  have hsettles := h.settles
  rw [OverlayPlayer.fire]
  split
  · exact h
  · next event queue hqueue =>
    rw [hqueue] at hsettles
    cases event with
    | play =>
      obtain ⟨hid, hsettles⟩ := hsettles
      have hscheduled : player.frames.scheduled = [] := by
        rw [h.scheduled, Option.isSome_eq_false_iff.mp hid |> Option.isNone_iff_eq_none.mp]
        rfl
      refine ⟨?_, hsettles⟩
      show player.frames.scheduled ++ [_] = _
      rw [hscheduled]
      rfl
    | pause =>
      obtain ⟨hid, hsettles⟩ := hsettles
      obtain ⟨handle, hhandle⟩ := Option.isSome_iff_exists.mp hid
      show (stopRenderLoop _).OneLoop
      rw [stopRenderLoop, hhandle]
      refine ⟨?_, hsettles⟩
      show player.frames.scheduled.erase handle = []
      rw [h.scheduled, hhandle]
      exact List.erase_cons_head handle []

/-- A frame that was asked for is the frame of the one loop, which asks for the next. -/
theorem OneLoop.loop (h : player.OneLoop) (handle : ℕ) : (player.loop textWidth handle).OneLoop := by
  rw [OverlayPlayer.loop]
  split
  · next hmem =>
    have hid : player.animationFrameId = some handle := by
      rw [h.scheduled, Option.mem_toList] at hmem
      exact hmem
    have hscheduled : player.frames.scheduled.erase handle = [] := by
      rw [h.scheduled, hid]
      exact List.erase_cons_head handle []
    have hsettles := h.settles
    rw [hid] at hsettles
    obtain ⟨canvas, hdraw⟩ := exists_drawCurrentFrame textWidth { player with
      frames := { player.frames with scheduled := player.frames.scheduled.erase handle } }
    show (requestFrame (OverlayPlayer.drawCurrentFrame textWidth _)).OneLoop
    rw [hdraw, hscheduled]
    exact ⟨rfl, hsettles⟩
  · exact h

theorem load_load_paused (video : Video) : video.load.load.paused = true :=
  Bool.or_true _

/-- A task keeps the loop as it should be, unless it loads a video while the loop runs. -/
theorem OneLoop.handle_iff (h : player.OneLoop) :
    (handle textWidth task player).OneLoop ↔ LoadsAtRest task player := by
  by_cases hload : task = .loadVideo
  · subst hload
    constructor
    -- the video is paused by the load, so no loop may be left
    · intro h' _
      have hsettles := h'.settles
      have hsettles : player.animationFrameId.isSome = !(player.video.load.load.paused) := hsettles
      rw [load_load_paused, Bool.not_true] at hsettles
      exact Option.isNone_iff_eq_none.mp (Option.isSome_eq_false_iff.mp hsettles)
    · intro hrest
      refine ⟨h.scheduled, ?_⟩
      show player.animationFrameId.isSome = !(player.video.load.load.paused)
      rw [load_load_paused, hrest rfl]
      rfl
  -- every other task keeps it, one case for each
  · refine iff_of_true ?_ fun heq => absurd heq hload
    cases task with
    | click =>
      show player.togglePlay.OneLoop
      rw [togglePlay]
      split
      · exact h.video_play
      · exact h.video_pause
    | fires => exact h.fire
    | frame handle => exact h.loop handle
    | plays currentTime => exact h.of_eq rfl rfl rfl rfl
    | ends => exact h.video_pause.of_eq rfl rfl rfl rfl
    | metadata duration => exact h.of_eq rfl rfl rfl rfl
    | seeked => exact h.drawCurrentFrame
    | input => exact h.of_eq rfl rfl rfl rfl
    | change value =>
      show (player.onChange textWidth value).OneLoop
      rw [onChange]
      split
      · exact h
      · apply OneLoop.drawCurrentFrame
        exact h.of_eq rfl rfl rfl rfl
    | resize clientWidth clientHeight =>
      show ((player.resizeCanvas clientWidth clientHeight).drawCurrentFrame textWidth).OneLoop
      rw [resizeCanvas]
      split
      · apply OneLoop.drawCurrentFrame
        exact h.of_eq rfl rfl rfl rfl
      · exact h.drawCurrentFrame
    | loadMetadataTimeline data =>
      apply OneLoop.drawCurrentFrame
      exact h.of_eq rfl rfl rfl rfl
    | loadVideo => exact absurd rfl hload

end Loop

/-- A player with `autoPlay` starts with a queued `play`. -/
theorem oneLoop_new (hasVideoUrl autoPlay : Bool) : (new hasVideoUrl autoPlay).OneLoop := by
  cases hasVideoUrl with
  | false => exact ⟨rfl, rfl⟩
  | true =>
    cases autoPlay with
    | false => exact ⟨rfl, rfl⟩
    | true => exact ⟨rfl, rfl, rfl⟩

/-- **One loop.** All along a run the player knows the only loop there is, and it runs while the
video plays, up to the events still queued, if and only if no other video is loaded while a loop
runs. -/
theorem oneLoop_iff (textWidth : String → ℚ) (hasVideoUrl autoPlay : Bool) (tasks : List Task) :
    Always (handle textWidth) (new hasVideoUrl autoPlay) tasks OneLoop ↔
      EachStep (handle textWidth) (new hasVideoUrl autoPlay) tasks LoadsAtRest := by
  have hstep : ∀ task (player : OverlayPlayer), player.OneLoop →
      (LoadsAtRest task player ↔ True ∧ (handle textWidth task player).OneLoop) := by
    intro task player h
    rw [true_and, h.handle_iff]
  rw [← always_iff (oneLoop_new hasVideoUrl autoPlay) hstep tasks]
  exact (and_iff_left fun _ _ _ => trivial).symm

end OverlayPlayer

end Ods.B6
