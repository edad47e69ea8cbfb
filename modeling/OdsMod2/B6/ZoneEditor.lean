import OdsMod2.B6.PolygonValidator

/-!
# The zone editor

`ZoneEditor` keeps the finished zones, the zone being drawn, and the vertex being dragged as a pair
of indices. A handler that throws leaves behind what it has assigned by then.
-/

namespace Ods.B6

open PolygonValidator

/-! ### State and surroundings -/

/-- The canvas, of positive size. -/
structure Canvas where
  width : ℚ
  height : ℚ
  width_pos : 0 < width
  height_pos : 0 < height

/-- `style.cursor`. -/
inductive Cursor where
  | default
  | crosshair
  | grab
  | grabbing
  | notAllowed
deriving DecidableEq

/-- A vertex by its indices; the zone being drawn has the index `-1`. -/
structure Target where
  zoneIndex : Int
  pointIndex : Nat
deriving DecidableEq

structure ZoneEditor where
  completedZones : List Polygon
  currentZone : Polygon
  isDrawingMode : Bool
  dragTarget : Option Target
  hoverTarget : Option Target
  cursor : Cursor
deriving DecidableEq

/-- What the constructor leaves. -/
def ZoneEditor.new : ZoneEditor where
  completedZones := []
  currentZone := []
  isDrawingMode := false
  dragTarget := none
  hoverTarget := none
  cursor := .default

/-- What a handler did, and the state it left. -/
abbrev Handled := Except TypeError Unit × ZoneEditor

/-! ### Coordinates and hits -/

/-- `HANDLE_RADIUS`. -/
def handleRadius : ℚ := 6

namespace Canvas

/-- `getNormalizedCoordinates`. -/
def getNormalizedCoordinates (canvas : Canvas) (offsetX offsetY : ℚ) : Point where
  x := max 0 (min 1 (offsetX / canvas.width))
  y := max 0 (min 1 (offsetY / canvas.height))

/-- The comparison with `Math.hypot`, squared. -/
def reaches (canvas : Canvas) (pixelX pixelY : ℚ) (vertex : Vertex) : Except TypeError Bool := do
  match ← vertex.read with
  | none => return false
  | some point =>
    let px := point.x * canvas.width
    let py := point.y * canvas.height
    return decide ((pixelX - px) ^ 2 + (pixelY - py) ^ 2 ≤ (handleRadius * 2) ^ 2)

/-- The loop over the vertices of one zone, from the vertex of the index. -/
def hitVertex (canvas : Canvas) (pixelX pixelY : ℚ) :
    Polygon → Nat → Except TypeError (Option Nat)
  | [], _ => .ok none
  | vertex :: rest, i => do
    if ← canvas.reaches pixelX pixelY vertex then return some i
    else canvas.hitVertex pixelX pixelY rest (i + 1)

/-- The loop over the finished zones, from the zone of the index. -/
def hitZone (canvas : Canvas) (pixelX pixelY : ℚ) :
    List Polygon → Nat → Except TypeError (Option Target)
  | [], _ => .ok none
  | zone :: rest, z => do
    match ← canvas.hitVertex pixelX pixelY zone 0 with
    | some i => return some ⟨z, i⟩
    | none => canvas.hitZone pixelX pixelY rest (z + 1)

/-- `getHitTarget`. -/
def getHitTarget (canvas : Canvas) (pixelX pixelY : ℚ) (editor : ZoneEditor) :
    Except TypeError (Option Target) := do
  -- the zone being drawn comes first, then the finished ones in their order
  match ← canvas.hitVertex pixelX pixelY editor.currentZone 0 with
  | some i => return some ⟨-1, i⟩
  | none => canvas.hitZone pixelX pixelY editor.completedZones 0

end Canvas

/-! ### Drawing -/

/-- `drawPolygon`: it reads every vertex. What it puts on the canvas is left out. -/
def drawPolygon (points : Polygon) : Except TypeError Unit :=
  points.forM fun vertex => do
    let _ ← vertex.read

namespace ZoneEditor

/-- `render`. -/
def render (editor : ZoneEditor) : Except TypeError Unit := do
  editor.completedZones.forM drawPolygon
  drawPolygon editor.currentZone

/-- `drawGuideLine`: it reads the last vertex. -/
def drawGuideLine (editor : ZoneEditor) : Except TypeError Unit :=
  match editor.currentZone.getLast? with
  | none => .ok ()
  | some lastPoint => do
    let _ ← lastPoint.read

/-- The end of a handler that draws the state it leaves. -/
def rendered (editor : ZoneEditor) : Handled :=
  (editor.render, editor)

/-- The cursor where nothing is under it. -/
def restingCursor (editor : ZoneEditor) : Cursor :=
  if editor.isDrawingMode then .crosshair else .default

/-- The zone with the index. -/
def zoneAt (editor : ZoneEditor) (zoneIndex : Int) : Option Polygon :=
  if zoneIndex = -1 then some editor.currentZone
  else zoneIndex.toNat?.bind fun z => editor.completedZones[z]?

/-- An assignment to an entry of the zone with the index changes the zone where it is. -/
def putZone (editor : ZoneEditor) (zoneIndex : Int) (points : Polygon) : ZoneEditor :=
  if zoneIndex = -1 then { editor with currentZone := points }
  else { editor with completedZones := editor.completedZones.set zoneIndex.toNat points }

/-! ### Handlers -/

/-- `startDrawingMode`. -/
def startDrawingMode (editor : ZoneEditor) : Handled :=
  rendered { editor with isDrawingMode := true, cursor := .crosshair }

/-- `stopDrawingMode`. -/
def stopDrawingMode (editor : ZoneEditor) : Handled :=
  rendered { editor with isDrawingMode := false, currentZone := [], cursor := .default }

/-- `clearAll`. -/
def clearAll (editor : ZoneEditor) : Handled :=
  rendered { editor with completedZones := [], currentZone := [] }

/-- `onMouseDown`, with any button. -/
def onMouseDown (canvas : Canvas) (offsetX offsetY : ℚ) (editor : ZoneEditor) : Handled :=
  match canvas.getHitTarget offsetX offsetY editor with
  | .error raised => (.error raised, editor)
  -- a hit begins a drag in either mode, and nothing is drawn
  | .ok (some hit) => (.ok (), { editor with dragTarget := some hit })
  | .ok none =>
    if editor.isDrawingMode then
      let added := .point (canvas.getNormalizedCoordinates offsetX offsetY)
      rendered { editor with currentZone := editor.currentZone ++ [added] }
    else (.ok (), editor)

/-- The branch of `onMouseMove` with a vertex being dragged. -/
def dragVertex (canvas : Canvas) (offsetX offsetY : ℚ) (target : Target) (editor : ZoneEditor) :
    Handled :=
  match editor.zoneAt target.zoneIndex with
  | none => (.error .typeError, editor)
  | some targetPolygon =>
    -- past the end this is an object without coordinates
    let originalPoint := (targetPolygon.vertexAt target.pointIndex).spread
    let moved := targetPolygon.assign target.pointIndex
      (.point (canvas.getNormalizedCoordinates offsetX offsetY))
    match isValidPolygon moved with
    -- the vertex has been assigned before the check that throws
    | .error raised => (.error raised, editor.putZone target.zoneIndex moved)
    | .ok false =>
      -- put back where it was before this event
      let restored := moved.assign target.pointIndex originalPoint
      rendered { editor.putZone target.zoneIndex restored with cursor := .notAllowed }
    | .ok true => rendered { editor.putZone target.zoneIndex moved with cursor := .grabbing }

/-- The branch of `onMouseMove` without one. -/
def hover (canvas : Canvas) (offsetX offsetY : ℚ) (editor : ZoneEditor) : Handled :=
  match canvas.getHitTarget offsetX offsetY editor with
  | .error raised => (.error raised, editor)
  | .ok hit =>
    let editor := { editor with
      hoverTarget := hit
      cursor := if hit.isSome then .grab else editor.restingCursor }
    -- the hover target is already set when the drawing throws
    (do editor.render
        if editor.isDrawingMode then editor.drawGuideLine,
      editor)

/-- `onMouseMove`. -/
def onMouseMove (canvas : Canvas) (offsetX offsetY : ℚ) (editor : ZoneEditor) : Handled :=
  match editor.dragTarget with
  | some target => editor.dragVertex canvas offsetX offsetY target
  | none => editor.hover canvas offsetX offsetY

/-- `onMouseUp`. -/
def onMouseUp (editor : ZoneEditor) : Handled :=
  (.ok (), { editor with
    dragTarget := none
    cursor := if editor.hoverTarget.isSome then editor.cursor else editor.restingCursor })

/-- `closeCurrentZone`. Both alerts leave the state as it is. -/
def closeCurrentZone (editor : ZoneEditor) : Handled :=
  if editor.currentZone.length < 3 then (.ok (), editor)
  else
    match isValidPolygon editor.currentZone with
    | .error raised => (.error raised, editor)
    | .ok false => (.ok (), editor)
    | .ok true =>
      rendered { editor with
        completedZones := editor.completedZones ++ [editor.currentZone]
        currentZone := [] }

/-- The listener for `contextmenu`. -/
def onContextMenu (editor : ZoneEditor) : Handled :=
  if editor.isDrawingMode then editor.closeCurrentZone else (.ok (), editor)

end ZoneEditor

/-- What the editor reacts to: events of the canvas, and the buttons of the page. -/
inductive Event where
  | mousedown (offsetX offsetY : ℚ)
  | mousemove (offsetX offsetY : ℚ)
  | mouseup
  | contextmenu
  | startDrawingMode
  | stopDrawingMode
  | clearAll
deriving DecidableEq

/-- The handler of the event. -/
def Canvas.handle (canvas : Canvas) : Event → ZoneEditor → Handled
  | .mousedown offsetX offsetY, editor => editor.onMouseDown canvas offsetX offsetY
  | .mousemove offsetX offsetY, editor => editor.onMouseMove canvas offsetX offsetY
  | .mouseup, editor => editor.onMouseUp
  | .contextmenu, editor => editor.onContextMenu
  | .startDrawingMode, editor => editor.startDrawingMode
  | .stopDrawingMode, editor => editor.stopDrawingMode
  | .clearAll, editor => editor.clearAll

end Ods.B6
