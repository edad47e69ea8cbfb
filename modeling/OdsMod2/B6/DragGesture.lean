import OdsMod2.B6.DragTarget

/-!
# Dragging a vertex

A drag is a press on a vertex, any movements of the mouse, and the release. Each movement tries the
vertex at the position of the mouse and puts it back where the movement before has left it if the
zone would cross itself.

Whether a position is taken depends on the vertices that stay where they are and not on the way to
it, so the vertex ends at the last position that is good, and at its old place if none is
(`drag_gesture`). The other vertices and the other zones do not move. The cursor is not what it
should be: over a vertex the release leaves the one of the last movement.
-/

namespace Ods.B6

open EventRun PolygonValidator

/-! ### Where a vertex goes -/

namespace Canvas

variable (canvas : Canvas)

/-- The vertex that a movement to the position tries. -/
def vertexUnder (move : ℚ × ℚ) : Vertex :=
  .point (canvas.getNormalizedCoordinates move.1 move.2)

/-- The zone does not cross itself with its vertex there. -/
def Takes (zone : Polygon) (index : ℕ) (move : ℚ × ℚ) : Prop :=
  isValidPolygon (zone.set index (canvas.vertexUnder move)) = .ok true

instance (zone : Polygon) (index : ℕ) (move : ℚ × ℚ) : Decidable (canvas.Takes zone index move) :=
  inferInstanceAs (Decidable (_ = _))

/-- Where the vertex is in the end. -/
def draggedTo (zone : Polygon) (index : ℕ) (moves : List (ℚ × ℚ)) : Vertex :=
  ((moves.filter fun move => canvas.Takes zone index move).getLast?.map canvas.vertexUnder).getD
    (zone.vertexAt index)

/-- The cursor that the last movement leaves. -/
def dragCursor (zone : Polygon) (index : ℕ) (moves : List (ℚ × ℚ)) (before : Cursor) : Cursor :=
  match moves.getLast? with
  | none => before
  | some move => if canvas.Takes zone index move then .grabbing else .notAllowed

end Canvas

/-- A drag, from its press to its release. -/
def dragEvents (offsetX offsetY : ℚ) (moves : List (ℚ × ℚ)) : List Event :=
  .mousedown offsetX offsetY :: moves.map (fun move => .mousemove move.1 move.2) ++ [.mouseup]

/-! ### The editor during a drag -/

namespace ZoneEditor

variable {editor : ZoneEditor} {target : Target} {zone zone' : Polygon} {zoneIndex : ℤ}

theorem zoneAt_putZone (h : editor.zoneAt zoneIndex = some zone) :
    (editor.putZone zoneIndex zone').zoneAt zoneIndex = some zone' := by
  rcases zoneAt_eq_some.mp h with ⟨rfl, rfl⟩ | ⟨z, rfl, hzone⟩
  · rfl
  · obtain ⟨hbound, -⟩ := List.getElem?_eq_some_iff.mp hzone
    rw [putZone_natCast, zoneAt_natCast, List.getElem?_set_self hbound]

/-- With a vertex held, moved to some place. -/
def dragging (editor : ZoneEditor) (target : Target) (zone : Polygon) (vertex : Vertex)
    (cursor : Cursor) : ZoneEditor :=
  { editor.putZone target.zoneIndex (zone.set target.pointIndex vertex) with
    dragTarget := some target
    cursor := cursor }

theorem putZone_dragging {vertex vertex' : Vertex} {cursor cursor' : Cursor} :
    { (editor.dragging target zone vertex cursor).putZone target.zoneIndex
        (zone.set target.pointIndex vertex') with cursor := cursor' } =
      editor.dragging target zone vertex' cursor' := by
  rw [dragging, dragging, putZone, putZone, putZone]
  split
  · rfl
  · rw [List.set_set]

section Moves

variable {canvas : Canvas} {vertex : Vertex} {cursor : Cursor}

/-- **One movement.** -/
theorem after_move (hzone : editor.zoneAt target.zoneIndex = some zone)
    (hlt : target.pointIndex < zone.length) (hunit : zone.InUnit) (hvertex : vertex.InUnit)
    (move : ℚ × ℚ) :
    canvas.after (.mousemove move.1 move.2) (editor.dragging target zone vertex cursor) =
      if canvas.Takes zone target.pointIndex move then
        editor.dragging target zone (canvas.vertexUnder move) .grabbing
      else editor.dragging target zone vertex .notAllowed := by
  have hat : (editor.dragging target zone vertex cursor).zoneAt target.zoneIndex =
      some (zone.set target.pointIndex vertex) :=
    zoneAt_putZone hzone
  have hlt' : target.pointIndex < (zone.set target.pointIndex vertex).length := by
    rwa [List.length_set]
  have hmoved : Polygon.InUnit (zone.set target.pointIndex (canvas.vertexUnder move)) :=
    hunit.set normalized_inUnit
  obtain ⟨valid, hvalid⟩ := isValidPolygon_ok hmoved
  have hassigned : Polygon.assign (zone.set target.pointIndex vertex) target.pointIndex
      (canvas.vertexUnder move) = zone.set target.pointIndex (canvas.vertexUnder move) := by
    rw [Polygon.assign_of_lt hlt', List.set_set]
  have hrestored : Polygon.assign (zone.set target.pointIndex (canvas.vertexUnder move))
      target.pointIndex (Polygon.vertexAt (zone.set target.pointIndex vertex)
        target.pointIndex).spread = zone.set target.pointIndex vertex := by
    have hback := Polygon.assign_spread (hunit.set hvertex) hlt' (canvas.vertexUnder move)
    rwa [List.set_set] at hback
  show (dragVertex canvas move.1 move.2 target (editor.dragging target zone vertex cursor)).2 = _
  rw [dragVertex, hat]
  dsimp only
  rw [show Vertex.point (canvas.getNormalizedCoordinates move.1 move.2) = canvas.vertexUnder move
    from rfl, hassigned, hvalid, hrestored]
  cases valid with
  | true =>
    have htakes : canvas.Takes zone target.pointIndex move := hvalid
    rw [if_pos htakes]
    exact putZone_dragging
  | false =>
    have hnot : ¬ canvas.Takes zone target.pointIndex move := by
      intro htakes
      cases hvalid.symm.trans htakes
    rw [if_neg hnot]
    exact putZone_dragging

/-- Where the vertex is after one movement more. -/
theorem draggedTo_concat (canvas : Canvas) (zone : Polygon) (index : ℕ) (moves : List (ℚ × ℚ))
    (move : ℚ × ℚ) :
    canvas.draggedTo zone index (moves ++ [move]) =
      if canvas.Takes zone index move then canvas.vertexUnder move
      else canvas.draggedTo zone index moves := by
  rw [Canvas.draggedTo, Canvas.draggedTo, List.filter_append]
  split
  · next htakes =>
    rw [List.filter_singleton, decide_eq_true htakes, cond_true, List.getLast?_concat]
    rfl
  · next htakes =>
    rw [List.filter_singleton, decide_eq_false htakes, cond_false, List.append_nil]

theorem dragCursor_concat (canvas : Canvas) (zone : Polygon) (index : ℕ) (moves : List (ℚ × ℚ))
    (move : ℚ × ℚ) (before : Cursor) :
    canvas.dragCursor zone index (moves ++ [move]) before =
      if canvas.Takes zone index move then .grabbing else .notAllowed := by
  rw [Canvas.dragCursor, List.getLast?_concat]

theorem draggedTo_inUnit (hunit : zone.InUnit) {index : ℕ} (hlt : index < zone.length)
    (moves : List (ℚ × ℚ)) : (canvas.draggedTo zone index moves).InUnit := by
  induction moves using List.reverseRecOn with
  | nil => exact hunit.vertexAt hlt
  | append_singleton moves move ih =>
    rw [draggedTo_concat]
    split
    · exact normalized_inUnit
    · exact ih

/-- **Any movements.** -/
theorem run_moves (hzone : editor.zoneAt target.zoneIndex = some zone)
    (hlt : target.pointIndex < zone.length) (hunit : zone.InUnit) (moves : List (ℚ × ℚ)) :
    run canvas.after { editor with dragTarget := some target }
        (moves.map fun move => Event.mousemove move.1 move.2) =
      editor.dragging target zone (canvas.draggedTo zone target.pointIndex moves)
        (canvas.dragCursor zone target.pointIndex moves editor.cursor) := by
  induction moves using List.reverseRecOn with
  | nil =>
    have hsame : zone.set target.pointIndex (zone.vertexAt target.pointIndex) = zone := by
      rw [Polygon.vertexAt_eq_getElem hlt, List.set_getElem_self]
    show { editor with dragTarget := some target } =
      editor.dragging target zone (zone.vertexAt target.pointIndex) editor.cursor
    rw [dragging, hsame, putZone_self hzone]
  | append_singleton moves move ih =>
    rw [List.map_append, List.map_singleton, run_concat, ih,
      after_move hzone hlt hunit (draggedTo_inUnit hunit hlt moves), draggedTo_concat,
      dragCursor_concat]
    split
    · rfl
    · rfl

/-- The release. The cursor is looked up only where no vertex was under the mouse before. -/
theorem release_dragging :
    canvas.after .mouseup (editor.dragging target zone vertex cursor) =
      { editor.putZone target.zoneIndex (zone.set target.pointIndex vertex) with
        dragTarget := none
        cursor := if editor.hoverTarget.isSome then cursor else editor.restingCursor } := by
  show (onMouseUp _).2 = _
  rw [onMouseUp, dragging, putZone]
  split
  · rfl
  · rfl

end Moves

/-! ### The whole gesture -/

theorem dragEvents_disrupt_nothing {offsetX offsetY : ℚ} {moves : List (ℚ × ℚ)} {event : Event}
    (h : event ∈ dragEvents offsetX offsetY moves) (editor : ZoneEditor) :
    ¬ Disrupts event editor := by
  rcases List.mem_cons.mp h with rfl | hlater
  · exact id
  · rcases List.mem_append.mp hlater with hmove | hlast
    · obtain ⟨move, -, rfl⟩ := List.mem_map.mp hmove
      exact id
    · rw [List.mem_singleton.mp hlast]
      exact id

/-- **A drag moves one vertex**, to the last position of the mouse where the zone does not cross
itself, whatever the way to it. Nothing that is missing is read, and every zone stays complete. -/
theorem drag_gesture {canvas : Canvas} (h : editor.Sound) {offsetX offsetY : ℚ}
    (hhit : canvas.getHitTarget offsetX offsetY editor = .ok (some target)) (moves : List (ℚ × ℚ)) :
    (Always canvas.after editor (dragEvents offsetX offsetY moves) Sound ∧
      EachStep canvas.after editor (dragEvents offsetX offsetY moves)
        fun event editor => (canvas.handle event editor).1 = .ok ()) ∧
    ∃ zone, editor.zoneAt target.zoneIndex = some zone ∧ target.pointIndex < zone.length ∧
      run canvas.after editor (dragEvents offsetX offsetY moves) =
        { editor.putZone target.zoneIndex (zone.set target.pointIndex
            (canvas.draggedTo zone target.pointIndex moves)) with
          dragTarget := none
          cursor := if editor.hoverTarget.isSome then
              canvas.dragCursor zone target.pointIndex moves editor.cursor
            else editor.restingCursor } := by
  constructor
  · refine (always_iff h (fun _ _ hsound => handle_goes_iff hsound) _).mpr fun earlier event hfront => ?_
    exact dragEvents_disrupt_nothing (hfront.subset (List.mem_append_right _ List.mem_cons_self)) _
  · obtain ⟨hit, hhit', hdesignates⟩ :=
      getHitTarget_ok canvas offsetX offsetY h.currentZone h.completedZones
    obtain rfl : hit = some target := Except.ok.inj (hhit'.symm.trans hhit)
    obtain ⟨zone, hzone, hlt⟩ := hdesignates target rfl
    have hunit : zone.InUnit := by
      rcases zoneAt_eq_some.mp hzone with ⟨-, rfl⟩ | ⟨z, -, hzone⟩
      · exact h.currentZone
      · exact h.completedZones zone (List.mem_of_getElem? hzone)
    refine ⟨zone, hzone, hlt, ?_⟩
    have hpress : canvas.after (.mousedown offsetX offsetY) editor =
        { editor with dragTarget := some target } := by
      show (editor.onMouseDown canvas offsetX offsetY).2 = _
      rw [onMouseDown, hhit]
    rw [dragEvents, run_concat]
    show canvas.after .mouseup (run canvas.after (canvas.after (.mousedown offsetX offsetY) editor)
      (moves.map fun move => .mousemove move.1 move.2)) = _
    rw [hpress, run_moves hzone hlt hunit]
    exact release_dragging

/-- A triangle that has not been closed. -/
def openTriangle : ZoneEditor :=
  { ZoneEditor.new with
    isDrawingMode := true
    currentZone := [.point ⟨1 / 10, 1 / 10⟩, .point ⟨6 / 10, 1 / 10⟩, .point ⟨1 / 10, 6 / 10⟩] }

theorem sound_openTriangle : openTriangle.Sound where
  dragTarget := by
    intro target htarget
    cases htarget
  currentZone := by
    intro vertex hvertex
    rw [openTriangle, List.mem_cons, List.mem_cons, List.mem_singleton] at hvertex
    rcases hvertex with rfl | rfl | rfl
    · exact ⟨_, rfl, by decide +kernel⟩
    · exact ⟨_, rfl, by decide +kernel⟩
    · exact ⟨_, rfl, by decide +kernel⟩
  completedZones := List.forall_mem_nil _
  complete := List.forall_mem_nil _

/-- The corner goes where the mouse goes, and over the edge of the canvas no farther than that. -/
theorem drag_gesture_openTriangle :
    (run hundredPixels.after openTriangle (dragEvents 10 10 [(20, 20), (-5, 20)])).currentZone =
      [.point ⟨0, 1 / 5⟩, .point ⟨6 / 10, 1 / 10⟩, .point ⟨1 / 10, 6 / 10⟩] := by
  have hhit : hundredPixels.getHitTarget 10 10 openTriangle = .ok (some ⟨-1, 0⟩) := by
    decide +kernel
  obtain ⟨-, zone, hzone, -, hrun⟩ :=
    drag_gesture sound_openTriangle hhit [(20, 20), (-5, 20)]
  obtain rfl := Option.some.inj hzone
  rw [hrun]
  decide +kernel

end ZoneEditor

end Ods.B6
