import OdsMod2.B6.DragTarget

/-!
# Closing a zone with the right button

For one press of the right button the browser delivers `mousedown` and then `contextmenu`. The
first handler does not ask which button it was: away from all vertices it adds one, so that the zone
which the second handler closes, or leaves, is not the zone that was drawn. Only where the first
handler throws does the second find the zone as it was (`rightClick_iff`).
-/

namespace Ods.B6

open PolygonValidator EventRun

/-- The zones that are on the canvas, the one being drawn first. -/
def ZoneEditor.zones (editor : ZoneEditor) : List Polygon :=
  editor.currentZone :: editor.completedZones

/-- The spot is out of reach of every vertex. -/
def Canvas.Away (canvas : Canvas) (offsetX offsetY : ℚ) (editor : ZoneEditor) : Prop :=
  ∀ zone ∈ editor.zones, ∀ point, Vertex.point point ∈ zone →
    (handleRadius * 2) ^ 2 <
      (offsetX - point.x * canvas.width) ^ 2 + (offsetY - point.y * canvas.height) ^ 2

/-- The state after a press of the right button. -/
def Canvas.afterRightClick (canvas : Canvas) (offsetX offsetY : ℚ) (editor : ZoneEditor) :
    ZoneEditor :=
  run canvas.after editor [.mousedown offsetX offsetY, .contextmenu]

/-- The press finishes the zone that has been drawn, if it can be finished, and changes no zone
otherwise. -/
def Canvas.ClosesWhatIsDrawn (canvas : Canvas) (offsetX offsetY : ℚ) (editor : ZoneEditor) : Prop :=
  (editor.ClosesZone →
    (canvas.afterRightClick offsetX offsetY editor).completedZones =
        editor.completedZones ++ [editor.currentZone] ∧
      (canvas.afterRightClick offsetX offsetY editor).currentZone = []) ∧
  (¬ editor.ClosesZone →
    (canvas.afterRightClick offsetX offsetY editor).completedZones = editor.completedZones ∧
      (canvas.afterRightClick offsetX offsetY editor).currentZone = editor.currentZone)

/-! ### The first handler -/

section MouseDown

variable {canvas : Canvas} {offsetX offsetY : ℚ} {editor : ZoneEditor}

/-- The loops over vertices out of reach find none, unless an entry is missing. -/
theorem hitVertex_away {points : Polygon}
    (haway : ∀ point, Vertex.point point ∈ points → (handleRadius * 2) ^ 2 <
      (offsetX - point.x * canvas.width) ^ 2 + (offsetY - point.y * canvas.height) ^ 2) (i : Nat) :
    (.undefined ∈ points → canvas.hitVertex offsetX offsetY points i = .error .typeError) ∧
      (.undefined ∉ points → canvas.hitVertex offsetX offsetY points i = .ok none) := by
  induction points generalizing i with
  | nil => exact ⟨fun h => absurd h List.not_mem_nil, fun _ => rfl⟩
  | cons vertex points ih =>
    obtain ⟨hmissing, hnone⟩ := ih (fun point hpoint => haway point (List.mem_cons_of_mem _ hpoint))
      (i + 1)
    cases vertex with
    | undefined =>
      -- a property of `undefined` is read
      refine ⟨fun _ => rfl, fun h => absurd List.mem_cons_self h⟩
    | emptyObject =>
      refine ⟨fun h => ?_, fun h => ?_⟩
      · exact hmissing ((List.mem_cons.mp h).resolve_left (by simp))
      · exact hnone fun hmem => h (List.mem_cons_of_mem _ hmem)
    | point position =>
      -- the vertex is out of reach, and the loop goes on
      have hfar := haway position List.mem_cons_self
      have hreaches : canvas.reaches offsetX offsetY (.point position) = .ok false :=
        congrArg Except.ok (decide_eq_false (not_le.mpr hfar))
      rw [Canvas.hitVertex, hreaches]
      refine ⟨fun h => ?_, fun h => ?_⟩
      · exact hmissing ((List.mem_cons.mp h).resolve_left (by simp))
      · exact hnone fun hmem => h (List.mem_cons_of_mem _ hmem)

theorem hitZone_away {zones : List Polygon}
    (haway : ∀ zone ∈ zones, ∀ point, Vertex.point point ∈ zone → (handleRadius * 2) ^ 2 <
      (offsetX - point.x * canvas.width) ^ 2 + (offsetY - point.y * canvas.height) ^ 2) (z : Nat) :
    ((∃ zone ∈ zones, .undefined ∈ zone) →
      canvas.hitZone offsetX offsetY zones z = .error .typeError) ∧
    ((∀ zone ∈ zones, .undefined ∉ zone) →
      canvas.hitZone offsetX offsetY zones z = .ok none) := by
  induction zones generalizing z with
  | nil => exact ⟨fun ⟨_, h, _⟩ => absurd h List.not_mem_nil, fun _ => rfl⟩
  | cons zone zones ih =>
    obtain ⟨hfirst, hrest⟩ := List.forall_mem_cons.mp haway
    obtain ⟨hmissing, hnone⟩ := hitVertex_away hfirst 0
    obtain ⟨ihMissing, ihNone⟩ := ih hrest (z + 1)
    rw [Canvas.hitZone]
    -- the first zone throws, or has nothing to hit
    by_cases hundefined : .undefined ∈ zone
    · rw [hmissing hundefined]
      exact ⟨fun _ => rfl, fun h => absurd hundefined (h zone List.mem_cons_self)⟩
    · rw [hnone hundefined]
      refine ⟨?_, fun h => ihNone fun zone hzone => h zone (List.mem_cons_of_mem _ hzone)⟩
      rintro ⟨other, hother, hmem⟩
      rcases List.mem_cons.mp hother with rfl | hother
      · exact absurd hmem hundefined
      · exact ihMissing ⟨other, hother, hmem⟩

theorem getHitTarget_away (haway : canvas.Away offsetX offsetY editor) :
    ((∃ zone ∈ editor.zones, .undefined ∈ zone) →
      canvas.getHitTarget offsetX offsetY editor = .error .typeError) ∧
    ((∀ zone ∈ editor.zones, .undefined ∉ zone) →
      canvas.getHitTarget offsetX offsetY editor = .ok none) := by
  obtain ⟨hfirst, hrest⟩ := List.forall_mem_cons.mp haway
  obtain ⟨hmissing, hnone⟩ := hitVertex_away hfirst 0
  obtain ⟨hlaterMissing, hlaterNone⟩ := hitZone_away hrest 0
  rw [Canvas.getHitTarget]
  by_cases hundefined : .undefined ∈ editor.currentZone
  · rw [hmissing hundefined]
    exact ⟨fun _ => rfl, fun h => absurd hundefined (h _ List.mem_cons_self)⟩
  · rw [hnone hundefined]
    refine ⟨?_, fun h => hlaterNone fun zone hzone => h zone (List.mem_cons_of_mem _ hzone)⟩
    rintro ⟨other, hother, hmem⟩
    rcases List.mem_cons.mp hother with rfl | hother
    · exact absurd hmem hundefined
    · exact hlaterMissing ⟨other, hother, hmem⟩

/-- Where an entry is missing, the first handler throws before it adds a vertex. -/
theorem after_mousedown_of_missing (haway : canvas.Away offsetX offsetY editor)
    (hmissing : ∃ zone ∈ editor.zones, .undefined ∈ zone) :
    canvas.after (.mousedown offsetX offsetY) editor = editor := by
  have hhit := (getHitTarget_away haway).1 hmissing
  change (editor.onMouseDown canvas offsetX offsetY).2 = editor
  rw [ZoneEditor.onMouseDown, hhit]

/-- Elsewhere it adds one, whatever the button. -/
theorem after_mousedown (hdrawing : editor.isDrawingMode = true)
    (haway : canvas.Away offsetX offsetY editor)
    (hread : ∀ zone ∈ editor.zones, .undefined ∉ zone) :
    canvas.after (.mousedown offsetX offsetY) editor =
      { editor with currentZone := editor.currentZone ++
          [.point (canvas.getNormalizedCoordinates offsetX offsetY)] } := by
  have hhit := (getHitTarget_away haway).2 hread
  change (editor.onMouseDown canvas offsetX offsetY).2 = _
  rw [ZoneEditor.onMouseDown, hhit]
  dsimp only
  rw [if_pos hdrawing]
  rfl

/-! ### The second handler -/

theorem after_contextmenu_of_closes (hcloses : editor.ClosesZone) :
    canvas.after .contextmenu editor =
      { editor with
        completedZones := editor.completedZones ++ [editor.currentZone]
        currentZone := [] } := by
  obtain ⟨hdrawing, hthree, hvalid⟩ := hcloses
  change editor.onContextMenu.2 = _
  rw [ZoneEditor.onContextMenu, if_pos hdrawing, ZoneEditor.closeCurrentZone,
    if_neg (not_lt.mpr hthree), hvalid]
  rfl

theorem after_contextmenu_of_not_closes (hcloses : ¬ editor.ClosesZone) :
    canvas.after .contextmenu editor = editor := by
  change editor.onContextMenu.2 = editor
  unfold ZoneEditor.onContextMenu ZoneEditor.closeCurrentZone
  by_cases hdrawing : editor.isDrawingMode = true
  · rw [if_pos hdrawing]
    by_cases hlength : editor.currentZone.length < 3
    · rw [if_pos hlength]
    · rw [if_neg hlength]
      -- a validation that throws leaves the zones alone as well
      cases hvalid : isValidPolygon editor.currentZone with
      | error raised => rfl
      | ok valid =>
        cases valid with
        | false => rfl
        | true => exact absurd ⟨hdrawing, not_lt.mp hlength, hvalid⟩ hcloses
  · rw [if_neg hdrawing]

end MouseDown

/-! ### Both -/

section RightClick

variable {canvas : Canvas} {offsetX offsetY : ℚ} {editor : ZoneEditor}

theorem afterRightClick_eq :
    canvas.afterRightClick offsetX offsetY editor =
      canvas.after .contextmenu (canvas.after (.mousedown offsetX offsetY) editor) := rfl

/-- The zone that is closed or left has one more vertex than the one drawn. -/
theorem not_closesWhatIsDrawn (hdrawing : editor.isDrawingMode = true)
    (haway : canvas.Away offsetX offsetY editor)
    (hread : ∀ zone ∈ editor.zones, .undefined ∉ zone) :
    ¬ canvas.ClosesWhatIsDrawn offsetX offsetY editor := by
  rintro ⟨hcloses, hkeeps⟩
  rw [afterRightClick_eq, after_mousedown hdrawing haway hread] at hcloses hkeeps
  by_cases hlater : ({ editor with currentZone := editor.currentZone ++
      [.point (canvas.getNormalizedCoordinates offsetX offsetY)] } : ZoneEditor).ClosesZone
  · rw [after_contextmenu_of_closes hlater] at hcloses hkeeps
    by_cases hnow : editor.ClosesZone
    · -- the zone stored is not the one drawn
      have hzones := List.append_cancel_left (hcloses hnow).1
      have hzone := List.singleton_inj.mp hzones
      exact List.cons_ne_nil _ _ (List.append_right_eq_self.mp hzone)
    · -- a zone is stored that was not to be closed
      have hzones := (hkeeps hnow).1
      exact List.cons_ne_nil _ _ (List.append_right_eq_self.mp hzones)
  · rw [after_contextmenu_of_not_closes hlater] at hcloses hkeeps
    by_cases hnow : editor.ClosesZone
    · -- the zone that was to be closed is still being drawn
      exact List.append_ne_nil_of_right_ne_nil _ (List.cons_ne_nil _ _) (hcloses hnow).2
    · -- it goes on being drawn, with a vertex more
      exact List.cons_ne_nil _ _ (List.append_right_eq_self.mp (hkeeps hnow).2)

/-- **When a press of the right button does what the page says.** -/
theorem rightClick_iff (canvas : Canvas) (offsetX offsetY : ℚ) (editor : ZoneEditor)
    (hdrawing : editor.isDrawingMode = true) (haway : canvas.Away offsetX offsetY editor) :
    canvas.ClosesWhatIsDrawn offsetX offsetY editor ↔
      ∃ zone ∈ editor.zones, .undefined ∈ zone := by
  constructor
  · intro h
    by_contra hread
    push Not at hread
    exact not_closesWhatIsDrawn hdrawing haway hread h
  · intro hmissing
    refine ⟨fun hcloses => ?_, fun hcloses => ?_⟩
    · rw [afterRightClick_eq, after_mousedown_of_missing haway hmissing,
        after_contextmenu_of_closes hcloses]
      exact ⟨rfl, rfl⟩
    · rw [afterRightClick_eq, after_mousedown_of_missing haway hmissing,
        after_contextmenu_of_not_closes hcloses]
      exact ⟨rfl, rfl⟩

end RightClick

/-- A triangle is drawn. -/
def triangleDrawn : List Event :=
  [.startDrawingMode, .mousedown 10 10, .mousedown 60 10, .mousedown 10 60]

theorem run_triangleDrawn : run hundredPixels.after .new triangleDrawn =
    { ZoneEditor.new with
      currentZone := [.point ⟨1 / 10, 1 / 10⟩, .point ⟨3 / 5, 1 / 10⟩, .point ⟨1 / 10, 3 / 5⟩]
      isDrawingMode := true
      cursor := .crosshair } := by
  decide +kernel

/-- A spot beside the triangle. -/
theorem away_triangleDrawn :
    hundredPixels.Away 5 30 (run hundredPixels.after .new triangleDrawn) := by
  rw [run_triangleDrawn]
  intro zone hzone point hpoint
  obtain rfl := List.mem_singleton.mp hzone
  simp only [List.mem_cons, Vertex.point.injEq, List.not_mem_nil, or_false] at hpoint
  rcases hpoint with rfl | rfl | rfl
  · decide +kernel
  · decide +kernel
  · decide +kernel

theorem drawing_triangleDrawn :
    (run hundredPixels.after .new triangleDrawn).isDrawingMode = true := by
  rw [run_triangleDrawn]

theorem rightClick_iff_triangleDrawn :
    hundredPixels.ClosesWhatIsDrawn 5 30 (run hundredPixels.after .new triangleDrawn) ↔
      ∃ zone ∈ (run hundredPixels.after .new triangleDrawn).zones, .undefined ∈ zone :=
  rightClick_iff hundredPixels 5 30 _ drawing_triangleDrawn away_triangleDrawn

/-- The triangle is stored with a fourth corner, where the button was pressed. -/
theorem rightClick_stores_click :
    ¬ ∀ (canvas : Canvas) (events : List Event) (offsetX offsetY : ℚ),
      (run canvas.after .new events).isDrawingMode = true →
        canvas.Away offsetX offsetY (run canvas.after .new events) →
          canvas.ClosesWhatIsDrawn offsetX offsetY (run canvas.after .new events) := by
  intro h
  refine not_closesWhatIsDrawn drawing_triangleDrawn away_triangleDrawn ?_
    (h hundredPixels triangleDrawn 5 30 drawing_triangleDrawn away_triangleDrawn)
  rw [run_triangleDrawn]
  decide

/-- The third corner is held while the triangle is closed, and put into the empty zone after it. -/
example : ∃ zone ∈ (run hundredPixels.after .new (triangleDrawn ++
    [.mousedown 10 60, .contextmenu, .mousemove 50 50])).zones, .undefined ∈ zone := by
  decide +kernel

end Ods.B6
