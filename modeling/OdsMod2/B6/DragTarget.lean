import OdsMod2.B6.ZoneEditor
import OdsMod2.Framework.EventRun

/-!
# A drag in progress

The vertex being dragged is kept as two indices, so it must go on existing for as long as the drag
lasts. Adding a vertex, adding a zone and moving a vertex leave every index with what it had. To
give up the zone being drawn, to finish it, or to clear the canvas takes vertices away, and the drag
is not ended by any of these. This is the only way to break the editor: a run goes well exactly when
it never does so during a drag of one of those vertices (`staysSound_iff`).
-/

namespace Ods.B6

open PolygonValidator EventRun

/-! ### Sound states -/

namespace ZoneEditor

/-- The indices are those of a vertex. -/
def Designates (editor : ZoneEditor) (target : Target) : Prop :=
  ∃ zone, editor.zoneAt target.zoneIndex = some zone ∧ target.pointIndex < zone.length

/-- A zone that may be exported. -/
structure Complete (zone : Polygon) : Prop where
  three_le : 3 ≤ zone.length
  valid : isValidPolygon zone = .ok true

structure Sound (editor : ZoneEditor) : Prop where
  dragTarget : ∀ target ∈ editor.dragTarget, editor.Designates target
  currentZone : editor.currentZone.InUnit
  completedZones : ∀ zone ∈ editor.completedZones, zone.InUnit
  complete : ∀ zone ∈ editor.completedZones, Complete zone

/-- A vertex of the zone being drawn is being dragged. -/
def DragsCurrentZone (editor : ZoneEditor) : Prop :=
  ∃ target ∈ editor.dragTarget, target.zoneIndex = -1

/-- The zone being drawn would be finished. -/
def ClosesZone (editor : ZoneEditor) : Prop :=
  editor.isDrawingMode = true ∧ Complete editor.currentZone

theorem Sound.new : Sound .new where
  dragTarget := by simp [ZoneEditor.new]
  currentZone := by simp [ZoneEditor.new, Polygon.InUnit]
  completedZones := by simp [ZoneEditor.new]
  complete := by simp [ZoneEditor.new]

end ZoneEditor

/-- The event takes away the vertex being dragged. -/
def Disrupts (event : Event) (editor : ZoneEditor) : Prop :=
  match event with
  | .clearAll => editor.dragTarget ≠ none
  | .stopDrawingMode => editor.DragsCurrentZone
  | .contextmenu => editor.ClosesZone ∧ editor.DragsCurrentZone
  | _ => False

/-! ### Nothing is read that is not there -/

theorem drawPolygon_ok {points : Polygon} (h : points.InUnit) : drawPolygon points = .ok () := by
  induction points with
  | nil => rfl
  | cons vertex points ih =>
    obtain ⟨point, rfl, -⟩ := h vertex List.mem_cons_self
    exact ih fun vertex hvertex => h vertex (List.mem_cons_of_mem _ hvertex)

namespace ZoneEditor

variable {editor : ZoneEditor}

theorem drawZones_ok {zones : List Polygon} (h : ∀ zone ∈ zones, zone.InUnit) :
    zones.forM drawPolygon = Except.ok () := by
  induction zones with
  | nil => rfl
  | cons zone zones ih =>
    have hzone : drawPolygon zone = .ok () := drawPolygon_ok (h zone List.mem_cons_self)
    calc (zone :: zones).forM drawPolygon
        = (do drawPolygon zone; zones.forM drawPolygon) := rfl
      _ = zones.forM drawPolygon := by rw [hzone]; rfl
      _ = .ok () := ih fun zone hzone => h zone (List.mem_cons_of_mem _ hzone)

theorem render_ok (hcurrent : editor.currentZone.InUnit)
    (hcompleted : ∀ zone ∈ editor.completedZones, zone.InUnit) : editor.render = .ok () := by
  unfold render
  rw [drawZones_ok hcompleted, drawPolygon_ok hcurrent]
  rfl

theorem drawGuideLine_ok (h : editor.currentZone.InUnit) : editor.drawGuideLine = .ok () := by
  unfold drawGuideLine
  cases hlast : editor.currentZone.getLast? with
  | none => rfl
  | some lastPoint =>
    obtain ⟨point, rfl, -⟩ := h lastPoint (List.mem_of_getLast? hlast)
    rfl

/-! ### Hits -/

section Hits

variable (canvas : Canvas) (offsetX offsetY : ℚ)

@[simp] theorem zoneAt_current : editor.zoneAt (-1) = some editor.currentZone := rfl

@[simp] theorem zoneAt_natCast (z : Nat) :
    editor.zoneAt (z : Int) = editor.completedZones[z]? := by
  have hne : (z : Int) ≠ -1 := by omega
  rw [zoneAt, if_neg hne]
  rfl

theorem reaches_ok {vertex : Vertex} (h : vertex.InUnit) :
    ∃ reached, canvas.reaches offsetX offsetY vertex = .ok reached := by
  obtain ⟨point, rfl, -⟩ := h
  exact ⟨_, rfl⟩

/-- A hit is the index of a vertex. -/
theorem hitVertex_ok {points : Polygon} (h : points.InUnit) (i : Nat) :
    ∃ hit, canvas.hitVertex offsetX offsetY points i = .ok hit ∧
      ∀ index ∈ hit, index < i + points.length := by
  induction points generalizing i with
  | nil => exact ⟨none, rfl, by simp⟩
  | cons vertex points ih =>
    obtain ⟨reached, hreached⟩ := reaches_ok canvas offsetX offsetY (h vertex List.mem_cons_self)
    obtain ⟨hit, hhit, hbound⟩ := ih (fun vertex hvertex => h vertex (List.mem_cons_of_mem _ hvertex))
      (i + 1)
    cases reached with
    | true =>
      refine ⟨some i, by simp only [Canvas.hitVertex, hreached]; rfl, ?_⟩
      simp
    | false =>
      refine ⟨hit, by simp only [Canvas.hitVertex, hreached]; exact hhit, ?_⟩
      intro index hindex
      have hlt := hbound index hindex
      simp only [List.length_cons]
      omega

theorem hitZone_ok {zones : List Polygon} (h : ∀ zone ∈ zones, zone.InUnit) (z : Nat) :
    ∃ hit, canvas.hitZone offsetX offsetY zones z = .ok hit ∧
      ∀ target ∈ hit, ∃ k zone, target.zoneIndex = ((z + k : Nat) : Int) ∧ zones[k]? = some zone ∧
        target.pointIndex < zone.length := by
  induction zones generalizing z with
  | nil => exact ⟨none, rfl, by simp⟩
  | cons zone zones ih =>
    obtain ⟨hit, hhit, hbound⟩ := hitVertex_ok canvas offsetX offsetY (h zone List.mem_cons_self) 0
    obtain ⟨later, hlater, hzones⟩ := ih (fun zone hzone => h zone (List.mem_cons_of_mem _ hzone))
      (z + 1)
    cases hit with
    -- a vertex of the first zone is hit
    | some i =>
      refine ⟨some ⟨z, i⟩, by simp only [Canvas.hitZone, hhit]; rfl, ?_⟩
      have hi := hbound i rfl
      simp only [Option.mem_some_iff, forall_eq']
      exact ⟨0, zone, rfl, rfl, by omega⟩
    | none =>
      -- the search goes on, and its indices are one further
      refine ⟨later, by simp only [Canvas.hitZone, hhit]; exact hlater, ?_⟩
      intro target htarget
      obtain ⟨k, zone', hindex, hzone', hlt⟩ := hzones target htarget
      refine ⟨k + 1, zone', ?_, hzone', hlt⟩
      rw [hindex]
      congr 1
      omega

/-- A hit designates a vertex. -/
theorem getHitTarget_ok (hcurrent : editor.currentZone.InUnit)
    (hcompleted : ∀ zone ∈ editor.completedZones, zone.InUnit) :
    ∃ hit, canvas.getHitTarget offsetX offsetY editor = .ok hit ∧
      ∀ target ∈ hit, editor.Designates target := by
  obtain ⟨hit, hhit, hbound⟩ := hitVertex_ok canvas offsetX offsetY hcurrent 0
  obtain ⟨later, hlater, hzones⟩ := hitZone_ok canvas offsetX offsetY hcompleted 0
  cases hit with
  | some i =>
    refine ⟨some ⟨-1, i⟩, by simp only [Canvas.getHitTarget, hhit]; rfl, ?_⟩
    have hi := hbound i rfl
    simp only [Option.mem_some_iff, forall_eq']
    exact ⟨editor.currentZone, zoneAt_current, by simpa using hi⟩
  | none =>
    refine ⟨later, by simp only [Canvas.getHitTarget, hhit]; exact hlater, ?_⟩
    intro target htarget
    obtain ⟨k, zone, hindex, hzone, hlt⟩ := hzones target htarget
    rw [Nat.zero_add] at hindex
    exact ⟨zone, by rw [hindex, zoneAt_natCast, hzone], hlt⟩

end Hits

/-! ### What keeps its indices -/

variable {editor' : ZoneEditor} {target : Target} {zone : Polygon}

theorem zoneAt_eq_some {zoneIndex : Int} : editor.zoneAt zoneIndex = some zone ↔
    (zoneIndex = -1 ∧ editor.currentZone = zone) ∨
      ∃ z : Nat, zoneIndex = z ∧ editor.completedZones[z]? = some zone := by
  constructor
  · intro h
    by_cases hindex : zoneIndex = -1
    · rw [hindex, zoneAt_current] at h
      exact .inl ⟨hindex, Option.some.inj h⟩
    · rw [zoneAt, if_neg hindex] at h
      obtain ⟨z, hz, hzone⟩ := Option.bind_eq_some_iff.mp h
      exact .inr ⟨z, Int.mem_toNat?.mp hz, hzone⟩
  · rintro (⟨rfl, rfl⟩ | ⟨z, rfl, hzone⟩)
    · exact zoneAt_current
    · rw [zoneAt_natCast, hzone]

@[simp] theorem putZone_current : editor.putZone (-1) zone = { editor with currentZone := zone } :=
  rfl

@[simp] theorem putZone_natCast (z : Nat) : editor.putZone (z : Int) zone =
    { editor with completedZones := editor.completedZones.set z zone } := by
  have hne : (z : Int) ≠ -1 := by omega
  rw [putZone, if_neg hne, Int.toNat_natCast]

/-- A vertex keeps its indices while zones are only added, and vertices only to its own. -/
theorem Designates.later (h : editor.Designates target)
    (hcurrent : target.zoneIndex = -1 →
      editor.currentZone.length ≤ editor'.currentZone.length)
    (hcompleted : editor.completedZones <+: editor'.completedZones) :
    editor'.Designates target := by
  obtain ⟨zone, hzone, hlt⟩ := h
  rcases zoneAt_eq_some.mp hzone with ⟨hindex, rfl⟩ | ⟨z, hindex, hzone⟩
  · refine ⟨editor'.currentZone, by rw [hindex, zoneAt_current], ?_⟩
    have hle := hcurrent hindex
    omega
  · obtain ⟨more, hmore⟩ := hcompleted
    obtain ⟨hbound, -⟩ := List.getElem?_eq_some_iff.mp hzone
    refine ⟨zone, ?_, hlt⟩
    rw [hindex, zoneAt_natCast, ← hmore, List.getElem?_append_left hbound, hzone]

theorem not_designates (hindex : target.zoneIndex = -1) (hempty : editor.currentZone = []) :
    ¬ editor.Designates target := by
  rintro ⟨zone, hzone, hlt⟩
  rw [hindex, zoneAt_current, hempty] at hzone
  obtain rfl := Option.some.inj hzone
  exact Nat.not_lt_zero _ hlt

theorem putZone_self {zoneIndex : Int} (h : editor.zoneAt zoneIndex = some zone) :
    editor.putZone zoneIndex zone = editor := by
  rcases zoneAt_eq_some.mp h with ⟨rfl, rfl⟩ | ⟨z, rfl, hzone⟩
  · rfl
  · obtain ⟨hbound, rfl⟩ := List.getElem?_eq_some_iff.mp hzone
    simp

/-- Moving a vertex keeps the editor sound, given that the zone is still valid. -/
theorem Sound.putZone {moved : Polygon} (h : editor.Sound)
    (hzone : editor.zoneAt target.zoneIndex = some zone) (htarget : target ∈ editor.dragTarget)
    (hmoved : moved.InUnit) (hlength : moved.length = zone.length)
    (hvalid : isValidPolygon moved = .ok true) :
    (editor.putZone target.zoneIndex moved).Sound := by
  have hlt : target.pointIndex < moved.length := by
    obtain ⟨zone', hzone', hlt⟩ := h.dragTarget target htarget
    obtain rfl := Option.some.inj (hzone.symm.trans hzone')
    rwa [hlength]
  rcases zoneAt_eq_some.mp hzone with ⟨hindex, rfl⟩ | ⟨z, hindex, hzone⟩
  · -- the zone being drawn
    rw [hindex, putZone_current]
    refine ⟨?_, hmoved, h.completedZones, h.complete⟩
    intro other hother
    obtain rfl := Option.mem_unique hother htarget
    exact ⟨moved, by rw [hindex, zoneAt_current], hlt⟩
  · -- a completed one: still three vertices, and valid by assumption
    obtain ⟨hbound, rfl⟩ := List.getElem?_eq_some_iff.mp hzone
    have hthree := (h.complete _ (List.getElem_mem hbound)).three_le
    rw [hindex, putZone_natCast]
    refine ⟨?_, h.currentZone, ?_, ?_⟩
    · intro other hother
      obtain rfl := Option.mem_unique hother htarget
      exact ⟨moved, by simp [hindex, hbound], hlt⟩
    · intro other hother
      rcases List.mem_or_eq_of_mem_set hother with hother | rfl
      · exact h.completedZones other hother
      · exact hmoved
    · intro other hother
      rcases List.mem_or_eq_of_mem_set hother with hother | rfl
      · exact h.complete other hother
      · exact ⟨by omega, hvalid⟩

/-! ### One event -/

variable {canvas : Canvas} {offsetX offsetY : ℚ}

theorem Sound.render_ok (h : editor.Sound) : editor.render = .ok () :=
  ZoneEditor.render_ok h.currentZone h.completedZones

/-- The promise of one event: nothing missing is read, and the state left is sound. -/
def Goes (handled : Handled) : Prop :=
  handled.1 = .ok () ∧ handled.2.Sound

theorem goes_rendered : Goes (rendered editor) ↔ editor.Sound := by
  constructor
  · exact fun h => h.2
  · exact fun h => ⟨h.render_ok, h⟩

theorem normalized_inUnit :
    (Vertex.point (canvas.getNormalizedCoordinates offsetX offsetY)).InUnit := by
  refine ⟨_, rfl, ?_⟩
  simp [Canvas.getNormalizedCoordinates]

theorem onMouseDown_goes (h : editor.Sound) : Goes (editor.onMouseDown canvas offsetX offsetY) := by
  obtain ⟨hit, hhit, hdesignates⟩ := getHitTarget_ok canvas offsetX offsetY h.currentZone h.completedZones
  unfold onMouseDown
  rw [hhit]
  cases hit with
  | some hit =>
    refine ⟨rfl, ?_, h.currentZone, h.completedZones, h.complete⟩
    intro target htarget
    obtain rfl := Option.some.inj htarget
    exact hdesignates hit rfl
  | none =>
    by_cases hmode : editor.isDrawingMode = true
    · simp only [hmode, if_true]
      refine goes_rendered.mpr ⟨?_, h.currentZone.concat normalized_inUnit, h.completedZones,
        h.complete⟩
      intro target htarget
      exact (h.dragTarget target htarget).later (fun _ => by simp) List.prefix_rfl
    · simp only [hmode]
      exact ⟨rfl, h⟩

theorem dragVertex_goes (h : editor.Sound) (htarget : target ∈ editor.dragTarget) :
    Goes (editor.dragVertex canvas offsetX offsetY target) := by
  obtain ⟨zone, hzone, hlt⟩ := h.dragTarget target htarget
  have hunit : zone.InUnit := by
    rcases zoneAt_eq_some.mp hzone with ⟨-, rfl⟩ | ⟨z, -, hzone⟩
    · exact h.currentZone
    · exact h.completedZones zone (List.mem_of_getElem? hzone)
  have hmoved : Polygon.InUnit (zone.set target.pointIndex
      (.point (canvas.getNormalizedCoordinates offsetX offsetY))) := hunit.set normalized_inUnit
  obtain ⟨valid, hvalid⟩ := isValidPolygon_ok hmoved
  unfold dragVertex
  simp only [hzone, Polygon.assign_of_lt hlt, hvalid]
  cases valid with
  | true =>
    have hsound := h.putZone hzone htarget hmoved List.length_set hvalid
    exact goes_rendered.mpr ⟨hsound.dragTarget, hsound.currentZone, hsound.completedZones,
      hsound.complete⟩
  | false =>
    simp only [Polygon.assign_spread hunit hlt, putZone_self hzone]
    exact goes_rendered.mpr ⟨h.dragTarget, h.currentZone, h.completedZones, h.complete⟩

theorem Sound.redraw_ok (h : editor.Sound) :
    (do editor.render
        if editor.isDrawingMode then editor.drawGuideLine) = Except.ok () := by
  rw [h.render_ok]
  split
  · exact drawGuideLine_ok h.currentZone
  · rfl

theorem hover_goes (h : editor.Sound) : Goes (editor.hover canvas offsetX offsetY) := by
  obtain ⟨hit, hhit, -⟩ := getHitTarget_ok canvas offsetX offsetY h.currentZone h.completedZones
  unfold hover
  rw [hhit]
  have hsound : Sound { editor with
      hoverTarget := hit
      cursor := if hit.isSome then .grab else editor.restingCursor } :=
    ⟨h.dragTarget, h.currentZone, h.completedZones, h.complete⟩
  exact ⟨hsound.redraw_ok, hsound⟩

theorem onMouseMove_goes (h : editor.Sound) : Goes (editor.onMouseMove canvas offsetX offsetY) := by
  unfold onMouseMove
  cases htarget : editor.dragTarget with
  | none => exact hover_goes h
  | some target => exact dragVertex_goes h htarget

theorem onMouseUp_goes (h : editor.Sound) : Goes editor.onMouseUp :=
  ⟨rfl, by simp [onMouseUp], h.currentZone, h.completedZones, h.complete⟩

theorem startDrawingMode_goes (h : editor.Sound) : Goes editor.startDrawingMode :=
  goes_rendered.mpr ⟨h.dragTarget, h.currentZone, h.completedZones, h.complete⟩

/-- With the zone being drawn given up, a drag of one of its vertices has lost its vertex. -/
theorem Sound.emptied_iff (h : editor.Sound) (hempty : editor'.currentZone = [])
    (hdrag : editor'.dragTarget = editor.dragTarget)
    (hkept : editor.completedZones <+: editor'.completedZones)
    (hzones : ∀ zone ∈ editor'.completedZones, zone.InUnit ∧ Complete zone) :
    editor'.Sound ↔ ¬ editor.DragsCurrentZone := by
  constructor
  · rintro hsound ⟨target, htarget, hindex⟩
    rw [← hdrag] at htarget
    exact not_designates hindex hempty (hsound.dragTarget target htarget)
  · intro hdrags
    refine ⟨?_, by simp [hempty, Polygon.InUnit], fun zone hzone => (hzones zone hzone).1,
      fun zone hzone => (hzones zone hzone).2⟩
    intro target htarget
    rw [hdrag] at htarget
    refine (h.dragTarget target htarget).later (fun hindex => ?_) hkept
    exact absurd ⟨target, htarget, hindex⟩ hdrags

theorem stopDrawingMode_goes_iff (h : editor.Sound) :
    Goes editor.stopDrawingMode ↔ ¬ editor.DragsCurrentZone := by
  rw [stopDrawingMode, goes_rendered]
  exact h.emptied_iff rfl rfl List.prefix_rfl
    fun zone hzone => ⟨h.completedZones zone hzone, h.complete zone hzone⟩

theorem clearAll_goes_iff : Goes editor.clearAll ↔ editor.dragTarget = none := by
  rw [clearAll, goes_rendered]
  constructor
  · intro hsound
    by_contra hdrag
    obtain ⟨target, htarget⟩ := Option.ne_none_iff_exists'.mp hdrag
    obtain ⟨zone, hzone, hlt⟩ := hsound.dragTarget target htarget
    rcases zoneAt_eq_some.mp hzone with ⟨-, rfl⟩ | ⟨z, -, hzone⟩
    · exact Nat.not_lt_zero _ hlt
    · simp at hzone
  · intro hdrag
    exact ⟨by simp [hdrag], by simp [Polygon.InUnit], by simp, by simp⟩

theorem onContextMenu_goes_iff (h : editor.Sound) :
    Goes editor.onContextMenu ↔ ¬ (editor.ClosesZone ∧ editor.DragsCurrentZone) := by
  have hkept : ¬ editor.ClosesZone →
      (Goes (.ok (), editor) ↔ ¬ (editor.ClosesZone ∧ editor.DragsCurrentZone)) := by
    intro hcloses
    exact ⟨fun _ hboth => hcloses hboth.1, fun _ => ⟨rfl, h⟩⟩
  unfold onContextMenu closeCurrentZone
  by_cases hmode : editor.isDrawingMode = true
  · rw [if_pos hmode]
    by_cases hlength : editor.currentZone.length < 3
    · rw [if_pos hlength]
      refine hkept fun hcloses => ?_
      have hthree := hcloses.2.three_le
      omega
    · rw [if_neg hlength]
      obtain ⟨valid, hvalid⟩ := isValidPolygon_ok h.currentZone
      rw [hvalid]
      cases valid with
      | false =>
        refine hkept fun hcloses => ?_
        simpa using hvalid.symm.trans hcloses.2.valid
      | true =>
        have hcomplete : Complete editor.currentZone := ⟨by omega, hvalid⟩
        have hcloses : editor.ClosesZone := ⟨hmode, hcomplete⟩
        -- the zone is emptied, so the drag must not be of one of its points
        rw [goes_rendered, and_iff_right hcloses]
        refine h.emptied_iff rfl rfl (List.prefix_append _ _) fun zone hzone => ?_
        rcases List.mem_append.mp hzone with hzone | hzone
        · exact ⟨h.completedZones zone hzone, h.complete zone hzone⟩
        · rw [List.mem_singleton.mp hzone]
          exact ⟨h.currentZone, hcomplete⟩
  · rw [if_neg hmode]
    exact hkept fun hcloses => hmode hcloses.1

end ZoneEditor

/-- The step lemma: from a sound state, an event goes well exactly when it does not take away the
vertex being dragged. -/
theorem handle_goes_iff {canvas : Canvas} {event : Event} {editor : ZoneEditor}
    (h : editor.Sound) :
    ¬ Disrupts event editor ↔ ZoneEditor.Goes (canvas.handle event editor) := by
  cases event with
  | mousedown => exact iff_of_true not_false (ZoneEditor.onMouseDown_goes h)
  | mousemove => exact iff_of_true not_false (ZoneEditor.onMouseMove_goes h)
  | mouseup => exact iff_of_true not_false (ZoneEditor.onMouseUp_goes h)
  | contextmenu => exact (ZoneEditor.onContextMenu_goes_iff h).symm
  | startDrawingMode => exact iff_of_true not_false (ZoneEditor.startDrawingMode_goes h)
  | stopDrawingMode => exact (ZoneEditor.stopDrawingMode_goes_iff h).symm
  | clearAll => exact not_not.trans ZoneEditor.clearAll_goes_iff.symm

/-! ### Whole runs -/

/-- The state after the event. -/
def Canvas.after (canvas : Canvas) (event : Event) (editor : ZoneEditor) : ZoneEditor :=
  (canvas.handle event editor).2

/-- Every state of the run is sound, and no handler reads what is not there. -/
def Canvas.StaysSound (canvas : Canvas) (events : List Event) : Prop :=
  Always canvas.after .new events ZoneEditor.Sound ∧
    EachStep canvas.after .new events fun event editor => (canvas.handle event editor).1 = .ok ()

/-- The editor stays sound over a run exactly when no event of the run takes away a vertex that is
being dragged. -/
theorem staysSound_iff (canvas : Canvas) (events : List Event) :
    canvas.StaysSound events ↔
      EachStep canvas.after .new events fun event editor => ¬ Disrupts event editor :=
  always_iff ZoneEditor.Sound.new (fun _ _ hsound => handle_goes_iff hsound) events

/-- A square canvas. -/
def hundredPixels : Canvas where
  width := 100
  height := 100
  width_pos := by decide
  height_pos := by decide

/-- A triangle is drawn and closed; the canvas is cleared while its first vertex is held. -/
def clearedWhileHeld : List Event :=
  [.startDrawingMode, .mousedown 10 10, .mousedown 60 10, .mousedown 10 60, .contextmenu,
    .mousedown 10 10, .clearAll]

/-- The vertex held is gone, and the next movement of the mouse looks for it. -/
theorem cleared_drag_dangles : ¬ hundredPixels.StaysSound clearedWhileHeld ∧
    (hundredPixels.handle (.mousemove 20 20)
      (run hundredPixels.after .new clearedWhileHeld)).1 = .error .typeError := by
  have hlast : run hundredPixels.after .new clearedWhileHeld =
      { ZoneEditor.new with
        isDrawingMode := true
        dragTarget := some ⟨0, 0⟩
        cursor := .crosshair } := by
    decide +kernel
  constructor
  · rintro ⟨halways, -⟩
    obtain ⟨zone, hzone, -⟩ := (hlast ▸ halways clearedWhileHeld List.prefix_rfl).dragTarget _ rfl
    have hnone : none = some zone := hzone
    exact absurd hnone (by simp)
  · rw [hlast]
    rfl

end Ods.B6
