import Mathlib.Algebra.Order.Field.Rat
import Mathlib.Data.List.Basic

/-!
# Polygons and their validation

`PolygonValidator.isValidPolygon` compares every two edges of the closed polygon that share no
vertex. The coordinates are exact.

An entry of an array of points need not hold a point. It is `undefined` where nothing was assigned,
and reading a coordinate of it throws. It is `{}` where a vertex that did not exist was copied; its
coordinates are `undefined`, and what is computed from them is `NaN`, which is neither zero nor
positive.
-/

namespace Ods.B6

/-- `Point`. -/
structure Point where
  x : ℚ
  y : ℚ
deriving DecidableEq

/-- What an entry of an array of points holds. -/
inductive Vertex where
  | undefined
  | emptyObject
  | point (position : Point)
deriving DecidableEq

/-- What is thrown when a property of `undefined` is read. -/
inductive TypeError where
  | typeError
deriving DecidableEq

/-- An array of points. -/
abbrev Polygon := List Vertex

namespace Polygon

/-- `points[index]`. -/
def vertexAt (points : Polygon) (index : Nat) : Vertex :=
  points.getD index .undefined

/-- `points[index] = vertex`. Past the end the array grows, with nothing in between. -/
def assign (points : Polygon) (index : Nat) (vertex : Vertex) : Polygon :=
  (points ++ List.replicate (index + 1 - points.length) Vertex.undefined).set index vertex

end Polygon

namespace Vertex

/-- `{ ...vertex }`. -/
def spread : Vertex → Vertex
  | .undefined => .emptyObject
  | vertex => vertex

/-- The coordinates `vertex.x` and `vertex.y`, where there are any. -/
def read : Vertex → Except TypeError (Option Point)
  | .undefined => .error .typeError
  | .emptyObject => .ok none
  | .point position => .ok (some position)

end Vertex

namespace PolygonValidator

/-- `orientation`. -/
def orientation (p q r : Vertex) : Except TypeError Nat := do
  let p ← p.read
  let q ← q.read
  let r ← r.read
  match p, q, r with
  | some p, some q, some r =>
    let val := (q.y - p.y) * (r.x - q.x) - (q.x - p.x) * (r.y - q.y)
    return if val = 0 then 0 else if val > 0 then 1 else 2
  | _, _, _ => return 2

/-- `doIntersect`. -/
def doIntersect (p₁ q₁ p₂ q₂ : Vertex) : Except TypeError Bool := do
  let o₁ ← orientation p₁ q₁ p₂
  let o₂ ← orientation p₁ q₁ q₂
  let o₃ ← orientation p₂ q₂ p₁
  let o₄ ← orientation p₂ q₂ q₁
  return o₁ ≠ o₂ ∧ o₃ ≠ o₄

/-- The pairs the two loops of `isValidPolygon` go through, the skipped one left out. -/
def edgePairs (n : Nat) : List (Nat × Nat) :=
  (List.range n).flatMap fun i =>
    ((List.range' (i + 2) (n - (i + 2))).filter fun j => !(i = 0 && j = n - 1)).map fun j => (i, j)

/-- The body of the loops: the first pair of edges that meet ends them. -/
def allApart (points : Polygon) : List (Nat × Nat) → Except TypeError Bool
  | [] => .ok true
  | (i, j) :: pairs => do
    let n := points.length
    if ← doIntersect (points.vertexAt i) (points.vertexAt ((i + 1) % n)) (points.vertexAt j)
        (points.vertexAt ((j + 1) % n)) then
      return false
    else allApart points pairs

/-- `isValidPolygon`. -/
def isValidPolygon (points : Polygon) : Except TypeError Bool :=
  if points.length < 4 then .ok true else allApart points (edgePairs points.length)

end PolygonValidator

/-! ### Where every entry is a point -/

/-- A point with both coordinates in `[0, 1]`. -/
def Vertex.InUnit (vertex : Vertex) : Prop :=
  ∃ point, vertex = .point point ∧ 0 ≤ point.x ∧ point.x ≤ 1 ∧ 0 ≤ point.y ∧ point.y ≤ 1

namespace Polygon

/-- Every entry is a point in the unit square. -/
def InUnit (points : Polygon) : Prop :=
  ∀ vertex ∈ points, vertex.InUnit

variable {points : Polygon} {index : Nat} {vertex : Vertex}

theorem vertexAt_eq_getElem (h : index < points.length) :
    points.vertexAt index = points[index] := by
  simp [vertexAt, h]

theorem InUnit.vertexAt (hpoints : points.InUnit) (h : index < points.length) :
    (points.vertexAt index).InUnit := by
  rw [vertexAt_eq_getElem h]
  exact hpoints _ (List.getElem_mem h)

@[simp] theorem assign_of_lt (h : index < points.length) :
    points.assign index vertex = points.set index vertex := by
  have hfits : index + 1 - points.length = 0 := by omega
  simp [assign, hfits]

theorem InUnit.set (hpoints : points.InUnit) (hvertex : vertex.InUnit) :
    InUnit (points.set index vertex) := by
  intro other hother
  rcases List.mem_or_eq_of_mem_set hother with hother | rfl
  · exact hpoints other hother
  · exact hvertex

theorem InUnit.concat (hpoints : points.InUnit) (hvertex : vertex.InUnit) :
    InUnit (points ++ [vertex]) := by
  intro other hother
  rcases List.mem_append.mp hother with hother | hother
  · exact hpoints other hother
  · rwa [List.mem_singleton.mp hother]

/-- Moving a vertex and moving it back leaves the array as it was. -/
theorem assign_spread (hpoints : points.InUnit) (h : index < points.length) (moved : Vertex) :
    assign (points.set index moved) index (points.vertexAt index).spread = points := by
  obtain ⟨point, hpoint, -⟩ := hpoints.vertexAt h
  have hlength : index < (points.set index moved).length := by simpa using h
  rw [assign_of_lt hlength, hpoint, Vertex.spread, ← hpoint, vertexAt_eq_getElem h]
  · simp
  · simp

end Polygon

namespace PolygonValidator

theorem doIntersect_ok {p₁ q₁ p₂ q₂ : Vertex} (hp₁ : p₁.InUnit) (hq₁ : q₁.InUnit)
    (hp₂ : p₂.InUnit) (hq₂ : q₂.InUnit) : ∃ meets, doIntersect p₁ q₁ p₂ q₂ = .ok meets := by
  obtain ⟨p₁, rfl, -⟩ := hp₁
  obtain ⟨q₁, rfl, -⟩ := hq₁
  obtain ⟨p₂, rfl, -⟩ := hp₂
  obtain ⟨q₂, rfl, -⟩ := hq₂
  exact ⟨_, rfl⟩

theorem lt_of_mem_edgePairs {n i j : Nat} (h : (i, j) ∈ edgePairs n) : i < n ∧ j < n := by
  simp only [edgePairs, List.mem_flatMap, List.mem_range, List.mem_map, List.mem_filter,
    List.mem_range'_1] at h
  obtain ⟨i', hi', j', ⟨hj', -⟩, heq⟩ := h
  obtain ⟨rfl, rfl⟩ := Prod.mk.inj heq
  omega

theorem allApart_ok {points : Polygon} (hpoints : points.InUnit) {pairs : List (Nat × Nat)}
    (hpairs : ∀ pair ∈ pairs, pair.1 < points.length ∧ pair.2 < points.length) :
    ∃ valid, allApart points pairs = .ok valid := by
  induction pairs with
  | nil => exact ⟨true, rfl⟩
  | cons pair pairs ih =>
    obtain ⟨i, j⟩ := pair
    obtain ⟨hi, hj⟩ := hpairs (i, j) List.mem_cons_self
    have hpos : 0 < points.length := by omega
    obtain ⟨valid, hrest⟩ := ih fun pair hpair => hpairs pair (List.mem_cons_of_mem _ hpair)
    obtain ⟨meets, hmeets⟩ := doIntersect_ok (hpoints.vertexAt hi)
      (hpoints.vertexAt (Nat.mod_lt (i + 1) hpos)) (hpoints.vertexAt hj)
      (hpoints.vertexAt (Nat.mod_lt (j + 1) hpos))
    refine ⟨if meets then false else valid, ?_⟩
    simp only [allApart, hmeets, hrest]
    cases meets <;> rfl

/-- The validation of points does not throw. -/
theorem isValidPolygon_ok {points : Polygon} (hpoints : points.InUnit) :
    ∃ valid, isValidPolygon points = .ok valid := by
  unfold isValidPolygon
  split
  · exact ⟨true, rfl⟩
  · exact allApart_ok hpoints fun pair hpair => lt_of_mem_edgePairs hpair

end PolygonValidator

end Ods.B6
