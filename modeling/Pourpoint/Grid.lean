import Pourpoint.Exec
import Mathlib.Data.List.GetD
import Mathlib.Data.Rat.Floor

/-!
# Raster grids

Grid coordinates, the affine geo-transform, boolean masks and raster tiles. Native coordinates are
exact rationals; a mask and a tile carry the length of their row-major data.

A geo-transform with a zero pixel size has no fractional pixel coordinates: the source divides by
it and gets an infinity or a NaN, here `coordToPixelF64` gives `none`.
-/

namespace Pourpoint

/-! ## Coordinates -/

/-- A cell position in raster grid space. -/
structure GridCoord where
  row : ℕ
  col : ℕ
  deriving DecidableEq, Repr

/-- Grid dimensions. -/
structure GridDims where
  rows : ℕ
  cols : ℕ
  deriving DecidableEq, Repr

/-- The cell is on the grid. -/
def GridDims.Mem (dims : GridDims) (cell : GridCoord) : Prop :=
  cell.row < dims.rows ∧ cell.col < dims.cols

instance (dims : GridDims) (cell : GridCoord) : Decidable (dims.Mem cell) :=
  inferInstanceAs (Decidable (_ ∧ _))

/-- A coordinate in the native units of a raster. -/
@[ext] structure NativeCoord where
  x : ℚ
  y : ℚ
  deriving DecidableEq, Repr

/-! ## Geo-transforms -/

/-- Affine transform without rotation: the top-left corner and the pixel steps. -/
structure GeoTransform where
  originX : ℚ
  originY : ℚ
  pixelWidth : ℚ
  pixelHeight : ℚ
  deriving DecidableEq, Repr

namespace GeoTransform

/-- Columns grow eastwards and rows grow southwards. -/
def NorthUp (geo : GeoTransform) : Prop := 0 < geo.pixelWidth ∧ geo.pixelHeight < 0

instance (geo : GeoTransform) : Decidable geo.NorthUp := inferInstanceAs (Decidable (_ ∧ _))

/-- The native coordinates of a pixel centre. -/
def pixelToCoord (geo : GeoTransform) (cell : GridCoord) : NativeCoord where
  x := geo.originX + (cell.col + 1 / 2) * geo.pixelWidth
  y := geo.originY + (cell.row + 1 / 2) * geo.pixelHeight

/-- Fractional pixel coordinates `(row, col)`, when they are finite. -/
def coordToPixelF64 (geo : GeoTransform) (coord : NativeCoord) : Option (ℚ × ℚ) :=
  if geo.pixelWidth = 0 ∨ geo.pixelHeight = 0 then none
  else some ((coord.y - geo.originY) / geo.pixelHeight, (coord.x - geo.originX) / geo.pixelWidth)

end GeoTransform

/-! Pixel corners and centres interleave. -/

theorem natCast_le_add_half (n m : ℕ) : (n : ℚ) ≤ m + 1 / 2 ↔ n ≤ m := by
  constructor
  · intro h
    have : (n : ℚ) < (m + 1 : ℕ) := by push_cast; linarith
    exact Nat.lt_succ_iff.1 (Nat.cast_lt.1 this)
  · intro h
    have : (n : ℚ) ≤ m := by exact_mod_cast h
    linarith

theorem natCast_lt_add_half (n m : ℕ) : (n : ℚ) < m + 1 / 2 ↔ n ≤ m := by
  constructor
  · intro h
    exact (natCast_le_add_half n m).1 h.le
  · intro h
    have : (n : ℚ) ≤ m := by exact_mod_cast h
    linarith

/-! ## Row-major data -/

/-- The position of a cell in row-major data with `cols` columns. -/
def GridCoord.index (cell : GridCoord) (cols : ℕ) : ℕ := cell.row * cols + cell.col

theorem GridCoord.index_lt {dims : GridDims} {cell : GridCoord} (h : dims.Mem cell) :
    cell.index dims.cols < dims.rows * dims.cols := by
  obtain ⟨hr, hc⟩ := h
  calc cell.row * dims.cols + cell.col
      < cell.row * dims.cols + dims.cols := by omega
    _ = (cell.row + 1) * dims.cols := by ring
    _ ≤ dims.rows * dims.cols := Nat.mul_le_mul_right _ hr

theorem GridCoord.index_div {cell : GridCoord} {cols : ℕ} (h : cell.col < cols) :
    cell.index cols / cols = cell.row := by
  unfold GridCoord.index
  rw [Nat.mul_comm, Nat.mul_add_div (by omega), Nat.div_eq_of_lt h, Nat.add_zero]

theorem GridCoord.index_mod {cell : GridCoord} {cols : ℕ} (h : cell.col < cols) :
    cell.index cols % cols = cell.col := by
  unfold GridCoord.index
  rw [Nat.mul_comm, Nat.mul_add_mod, Nat.mod_eq_of_lt h]

theorem GridCoord.index_injective {dims : GridDims} {a b : GridCoord} (ha : dims.Mem a)
    (hb : dims.Mem b) (h : a.index dims.cols = b.index dims.cols) : a = b := by
  have hr : a.row = b.row := by rw [← a.index_div ha.2, h, b.index_div hb.2]
  have hc : a.col = b.col := by rw [← a.index_mod ha.2, h, b.index_mod hb.2]
  cases a
  cases b
  simp_all

/-- The cell at a row-major position. -/
def GridDims.cellAt (dims : GridDims) (i : ℕ) : GridCoord := ⟨i / dims.cols, i % dims.cols⟩

theorem GridDims.cellAt_mem {dims : GridDims} {i : ℕ} (h : i < dims.rows * dims.cols) :
    dims.Mem (dims.cellAt i) := by
  have hpos : 0 < dims.cols := by
    rcases Nat.eq_zero_or_pos dims.cols with h0 | h0
    · simp [h0] at h
    · exact h0
  exact ⟨Nat.div_lt_of_lt_mul (by rwa [Nat.mul_comm]), Nat.mod_lt _ hpos⟩

theorem GridDims.index_cellAt (dims : GridDims) (i : ℕ) : (dims.cellAt i).index dims.cols = i := by
  unfold GridDims.cellAt GridCoord.index
  rw [Nat.mul_comm]
  exact Nat.div_add_mod i dims.cols

theorem GridDims.cellAt_index {dims : GridDims} {cell : GridCoord} (h : dims.Mem cell) :
    dims.cellAt (cell.index dims.cols) = cell := by
  unfold GridDims.cellAt
  rw [cell.index_div h.2, cell.index_mod h.2]

/-! ## Masks -/

/-- A boolean mask over a grid. -/
structure CatchmentMask where
  data : List Bool
  rows : ℕ
  cols : ℕ
  length_eq : data.length = rows * cols
  deriving DecidableEq

namespace CatchmentMask

def dims (mask : CatchmentMask) : GridDims := ⟨mask.rows, mask.cols⟩

/-- Whether a cell is in the mask. The source indexes the data and panics past its end; every caller
asks for a cell of the grid. -/
def contains (mask : CatchmentMask) (cell : GridCoord) : Bool :=
  mask.data.getD (cell.index mask.cols) false

/-- `CatchmentMask::new` and `from_traced`: both assert the length of the data. -/
def new (data : List Bool) (dims : GridDims) : Exec CatchmentMask :=
  if h : data.length = dims.rows * dims.cols then .ok ⟨data, dims.rows, dims.cols, h⟩
  else .error .assertion

theorem new_eq_ok {data : List Bool} {dims : GridDims} (h : data.length = dims.rows * dims.cols) :
    new data dims = .ok ⟨data, dims.rows, dims.cols, h⟩ := dif_pos h

theorem eq_data {mask : CatchmentMask} {data : List Bool}
    (hlen : data.length = mask.rows * mask.cols)
    (h : ∀ cell, mask.dims.Mem cell → data.getD (cell.index mask.cols) false = mask.contains cell) :
    data = mask.data := by
  refine List.ext_getElem (by rw [hlen, mask.length_eq]) fun i hi hi' => ?_
  have hmem : mask.dims.Mem (mask.dims.cellAt i) := GridDims.cellAt_mem (by rwa [hlen] at hi)
  have hidx : (mask.dims.cellAt i).index mask.cols = i := mask.dims.index_cellAt i
  have := h _ hmem
  rwa [contains, hidx, List.getD_eq_getElem _ _ hi, List.getD_eq_getElem _ _ hi'] at this

end CatchmentMask

end Pourpoint
