import Pourpoint.Machine

/-!
# Well-known binary

Polygons and multi-polygons as little-endian well-known binary, with a position as the bits of its two
doubles. What is written is read back in front of any bytes, where the counts fit into 32 bits and the
ordinates into 64 (`readMultiPolygon_write`).
-/

namespace Pourpoint.Wkb

/-- The bits of the two ordinates. -/
abbrev Position := ℕ × ℕ

/-! ## Writing -/

/-- Two doubles, the low byte first. -/
def writePosition (position : Position) : List UInt8 :=
  toLeBytes 8 position.1 ++ toLeBytes 8 position.2

/-- A list after its length. -/
def writeCounted {α : Type} (write : α → List UInt8) (values : List α) : List UInt8 :=
  toLeBytes 4 values.length ++ values.flatMap write

/-- The byte order, the type of the geometry, and its body. -/
def writeTagged {α : Type} (tag : ℕ) (write : α → List UInt8) (value : α) : List UInt8 :=
  1 :: (toLeBytes 4 tag ++ write value)

/-- A polygon is its rings, the exterior first. -/
def writePolygon : List (List Position) → List UInt8 :=
  writeTagged 3 (writeCounted (writeCounted writePosition))

/-- A multi-polygon with its header. -/
def writeMultiPolygon : List (List (List Position)) → List UInt8 :=
  writeTagged 6 (writeCounted writePolygon)

/-! ## Reading -/

/-- A position, and what follows it. -/
def readPosition (bytes : List UInt8) : Option (Position × List UInt8) := do
  let (x, bytes) ← readLe 8 bytes
  let (y, bytes) ← readLe 8 bytes
  some ((x, y), bytes)

section

variable {α : Type}

/-- A number of items. -/
def readMany (read : List UInt8 → Option (α × List UInt8)) :
    ℕ → List UInt8 → Option (List α × List UInt8)
  | 0, bytes => some ([], bytes)
  | count + 1, bytes => do
    let (value, bytes) ← read bytes
    let (values, bytes) ← readMany read count bytes
    some (value :: values, bytes)

/-- A count, and that many items. -/
def readCounted (read : List UInt8 → Option (α × List UInt8)) (bytes : List UInt8) :
    Option (List α × List UInt8) := do
  let (count, bytes) ← readLe 4 bytes
  readMany read count bytes

/-- The body of a little-endian geometry of the type. -/
def readTagged (tag : ℕ) (read : List UInt8 → Option (α × List UInt8)) :
    List UInt8 → Option (α × List UInt8)
  | 1 :: bytes => do
    let (found, bytes) ← readLe 4 bytes
    if found = tag then read bytes else none
  | _ => none

end

/-- A polygon with its header. -/
def readPolygon : List UInt8 → Option (List (List Position) × List UInt8) :=
  readTagged 3 (readCounted (readCounted readPosition))

/-- A multi-polygon with its header. -/
def readMultiPolygon : List UInt8 → Option (List (List (List Position)) × List UInt8) :=
  readTagged 6 (readCounted readPolygon)

/-! ## Round trip -/

/-- What is written of the value is read back, in front of any bytes. -/
def RoundTrips {α : Type} (read : List UInt8 → Option (α × List UInt8)) (write : α → List UInt8)
    (value : α) : Prop :=
  ∀ rest, read (write value ++ rest) = some (value, rest)

theorem roundTrips_position {position : Position} (hx : position.1 < 2 ^ 64) (hy : position.2 < 2 ^ 64) :
    RoundTrips readPosition writePosition position := by
  have hwidth : (2 : ℕ) ^ 64 = 256 ^ 8 := by norm_num
  intro rest
  rw [readPosition, writePosition, List.append_assoc, readLe_toLeBytes (hwidth ▸ hx)]
  simp only [Option.bind_eq_bind, Option.bind_some, readLe_toLeBytes (hwidth ▸ hy)]

section

variable {α : Type} {read : List UInt8 → Option (α × List UInt8)} {write : α → List UInt8}

theorem readMany_flatMap {values : List α} (h : ∀ value ∈ values, RoundTrips read write value)
    (rest : List UInt8) :
    readMany read values.length (values.flatMap write ++ rest) = some (values, rest) := by
  induction values with
  | nil => rfl
  | cons value values ih =>
    have hfirst := h value List.mem_cons_self
    rw [List.length_cons, readMany, List.flatMap_cons, List.append_assoc, hfirst]
    simp only [Option.bind_eq_bind, Option.bind_some,
      ih fun other hother => h other (List.mem_cons_of_mem _ hother)]

theorem roundTrips_counted {values : List α} (hlength : values.length < 2 ^ 32)
    (h : ∀ value ∈ values, RoundTrips read write value) :
    RoundTrips (readCounted read) (writeCounted write) values := by
  have hwidth : (2 : ℕ) ^ 32 = 256 ^ 4 := by norm_num
  intro rest
  rw [readCounted, writeCounted, List.append_assoc, readLe_toLeBytes (hwidth ▸ hlength)]
  simp only [Option.bind_eq_bind, Option.bind_some, readMany_flatMap h]

theorem roundTrips_tagged {tag : ℕ} (htag : tag < 256) {value : α} (h : RoundTrips read write value) :
    RoundTrips (readTagged tag read) (writeTagged tag write) value := by
  intro rest
  rw [writeTagged, List.cons_append, List.append_assoc, readTagged,
    readLe_toLeBytes (htag.trans (by norm_num))]
  simp only [Option.bind_eq_bind, Option.bind_some, if_true]
  exact h rest

end

/-- The counts of a polygon fit into 32 bits and its ordinates into 64. -/
structure FitsPolygon (rings : List (List Position)) : Prop where
  length : rings.length < 2 ^ 32
  ring : ∀ ring ∈ rings, ring.length < 2 ^ 32
  position : ∀ ring ∈ rings, ∀ position ∈ ring, position.1 < 2 ^ 64 ∧ position.2 < 2 ^ 64

theorem roundTrips_polygon {rings : List (List Position)} (h : FitsPolygon rings) :
    RoundTrips readPolygon writePolygon rings := by
  refine roundTrips_tagged (by norm_num) (roundTrips_counted h.length ?_)
  intro ring hring
  refine roundTrips_counted (h.ring ring hring) ?_
  intro position hposition
  exact roundTrips_position (h.position ring hring position hposition).1
    (h.position ring hring position hposition).2

/-- **A multi-polygon is read back** from what is written of it. -/
theorem readMultiPolygon_write {polygons : List (List (List Position))}
    (hlength : polygons.length < 2 ^ 32) (h : ∀ rings ∈ polygons, FitsPolygon rings)
    (rest : List UInt8) :
    readMultiPolygon (writeMultiPolygon polygons ++ rest) = some (polygons, rest) :=
  roundTrips_tagged (by norm_num)
    (roundTrips_counted hlength fun rings hrings => roundTrips_polygon (h rings hrings)) rest

end Pourpoint.Wkb
