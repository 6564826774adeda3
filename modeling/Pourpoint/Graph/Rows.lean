import Pourpoint.Graph.Reader
import Pourpoint.Library.Success

/-!
# Reading the graph row by row

**Theorem (`readGraph_outcome`).** What a file is read as depends on its schema and its rows, not on
the batches. The first row that is not a unit decides the error, under its number in the file, and
past the schema validation no downcast fails.

`GraphRow.adjacency` says what one row gives by itself. A batch with the columns of the schema is read
as its rows (`readGraphBatch_eq`), and the rows of the batches are numbered through
(`readGraphBatches_eq`).
-/

namespace Pourpoint

open Library

/-! ## The rows of a file -/

/-- The columns of the batch are those of the schema. -/
def GraphBatch.Conforms (batch : GraphBatch) (schema : List GraphField) : Prop :=
  List.Forall₂ (fun column field => column.1 = field.name ∧ column.2.HasType field.dataType)
    batch.columns schema

/-- A list cell as the ids in its buffer. -/
def ListValues.slots : ListValues → List ℤ
  | .int64 slots => slots
  | .other => []

namespace GraphBatch

variable (batch : GraphBatch)

def idCell (i : ℕ) : Option ℤ :=
  match batch.columns.lookup "id" with
  | some (.int64 cells) => cells.getD i none
  | _ => none

def levelCell (i : ℕ) : Option Int16 :=
  match batch.columns.lookup "level" with
  | some (.int16 cells) => cells.getD i none
  | _ => none

def upstreamCell (i : ℕ) : Option (List ℤ) :=
  match batch.columns.lookup "upstream_ids" with
  | some (.list cells) => (cells.getD i none).map ListValues.slots
  | some (.largeList cells) => (cells.getD i none).map ListValues.slots
  | _ => none

def row (i : ℕ) : GraphRow := ⟨batch.idCell i, batch.levelCell i, batch.upstreamCell i⟩

def rows : List GraphRow := (List.range batch.numRows).map batch.row

end GraphBatch

namespace GraphFile

/-- The rows of the batches in order. -/
def rows (file : GraphFile) : List GraphRow :=
  file.batches.flatMap fun batch => batch.elim [] GraphBatch.rows

/-- The batches can be read and have the columns of the schema, and they hold the rows of the row
groups. -/
structure Conforms (file : GraphFile) : Prop where
  batches : ∀ batch ∈ file.batches, ∃ b, batch = some b ∧ b.Conforms file.schema
  rows_eq : file.rows = file.rowGroups.flatMap GraphRowGroup.rows

end GraphFile

/-- The unit of a row by itself, or why it is none. -/
def GraphRow.adjacency (hfx : HfxUnit) (row : GraphRow) : Except String AdjacencyRow := do
  let id ← nonNullCell "id" row.id
  let level ← nonNullCell "level" row.level
  checked s!"invalid unit id {id}" (hfx.unitId id)
  checked s!"invalid level {level.toInt}" (hfx.level level.toInt)
  let slots ← nonNullCell "upstream_ids" row.upstreamIds
  let upstreamIds ← slots.mapM (upstreamId hfx)
  .ok ⟨id, level.toInt, upstreamIds⟩

/-! ## Downcasts -/

/-- A batch has a column of its type for every field of the schema. -/
theorem GraphBatch.Conforms.lookup {batch : GraphBatch} {schema : List GraphField}
    (h : batch.Conforms schema) {name : String} {field : GraphField}
    (hfield : fieldWithName schema name = some field) :
    ∃ array, batch.columns.lookup name = some array ∧ array.HasType field.dataType := by
  unfold GraphBatch.Conforms at h
  generalize batch.columns = columns at h ⊢
  induction h with
  | nil => cases hfield
  | @cons column field' columns schema hhead _ ih =>
    obtain ⟨columnName, array⟩ := column
    obtain ⟨rfl, htype⟩ := hhead
    by_cases hname : field'.name = name
    · simp only [fieldWithName, List.find?_cons, hname, decide_true] at hfield
      obtain rfl := Option.some.inj hfield
      exact ⟨array, by simp [hname], htype⟩
    · have hne : ¬name = field'.name := fun heq => hname heq.symm
      simp only [fieldWithName, List.find?_cons, hname, decide_false] at hfield
      obtain ⟨found, hfound, hfoundType⟩ := ih hfield
      exact ⟨found, by simpa [List.lookup, beq_eq_false_iff_ne.2 hne] using hfound, hfoundType⟩

namespace GraphArray

theorem HasType.eq_int64 {array : GraphArray} (h : array.HasType .int64) :
    ∃ cells, array = int64 cells := by
  cases array with
  | int64 cells => exact ⟨cells, rfl⟩
  | int16 _ => cases h
  | list _ => cases h
  | largeList _ => cases h
  | other _ => cases h

theorem HasType.eq_int16 {array : GraphArray} (h : array.HasType .int16) :
    ∃ cells, array = int16 cells := by
  cases array with
  | int64 _ => cases h
  | int16 cells => exact ⟨cells, rfl⟩
  | list _ => cases h
  | largeList _ => cases h
  | other _ => cases h

/-- A list column of `Int64` has `Int64` values in every cell. -/
theorem HasType.eq_list {array : GraphArray} {dataType : GraphType} (h : array.HasType dataType)
    (hlist : dataType.isListInt64 = true) :
    ∃ cells, (array = list cells ∨ array = largeList cells) ∧
      ∀ values, some values ∈ cells → ∃ slots, values = .int64 slots := by
  have hinner : dataType = .list .int64 ∨ dataType = .largeList .int64 := by
    revert hlist
    unfold GraphType.isListInt64
    split <;> simp
  rcases hinner with rfl | rfl
  · cases array with
    | int64 _ => cases h
    | int16 _ => cases h
    | list cells => exact ⟨cells, Or.inl rfl, h rfl⟩
    | largeList _ => cases h
    | other _ => cases h
  · cases array with
    | int64 _ => cases h
    | int16 _ => cases h
    | list _ => cases h
    | largeList cells => exact ⟨cells, Or.inr rfl, h rfl⟩
    | other _ => cases h

end GraphArray

theorem requireGraphColumn_eq_ok {schema : List GraphField} {name debug : String}
    {expected : GraphType} : requireGraphColumn schema name expected debug = .ok () ↔
      ∃ field, fieldWithName schema name = some field ∧ field.dataType = expected := by
  unfold requireGraphColumn
  cases hfield : fieldWithName schema name with
  | none => simp
  | some field => by_cases htype : field.dataType = expected <;> simp [htype]

theorem requireUpstreamColumn_eq_ok {schema : List GraphField} :
    requireUpstreamColumn schema = .ok () ↔
      ∃ field, fieldWithName schema "upstream_ids" = some field ∧
        field.dataType.isListInt64 = true := by
  unfold requireUpstreamColumn
  cases hfield : fieldWithName schema "upstream_ids" with
  | none => simp
  | some field => by_cases htype : field.dataType.isListInt64 <;> simp [htype]

/-- The three columns that the rows are read from. -/
structure ReadableSchema (schema : List GraphField) : Prop where
  id : ∃ field, fieldWithName schema "id" = some field ∧ field.dataType = .int64
  level : ∃ field, fieldWithName schema "level" = some field ∧ field.dataType = .int16
  upstream : ∃ field, fieldWithName schema "upstream_ids" = some field ∧
    field.dataType.isListInt64 = true

theorem readableSchema_of_validate {schema : List GraphField}
    (h : validateGraphSchema schema = .ok ()) : ReadableSchema schema := by
  unfold validateGraphSchema at h
  obtain ⟨_, hid, h⟩ := bind_eq_ok h
  obtain ⟨_, hlevel, h⟩ := bind_eq_ok h
  obtain ⟨_, hupstream, -⟩ := bind_eq_ok h
  exact ⟨requireGraphColumn_eq_ok.1 hid, requireGraphColumn_eq_ok.1 hlevel,
    requireUpstreamColumn_eq_ok.1 hupstream⟩

/-! ## Reading a batch -/

section batch

variable {hfx : HfxUnit} {schema : List GraphField} {batch : GraphBatch}

theorem atRow_bind {α β : Type} (row : ℕ) (x : Except String α) (f : α → Except String β) :
    atRow row (x >>= f) = atRow row x >>= fun a => atRow row (f a) := by
  cases x <;> rfl

theorem atRow_mapM {α β : Type} (row : ℕ) (f : α → Except String β) (l : List α) :
    atRow row (l.mapM f) = l.mapM fun a => atRow row (f a) := by
  induction l with
  | nil => rfl
  | cons a l ih =>
    rw [List.mapM_cons, List.mapM_cons, atRow_bind, ← ih]
    refine congrArg (atRow row (f a) >>= ·) (funext fun b => ?_)
    rw [atRow_bind]
    rfl

/-- A list cell of a list of `Int64` is read from its buffer. -/
theorem extractList_eq {cells : List (Option ListValues)}
    (htype : ∀ values, some values ∈ cells → ∃ slots, values = .int64 slots) (i row : ℕ) :
    extractList hfx cells i row = atRow row (do
      let slots ← nonNullCell "upstream_ids" ((cells.getD i none).map ListValues.slots)
      slots.mapM (upstreamId hfx)) := by
  rw [atRow_bind, extractList]
  cases hcell : cells.getD i none with
  | none => rfl
  | some values =>
    have hmem : some values ∈ cells := by
      by_cases hi : i < cells.length
      · rw [List.getD_eq_getElem _ _ hi] at hcell
        exact hcell ▸ List.getElem_mem hi
      · rw [List.getD_eq_default _ _ (not_lt.1 hi)] at hcell
        cases hcell
    obtain ⟨slots, rfl⟩ := htype values hmem
    exact (atRow_mapM row (upstreamId hfx) slots).symm

/-- **A row of a batch** is read as the row by itself, and no downcast fails. -/
theorem readGraphBatch_eq (hschema : ReadableSchema schema) (h : batch.Conforms schema) (start : ℕ) :
    readGraphBatch hfx batch start =
      (List.range batch.numRows).mapM fun i => atRow (start + i) ((batch.row i).adjacency hfx) := by
  obtain ⟨field, hfield, htype⟩ := hschema.id
  obtain ⟨field', hfield', htype'⟩ := hschema.level
  obtain ⟨field'', hfield'', hlist⟩ := hschema.upstream
  obtain ⟨idArray, hids, hidType⟩ := h.lookup hfield
  obtain ⟨levelArray, hlevels, hlevelType⟩ := h.lookup hfield'
  obtain ⟨upstream, hupstream, hupstreamType⟩ := h.lookup hfield''
  obtain ⟨ids, rfl⟩ := (htype ▸ hidType).eq_int64
  obtain ⟨levels, rfl⟩ := (htype' ▸ hlevelType).eq_int16
  obtain ⟨cells, harray, hcells⟩ := hupstreamType.eq_list hlist
  have hextract : ∀ i row, extractUpstream hfx upstream i row = atRow row (do
      let slots ← nonNullCell "upstream_ids" (batch.upstreamCell i)
      slots.mapM (upstreamId hfx)) := by
    intro i row
    rcases harray with rfl | rfl
    · rw [extractUpstream, extractList_eq hcells, GraphBatch.upstreamCell, hupstream]
    · rw [extractUpstream, extractList_eq hcells, GraphBatch.upstreamCell, hupstream]
  have hrow : ∀ i, readGraphRow hfx ids levels upstream start i =
      atRow (start + i) ((batch.row i).adjacency hfx) := by
    intro i
    have hid : batch.idCell i = ids.getD i none := by rw [GraphBatch.idCell, hids]
    have hlevel : batch.levelCell i = levels.getD i none := by rw [GraphBatch.levelCell, hlevels]
    simp only [readGraphRow, GraphRow.adjacency, GraphBatch.row, atRow_bind, hextract, hid, hlevel,
      bind_assoc]
    rfl
  rw [readGraphBatch, hids, hlevels, hupstream]
  exact congrArg (List.range batch.numRows).mapM (funext hrow)

end batch

/-! ## Reading a file -/

section file

variable {hfx : HfxUnit} {schema : List GraphField}

theorem zipIdx_map_range {α : Type} (f : ℕ → α) (n start : ℕ) :
    ((List.range n).map f).zipIdx start = (List.range n).map fun i => (f i, start + i) := by
  refine List.ext_getElem (by simp) fun i hi hi' => ?_
  simp

/-- **The batches do not show.** They are read as their rows one after another. -/
theorem readGraphBatches_eq (hschema : ReadableSchema schema) {batches : List (Option GraphBatch)}
    (h : ∀ batch ∈ batches, ∃ b, batch = some b ∧ b.Conforms schema) (start : ℕ) :
    readGraphBatches hfx batches start =
      ((batches.flatMap fun batch => batch.elim [] GraphBatch.rows).zipIdx start).mapM fun row =>
        atRow row.2 (row.1.adjacency hfx) := by
  induction batches generalizing start with
  | nil => rfl
  | cons batch batches ih =>
    obtain ⟨b, rfl, hb⟩ := h batch List.mem_cons_self
    have hlength : b.rows.length = b.numRows := by simp [GraphBatch.rows]
    rw [readGraphBatches, readGraphBatch_eq hschema hb,
      ih (fun c hc => h c (List.mem_cons_of_mem _ hc)), List.flatMap_cons, Option.elim_some,
      List.zipIdx_append, List.mapM_append, hlength, GraphBatch.rows, zipIdx_map_range, List.mapM_map]
    rfl

/-- A file is read row by row. -/
theorem readGraph_eq {newGraph : List AdjacencyRow → Except GraphError DrainageGraph}
    {file : GraphFile} (h : file.Conforms) (hschema : validateGraphSchema file.schema = .ok ()) :
    readGraph hfx newGraph file =
      (file.rows.zipIdx.mapM fun row => atRow row.2 (row.1.adjacency hfx)) >>= fun rows =>
        (newGraph rows).mapError GraphReadError.ofGraph := by
  rw [readGraph, hschema, ok_bind,
    readGraphBatches_eq (readableSchema_of_validate hschema) h.batches]
  rfl

theorem mapM_atRow_of_valid {rows : List GraphRow} {units : List AdjacencyRow}
    (h : List.Forall₂ (fun row unit => row.adjacency hfx = .ok unit) rows units) (start : ℕ) :
    ((rows.zipIdx start).mapM fun row => atRow row.2 (row.1.adjacency hfx)) = .ok units := by
  induction h generalizing start with
  | nil => rfl
  | cons hrow _ ih =>
    rw [List.zipIdx_cons, List.mapM_cons, ih]
    simp only [hrow]
    rfl

theorem forall₂_of_mapM_atRow {rows : List GraphRow} {units : List AdjacencyRow} {start : ℕ}
    (h : ((rows.zipIdx start).mapM fun row => atRow row.2 (row.1.adjacency hfx)) = .ok units) :
    List.Forall₂ (fun row unit => row.adjacency hfx = .ok unit) rows units := by
  induction rows generalizing start units with
  | nil =>
    obtain rfl := Except.ok.inj h
    exact .nil
  | cons row rows ih =>
    rw [List.zipIdx_cons, List.mapM_cons] at h
    obtain ⟨unit, hunit, h⟩ := bind_eq_ok h
    obtain ⟨rest, hrest, h⟩ := bind_eq_ok h
    obtain rfl := Except.ok.inj h
    exact .cons (mapError_eq_ok_iff.1 hunit) (ih hrest)

theorem mapM_atRow_of_invalid {rows : List GraphRow} {k start : ℕ} {row : GraphRow} {reason : String}
    (hk : rows[k]? = some row) (hreason : row.adjacency hfx = .error reason)
    (hbefore : ∀ j < k, ∀ r, rows[j]? = some r → ∃ unit, r.adjacency hfx = .ok unit) :
    ((rows.zipIdx start).mapM fun row => atRow row.2 (row.1.adjacency hfx)) =
      .error (.invalidRow (start + k) reason) := by
  induction rows generalizing k start with
  | nil => simp at hk
  | cons r rows ih =>
    cases k with
    | zero =>
      obtain rfl : r = row := by simpa using hk
      rw [List.zipIdx_cons, List.mapM_cons]
      simp only [hreason]
      rfl
    | succ k =>
      obtain ⟨unit, hunit⟩ := hbefore 0 (Nat.succ_pos k) r rfl
      have hrest : ((rows.zipIdx (start + 1)).mapM fun row => atRow row.2 (row.1.adjacency hfx)) =
          .error (.invalidRow (start + 1 + k) reason) :=
        ih (by simpa using hk) fun j hj s hs =>
          hbefore (j + 1) (Nat.succ_lt_succ hj) s (by simpa using hs)
      rw [List.zipIdx_cons, List.mapM_cons, hrest]
      simp only [hunit]
      show Except.error (GraphReadError.invalidRow (start + 1 + k) reason) = _
      rw [Nat.add_right_comm, Nat.add_assoc]

/-- **What a graph file is read as.** An invalid schema is rejected before any row. Past it the first
row that is not a unit decides the error, under its number in the file, and otherwise the graph is
built from the units in the order of the file. -/
theorem readGraph_outcome (hfx : HfxUnit)
    (newGraph : List AdjacencyRow → Except GraphError DrainageGraph) {file : GraphFile}
    (h : file.Conforms) :
    (∀ e, validateGraphSchema file.schema = .error e → readGraph hfx newGraph file = .error e) ∧
    (validateGraphSchema file.schema = .ok () →
      (∀ units, List.Forall₂ (fun row unit => row.adjacency hfx = .ok unit) file.rows units →
        readGraph hfx newGraph file = (newGraph units).mapError GraphReadError.ofGraph) ∧
      ∀ k row reason, file.rows[k]? = some row → row.adjacency hfx = .error reason →
        (∀ j < k, ∀ r, file.rows[j]? = some r → ∃ unit, r.adjacency hfx = .ok unit) →
        readGraph hfx newGraph file = .error (.invalidRow k reason)) := by
  constructor
  · intro e he
    rw [readGraph, he]
    rfl
  · intro hschema
    rw [readGraph_eq h hschema]
    constructor
    · intro units hunits
      rw [mapM_atRow_of_valid hunits]
      rfl
    · intro k row reason hk hreason hbefore
      rw [mapM_atRow_of_invalid hk hreason hbefore, Nat.zero_add]
      rfl

end file

/-! Three units in two batches and in two row groups that are cut elsewhere. -/

def positiveHfxUnit : HfxUnit where
  unitId raw := if 0 < raw then none else some "must be positive"
  level raw := if 0 ≤ raw then none else some "must not be negative"
  areaKm2 _ := none
  outletCoord _ _ := none
  boundingBox _ _ _ _ := none
  wkbGeometry _ := none
  midpoint _ _ := 0

/-- A graph of rows with distinct ids. -/
def uniqueGraph (rows : List AdjacencyRow) : Except GraphError DrainageGraph :=
  if h : (rows.map AdjacencyRow.id).Nodup then .ok ⟨rows, h⟩ else .error (.other "duplicate")

def exampleGraphSchema : List GraphField :=
  ⟨"id", .int64, "Int64", 1⟩ :: ⟨"level", .int16, "Int16", 1⟩ ::
    ⟨"upstream_ids", .list .int64, "List(Int64)", 1⟩ ::
      graphBboxColumns.map fun column => ⟨column, .other, "Float32", 1⟩

/-- A batch of the three columns. -/
def exampleBatch (ids : List (Option ℤ)) (levels : List (Option Int16))
    (upstream : List (List ℤ)) (hlevels : levels.length = ids.length)
    (hupstream : upstream.length = ids.length) : GraphBatch where
  numRows := ids.length
  columns := ("id", .int64 ids) :: ("level", .int16 levels) ::
    ("upstream_ids", .list (upstream.map fun slots => some (.int64 slots))) ::
    graphBboxColumns.map fun column => (column, .other ids.length)
  length_eq := by
    intro column hcolumn
    simp only [graphBboxColumns, List.map_cons, List.map_nil, List.mem_cons, List.not_mem_nil,
      or_false] at hcolumn
    rcases hcolumn with rfl | rfl | rfl | rfl | rfl | rfl | rfl
    · rfl
    · exact hlevels
    · exact (List.length_map _).trans hupstream
    · rfl
    · rfl
    · rfl
    · rfl

theorem exampleBatch_conforms (ids : List (Option ℤ)) (levels : List (Option Int16))
    (upstream : List (List ℤ)) (hlevels : levels.length = ids.length)
    (hupstream : upstream.length = ids.length) :
    (exampleBatch ids levels upstream hlevels hupstream).Conforms exampleGraphSchema := by
  refine .cons ⟨rfl, trivial⟩ (.cons ⟨rfl, trivial⟩ (.cons ⟨rfl, ?_⟩ ?_))
  · intro _ values hvalues
    obtain ⟨l, -, hl⟩ := List.mem_map.1 hvalues
    exact ⟨l, (Option.some.inj hl).symm⟩
  · exact .cons ⟨rfl, trivial⟩ (.cons ⟨rfl, trivial⟩ (.cons ⟨rfl, trivial⟩
      (.cons ⟨rfl, trivial⟩ .nil)))

/-- The id of the last row is the parameter. -/
def exampleGraphFile (lastId : Option ℤ) : GraphFile where
  schema := exampleGraphSchema
  batches := [
    some (exampleBatch [some 1] [some 0] [[]] rfl rfl),
    some (exampleBatch [some 2, lastId] [some 0, some 1] [[1], [2]] rfl rfl)]
  rowGroups := [
    ⟨[⟨some 1, some 0, some []⟩, ⟨some 2, some 0, some [1]⟩], fun _ => some (.int32 (some 0) (some 0))⟩,
    ⟨[⟨lastId, some 1, some [2]⟩], fun _ => some (.int32 (some 1) (some 1))⟩]

theorem exampleGraphFile_conforms (lastId : Option ℤ) : (exampleGraphFile lastId).Conforms where
  batches := by
    intro batch hbatch
    simp only [exampleGraphFile, List.mem_cons, List.not_mem_nil, or_false] at hbatch
    rcases hbatch with rfl | rfl
    · exact ⟨_, rfl, exampleBatch_conforms _ _ _ rfl rfl⟩
    · exact ⟨_, rfl, exampleBatch_conforms _ _ _ rfl rfl⟩
  rows_eq := rfl

theorem readGraph_outcome_example :
    readGraph positiveHfxUnit uniqueGraph (exampleGraphFile none) =
      .error (.invalidRow 2 "null value in non-nullable column \"id\"") := by
  obtain ⟨-, h⟩ := readGraph_outcome positiveHfxUnit uniqueGraph (exampleGraphFile_conforms none)
  refine (h (by decide)).2 2 ⟨none, some 1, some [2]⟩ _ rfl (by decide) fun j hj r hr => ?_
  interval_cases j
  · obtain rfl := Option.some.inj hr
    exact ⟨⟨1, 0, []⟩, by decide⟩
  · obtain rfl := Option.some.inj hr
    exact ⟨⟨2, 0, [1]⟩, by decide⟩

end Pourpoint
