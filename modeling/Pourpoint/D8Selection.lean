import Pourpoint.Cog.Layout
import Pourpoint.F64Geometry
import Pourpoint.Library.Success
import Pourpoint.Manifest
import Pourpoint.ParseNumber
import Pourpoint.Refine

/-!
# Selection of a D8 declaration

`select_d8_raster_for_terminal` walks the D8 declarations in manifest order, projects the terminal into
the CRS of each and compares its bounding box with the extents of the two rasters. A declaration whose
flow-direction extent misses the box is left before the other extent is read.

With the header reads out of the way a declaration is a `D8View` of the terminal, and the lists that the
loop collects are those of the views (`visitDeclarations_views`).
-/

namespace Pourpoint

open Library

/-! ## Geometry in native coordinates -/

/-- `LineString::close`. -/
def closeRing (ring : List F64Coord) : List F64Coord :=
  match ring.head?, ring.getLast? with
  | some first, some last =>
    if first.x.eq last.x && first.y.eq last.y then ring else ring ++ [first]
  | _, _ => ring

/-- `geo::Polygon<f64>`. -/
structure F64Polygon where
  exterior : List F64Coord
  interiors : List (List F64Coord)
  deriving DecidableEq

/-- `Polygon::new` closes the rings it is given. -/
def F64Polygon.new (exterior : List F64Coord) (interiors : List (List F64Coord)) : F64Polygon :=
  ⟨closeRing exterior, interiors.map closeRing⟩

section

variable (equalEarthForward : F64Coord → F64Coord)

/-- `forward` of the projections. -/
def forward (crs : D8Crs) (coordinate : F64Coord) : F64Coord :=
  match crs with
  | .epsg4326 => coordinate
  | .epsg8857 => equalEarthForward coordinate

/-- Every vertex is projected. -/
def projectRing (ring : List F64Coord) (crs : D8Crs) : List F64Coord :=
  ring.map (forward equalEarthForward crs)

/-- `project_terminal`. -/
def projectTerminal (terminal : List F64Polygon) (crs : D8Crs) : List F64Polygon :=
  terminal.map fun polygon =>
    .new (projectRing equalEarthForward polygon.exterior crs)
      (polygon.interiors.map fun ring => projectRing equalEarthForward ring crs)

end

/-! ## Declarations of a session -/

/-- `strip_prefix`. -/
def stripPrefix? (pre text : String) : Option String :=
  if pre.toList <+: text.toList then some (String.ofList (text.toList.drop pre.length)) else none

/-- The CRS of a declaration with its EPSG identifier. -/
def d8Crs (declaredCrs : String) : Except SessionError (D8Crs × ℕ) := do
  let identifier ← require (.d8CrsIdentifierOutOfRange declaredCrs)
    (parseUnsigned 32 ((stripPrefix? "EPSG:" declaredCrs).getD declaredCrs))
  let crs ← require (.unsupportedD8Crs declaredCrs) (claimedD8Crs declaredCrs)
  return (crs, identifier)

/-- Typed handle for one selected D8 raster declaration. -/
structure D8RasterHandle where
  declarationIndex : ℕ
  flowDirUri : String
  flowAccUri : String
  remoteFlowDirPath : Option UnixPath
  remoteFlowAccPath : Option UnixPath
  metadata : D8RasterMetadataV2
  projectionCrs : D8Crs
  epsg : ℕ
  deriving DecidableEq

/-- One D8 declaration and its terminal bounds. -/
structure D8NativeCoverageCandidate where
  declarationIndex : ℕ
  epsg : ℕ
  minX : F64
  minY : F64
  maxX : F64
  maxY : F64
  deriving DecidableEq

/-- What the selection uses of a session, and the reads of raster headers: of an object by its path and
of a file. -/
structure D8Session where
  root : String
  remoteStore : Option (UnixPath → Except CacheError F64Rect)
  remoteRoot : Option UnixPath
  d8Rasters : List D8RasterDecl
  readLocalExtent : String → Except CacheError F64Rect

/-- Errors of the selection: those that carry declarations or extents, and the others. -/
inductive D8SelectionError where
  | cogExtentHeaderRead (declarationIndex : ℕ) (kind : RasterKind) (path : String) (source : CacheError)
  | terminalSpansD8Tiles (declarationIndices : List ℕ) (candidates : List D8NativeCoverageCandidate)
  | noCoveringD8Tile (candidates : List D8NativeCoverageCandidate)
  | session (source : SessionError)
  deriving DecidableEq

/-- `Path::join` on texts. -/
def joinPath (root path : String) : String :=
  if path.toList.head? = some '/' then path
  else if root = "" ∨ root.toList.getLast? = some '/' then root ++ path
  else root ++ "/" ++ path

/-- `trim_end_matches('/')`. -/
def trimEndSlashes (text : String) : String :=
  String.ofList (text.toList.reverse.dropWhile (· = '/')).reverse

/-- `remote_artifact_url_string_from_root`. -/
def remoteArtifactUrlStringFromRoot (root artifact : String) : String :=
  trimEndSlashes root ++ "/" ++ artifact

/-- `map_extent_error`. -/
def mapExtentError (declarationIndex : ℕ) (kind : RasterKind) (path : String) :
    Except CacheError F64Rect → Except D8SelectionError F64Rect
  | .ok extent => .ok extent
  | .error source => .error (.cogExtentHeaderRead declarationIndex kind path source)

def liftSession {α : Type} : Except SessionError α → Except D8SelectionError α
  | .ok a => .ok a
  | .error e => .error (.session e)

namespace D8Session

variable (session : D8Session)

/-- The extent of one raster of a declaration. -/
def d8Extent (declarationIndex : ℕ) (kind : RasterKind) (declPath : String) :
    Except D8SelectionError F64Rect :=
  match session.remoteStore, session.remoteRoot with
  | some readRemoteExtent, some root =>
    mapExtentError declarationIndex kind declPath (readRemoteExtent (remoteArtifactPath root declPath))
  | _, _ =>
    let path := joinPath session.root declPath
    mapExtentError declarationIndex kind path (session.readLocalExtent path)

/-- `d8_handle`. -/
def d8Handle (declarationIndex : ℕ) (crs : D8Crs) (epsg : ℕ) :
    Except D8SelectionError D8RasterHandle := do
  let decl ← liftSession <| require (.integrityViolation "selected D8 declaration index is absent")
    session.d8Rasters[declarationIndex]?
  return match session.remoteRoot with
    | some root =>
      { declarationIndex
        flowDirUri := remoteArtifactUrlStringFromRoot session.root decl.flowDir
        flowAccUri := remoteArtifactUrlStringFromRoot session.root decl.flowAcc
        remoteFlowDirPath := some (remoteArtifactPath root decl.flowDir)
        remoteFlowAccPath := some (remoteArtifactPath root decl.flowAcc)
        metadata := decl.metadata, projectionCrs := crs, epsg }
    | none =>
      { declarationIndex
        flowDirUri := joinPath session.root decl.flowDir
        flowAccUri := joinPath session.root decl.flowAcc
        remoteFlowDirPath := none
        remoteFlowAccPath := none
        metadata := decl.metadata, projectionCrs := crs, epsg }

end D8Session

/-! ## The selection -/

/-- A handle and the terminal in its CRS. -/
abbrev SelectedD8 := D8RasterHandle × List F64Polygon

/-- The lists that the loop accumulates. -/
structure Coverage where
  intersecting : List D8NativeCoverageCandidate
  covering : List SelectedD8
  candidates : List D8NativeCoverageCandidate

namespace D8Session

variable (equalEarthForward : F64Coord → F64Coord) (boundingRect : List F64Polygon → Option F64Rect)
  (session : D8Session) (terminal : List F64Polygon)

/-- The loop over the declarations. A terminal without bounds ends it with a selection. -/
def visitDeclarations : List (D8RasterDecl × ℕ) → Coverage →
    Except D8SelectionError (SelectedD8 ⊕ Coverage)
  | [], coverage => .ok (.inr coverage)
  | (decl, index) :: rest, coverage => do
    let (crs, epsg) ← liftSession (d8Crs decl.metadata.crs)
    let nativeTerminal := projectTerminal equalEarthForward terminal crs
    match boundingRect nativeTerminal with
    | none =>
      let handle ← session.d8Handle index crs epsg
      return .inl (handle, nativeTerminal)
    | some bbox =>
      let candidate : D8NativeCoverageCandidate :=
        ⟨index, epsg, bbox.min.x, bbox.min.y, bbox.max.x, bbox.max.y⟩
      let coverage := { coverage with candidates := coverage.candidates ++ [candidate] }
      let flowDirExtent ← session.d8Extent index .flowDir decl.flowDir
      if !flowDirExtent.intersectInclusive bbox then
        visitDeclarations rest coverage
      else
        let flowAccExtent ← session.d8Extent index .flowAcc decl.flowAcc
        let coverage :=
          if flowAccExtent.intersectInclusive bbox then
            { coverage with intersecting := coverage.intersecting ++ [candidate] }
          else coverage
        if flowDirExtent.containsInclusive bbox && flowAccExtent.containsInclusive bbox then
          let handle ← session.d8Handle index crs epsg
          visitDeclarations rest
            { coverage with covering := coverage.covering ++ [(handle, nativeTerminal)] }
        else visitDeclarations rest coverage

/-- `select_d8_raster_for_terminal`. -/
def selectD8RasterForTerminal : Except D8SelectionError SelectedD8 := do
  if session.d8Rasters = [] then .error (.session .missingRequiredD8Aux) else
  match ← session.visitDeclarations equalEarthForward boundingRect terminal
      session.d8Rasters.zipIdx ⟨[], [], []⟩ with
  | .inl selected => return selected
  | .inr coverage =>
    match coverage.covering with
    | [selected] => return selected
    | selected :: _ =>
      let _ ← liftSession <| require (.integrityViolation "terminal geometry has no bounds")
        (boundingRect selected.2)
      return selected
    | [] =>
      if 1 < coverage.intersecting.length then
        .error (.terminalSpansD8Tiles (coverage.intersecting.map (·.declarationIndex))
          coverage.intersecting)
      else .error (.noCoveringD8Tile coverage.candidates)

end D8Session

/-! ## Declarations as seen from the terminal -/

/-- The declaration at an index of the manifest, the terminal in its CRS with its bounding box, the
extents of the two rasters and the handle. -/
structure D8View where
  index : ℕ
  epsg : ℕ
  terminal : List F64Polygon
  bbox : F64Rect
  flowDir : F64Rect
  flowAcc : F64Rect
  handle : D8RasterHandle

namespace D8View

variable (view : D8View)

/-- Both extents contain the box. -/
def Covers : Prop :=
  view.flowDir.containsInclusive view.bbox = true ∧ view.flowAcc.containsInclusive view.bbox = true

/-- Both extents meet the box. -/
def Meets : Prop :=
  view.flowDir.intersectInclusive view.bbox = true ∧
    view.flowAcc.intersectInclusive view.bbox = true

instance : Decidable view.Covers := inferInstanceAs (Decidable (_ ∧ _))

instance : Decidable view.Meets := inferInstanceAs (Decidable (_ ∧ _))

theorem Covers.flowDir_intersects {view : D8View} (h : view.Covers) :
    view.flowDir.intersectInclusive view.bbox = true :=
  F64Rect.intersectInclusive_of_containsInclusive h.1

def candidate : D8NativeCoverageCandidate :=
  ⟨view.index, view.epsg, view.bbox.min.x, view.bbox.min.y, view.bbox.max.x, view.bbox.max.y⟩

def selected : SelectedD8 := (view.handle, view.terminal)

end D8View

/-- The lists after some views. -/
def Coverage.ofViews (views : List D8View) : Coverage where
  intersecting := (views.filter (·.Meets)).map D8View.candidate
  covering := (views.filter (·.Covers)).map D8View.selected
  candidates := views.map D8View.candidate

theorem Coverage.ofViews_append (views : List D8View) (view : D8View) :
    ofViews (views ++ [view]) =
      { intersecting := (ofViews views).intersecting ++ if view.Meets then [view.candidate] else []
        covering := (ofViews views).covering ++ if view.Covers then [view.selected] else []
        candidates := (ofViews views).candidates ++ [view.candidate] } := by
  by_cases hmeets : view.Meets <;> by_cases hcovers : view.Covers <;>
    simp [ofViews, hmeets, hcovers, List.filter_append]

namespace D8Session

section

variable (equalEarthForward : F64Coord → F64Coord) (boundingRect : List F64Polygon → Option F64Rect)
  (session : D8Session) (terminal : List F64Polygon)

/-- The view of a declaration: its CRS is supported, its extents are readable and the projected terminal
has bounds. -/
structure Views (entry : D8RasterDecl × ℕ) (view : D8View) : Prop where
  index : view.index = entry.2
  crs : ∃ crs, d8Crs entry.1.metadata.crs = .ok (crs, view.epsg) ∧
    view.terminal = projectTerminal equalEarthForward terminal crs ∧
    session.d8Handle entry.2 crs view.epsg = .ok view.handle
  bbox : boundingRect view.terminal = some view.bbox
  flowDir : session.d8Extent entry.2 .flowDir entry.1.flowDir = .ok view.flowDir
  flowAcc : session.d8Extent entry.2 .flowAcc entry.1.flowAcc = .ok view.flowAcc

/-- The view of the declaration at an index. -/
def ViewAt (index : ℕ) (view : D8View) : Prop :=
  ∃ decl, session.d8Rasters[index]? = some decl ∧
    session.Views equalEarthForward boundingRect terminal (decl, index) view

end

variable {equalEarthForward : F64Coord → F64Coord} {boundingRect : List F64Polygon → Option F64Rect}
  {session : D8Session} {terminal : List F64Polygon}

/-- One declaration of the loop. -/
theorem visitDeclarations_cons {entry : D8RasterDecl × ℕ} {view : D8View}
    (hview : session.Views equalEarthForward boundingRect terminal entry view)
    (rest : List (D8RasterDecl × ℕ)) (views : List D8View) :
    session.visitDeclarations equalEarthForward boundingRect terminal (entry :: rest)
        (.ofViews views) =
      session.visitDeclarations equalEarthForward boundingRect terminal rest
        (.ofViews (views ++ [view])) := by
  obtain ⟨decl, index⟩ := entry
  obtain ⟨hindex, ⟨crs, hcrs, hterminal, hhandle⟩, hbbox, hdir, hacc⟩ := hview
  subst hindex
  rw [hterminal] at hbbox
  have hselected : view.selected = (view.handle, projectTerminal equalEarthForward terminal crs) :=
    Prod.ext rfl hterminal
  rw [Coverage.ofViews_append]
  simp only [visitDeclarations, hcrs, liftSession, Bind.bind, Except.bind, hbbox, hdir, hacc]
  by_cases hmeetsDir : view.flowDir.intersectInclusive view.bbox = true
  · by_cases hcovers : view.Covers
    · have hmeets : view.flowAcc.intersectInclusive view.bbox = true :=
        F64Rect.intersectInclusive_of_containsInclusive hcovers.2
      simp [hmeetsDir, hmeets, hcovers, hcovers.1, hcovers.2, D8View.Meets, hhandle, hselected,
        D8View.candidate]
    · have hnot : ¬(view.flowDir.containsInclusive view.bbox = true ∧
        view.flowAcc.containsInclusive view.bbox = true) := hcovers
      by_cases hmeets : view.flowAcc.intersectInclusive view.bbox = true <;>
        simp [hmeetsDir, hmeets, hcovers, hnot, D8View.Meets, D8View.candidate]
  · have hcovers : ¬view.Covers := fun h => hmeetsDir h.flowDir_intersects
    simp [hmeetsDir, hcovers, D8View.Meets, D8View.candidate]

theorem visitDeclarations_views {entries : List (D8RasterDecl × ℕ)} {views : List D8View}
    (hviews : List.Forall₂ (session.Views equalEarthForward boundingRect terminal) entries views)
    (before : List D8View) :
    session.visitDeclarations equalEarthForward boundingRect terminal entries (.ofViews before) =
      .ok (.inr (.ofViews (before ++ views))) := by
  induction hviews generalizing before with
  | nil => rw [List.append_nil]; rfl
  | cons hview _ ih => rw [visitDeclarations_cons hview, ih, List.append_assoc]; rfl

/-! ## The result -/

theorem d8Handle_of_getElem? {index : ℕ} {decl : D8RasterDecl}
    (h : session.d8Rasters[index]? = some decl) (crs : D8Crs) (epsg : ℕ) :
    ∃ handle, session.d8Handle index crs epsg = .ok handle ∧ handle.declarationIndex = index := by
  refine ⟨_, by rw [d8Handle, h]; rfl, ?_⟩
  cases session.remoteRoot <;> rfl

theorem exists_viewAt {index : ℕ} {decl : D8RasterDecl}
    (hget : session.d8Rasters[index]? = some decl)
    (hcrs : ∃ crs epsg, d8Crs decl.metadata.crs = .ok (crs, epsg))
    (hextents : ∃ flowDir flowAcc, session.d8Extent index .flowDir decl.flowDir = .ok flowDir ∧
      session.d8Extent index .flowAcc decl.flowAcc = .ok flowAcc)
    (hbounds : ∀ crs epsg, d8Crs decl.metadata.crs = .ok (crs, epsg) →
      ∃ bbox, boundingRect (projectTerminal equalEarthForward terminal crs) = some bbox) :
    ∃ view, session.Views equalEarthForward boundingRect terminal (decl, index) view := by
  obtain ⟨crs, epsg, hcrs⟩ := hcrs
  obtain ⟨flowDir, flowAcc, hdir, hacc⟩ := hextents
  obtain ⟨bbox, hbbox⟩ := hbounds crs epsg hcrs
  obtain ⟨handle, hhandle, -⟩ := d8Handle_of_getElem? hget crs epsg
  exact ⟨⟨index, epsg, _, bbox, flowDir, flowAcc, handle⟩,
    rfl, ⟨crs, hcrs, rfl, hhandle⟩, hbbox, hdir, hacc⟩

theorem ViewAt.declarationIndex {index : ℕ} {view : D8View}
    (h : session.ViewAt equalEarthForward boundingRect terminal index view) :
    view.handle.declarationIndex = index := by
  obtain ⟨decl, hget, hview⟩ := h
  obtain ⟨crs, -, -, hhandle⟩ := hview.crs
  obtain ⟨handle, hhandle', hindex⟩ := d8Handle_of_getElem? hget crs view.epsg
  rw [Except.ok.inj (hhandle.symm.trans hhandle'), hindex]

theorem Views.unique {entry : D8RasterDecl × ℕ} {view other : D8View}
    (hview : session.Views equalEarthForward boundingRect terminal entry view)
    (hother : session.Views equalEarthForward boundingRect terminal entry other) : view = other := by
  obtain ⟨hindex, ⟨crs, hcrs, hterminal, hhandle⟩, hbbox, hdir, hacc⟩ := hview
  obtain ⟨hindex', ⟨crs', hcrs', hterminal', hhandle'⟩, hbbox', hdir', hacc'⟩ := hother
  obtain ⟨rfl, hepsg⟩ := Prod.mk.inj (Except.ok.inj (hcrs.symm.trans hcrs'))
  have hsame : view.terminal = other.terminal := hterminal.trans hterminal'.symm
  rw [hsame] at hbbox
  rw [hepsg] at hhandle
  cases view
  cases other
  obtain rfl := Option.some.inj (hbbox.symm.trans hbbox')
  obtain rfl := Except.ok.inj (hhandle.symm.trans hhandle')
  obtain rfl := Except.ok.inj (hdir.symm.trans hdir')
  obtain rfl := Except.ok.inj (hacc.symm.trans hacc')
  simp_all

/-- The loop goes through the views of all declarations, in order. -/
theorem exists_views
    (hview : ∀ i decl, session.d8Rasters[i]? = some decl →
      ∃ view, session.Views equalEarthForward boundingRect terminal (decl, i) view) :
    ∃ views, session.visitDeclarations equalEarthForward boundingRect terminal
        session.d8Rasters.zipIdx ⟨[], [], []⟩ = .ok (.inr (.ofViews views)) ∧
      ∀ i view, views[i]? = some view ↔
        session.ViewAt equalEarthForward boundingRect terminal i view := by
  obtain ⟨views, hviews⟩ : ∃ views, List.Forall₂
      (session.Views equalEarthForward boundingRect terminal) session.d8Rasters.zipIdx views :=
    exists_forall₂ fun entry hentry => hview _ _ (List.mk_mem_zipIdx_iff_getElem?.1 hentry)
  refine ⟨views, visitDeclarations_views hviews [], fun i view => ?_⟩
  have hlength : session.d8Rasters.length = views.length := by
    rw [← hviews.length_eq, List.length_zipIdx]
  have hat : ∀ (hlt : i < session.d8Rasters.length) (hlt' : i < views.length),
      session.Views equalEarthForward boundingRect terminal (session.d8Rasters[i], i) views[i] := by
    intro hlt hlt'
    have := (List.forall₂_iff_get.1 hviews).2 i (by rwa [List.length_zipIdx]) hlt'
    rwa [List.get_eq_getElem, List.get_eq_getElem, List.getElem_zipIdx, Nat.zero_add] at this
  constructor
  · intro h
    obtain ⟨hlt, rfl⟩ := List.getElem?_eq_some_iff.1 h
    exact ⟨_, List.getElem?_eq_getElem (hlength ▸ hlt), hat (hlength ▸ hlt) hlt⟩
  · rintro ⟨decl, hdecl, hview⟩
    obtain ⟨hlt, rfl⟩ := List.getElem?_eq_some_iff.1 hdecl
    rw [List.getElem?_eq_getElem (hlength ▸ hlt), (hat hlt (hlength ▸ hlt)).unique hview]

/-- What follows the loop. -/
theorem selectD8RasterForTerminal_ofViews (hne : session.d8Rasters ≠ []) {views : List D8View}
    (hrun : session.visitDeclarations equalEarthForward boundingRect terminal
      session.d8Rasters.zipIdx ⟨[], [], []⟩ = .ok (.inr (.ofViews views)))
    (hbounds : ∀ view ∈ views, boundingRect view.terminal = some view.bbox) :
    session.selectD8RasterForTerminal equalEarthForward boundingRect terminal =
      match views.filter (·.Covers) with
      | view :: _ => .ok (view.handle, view.terminal)
      | [] => .error (if 2 ≤ (views.filter (·.Meets)).length then
          .terminalSpansD8Tiles ((views.filter (·.Meets)).map (·.index))
            ((views.filter (·.Meets)).map (·.candidate))
        else .noCoveringD8Tile (views.map (·.candidate))) := by
  rw [selectD8RasterForTerminal, if_neg hne, hrun]
  cases hcovering : views.filter (·.Covers) with
  | nil =>
    simp only [Bind.bind, Except.bind, Coverage.ofViews, hcovering, List.map_nil, List.length_map]
    by_cases hseveral : 1 < (views.filter (·.Meets)).length
    · have htwo : 2 ≤ (views.filter (·.Meets)).length := hseveral
      rw [if_pos hseveral, if_pos htwo, List.map_map]
      rfl
    · have htwo : ¬2 ≤ (views.filter (·.Meets)).length := hseveral
      rw [if_neg hseveral, if_neg htwo]
  | cons view rest =>
    have hbox := hbounds view (List.mem_of_mem_filter (hcovering ▸ List.mem_cons_self))
    simp only [Bind.bind, Except.bind, Coverage.ofViews, hcovering, List.map_cons, D8View.selected]
    cases rest with
    | nil => rfl
    | cons next rest =>
      simp only [List.map_cons, hbox]
      rfl

/-- **The selected declaration** is the first whose two extents contain the projected bounding box of
the terminal, and comes with the terminal in its CRS. Without one the error names the declarations whose
two extents meet the box, when there are several of them. -/
theorem selectD8RasterForTerminal_spec (hne : session.d8Rasters ≠ [])
    (hcrs : ∀ decl ∈ session.d8Rasters, ∃ crs epsg, d8Crs decl.metadata.crs = .ok (crs, epsg))
    (hextents : ∀ i decl, session.d8Rasters[i]? = some decl → ∃ flowDir flowAcc,
      session.d8Extent i .flowDir decl.flowDir = .ok flowDir ∧
        session.d8Extent i .flowAcc decl.flowAcc = .ok flowAcc)
    (hbounds : ∀ decl ∈ session.d8Rasters, ∀ crs epsg, d8Crs decl.metadata.crs = .ok (crs, epsg) →
      ∃ bbox, boundingRect (projectTerminal equalEarthForward terminal crs) = some bbox) :
    ∃ views : List D8View,
      (∀ i view, views[i]? = some view ↔
        session.ViewAt equalEarthForward boundingRect terminal i view) ∧
      ((∃ (i : ℕ) (view : D8View), views[i]? = some view ∧ view.Covers ∧
          (∀ (j : ℕ) (other : D8View), j < i → views[j]? = some other → ¬other.Covers) ∧
          view.handle.declarationIndex = i ∧
          session.selectD8RasterForTerminal equalEarthForward boundingRect terminal =
            .ok (view.handle, view.terminal)) ∨
        ((∀ view ∈ views, ¬view.Covers) ∧
          session.selectD8RasterForTerminal equalEarthForward boundingRect terminal =
            .error (if 2 ≤ (views.filter (·.Meets)).length then
              .terminalSpansD8Tiles ((views.filter (·.Meets)).map (·.index))
                ((views.filter (·.Meets)).map (·.candidate))
            else .noCoveringD8Tile (views.map (·.candidate))))) := by
  have hview : ∀ i decl, session.d8Rasters[i]? = some decl →
      ∃ view, session.Views equalEarthForward boundingRect terminal (decl, i) view :=
    fun i decl hget => exists_viewAt hget (hcrs _ (List.mem_of_getElem? hget))
      (hextents i decl hget) (hbounds _ (List.mem_of_getElem? hget))
  obtain ⟨views, hrun, hat⟩ := exists_views hview
  have hbox : ∀ view ∈ views, boundingRect view.terminal = some view.bbox := by
    intro view hmem
    obtain ⟨i, hi⟩ := List.mem_iff_getElem?.1 hmem
    obtain ⟨decl, -, hview⟩ := (hat i view).1 hi
    exact hview.bbox
  refine ⟨views, hat, ?_⟩
  rw [selectD8RasterForTerminal_ofViews hne hrun hbox]
  cases hcovering : views.filter (·.Covers) with
  | nil =>
    refine Or.inr ⟨?_, rfl⟩
    intro view hmem hcovers
    exact List.filter_eq_nil_iff.1 hcovering view hmem (decide_eq_true hcovers)
  | cons view rest =>
    obtain ⟨before, after, hsplit, hnone, hcovers, -⟩ := List.filter_eq_cons_iff.1 hcovering
    have hi : views[before.length]? = some view := by rw [hsplit]; simp
    refine Or.inl ⟨before.length, view, hi, of_decide_eq_true hcovers, ?_,
      ((hat _ _).1 hi).declarationIndex, rfl⟩
    intro j other hj hother hcovers'
    rw [hsplit, List.getElem?_append_left hj] at hother
    exact hnone other (List.mem_of_getElem? hother) (decide_eq_true hcovers')

/-- The bounds of a single polygon. -/
def singlePolygonBounds : List F64Polygon → Option F64Rect
  | [⟨first :: rest, _⟩] =>
    let low (a b : F64) := if b.lt a then b else a
    let high (a b : F64) := if a.lt b then b else a
    let min := rest.foldl (fun m c => ⟨low m.x c.x, low m.y c.y⟩) first
    let max := rest.foldl (fun m c => ⟨high m.x c.x, high m.y c.y⟩) first
    if h : max.x.lt min.x = false ∧ max.y.lt min.y = false then some ⟨min, max, h.1, h.2⟩ else none
  | _ => none

def triangleTerminal : List F64Polygon :=
  [⟨[⟨.finite 0, .finite 0⟩, ⟨.finite 2, .finite 0⟩, ⟨.finite 0, .finite 2⟩, ⟨.finite 0, .finite 0⟩],
    []⟩]

def tileDecl (name : String) : D8RasterDecl where
  flowDir := name
  flowAcc := name
  metadata := ⟨"EPSG:4326", "esri", "cells"⟩

theorem tile_y_sorted : (F64.finite 5).lt (.finite (-1)) = false := by decide +kernel

def tileExtent (maxX : ℚ) (h : (F64.finite maxX).lt (.finite (-1)) = false) : F64Rect :=
  ⟨⟨.finite (-1), .finite (-1)⟩, ⟨.finite maxX, .finite 5⟩, h, tile_y_sorted⟩

/-- The first tile ends inside the triangle, the second holds it. -/
def twoTiles : D8Session where
  root := "/data"
  remoteStore := none
  remoteRoot := none
  d8Rasters := [tileDecl "west.tif", tileDecl "east.tif"]
  readLocalExtent path :=
    if path = "/data/west.tif" then .ok (tileExtent 1 (by decide +kernel))
    else .ok (tileExtent 5 (by decide +kernel))

theorem selectD8RasterForTerminal_spec_twoTiles :
    ∃ views : List D8View,
      (∀ i view, views[i]? = some view ↔
        twoTiles.ViewAt id singlePolygonBounds triangleTerminal i view) ∧
      ((∃ (i : ℕ) (view : D8View), views[i]? = some view ∧ view.Covers ∧
          (∀ (j : ℕ) (other : D8View), j < i → views[j]? = some other → ¬other.Covers) ∧
          view.handle.declarationIndex = i ∧
          twoTiles.selectD8RasterForTerminal id singlePolygonBounds triangleTerminal =
            .ok (view.handle, view.terminal)) ∨
        ((∀ view ∈ views, ¬view.Covers) ∧
          twoTiles.selectD8RasterForTerminal id singlePolygonBounds triangleTerminal =
            .error (if 2 ≤ (views.filter (·.Meets)).length then
              .terminalSpansD8Tiles ((views.filter (·.Meets)).map (·.index))
                ((views.filter (·.Meets)).map (·.candidate))
            else .noCoveringD8Tile (views.map (·.candidate))))) := by
  have hcrs : d8Crs "EPSG:4326" = .ok (.epsg4326, 4326) := by decide +kernel
  have hdecl : ∀ decl ∈ twoTiles.d8Rasters, decl.metadata.crs = "EPSG:4326" := by decide
  refine selectD8RasterForTerminal_spec (by decide) ?_ ?_ ?_
  · intro decl hmem
    exact ⟨_, _, hdecl decl hmem ▸ hcrs⟩
  · intro i decl hget
    have hmem : decl ∈ twoTiles.d8Rasters := List.mem_of_getElem? hget
    simp only [twoTiles, List.mem_cons, List.not_mem_nil, or_false] at hmem
    obtain rfl | rfl := hmem
    · exact ⟨tileExtent 1 (by decide +kernel), tileExtent 1 (by decide +kernel), rfl, rfl⟩
    · exact ⟨tileExtent 5 (by decide +kernel), tileExtent 5 (by decide +kernel), rfl, rfl⟩
  · intro decl hmem crs epsg h
    rw [hdecl decl hmem, hcrs] at h
    cases h
    have hsome : (singlePolygonBounds (projectTerminal id triangleTerminal .epsg4326)).isSome := by
      decide +kernel
    exact Option.isSome_iff_exists.1 hsome

example : (twoTiles.selectD8RasterForTerminal id singlePolygonBounds triangleTerminal).toOption.map
    (fun selected => (selected.1.declarationIndex, selected.1.flowDirUri)) =
      some (1, "/data/east.tif") := by
  decide +kernel

end D8Session

end Pourpoint
