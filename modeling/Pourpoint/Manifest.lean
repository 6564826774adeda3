import Pourpoint.Exec
import Pourpoint.Library.DebugText
import Pourpoint.Library.UnixPath

/-!
# The manifest

`build_manifest` turns the raw fields of `manifest.json` into a manifest and the classified auxiliary
declarations. The domain constructors of the `hfx` crate are a parameter (`Hfx`); what this crate adds
around them (field order, required fields, the classification of auxiliary entries, their metadata and
their texts of errors) is modelled here, with the checks of auxiliary paths.
-/

namespace Pourpoint

open Library

/-! ## Data -/

/-- A JSON value. -/
inductive Json where
  | null
  | bool (value : Bool)
  | integer (value : ℤ)
  | float (text : String)
  | string (value : String)
  | array (values : List Json)
  | object (fields : List (String × Json))

namespace Json

def asObject : Json → Option (List (String × Json))
  | object fields => some fields
  | _ => none

def asStr : Json → Option String
  | string value => some value
  | _ => none

def asArray : Json → Option (List Json)
  | array values => some values
  | _ => none

/-- `as_i64`. -/
def asI64 : Json → Option ℤ
  | integer value => if -2 ^ 63 ≤ value ∧ value < 2 ^ 63 then some value else none
  | _ => none

end Json

structure BoundingBox where
  minX : ℚ
  minY : ℚ
  maxX : ℚ
  maxY : ℚ
  deriving DecidableEq

inductive Topology where
  | tree
  | dag
  deriving DecidableEq, Repr

/-- A parsed schema name: one of the two blessed ones, a provisional or a third-party one. -/
inductive AuxiliarySchemaId where
  | d8RasterV2
  | snapV2
  | provisional (name : String)
  | thirdParty (name : String)
  deriving DecidableEq, Repr

structure D8RasterMetadataV2 where
  crs : String
  flowDirEncoding : String
  flowAccUnits : String
  deriving DecidableEq, Repr

structure D8RasterDecl where
  flowDir : String
  flowAcc : String
  metadata : D8RasterMetadataV2
  deriving DecidableEq, Repr

structure SnapDecl where
  name : String
  description : String
  snap : String
  referencesLevels : List ℤ
  weightSemantics : String
  deriving DecidableEq, Repr

/-- A declaration kept as it is: generic ones, and unreadable ones for diagnostics. -/
structure RawAuxDecl where
  schema : String
  artifacts : List (String × String)
  metadata : Json

/-- The auxiliary declarations, by kind. -/
structure AuxDeclarations where
  d8Rasters : List D8RasterDecl
  snaps : List SnapDecl
  generic : List RawAuxDecl
  unreadable : List RawAuxDecl

structure Manifest where
  formatVersion : String
  fabricName : String
  crs : String
  topology : Topology
  bbox : BoundingBox
  unitCount : ℕ
  createdAt : String
  adapterVersion : String
  hasUpArea : Bool
  fabricVersion : Option String
  region : Option String
  /-- The readable declarations: schema and artifacts. -/
  auxiliary : List (AuxiliarySchemaId × List (String × String))
  deriving DecidableEq

/-- A manifest with its auxiliary declarations. -/
structure ParsedManifest where
  manifest : Manifest
  aux : AuxDeclarations

/-- One `auxiliary[]` entry as it is in the file. -/
structure RawAuxiliary where
  schema : Option String
  artifacts : List (String × String)
  metadata : Json

/-- The manifest as it is in the file. -/
structure RawManifest where
  formatVersion : Option String
  fabricName : Option String
  fabricVersion : Option String
  crs : Option String
  hasUpArea : Option Bool
  topology : Option String
  region : Option String
  bbox : Option (List ℚ)
  unitCount : Option ℕ
  createdAt : Option String
  adapterVersion : Option String
  auxiliary : List RawAuxiliary

/-- Errors of opening a session. -/
inductive SessionError where
  | manifestJsonParse
  | manifestFieldMissing (field : String)
  | manifestFieldInvalid (field : String) (reason : String)
  | unsupportedFormatVersion (found : String) (expected : String)
  | unsupportedCrs (found : String) (expected : String)
  | manifestDomain (source : String)
  | auxiliaryDeclParse (schema : String) (reason : String)
  | snapAuxMetadataInvalid (name : String) (reason : String)
  | auxiliaryPathEscape (schema : String) (artifact : String) (path : String)
  | auxiliaryArtifactMissing (schema : String) (artifact : String) (path : String)
  | remoteArtifactRead (artifact : String) (path : String)
  | graphParse (reason : String)
  | unitCountMismatch (manifestCount : ℕ) (actualCount : ℕ)
  | graphReferentialIntegrity (reason : String)
  | snapReferentialIntegrity (snapId : ℤ) (unitId : ℤ) (reason : String)
  | snapRefsNotLoaded (artifact : String) (mode : String)
  | missingBboxColumn (artifact : String) (column : String)
  | parquetSchema (artifact : String) (detail : String)
  | invalidRow (artifact : String) (row : ℕ) (reason : String)
  | rowGroupReadError (artifact : String) (rowGroup : ℕ)
  | integrityViolation (detail : String)
  | missingRequiredD8Aux
  | d8CrsIdentifierOutOfRange (declaredCrs : String)
  | unsupportedD8Crs (declaredCrs : String)
  | noCoveringD8Tile (candidates : String)
  | ambiguousD8Coverage (candidates : String)
  | terminalSpansD8Tiles (candidates : String)
  | cogExtentHeaderRead (declarationIndex : ℕ) (kind : String) (path : String) (source : String)
  | cache (source : String)
  deriving DecidableEq, Repr

/-- The constructors of the `hfx` crate that the reader calls. `boundingBox` gets the four numbers as
`f64` and includes their conversion to `f32`; `manifestBuilder` is the check of
`ManifestBuilder::new`. -/
structure Hfx where
  topology : String → Option Topology
  boundingBox : ℚ → ℚ → ℚ → ℚ → Except String BoundingBox
  unitCount : ℕ → Except String ℕ
  schemaId : String → Except String AuxiliarySchemaId
  auxiliaryDecl : AuxiliarySchemaId → List (String × String) → Except String Unit
  d8Metadata : Option String → Option String → Option String → Except String D8RasterMetadataV2
  manifestBuilder : Manifest → Except String Unit

/-! ## Auxiliary entries -/

def require {α : Type} (error : SessionError) : Option α → Except SessionError α
  | some a => .ok a
  | none => .error error

def failWhen (c : Prop) [Decidable c] (error : SessionError) : Except SessionError Unit :=
  if c then .error error else .ok ()

/-- The path of an artifact of a declaration. -/
def requireArtifact (schema : String) (artifacts : List (String × String)) (key : String) :
    Except SessionError String :=
  require (.auxiliaryDeclParse schema s!"missing required artifact key {debugStr key}")
    (artifacts.lookup key)

/-- `parse_d8_metadata`. -/
def parseD8Metadata (hfx : Hfx) (schema : String) (artifacts : List (String × String))
    (metadata : Json) : Except SessionError D8RasterDecl := do
  let flowDir ← requireArtifact schema artifacts "flow_dir"
  let flowAcc ← requireArtifact schema artifacts "flow_acc"
  let object ← require (.auxiliaryDeclParse schema "metadata block must be an object")
    metadata.asObject
  match (object.map Prod.fst).find? (· ∉ ["crs", "flow_dir_encoding", "flow_acc_units"]) with
  | some additional => .error (.auxiliaryDeclParse schema
      s!"metadata contains forbidden additional property {debugStr additional}")
  | none =>
    let field key := (object.lookup key).bind Json.asStr
    let parsed ← (hfx.d8Metadata (field "crs") (field "flow_dir_encoding")
      (field "flow_acc_units")).mapError (.auxiliaryDeclParse schema)
    .ok ⟨flowDir, flowAcc, parsed⟩

/-- A non-empty list of words of lowercase letters and digits with `-` between them. -/
def isKebabCase (name : String) : Bool :=
  name ≠ "" && (name.toList.splitOn '-').all fun part =>
    part ≠ [] && part.all fun c => c.isLower || c.isDigit

/-- A level of `references_levels`. -/
def parseReferencedLevel (name : String) (value : Json) : Except SessionError ℤ := do
  let level ← require (.snapAuxMetadataInvalid name
    "metadata.references_levels entries must be integers") value.asI64
  failWhen (¬(0 ≤ level ∧ level ≤ 32767)) (.snapAuxMetadataInvalid name
    s!"metadata.references_levels entry {level} out of range [0, 32767]")
  .ok level

/-- `parse_snap_metadata`. -/
def parseSnapMetadata (schema : String) (artifacts : List (String × String)) (metadata : Json) :
    Except SessionError SnapDecl := do
  let snap ← requireArtifact schema artifacts "snap"
  let object ← require (.snapAuxMetadataInvalid "<unknown>" "metadata block must be an object")
    metadata.asObject
  let field key := object.lookup key
  let name ← require (.snapAuxMetadataInvalid "<unknown>" "metadata.name must be a non-empty string")
    ((field "name").bind Json.asStr)
  failWhen (isKebabCase name = false) (.snapAuxMetadataInvalid name
    "metadata.name must be a non-empty kebab-case name")
  let description ← require (.snapAuxMetadataInvalid name "metadata.description must be a string")
    ((field "description").bind Json.asStr)
  let weightSemantics ← require (.snapAuxMetadataInvalid name
    "metadata.weight_semantics must be a string") ((field "weight_semantics").bind Json.asStr)
  let levels ← require (.snapAuxMetadataInvalid name
    "metadata.references_levels must be a non-empty array")
    ((field "references_levels").bind Json.asArray)
  failWhen (levels.isEmpty = true) (.snapAuxMetadataInvalid name
    "metadata.references_levels must be non-empty")
  let referencesLevels ← levels.mapM (parseReferencedLevel name)
  .ok ⟨name, description, snap, referencesLevels, weightSemantics⟩

/-- One entry of `auxiliary[]`, readable and classified or unreadable. -/
inductive ParsedAuxiliary where
  | d8 (decl : D8RasterDecl) (artifacts : List (String × String))
  | snap (decl : SnapDecl) (artifacts : List (String × String))
  | generic (schemaId : AuxiliarySchemaId) (decl : RawAuxDecl)
  | unreadable (decl : RawAuxDecl)

/-- A declaration that is not of its schema. -/
def schemaMismatch (schema declaration : String) : SessionError :=
  .auxiliaryDeclParse schema
    s!"parsed auxiliary schema does not match support claim {debugStr declaration}"

/-- `parse_auxiliary`. What is not understood is kept as unreadable. -/
def parseAuxiliary (hfx : Hfx) (raw : RawAuxiliary) : Except SessionError ParsedAuxiliary := do
  let schema ← require (.auxiliaryDeclParse "<missing>"
    "auxiliary entry is missing required \"schema\" field") raw.schema
  match hfx.schemaId schema with
  | .error reason =>
    if schema.startsWith "hfx.aux." then .ok (.unreadable ⟨schema, raw.artifacts, raw.metadata⟩)
    else .error (.auxiliaryDeclParse schema reason)
  | .ok schemaId =>
    failWhen (raw.artifacts.isEmpty = true) (.auxiliaryDeclParse schema
      "auxiliary \"artifacts\" mapping must be non-empty")
    (hfx.auxiliaryDecl schemaId raw.artifacts).mapError (.auxiliaryDeclParse schema)
    match schemaId with
    | .d8RasterV2 =>
      failWhen (schema ≠ "hfx.aux.d8_raster.v2") (schemaMismatch schema "hfx.aux.d8_raster.v2")
      let decl ← parseD8Metadata hfx schema raw.artifacts raw.metadata
      .ok (.d8 decl raw.artifacts)
    | .snapV2 =>
      failWhen (schema ≠ "hfx.aux.snap.v2") (schemaMismatch schema "hfx.aux.snap.v2")
      let decl ← parseSnapMetadata schema raw.artifacts raw.metadata
      .ok (.snap decl raw.artifacts)
    | .provisional _ | .thirdParty _ =>
      .ok (.generic schemaId ⟨schema, raw.artifacts, raw.metadata⟩)

namespace ParsedAuxiliary

/-- The schema and the artifacts of a declaration that is understood. -/
def readable : ParsedAuxiliary → Option (AuxiliarySchemaId × List (String × String))
  | d8 _ artifacts => some (.d8RasterV2, artifacts)
  | snap _ artifacts => some (.snapV2, artifacts)
  | generic schemaId decl => some (schemaId, decl.artifacts)
  | unreadable _ => none

def asD8 : ParsedAuxiliary → Option D8RasterDecl
  | d8 decl _ => some decl
  | _ => none

def asSnap : ParsedAuxiliary → Option SnapDecl
  | snap decl _ => some decl
  | _ => none

def asGeneric : ParsedAuxiliary → Option RawAuxDecl
  | generic _ decl => some decl
  | _ => none

def asUnreadable : ParsedAuxiliary → Option RawAuxDecl
  | unreadable decl => some decl
  | _ => none

end ParsedAuxiliary

/-! ## The manifest -/

/-- The bounding box of four numbers. -/
def parseBbox (hfx : Hfx) : List ℚ → Except SessionError BoundingBox
  | [minX, minY, maxX, maxY] =>
    (hfx.boundingBox minX minY maxX maxY).mapError (.manifestFieldInvalid "bbox")
  | raw => .error (.manifestFieldInvalid "bbox"
      s!"expected 4 elements [minx, miny, maxx, maxy], got {raw.length}")

/-- `build_manifest`. The first bad field is the error. -/
def buildManifest (hfx : Hfx) (raw : RawManifest) : Except SessionError ParsedManifest := do
  let formatVersion ← require (.manifestFieldMissing "format_version") raw.formatVersion
  failWhen (formatVersion ≠ "0.3.0") (.unsupportedFormatVersion formatVersion "0.3.0")
  let fabricName ← require (.manifestFieldMissing "fabric_name") raw.fabricName
  let crs ← require (.manifestFieldMissing "crs") raw.crs
  failWhen (crs ≠ "EPSG:4326") (.unsupportedCrs crs "EPSG:4326")
  let topologyText ← require (.manifestFieldMissing "topology") raw.topology
  let topology ← require (.manifestFieldInvalid "topology"
    s!"unsupported topology {debugStr topologyText}, expected \"tree\" or \"dag\"")
    (hfx.topology topologyText)
  let bbox ← parseBbox hfx (← require (.manifestFieldMissing "bbox") raw.bbox)
  let rawCount ← require (.manifestFieldMissing "unit_count") raw.unitCount
  let unitCount ← (hfx.unitCount rawCount).mapError (.manifestFieldInvalid "unit_count")
  let createdAt ← require (.manifestFieldMissing "created_at") raw.createdAt
  let adapterVersion ← require (.manifestFieldMissing "adapter_version") raw.adapterVersion
  let entries ← raw.auxiliary.mapM (parseAuxiliary hfx)
  let manifest : Manifest :=
    { formatVersion, fabricName, crs, topology, bbox, unitCount, createdAt, adapterVersion
      hasUpArea := raw.hasUpArea.getD false
      fabricVersion := raw.fabricVersion
      region := raw.region
      auxiliary := entries.filterMap (·.readable) }
  (hfx.manifestBuilder manifest).mapError .manifestDomain
  .ok ⟨manifest, entries.filterMap (·.asD8), entries.filterMap (·.asSnap),
    entries.filterMap (·.asGeneric), entries.filterMap (·.asUnreadable)⟩

theorem require_eq_ok {α : Type} {error : SessionError} {o : Option α} {a : α}
    (h : require error o = .ok a) : o = some a := by
  cases o with
  | none => cases h
  | some b =>
    cases h
    rfl

/-- The names of an accepted manifest are those of the file. -/
theorem names_of_buildManifest {hfx : Hfx} {raw : RawManifest} {parsed : ParsedManifest}
    (h : buildManifest hfx raw = .ok parsed) :
    raw.fabricName = some parsed.manifest.fabricName ∧
      raw.adapterVersion = some parsed.manifest.adapterVersion := by
  unfold buildManifest at h
  obtain ⟨_, -, h⟩ := bind_eq_ok h
  obtain ⟨_, -, h⟩ := bind_eq_ok h
  obtain ⟨fabricName, hfabric, h⟩ := bind_eq_ok h
  obtain ⟨_, -, h⟩ := bind_eq_ok h
  obtain ⟨_, -, h⟩ := bind_eq_ok h
  obtain ⟨_, -, h⟩ := bind_eq_ok h
  obtain ⟨_, -, h⟩ := bind_eq_ok h
  obtain ⟨_, -, h⟩ := bind_eq_ok h
  obtain ⟨_, -, h⟩ := bind_eq_ok h
  obtain ⟨_, -, h⟩ := bind_eq_ok h
  obtain ⟨_, -, h⟩ := bind_eq_ok h
  obtain ⟨_, -, h⟩ := bind_eq_ok h
  obtain ⟨adapterVersion, hadapter, h⟩ := bind_eq_ok h
  obtain ⟨_, -, h⟩ := bind_eq_ok h
  obtain ⟨_, -, h⟩ := bind_eq_ok h
  cases h
  exact ⟨require_eq_ok hfabric, require_eq_ok hadapter⟩

/-! ## Auxiliary paths -/

/-- The path is absolute or has a `..`. -/
def pathEscapesRoot (rawPath : String) : Bool :=
  (UnixPath.ofString rawPath).absolute || (pathSegments rawPath).any (· = "..")

/-- The artifacts whose paths are checked, as schema, artifact and path. The unreadable declarations
are not among them. -/
def AuxDeclarations.checkedArtifacts (aux : AuxDeclarations) : List (String × String × String) :=
  (aux.d8Rasters.flatMap fun decl =>
    [("hfx.aux.d8_raster.v2", "flow_dir", decl.flowDir),
      ("hfx.aux.d8_raster.v2", "flow_acc", decl.flowAcc)]) ++
  (aux.snaps.map fun decl => ("hfx.aux.snap.v2", "snap", decl.snap)) ++
  aux.generic.flatMap fun decl => decl.artifacts.map fun artifact =>
    (decl.schema, artifact.1, artifact.2)

/-- `validate_remote_aux_artifact`. -/
def validateRemoteAuxArtifact (schema artifact rawPath : String) : Except SessionError Unit :=
  failWhen (pathEscapesRoot rawPath = true) (.auxiliaryPathEscape schema artifact rawPath)

/-- `validate_remote_aux_paths`. -/
def validateRemoteAuxPaths (aux : AuxDeclarations) : Except SessionError Unit :=
  aux.checkedArtifacts.forM fun entry => validateRemoteAuxArtifact entry.1 entry.2.1 entry.2.2

/-- The text of a path in an error. -/
def UnixPath.display (path : UnixPath) : String :=
  (if path.absolute then "/" else "") ++ "/".intercalate path.parts

/-- `pathExists` is the file system at the time of the check. -/
def validateLocalAuxArtifact (pathExists : UnixPath → Bool) (root : UnixPath)
    (schema artifact rawPath : String) : Except SessionError Unit := do
  failWhen (pathEscapesRoot rawPath = true) (.auxiliaryPathEscape schema artifact rawPath)
  failWhen (pathExists (root.join rawPath) = false)
    (.auxiliaryArtifactMissing schema artifact (root.join rawPath).display)

/-- `validate_local_aux_paths`. -/
def validateLocalAuxPaths (pathExists : UnixPath → Bool) (root : UnixPath) (aux : AuxDeclarations) :
    Except SessionError Unit :=
  aux.checkedArtifacts.forM fun entry =>
    validateLocalAuxArtifact pathExists root entry.1 entry.2.1 entry.2.2

/-- `remote_artifact_path`, before the object store encodes the components. -/
def remoteArtifactPath (root : UnixPath) (artifact : String) : UnixPath :=
  ⟨root.absolute, root.parts ++ pathSegments artifact⟩

theorem failWhen_eq_ok {c : Prop} [Decidable c] {error : SessionError} {u : Unit}
    (h : failWhen c error = .ok u) : ¬c := by
  intro hc
  rw [failWhen, if_pos hc] at h
  cases h

theorem forM_eq_ok {α ε : Type} {f : α → Except ε Unit} {l : List α} {u : Unit}
    (h : l.forM f = .ok u) {a : α} (ha : a ∈ l) : f a = .ok () := by
  induction l with
  | nil => cases ha
  | cons b l ih =>
    obtain ⟨⟨⟩, hb, hrest⟩ := bind_eq_ok h
    rcases List.mem_cons.1 ha with rfl | ha
    · exact hb
    · exact ih hrest ha

theorem no_dots_of_not_escapes {rawPath : String} (h : pathEscapesRoot rawPath = false) :
    (UnixPath.ofString rawPath).absolute = false ∧ ".." ∉ pathSegments rawPath := by
  rw [pathEscapesRoot, Bool.or_eq_false_iff] at h
  refine ⟨h.1, ?_⟩
  intro hmem
  exact absurd h.2 (by simpa using hmem)

/-- **Checked paths.** A path that does not escape lies under the root that it is joined to. -/
theorem under_of_not_escapes {workingDir : List String} {root : UnixPath} {rawPath : String}
    (h : pathEscapesRoot rawPath = false) : (root.join rawPath).Under workingDir root := by
  obtain ⟨habsolute, hdots⟩ := no_dots_of_not_escapes h
  rw [UnixPath.join, if_neg (by simp [habsolute])]
  exact UnixPath.under_append (climbs_of_no_dots hdots 0)

end Pourpoint
