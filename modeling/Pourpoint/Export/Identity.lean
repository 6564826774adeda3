import Pourpoint.Upstream

/-!
# Identities of exported rows

A basin identifier keeps its allowlist check as a field, and a delineation label is not empty. The
defaults are made from the terminal unit and from the identity of the fabric.
-/

namespace Pourpoint

/-- `ExportError`, with the texts of the errors of other crates. -/
inductive ExportError where
  | invalidBasinId (value : String) (reason : String)
  | missingFabricVersion (fabricName : String)
  | negativeDefaultBasinId (terminalUnitId : ℤ)
  | defaultBasinIdCollision (basinId : String) (firstOrigin : String) (secondOrigin : String)
  | bboxFailure (reason : String)
  | centroidFailure (reason : String)
  | rowGroupPlanningFailure (rowCount : ℕ) (reason : String)
  | emptyInput
  | emptyUnitBundle
  | duplicateRow (basinId : String) (delineation : String)
  | duplicateUnitBundleRow (unitId : ℤ) (delineation : String)
  | geometryEncodingFailure (basinId : String) (source : String)
  | unitGeometryEncodingFailure (unitId : ℤ) (source : String)
  | arrowWriteFailure (source : String)
  | parquetWriteFailure (source : String)
  | footerMetadataFailure (reason : String)
  deriving DecidableEq, Repr

/-! ## Basin identifiers -/

/-- The most bytes of a basin id. -/
def maxBasinIdBytes : ℕ := 128

/-- `single_ascii_digit_1_to_9`. -/
def singleDigitOneToNine : List Char → Bool
  | [c] => '1' ≤ c ∧ c ≤ '9'
  | _ => false

/-- `is_windows_device_name`. -/
def isWindowsDeviceName (value : String) : Bool :=
  match value.toList.map Char.toUpper with
  | ['C', 'O', 'N'] | ['P', 'R', 'N'] | ['A', 'U', 'X'] | ['N', 'U', 'L'] => true
  | 'C' :: 'O' :: 'M' :: rest | 'L' :: 'P' :: 'T' :: rest => singleDigitOneToNine rest
  | _ => false

/-- The first check of `validate_basin_id` that fails. -/
def basinIdReason (value : String) : Option String :=
  if value = "" then some "basin_id must not be empty"
  else if maxBasinIdBytes < value.utf8ByteSize then some "basin_id must be at most 128 bytes"
  else if value = "." ∨ value = ".." then some "basin_id must not be . or .."
  else if value.toList.getLast? = some '.' then some "basin_id must not end with a dot"
  else if value.toList.getLast? = some ' ' then some "basin_id must not end with a space"
  else if isWindowsDeviceName value then some "basin_id must not be a Windows device name"
  else if value.toList.all fun c => c.isAlphanum || c = '.' || c = '_' || c = '-' then none
  else some "basin_id must match ^[A-Za-z0-9._-]+$"

/-- `BasinId`. -/
structure BasinId where
  value : String
  valid : basinIdReason value = none
  deriving DecidableEq

namespace BasinId

/-- `BasinId::parse`. -/
def parse (value : String) : Except ExportError BasinId :=
  match h : basinIdReason value with
  | some reason => .error (.invalidBasinId value reason)
  | none => .ok ⟨value, h⟩

/-- `from_terminal_unit_id_raw`. -/
def fromTerminalUnitId (terminalUnitId : ℤ) : Except ExportError BasinId :=
  if terminalUnitId < 0 then .error (.negativeDefaultBasinId terminalUnitId)
  else parse (toString terminalUnitId)

theorem ext_value {a b : BasinId} (h : a.value = b.value) : a = b := by
  cases a
  cases b
  cases h
  rfl

end BasinId

/-! ## Delineation labels -/

structure ExportMethod where
  value : String
  nonempty : value ≠ ""
  deriving DecidableEq

/-- `ExportMethod::parse`. -/
def ExportMethod.parse (value : String) : Except ExportError ExportMethod :=
  if h : value = "" then .error (.invalidBasinId value "export method must not be empty")
  else .ok ⟨value, h⟩

/-- The fabric that a row comes from. -/
structure FabricIdentity where
  fabricName : String
  fabricVersion : Option String
  adapterVersion : String
  deriving DecidableEq, Repr

/-- Where a default id comes from, for the error about a collision. -/
structure ExportOrigin where
  description : String
  deriving DecidableEq, Repr

structure DelineationLabel where
  value : String
  nonempty : value ≠ ""
  deriving DecidableEq

namespace DelineationLabel

/-- `DelineationLabel::parse`. -/
def parse (value : String) : Except ExportError DelineationLabel :=
  if h : value = "" then .error (.invalidBasinId value "delineation label must not be empty")
  else .ok ⟨value, h⟩

/-- `{fabric_name}/{fabric_version}/{method}`. -/
def defaultText (fabricName version method : String) : String :=
  fabricName ++ "/" ++ version ++ "/" ++ method

theorem defaultText_ne_empty (fabricName version : String) (method : ExportMethod) :
    defaultText fabricName version method.value ≠ "" := by
  intro h
  have hlist := congrArg String.toList h
  simp [defaultText] at hlist

/-- `from_fabric_identity`. -/
def fromFabricIdentity (identity : FabricIdentity) (method : ExportMethod) :
    Except ExportError DelineationLabel :=
  match identity.fabricVersion with
  | none => .error (.missingFabricVersion identity.fabricName)
  | some version => .ok
    ⟨defaultText identity.fabricName version method.value, defaultText_ne_empty _ _ method⟩

theorem ext_value {a b : DelineationLabel} (h : a.value = b.value) : a = b := by
  cases a
  cases b
  cases h
  rfl

end DelineationLabel

example : (BasinId.parse "com9").isOk = false := by decide
example : (BasinId.fromTerminalUnitId 7).map (·.value) = .ok "7" := by decide +kernel

end Pourpoint
