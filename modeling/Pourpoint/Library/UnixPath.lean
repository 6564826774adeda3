import Mathlib

/-!
# Unix paths

A path is a list of components, at the file system root or relative. Reading text drops empty
components and `.`, as `Path::components` does; joining an absolute path replaces the base.

Resolution is lexical: `..` removes the component before it. Components that never climb above their
start (`climbs`) stay under every base (`prefix_resolveParts`), and components that do leave every base
whose last name is none of theirs (`notMem_resolveParts_of_climbs`).
-/

namespace Pourpoint

structure UnixPath where
  absolute : Bool
  parts : List String
  deriving DecidableEq, Repr

/-- The components of a text. -/
def pathSegments (text : String) : List String :=
  ((text.toList.splitOn '/').map String.ofList).filter fun part => part ≠ "" ∧ part ≠ "."

namespace UnixPath

def ofString (text : String) : UnixPath := ⟨text.toList.head? = some '/', pathSegments text⟩

/-- `Path::join`. An absolute text replaces the path. -/
def join (path : UnixPath) (text : String) : UnixPath :=
  if (ofString text).absolute then ofString text else ⟨path.absolute, path.parts ++ pathSegments text⟩

/-- `Path::file_name`. -/
def fileName (path : UnixPath) : Option String := path.parts.getLast?.filter (· ≠ "..")

/-- `Path::parent`. -/
def parent (path : UnixPath) : Option UnixPath :=
  if path.parts = [] then none else some ⟨path.absolute, path.parts.dropLast⟩

/-- The name before its last dot, or the whole name when that would be empty. -/
def fileStem (name : String) : String :=
  match name.toList.reverse.dropWhile (· ≠ '.') with
  | [] | [_] => name
  | _ :: stem => String.ofList stem.reverse

/-- `Path::with_extension`. -/
def withExtension (path : UnixPath) (extension : String) : UnixPath :=
  match path.fileName with
  | none => path
  | some name => ⟨path.absolute, path.parts.dropLast ++ [fileStem name ++ "." ++ extension]⟩

end UnixPath

/-! ## Resolution -/

/-- One component, from a directory: `..` leaves it. -/
def resolvePart (here : List String) (part : String) : List String :=
  if part = ".." then here.dropLast else here ++ [part]

/-- The components one after another. -/
def resolveParts (here : List String) (parts : List String) : List String := parts.foldl resolvePart here

/-- The location of a path for this working directory. -/
def UnixPath.resolve (workingDir : List String) (path : UnixPath) : List String :=
  resolveParts (if path.absolute then [] else workingDir) path.parts

/-- The path lies at or under the root. -/
def UnixPath.Under (workingDir : List String) (path root : UnixPath) : Prop :=
  root.resolve workingDir <+: path.resolve workingDir

/-- From this depth, the components climb above their start. -/
def climbs : ℕ → List String → Bool
  | _, [] => false
  | depth, part :: parts =>
    if part = ".." then depth = 0 || climbs (depth - 1) parts else climbs (depth + 1) parts

theorem resolveParts_append (here parts parts' : List String) :
    resolveParts here (parts ++ parts') = resolveParts (resolveParts here parts) parts' :=
  List.foldl_append

theorem prefix_resolveParts {base inner parts : List String}
    (h : climbs inner.length parts = false) : base <+: resolveParts (base ++ inner) parts := by
  induction parts generalizing inner with
  | nil => exact List.prefix_append base inner
  | cons part parts ih =>
    rw [climbs] at h
    split_ifs at h with hpart
    · -- A `..` removes the last inner component, of which there is one.
      cases inner using List.reverseRecOn with
      | nil => cases h
      | append_singleton inner last =>
        have h : climbs inner.length parts = false := by simpa using h
        have hstep : resolvePart (base ++ (inner ++ [last])) part = base ++ inner := by
          rw [resolvePart, if_pos hpart, ← List.append_assoc, List.dropLast_concat]
        show base <+: resolveParts (resolvePart (base ++ (inner ++ [last])) part) parts
        rw [hstep]
        exact ih h
    · have hstep : resolvePart (base ++ inner) part = base ++ (inner ++ [part]) := by
        rw [resolvePart, if_neg hpart, List.append_assoc]
      show base <+: resolveParts (resolvePart (base ++ inner) part) parts
      rw [hstep]
      apply ih
      rw [List.length_append, List.length_singleton]
      exact h

/-- Resolution only adds names of the components. -/
theorem notMem_resolveParts {name : String} {here parts : List String} (hhere : name ∉ here)
    (hparts : name ∉ parts) : name ∉ resolveParts here parts := by
  induction parts generalizing here with
  | nil => exact hhere
  | cons part parts ih =>
    rw [List.mem_cons, not_or] at hparts
    apply ih _ hparts.2
    unfold resolvePart
    split_ifs
    · exact fun h => hhere (List.mem_of_mem_dropLast h)
    · rw [List.mem_append, List.mem_singleton, not_or]
      exact ⟨hhere, hparts.1⟩

theorem notMem_resolveParts_of_climbs {name : String} {inner parts : List String}
    (hinner : name ∉ inner) (hparts : name ∉ parts) (h : climbs inner.length parts = true) :
    name ∉ resolveParts ([name] ++ inner) parts := by
  induction parts generalizing inner with
  | nil => cases h
  | cons part parts ih =>
    rw [List.mem_cons, not_or] at hparts
    rw [climbs] at h
    split_ifs at h with hpart
    · cases inner using List.reverseRecOn with
      | nil =>
        show name ∉ resolveParts (resolvePart ([name] ++ []) part) parts
        rw [resolvePart, if_pos hpart]
        exact notMem_resolveParts List.not_mem_nil hparts.2
      | append_singleton inner last =>
        have h : climbs inner.length parts = true := by simpa using h
        rw [List.mem_append, not_or] at hinner
        show name ∉ resolveParts (resolvePart ([name] ++ (inner ++ [last])) part) parts
        rw [resolvePart, if_pos hpart, ← List.append_assoc, List.dropLast_concat]
        exact ih hinner.1 hparts.2 h
    · show name ∉ resolveParts (resolvePart ([name] ++ inner) part) parts
      rw [resolvePart, if_neg hpart, List.append_assoc]
      apply ih _ hparts.2
      · rw [List.length_append, List.length_singleton]
        exact h
      · rw [List.mem_append, List.mem_singleton, not_or]
        exact ⟨hinner, hparts.1⟩

theorem climbs_of_no_dots {parts : List String} (h : ".." ∉ parts) (depth : ℕ) :
    climbs depth parts = false := by
  induction parts generalizing depth with
  | nil => rfl
  | cons part parts ih =>
    rw [List.mem_cons, not_or] at h
    rw [climbs, if_neg (Ne.symm h.1)]
    exact ih h.2 (depth + 1)

/-- What is joined by components that do not climb lies under the base. -/
theorem UnixPath.under_append {workingDir : List String} {root : UnixPath} {parts : List String}
    (h : climbs 0 parts = false) :
    UnixPath.Under workingDir ⟨root.absolute, root.parts ++ parts⟩ root := by
  unfold Under resolve
  rw [resolveParts_append]
  have hinner : climbs ([] : List String).length parts = false := h
  simpa only [List.append_nil] using prefix_resolveParts hinner

/-! ## Plain names -/

/-- A name that is one component and not `..`. -/
structure PlainName (name : String) : Prop where
  ne_empty : name ≠ ""
  ne_dot : name ≠ "."
  ne_dots : name ≠ ".."
  no_slash : '/' ∉ name.toList

theorem PlainName.segments_eq {name : String} (h : PlainName name) : pathSegments name = [name] := by
  have hsplit : name.toList.splitOn '/' = [name.toList] := by
    apply List.splitOnP_eq_singleton
    intro c hc
    rw [beq_eq_false_iff_ne]
    rintro rfl
    exact h.no_slash hc
  rw [pathSegments, hsplit]
  simp [h.ne_empty, h.ne_dot]

theorem PlainName.head_ne {name : String} (h : PlainName name) : name.toList.head? ≠ some '/' :=
  fun hhead => h.no_slash (List.mem_of_head? hhead)

/-- No list has all the names. -/
theorem exists_plainName_notMem (parts : List String) : ∃ name, PlainName name ∧ name ∉ parts := by
  have hslash : ∀ n, '/' ∉ (String.ofList (List.replicate n 'a')).toList := by
    intro n h
    rw [String.toList_ofList] at h
    exact absurd (List.eq_of_mem_replicate h) (by decide)
  have hlong : ∀ (n : ℕ) (text : String), text.toList.length < n →
      String.ofList (List.replicate n 'a') ≠ text := by
    rintro n _ hlt rfl
    rw [String.toList_ofList, List.length_replicate] at hlt
    exact lt_irrefl n hlt
  let total := (parts.map fun part => part.toList.length).sum
  refine ⟨String.ofList (List.replicate (total + 3) 'a'),
    ⟨hlong _ _ (by simp), hlong _ _ (show 1 < total + 3 by omega),
      hlong _ _ (show 2 < total + 3 by omega), hslash _⟩, ?_⟩
  intro hmem
  have hlength := List.mem_map_of_mem (f := fun part : String => part.toList.length) hmem
  have hle : _ ≤ total := List.single_le_sum (fun _ _ => Nat.zero_le _) _ hlength
  rw [String.toList_ofList, List.length_replicate] at hle
  omega

namespace UnixPath

variable {workingDir : List String} {path root : UnixPath} {name : String}

theorem join_plain (h : PlainName name) : path.join name = ⟨path.absolute, path.parts ++ [name]⟩ := by
  unfold join
  rw [if_neg (by simp [ofString, h.head_ne]), h.segments_eq]

theorem resolve_join_plain (h : PlainName name) :
    (path.join name).resolve workingDir = path.resolve workingDir ++ [name] := by
  rw [join_plain h, resolve, resolveParts_append]
  show resolvePart _ name = _
  rw [resolvePart, if_neg h.ne_dots]
  rfl

theorem withExtension_join_plain (h : PlainName name) (extension : String) :
    (path.join name).withExtension extension =
      ⟨path.absolute, path.parts ++ [fileStem name ++ "." ++ extension]⟩ := by
  have hname : fileName ⟨path.absolute, path.parts ++ [name]⟩ = some name := by
    simp [fileName, Option.filter, h.ne_dots]
  rw [UnixPath.join_plain h, withExtension, hname]
  simp

theorem Under.join_plain (h : path.Under workingDir root) (hname : PlainName name) :
    (path.join name).Under workingDir root := by
  unfold Under
  rw [resolve_join_plain hname]
  exact h.trans (List.prefix_append _ _)

end UnixPath

end Pourpoint
