import Pourpoint.Engine.OpenPath
import Pourpoint.Library.Failure

/-!
# Selections of snap sets

`SnapTargets::open` reads the manifest of a dataset and opens the declared snap sets, all of them or the
one with a name, without the drainage graph and the catchments. It refuses declarations that it cannot
read, two sets of one name, a name that is not declared, and an empty selection.

**Theorem (`openTargets_outcome`).** It opens the selected sets, in the order of their declarations, or
returns an error that is true of the manifest.

**Theorem (`openTargets_of_openPath`).** The stores that it opens are those of an opened session.
-/

namespace Pourpoint

open Fallible Library

/-- What is read of a source: the manifest, and snap files by the paths of their declarations. -/
structure SnapSource where
  manifest : Except SessionError ParsedManifest
  snap : String → Option SnapFile

inductive SnapTargetsError where
  | noSnapDeclarations
  | unknownSet (name : String) (available : List String)
  | unsupportedDeclaration (schema : String) (name : Option String)
  | duplicateSet (name : String)
  | read (source : SessionError)
  /-- A file that cannot be read has no source. -/
  | snapArtifactRead (name : String) (path : String) (source : Option SessionError)
  deriving DecidableEq, Repr

/-- The declarations that were selected, and their stores. The JSON of the manifest, which is handed on
unchanged, is left out. -/
structure SnapTargets where
  declarations : List SnapDecl
  stores : List SnapStore
  scope : SnapScope

namespace SnapTargets

/-! ## The selection -/

/-- `metadata.get("name").and_then(as_str)`. -/
def metadataName (metadata : Json) : Option String :=
  (metadata.asObject.bind fun object => object.lookup "name").bind Json.asStr

/-- An unreadable snap declaration that may be one of the selected sets. -/
def NeedsUnsupported (snapSet : Option String) (decl : RawAuxDecl) : Prop :=
  decl.schema.startsWith "hfx.aux.snap." = true ∧
    (snapSet = none ∨ metadataName decl.metadata = snapSet)

instance (snapSet : Option String) (decl : RawAuxDecl) : Decidable (NeedsUnsupported snapSet decl) :=
  inferInstanceAs (Decidable (_ ∧ _))

/-- An unreadable declaration that the selection needs. -/
def checkSupported (snapSet : Option String) (decl : RawAuxDecl) : Except SnapTargetsError Unit :=
  if NeedsUnsupported snapSet decl then
    .error (.unsupportedDeclaration decl.schema (metadataName decl.metadata))
  else .ok ()

/-- An insertion into the `BTreeSet` of names. -/
def insertName (names : List String) (decl : SnapDecl) : Except SnapTargetsError (List String) :=
  if decl.name ∈ names then .error (.duplicateSet decl.name)
  else .ok (names.orderedInsert (· ≤ ·) decl.name)

/-- The selected name is declared. -/
def checkSelection (names : List String) : Option String → Except SnapTargetsError Unit
  | some name => if name ∈ names then .ok () else .error (.unknownSet name names)
  | none => if names = [] then .error .noSnapDeclarations else .ok ()

/-- `snap_set.is_none_or(|name| name == decl.name)`. -/
def isSelected (snapSet : Option String) (decl : SnapDecl) : Bool := snapSet.all (· = decl.name)

/-- One selected declaration is opened. -/
def openSelected (reader : SnapReader) (source : SnapSource) (decl : SnapDecl) :
    Except SnapTargetsError SnapStore :=
  if pathEscapesRoot decl.snap = true then
    .error (.read (.auxiliaryPathEscape "hfx.aux.snap.v2" "snap" decl.snap))
  else
    match source.snap decl.snap with
    | none => .error (.snapArtifactRead decl.name decl.snap none)
    | some file => (SnapStore.openObject reader file).mapError fun error =>
        .snapArtifactRead decl.name decl.snap (some error)

/-- `SnapTargets::open`. -/
def openTargets (reader : SnapReader) (source : SnapSource) (scope : SnapScope)
    (snapSet : Option String) : Except SnapTargetsError SnapTargets := do
  let parsed ← source.manifest.mapError .read
  parsed.aux.unreadable.forM (checkSupported snapSet)
  let names ← parsed.aux.snaps.foldlM insertName []
  checkSelection names snapSet
  let declarations := parsed.aux.snaps.filter (isSelected snapSet)
  let stores ← declarations.mapM (openSelected reader source)
  .ok { declarations, stores, scope }

/-! ## What is selected -/

/-- The file of a declaration is inside the dataset and opens as the store. -/
def Opens (reader : SnapReader) (source : SnapSource) (decl : SnapDecl) (store : SnapStore) : Prop :=
  pathEscapesRoot decl.snap = false ∧
    ∃ file, source.snap decl.snap = some file ∧ SnapStore.openObject reader file = .ok store

/-- The names of the declared sets. -/
def setNames (parsed : ParsedManifest) : List String := parsed.aux.snaps.map (·.name)

/-- The targets are those of the selection, opened. -/
structure Selects (reader : SnapReader) (source : SnapSource) (scope : SnapScope)
    (snapSet : Option String) (parsed : ParsedManifest) (targets : SnapTargets) : Prop where
  supported : ∀ decl ∈ parsed.aux.unreadable, ¬NeedsUnsupported snapSet decl
  distinct : (setNames parsed).Nodup
  nonempty : parsed.aux.snaps ≠ []
  declared : ∀ name ∈ snapSet, name ∈ setNames parsed
  declarations : targets.declarations = parsed.aux.snaps.filter (isSelected snapSet)
  stores : List.Forall₂ (Opens reader source) targets.declarations targets.stores
  scope_eq : targets.scope = scope

/-- What an error says of the dataset. -/
inductive Explains (reader : SnapReader) (source : SnapSource) (snapSet : Option String) :
    SnapTargetsError → Prop
  | manifest {error : SessionError} (h : source.manifest = .error error) :
    Explains reader source snapSet (.read error)
  | unsupported {parsed : ParsedManifest} {decl : RawAuxDecl} (hparsed : source.manifest = .ok parsed)
    (hdecl : decl ∈ parsed.aux.unreadable) (hneeds : NeedsUnsupported snapSet decl) :
    Explains reader source snapSet (.unsupportedDeclaration decl.schema (metadataName decl.metadata))
  | duplicate {parsed : ParsedManifest} {before after : List SnapDecl} {decl : SnapDecl}
    (hparsed : source.manifest = .ok parsed) (hsplit : parsed.aux.snaps = before ++ decl :: after)
    (hfirst : (before.map (·.name)).Nodup) (hagain : decl.name ∈ before.map (·.name)) :
    Explains reader source snapSet (.duplicateSet decl.name)
  | unknown {parsed : ParsedManifest} {name : String} {available : List String}
    (hparsed : source.manifest = .ok parsed) (hset : snapSet = some name)
    (hname : name ∉ setNames parsed) (hsorted : available.Pairwise (· < ·))
    (havailable : ∀ other, other ∈ available ↔ other ∈ setNames parsed) :
    Explains reader source snapSet (.unknownSet name available)
  | empty {parsed : ParsedManifest} (hparsed : source.manifest = .ok parsed) (hset : snapSet = none)
    (hsnaps : parsed.aux.snaps = []) : Explains reader source snapSet .noSnapDeclarations
  | escape {parsed : ParsedManifest} {decl : SnapDecl} (hparsed : source.manifest = .ok parsed)
    (hdecl : decl ∈ parsed.aux.snaps.filter (isSelected snapSet))
    (hescape : pathEscapesRoot decl.snap = true) :
    Explains reader source snapSet
      (.read (.auxiliaryPathEscape "hfx.aux.snap.v2" "snap" decl.snap))
  | missing {parsed : ParsedManifest} {decl : SnapDecl} (hparsed : source.manifest = .ok parsed)
    (hdecl : decl ∈ parsed.aux.snaps.filter (isSelected snapSet)) (hfile : source.snap decl.snap = none) :
    Explains reader source snapSet (.snapArtifactRead decl.name decl.snap none)
  | invalid {parsed : ParsedManifest} {decl : SnapDecl} {file : SnapFile} {error : SessionError}
    (hparsed : source.manifest = .ok parsed)
    (hdecl : decl ∈ parsed.aux.snaps.filter (isSelected snapSet)) (hfile : source.snap decl.snap = some file)
    (hopen : SnapStore.openObject reader file = .error error) :
    Explains reader source snapSet (.snapArtifactRead decl.name decl.snap (some error))

/-- The set is listed in order and holds the names. -/
structure ListsNames (names : List String) (decls : List SnapDecl) : Prop where
  sorted : names.Pairwise (· < ·)
  mem_iff : ∀ name, name ∈ names ↔ name ∈ decls.map (·.name)

section

variable {reader : SnapReader} {source : SnapSource} {scope : SnapScope} {snapSet : Option String}
  {names : List String} {decls : List SnapDecl}

/-- One declaration: the set takes a new name, and refuses one that it has. -/
theorem ListsNames.insert (h : ListsNames names decls) (decl : SnapDecl) :
    (decl.name ∈ decls.map (·.name) ∧ insertName names decl = .error (.duplicateSet decl.name)) ∨
    (decl.name ∉ decls.map (·.name) ∧ ∃ names', insertName names decl = .ok names' ∧
      ListsNames names' (decls ++ [decl])) := by
  unfold insertName
  by_cases hmem : decl.name ∈ names
  · rw [if_pos hmem]
    exact .inl ⟨(h.mem_iff _).1 hmem, rfl⟩
  · rw [if_neg hmem]
    refine .inr ⟨fun hold => hmem ((h.mem_iff _).2 hold), _, rfl, ?_, ?_⟩
    · have hle : (names.orderedInsert (· ≤ ·) decl.name).Pairwise (· ≤ ·) :=
        List.Pairwise.orderedInsert _ _ (h.sorted.imp le_of_lt)
      have hne : (names.orderedInsert (· ≤ ·) decl.name).Nodup :=
        (List.perm_orderedInsert _ _ _).nodup_iff.2
          (List.nodup_cons.2 ⟨hmem, h.sorted.imp ne_of_lt⟩)
      exact hle.imp₂ (fun _ _ hle hne => lt_of_le_of_ne hle hne) hne
    · intro name
      rw [List.mem_orderedInsert, h.mem_iff, List.map_append, List.mem_append, or_comm]
      simp

/-- The first declaration whose name is taken, or the set of all names. -/
theorem foldlM_insertName (h : ListsNames names decls) (hnodup : (decls.map (·.name)).Nodup)
    (rest : List SnapDecl) :
    (((decls ++ rest).map (·.name)).Nodup ∧ ∃ names', rest.foldlM insertName names = .ok names' ∧
      ListsNames names' (decls ++ rest)) ∨
    ∃ before decl after, rest = before ++ decl :: after ∧ ((decls ++ before).map (·.name)).Nodup ∧
      decl.name ∈ (decls ++ before).map (·.name) ∧
      rest.foldlM insertName names = .error (.duplicateSet decl.name) := by
  induction rest generalizing names decls with
  | nil =>
    rw [List.append_nil]
    exact .inl ⟨hnodup, names, rfl, h⟩
  | cons decl rest ih =>
    rcases h.insert decl with ⟨hold, herror⟩ | ⟨hnew, names', hok, hlists⟩
    · refine .inr ⟨[], decl, rest, rfl, by rwa [List.append_nil], by rwa [List.append_nil], ?_⟩
      rw [List.foldlM_cons, herror, error_bind]
    · have hnodup' : ((decls ++ [decl]).map (·.name)).Nodup := by
        rw [List.map_append, List.map_singleton]
        exact List.nodup_append.2 ⟨hnodup, List.nodup_singleton _, by
          rintro name hname _ hdecl rfl
          exact hnew (List.mem_singleton.1 hdecl ▸ hname)⟩
      rw [List.foldlM_cons, hok, ok_bind]
      rcases ih hlists hnodup' with ⟨hall, hrun⟩ | ⟨before, found, after, rfl, hbefore, hfound, hrun⟩
      · rw [← List.append_cons] at hall hrun
        exact .inl ⟨hall, hrun⟩
      · rw [← List.append_cons] at hbefore hfound
        exact .inr ⟨decl :: before, found, after, rfl, hbefore, hfound, hrun⟩

theorem checkSupported_eq_ok_iff {decl : RawAuxDecl} :
    checkSupported snapSet decl = .ok () ↔ ¬NeedsUnsupported snapSet decl := by
  unfold checkSupported
  by_cases h : NeedsUnsupported snapSet decl
  · simp [h]
  · simp [h]

theorem openSelected_eq_ok_iff {decl : SnapDecl} {store : SnapStore} :
    openSelected reader source decl = .ok store ↔ Opens reader source decl store := by
  unfold openSelected Opens
  by_cases hescape : pathEscapesRoot decl.snap = true
  · simp [hescape]
  · rw [if_neg hescape, Bool.not_eq_true] at *
    cases hfile : source.snap decl.snap with
    | none => simp
    | some file => simp [hescape, mapError_eq_ok_iff]

theorem listsNames_nil : ListsNames [] [] := ⟨.nil, fun _ => Iff.rfl⟩

theorem ListsNames.ne_nil (h : ListsNames names decls) : names ≠ [] ↔ decls ≠ [] := by
  have hnil : names = [] ↔ decls.map (·.name) = [] := by
    simp only [List.eq_nil_iff_forall_not_mem, h.mem_iff]
  rw [Ne, hnil, List.map_eq_nil_iff]

theorem ListsNames.checkSelection_eq_ok_iff (h : ListsNames names decls) :
    checkSelection names snapSet = .ok () ↔
      decls ≠ [] ∧ ∀ name ∈ snapSet, name ∈ decls.map (·.name) := by
  rw [← h.ne_nil]
  simp only [← h.mem_iff]
  cases snapSet with
  | none =>
    unfold checkSelection
    by_cases hnil : names = []
    · simp [hnil]
    · simp [hnil]
  | some name =>
    unfold checkSelection
    by_cases hname : name ∈ names
    · simp [hname, List.ne_nil_of_mem hname]
    · simp [hname]

/-- **What is opened** is what is selected. -/
theorem openTargets_eq_ok_iff {targets : SnapTargets} :
    openTargets reader source scope snapSet = .ok targets ↔
      ∃ parsed, source.manifest = .ok parsed ∧ Selects reader source scope snapSet parsed targets := by
  simp only [openTargets, bind_eq_ok_iff, mapError_eq_ok_iff]
  refine exists_congr fun parsed => and_congr_right fun _ => ?_
  have hlists := foldlM_insertName listsNames_nil (by simp) parsed.aux.snaps
  simp only [List.nil_append] at hlists
  constructor
  · rintro ⟨_, hsupported, names, hnames, _, hselection, stores, hstores, h⟩
    cases h
    rcases hlists with ⟨hnodup, names', hrun, hlists⟩ | ⟨_, _, _, _, _, _, hrun⟩
    · rw [hnames] at hrun
      cases hrun
      obtain ⟨hnonempty, hdeclared⟩ := hlists.checkSelection_eq_ok_iff.1 hselection
      exact {
        supported := fun decl hdecl => checkSupported_eq_ok_iff.1 (forM_eq_ok_iff.1 hsupported decl hdecl)
        distinct := hnodup
        nonempty := hnonempty
        declared := hdeclared
        declarations := rfl
        stores := (mapM_eq_ok_iff_forall₂.1 hstores).imp fun _ _ => openSelected_eq_ok_iff.1
        scope_eq := rfl }
    · rw [hnames] at hrun
      cases hrun
  · intro h
    obtain ⟨declarations, stores, scope'⟩ := targets
    obtain ⟨hsupported, hdistinct, hnonempty, hdeclared, rfl, hstores, rfl⟩ := h
    rcases hlists with ⟨-, names, hrun, hlists⟩ | ⟨before, decl, after, hsplit, -, hagain, -⟩
    · exact ⟨(), forM_eq_ok_iff.2 fun decl hdecl => checkSupported_eq_ok_iff.2 (hsupported decl hdecl),
        names, hrun, (), hlists.checkSelection_eq_ok_iff.2 ⟨hnonempty, hdeclared⟩, stores,
        mapM_eq_ok_iff_forall₂.2 (hstores.imp fun _ _ => openSelected_eq_ok_iff.2), rfl⟩
    · rw [setNames, hsplit, List.map_append, List.map_cons, List.nodup_append] at hdistinct
      exact absurd rfl (hdistinct.2.2 _ hagain _ List.mem_cons_self)

theorem explains_of_openSelected {parsed : ParsedManifest} (hparsed : source.manifest = .ok parsed)
    {decl : SnapDecl} (hdecl : decl ∈ parsed.aux.snaps.filter (isSelected snapSet))
    {e : SnapTargetsError} (h : openSelected reader source decl = .error e) :
    Explains reader source snapSet e := by
  unfold openSelected at h
  by_cases hescape : pathEscapesRoot decl.snap = true
  · rw [if_pos hescape] at h
    cases h
    exact .escape hparsed hdecl hescape
  · rw [if_neg hescape] at h
    cases hfile : source.snap decl.snap with
    | none =>
      rw [hfile] at h
      cases h
      exact .missing hparsed hdecl hfile
    | some file =>
      rw [hfile] at h
      obtain ⟨error, hopen, rfl⟩ := mapError_eq_error_iff.1 h
      exact .invalid hparsed hdecl hfile hopen

/-- **What is refused** is refused for a reason that is in the dataset. -/
theorem explains_of_openTargets {e : SnapTargetsError}
    (h : openTargets reader source scope snapSet = .error e) : Explains reader source snapSet e := by
  unfold openTargets at h
  rcases bind_eq_error_iff.1 h with h | ⟨parsed, hparsed, h⟩
  · obtain ⟨error, hmanifest, rfl⟩ := mapError_eq_error_iff.1 h
    exact .manifest hmanifest
  have hparsed := mapError_eq_ok_iff.1 hparsed
  rcases bind_eq_error_iff.1 h with h | ⟨_, -, h⟩
  · obtain ⟨decl, hdecl, h⟩ := exists_of_forM_eq_error h
    unfold checkSupported at h
    by_cases hneeds : NeedsUnsupported snapSet decl
    · rw [if_pos hneeds] at h
      cases h
      exact .unsupported hparsed hdecl hneeds
    · rw [if_neg hneeds] at h
      cases h
  have hlists := foldlM_insertName listsNames_nil (by simp) parsed.aux.snaps
  simp only [List.nil_append] at hlists
  rcases hlists with ⟨-, names, hrun, hlists⟩ | ⟨before, decl, after, hsplit, hfirst, hagain, hrun⟩
  · rw [hrun, ok_bind] at h
    rcases bind_eq_error_iff.1 h with h | ⟨_, -, h⟩
    · cases hset : snapSet with
      | none =>
        rw [hset, checkSelection] at h
        by_cases hnil : names = []
        · rw [if_pos hnil] at h
          cases h
          exact .empty hparsed rfl (not_not.1 fun hne => hlists.ne_nil.2 hne hnil)
        · rw [if_neg hnil] at h
          cases h
      | some name =>
        rw [hset, checkSelection] at h
        by_cases hname : name ∈ names
        · rw [if_pos hname] at h
          cases h
        · rw [if_neg hname] at h
          cases h
          exact .unknown hparsed rfl (fun hmem => hname ((hlists.mem_iff name).2 hmem)) hlists.sorted
            hlists.mem_iff
    · rcases bind_eq_error_iff.1 h with h | ⟨_, -, h⟩
      · obtain ⟨decl, hdecl, h⟩ := exists_of_mapM_eq_error h
        exact explains_of_openSelected hparsed hdecl h
      · cases h
  · rw [hrun, error_bind] at h
    cases h
    exact .duplicate hparsed hsplit hfirst hagain

/-- **Opening a selection.** The selected sets are opened, in the order of their declarations, or the
error is true of the dataset; and nothing is refused where the selection can be opened. -/
theorem openTargets_outcome (reader : SnapReader) (source : SnapSource) (scope : SnapScope)
    (snapSet : Option String) :
    (∃ targets parsed, openTargets reader source scope snapSet = .ok targets ∧
      source.manifest = .ok parsed ∧ Selects reader source scope snapSet parsed targets) ∨
    ∃ e, openTargets reader source scope snapSet = .error e ∧ Explains reader source snapSet e ∧
      ¬∃ targets parsed, source.manifest = .ok parsed ∧
        Selects reader source scope snapSet parsed targets := by
  cases hrun : openTargets reader source scope snapSet with
  | ok targets =>
    obtain ⟨parsed, hparsed, hselects⟩ := openTargets_eq_ok_iff.1 hrun
    exact .inl ⟨targets, parsed, rfl, hparsed, hselects⟩
  | error e =>
    refine .inr ⟨e, rfl, explains_of_openTargets hrun, ?_⟩
    rintro ⟨targets, hselects⟩
    rw [openTargets_eq_ok_iff.2 hselects] at hrun
    cases hrun

end

/-! ## Sessions and selections -/

/-- A local dataset as a source of snap sets. -/
def ofDataset (readers : LocalReaders) (dataset : LocalDataset) (root : UnixPath) : SnapSource where
  manifest := do
    let raw ← require .manifestJsonParse dataset.manifest
    buildManifest readers.hfx raw
  snap path := dataset.snap (root.join path)

/-- What a session must declare for a selection. -/
structure Selectable (aux : AuxDeclarations) (snapSet : Option String) : Prop where
  supported : ∀ decl ∈ aux.unreadable, ¬NeedsUnsupported snapSet decl
  distinct : (aux.snaps.map (·.name)).Nodup
  nonempty : aux.snaps ≠ []
  declared : ∀ name ∈ snapSet, name ∈ aux.snaps.map (·.name)

section

variable {readers : LocalReaders} {dataset : LocalDataset} {root : UnixPath} {session : DatasetSession}

/-- The manifest and the snap files that an opened session was read from. -/
theorem opened_of_openPath (h : (openPath readers dataset root).run = .ok (.ok session)) :
    (ofDataset readers dataset root).manifest = .ok ⟨session.manifest, session.aux⟩ ∧
      List.Forall₂ (fun decl snap => snap.decl = decl ∧
        Opens readers.snap (ofDataset readers dataset root) decl snap.store)
        session.aux.snaps session.snapStores := by
  simp only [openPath, bind_run_eq_ok_iff, orElse_run_eq_ok_iff, mapError_run_eq_ok_iff,
    failIf_run_eq_ok_iff, pure_run_eq_ok_iff,
    mapM_run_eq_ok_iff fun _ _ => openSnapStore_eq_ok_iff] at h
  obtain ⟨_, -, _, -, _, -, raw, hraw, parsed, hparsed, _, haux, _, -, _, -, _, -, _, -, _, -, snaps, hsnaps,
    _, -, rfl⟩ := h
  refine ⟨?_, ?_⟩
  · rw [ofDataset, hraw]
    exact hparsed
  · have hconfined : ∀ decl ∈ parsed.aux.snaps, pathEscapesRoot decl.snap = false := by
      intro decl hdecl
      refine (validateLocalAuxPaths_eq_ok_iff.1 haux ("hfx.aux.snap.v2", "snap", decl.snap) ?_).1
      exact List.mem_append_left _ (List.mem_append_right _ (List.mem_map.2 ⟨decl, hdecl, rfl⟩))
    rw [List.forall₂_map_right_iff]
    refine ((List.forall₂_and_left _ _).2 ⟨hconfined, hsnaps⟩).imp fun decl snap h => ?_
    exact ⟨h.2.1, h.1, h.2.2.1⟩

theorem forall₂_filter_opens {source : SnapSource} {reader : SnapReader} (snapSet : Option String)
    {decls : List SnapDecl} {snaps : List DeclaredSnap}
    (h : List.Forall₂ (fun decl snap => snap.decl = decl ∧ Opens reader source decl snap.store)
      decls snaps) :
    List.Forall₂ (Opens reader source) (decls.filter (isSelected snapSet))
      ((snaps.filter fun snap => isSelected snapSet snap.decl).map (·.store)) := by
  induction h with
  | nil => exact .nil
  | @cons decl snap decls snaps hhead _ ih =>
    obtain ⟨rfl, hopens⟩ := hhead
    by_cases hselected : isSelected snapSet snap.decl = true
    · simp only [List.filter_cons, hselected, if_true]
      exact .cons hopens ih
    · simp only [List.filter_cons, hselected]
      exact ih

theorem rightUnique_opens (reader : SnapReader) (source : SnapSource) :
    Relator.RightUnique (Opens reader source) := by
  rintro decl store store' ⟨-, file, hfile, hopen⟩ ⟨-, file', hfile', hopen'⟩
  rw [hfile] at hfile'
  cases hfile'
  rw [hopen] at hopen'
  exact Except.ok.inj hopen'

/-- **Sessions and selections agree.** In a dataset that opens as a session, a selection opens exactly
where the session has distinct names, no unreadable snap declaration and the selected set; its stores are
those that the session has for the declarations. -/
theorem openTargets_of_openPath (readers : LocalReaders) (dataset : LocalDataset) (root : UnixPath)
    (session : DatasetSession) (hrun : (openPath readers dataset root).run = .ok (.ok session))
    (scope : SnapScope) (snapSet : Option String) (targets : SnapTargets) :
    openTargets readers.snap (ofDataset readers dataset root) scope snapSet = .ok targets ↔
      Selectable session.aux snapSet ∧ targets = {
        declarations := session.aux.snaps.filter (isSelected snapSet)
        stores := (session.snapStores.filter fun snap => isSelected snapSet snap.decl).map (·.store)
        scope } := by
  obtain ⟨hparsed, hsnaps⟩ := opened_of_openPath hrun
  have hstores := forall₂_filter_opens snapSet hsnaps
  rw [openTargets_eq_ok_iff, hparsed]
  constructor
  · rintro ⟨parsed, heq, h⟩
    cases heq
    obtain ⟨declarations, stores, scope'⟩ := targets
    obtain ⟨hsupported, hdistinct, hnonempty, hdeclared, rfl, hopened, rfl⟩ := h
    refine ⟨⟨hsupported, hdistinct, hnonempty, hdeclared⟩, ?_⟩
    obtain rfl : stores = _ := (rightUnique_opens _ _).forall₂ hopened hstores
    rfl
  · rintro ⟨h, rfl⟩
    exact ⟨_, rfl, h.supported, h.distinct, h.nonempty, h.declared, rfl, hstores, rfl⟩

end

theorem openTargets_of_openPath_triangles :
    openTargets pointReader (ofDataset triangleReaders triangleDataset triangleRoot) .all
      (some "stems") = .ok ⟨[triangleSnapDecl], [pointStore], .all⟩ := by
  refine (openTargets_of_openPath triangleReaders triangleDataset triangleRoot openedTriangles
    triangleDataset_accepts.openPath .all (some "stems") _).2 ⟨?_, rfl⟩
  exact ⟨fun _ h => absurd h List.not_mem_nil, by decide, by decide, by decide⟩

end SnapTargets

end Pourpoint
