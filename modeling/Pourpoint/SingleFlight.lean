import Pourpoint.Library.Run

/-!
# Single flight of raster windows

Concurrent calls of `get_or_fetch_window` for one window key. The first call that finds the map entry
vacant inserts a fresh `Notify` and fetches; the others clone the `Notify` of the entry, release the
entry, create a `Notified` future and wait for it. The fetcher removes the entry and then calls
`notify_waiters`, which wakes the futures that exist at that moment.

A call is stranded when it waits on a `Notify` that no call will notify any more. That can happen: the
fetcher may finish between the clone and the creation of the `Notified` (`not_neverStranded`), and a
fetcher whose future is dropped leaves its entry behind. In runs without these two steps no call is
ever stranded (`not_stranded_of_orderly`).
-/

namespace Pourpoint

/-! ## Calls -/

/-- Where a call of `get_or_fetch_window` is. A `Notify` is a number. -/
inductive CallPhase where
  /-- `prepare_window` is awaited. -/
  | preparing
  /-- The first `cache_hit` is awaited. -/
  | lookup
  /-- About to take the map entry. -/
  | entering
  /-- The `Notify` of the entry is cloned and the entry is released. -/
  | cloned (notify : ℕ)
  /-- The `Notified` future exists and is awaited. -/
  | waiting (notify : ℕ)
  /-- Woken; the second `cache_hit` is awaited. -/
  | recheck
  /-- The entry is inserted and `fetch_window_to_path` is awaited. -/
  | fetching (notify : ℕ)
  /-- The fetch is over; the entry is still in the map. -/
  | fetched (notify : ℕ) (success : Bool)
  /-- The entry is removed; `notify_waiters` comes next. -/
  | removed (notify : ℕ) (success : Bool)
  | returned (success : Bool)
  /-- The future of the call was dropped. -/
  | dropped
  deriving DecidableEq, Repr

namespace CallPhase

/-- The call will still call `notify_waiters` on the `Notify`. -/
def notifies (notify : ℕ) : CallPhase → Bool
  | fetching n | fetched n _ | removed n _ => n == notify
  | _ => false

/-- The call has inserted the `Notify` and not yet removed the entry. -/
def holdsEntry (notify : ℕ) : CallPhase → Bool
  | fetching n | fetched n _ => n == notify
  | _ => false

/-- The call waits on the `Notify` or is about to. -/
def listens (notify : ℕ) : CallPhase → Bool
  | cloned n | waiting n => n == notify
  | _ => false

theorem notifies_of_holdsEntry {phase : CallPhase} {notify : ℕ}
    (h : phase.holdsEntry notify = true) : phase.notifies notify = true := by
  cases phase <;> first | exact h | cases h

/-- The call is suspended at an `await`, so its future can be dropped. -/
def suspended : CallPhase → Bool
  | preparing | lookup | waiting _ | recheck | fetching _ => true
  | _ => false

end CallPhase

/-- The calls for one window key, the map entry of the key, and the cache file. -/
structure FlightState where
  calls : List CallPhase
  inFlight : Option ℕ
  nextNotify : ℕ
  /-- The canonical file exists and is not empty. -/
  file : Bool
  deriving DecidableEq, Repr

/-- The result of `cache_hit`. -/
inductive HitResult where
  | hit
  | miss
  | ioError
  deriving DecidableEq, Repr

/-- What can happen next. -/
inductive FlightAction where
  /-- A new call starts. -/
  | call
  | prepare (i : ℕ) (success : Bool)
  | lookup (i : ℕ) (result : HitResult)
  /-- The match on the map entry: insert a fresh `Notify`, or clone the present one and release. -/
  | entry (i : ℕ)
  /-- `notify.notified()`. -/
  | notified (i : ℕ)
  | recheck (i : ℕ) (result : HitResult)
  | fetch (i : ℕ) (success : Bool)
  /-- `in_flight.remove`. -/
  | remove (i : ℕ)
  | notifyWaiters (i : ℕ)
  /-- The future of the call is dropped. -/
  | drop (i : ℕ)
  deriving DecidableEq, Repr

namespace FlightState

def initial : FlightState := ⟨[], none, 0, false⟩

/-- Move one call to another phase. -/
def setPhase (s : FlightState) (i : ℕ) (phase : CallPhase) : FlightState :=
  { s with calls := s.calls.set i phase }

/-- `cache_hit` looks at the file; any file operation may fail. -/
def hitAllowed (s : FlightState) : HitResult → Bool
  | .hit => s.file
  | .miss => !s.file
  | .ioError => true

/-- The phase after `cache_hit`. -/
def afterHit : HitResult → CallPhase
  | .hit => .returned true
  | .miss => .entering
  | .ioError => .returned false

/-- `notify_waiters` wakes the futures that exist. -/
def wake (notify : ℕ) (phase : CallPhase) : CallPhase :=
  if phase = .waiting notify then .recheck else phase

/-- One action, where it is possible. -/
def step (s : FlightState) : FlightAction → Option FlightState
  | .call => some { s with calls := s.calls ++ [.preparing] }
  | .prepare i success =>
    match s.calls[i]? with
    | some .preparing => some (s.setPhase i (if success then .lookup else .returned false))
    | _ => none
  | .lookup i result =>
    match s.calls[i]? with
    | some .lookup => if s.hitAllowed result then some (s.setPhase i (afterHit result)) else none
    | _ => none
  | .entry i =>
    match s.calls[i]?, s.inFlight with
    | some .entering, some notify => some (s.setPhase i (.cloned notify))
    | some .entering, none =>
      some { s.setPhase i (.fetching s.nextNotify) with
        inFlight := some s.nextNotify, nextNotify := s.nextNotify + 1 }
    | _, _ => none
  | .notified i =>
    match s.calls[i]? with
    | some (.cloned notify) => some (s.setPhase i (.waiting notify))
    | _ => none
  | .recheck i result =>
    match s.calls[i]? with
    | some .recheck => if s.hitAllowed result then some (s.setPhase i (afterHit result)) else none
    | _ => none
  | .fetch i success =>
    match s.calls[i]? with
    | some (.fetching notify) =>
      some { s.setPhase i (.fetched notify success) with file := s.file || success }
    | _ => none
  | .remove i =>
    match s.calls[i]? with
    | some (.fetched notify success) =>
      some { s.setPhase i (.removed notify success) with inFlight := none }
    | _ => none
  | .notifyWaiters i =>
    match s.calls[i]? with
    | some (.removed notify success) =>
      some { s with calls := (s.calls.set i (.returned success)).map (wake notify) }
    | _ => none
  | .drop i =>
    match s.calls[i]? with
    | some phase => if phase.suspended then some (s.setPhase i .dropped) else none
    | none => none

/-- Some call waits on a `Notify` that no call will notify. -/
def Stranded (s : FlightState) : Prop :=
  ∃ notify, .waiting notify ∈ s.calls ∧ ∀ phase ∈ s.calls, phase.notifies notify = false

/-- The step neither drops a fetcher during its fetch, nor notifies while a call has cloned the
`Notify` and not yet created its `Notified`. -/
def orderly (s : FlightState) : FlightAction → Bool
  | .drop i =>
    match s.calls[i]? with
    | some (.fetching _) => false
    | _ => true
  | .notifyWaiters i =>
    match s.calls[i]? with
    | some (.removed notify _) => !s.calls.contains (.cloned notify)
    | _ => true
  | _ => true

/-! ## Orderly runs -/

/-- The entry belongs to a live fetcher, and so does every `Notify` that a call listens to. -/
structure Inv (s : FlightState) : Prop where
  entry_live : ∀ notify, s.inFlight = some notify →
    ∃ phase ∈ s.calls, phase.holdsEntry notify = true
  listener_live : ∀ notify, ∀ phase ∈ s.calls, phase.listens notify = true →
    ∃ other ∈ s.calls, other.notifies notify = true

theorem inv_initial : initial.Inv := by
  constructor
  · intro notify h
    cases h
  · intro notify phase hmem
    cases hmem

section

variable {s : FlightState} {i : ℕ} {old new : CallPhase}

theorem mem_set_or_eq {calls : List CallPhase} (hold : calls[i]? = some old) {phase : CallPhase}
    (hmem : phase ∈ calls) : phase ∈ calls.set i new ∨ phase = old := by
  obtain ⟨j, hj⟩ := List.mem_iff_getElem?.1 hmem
  by_cases hij : i = j
  · subst hij
    rw [hold] at hj
    exact .inr (Option.some.inj hj).symm
  · left
    rw [List.mem_iff_getElem?]
    exact ⟨j, by rw [List.getElem?_set_ne hij, hj]⟩

theorem mem_set_self {calls : List CallPhase} (hold : calls[i]? = some old) :
    new ∈ calls.set i new := by
  obtain ⟨hi, -⟩ := List.getElem?_eq_some_iff.1 hold
  exact List.mem_set hi new

theorem exists_mem_set {calls : List CallPhase} (hold : calls[i]? = some old) {P : CallPhase → Prop}
    (hkeep : P old → P new) (h : ∃ phase ∈ calls, P phase) : ∃ phase ∈ calls.set i new, P phase := by
  obtain ⟨phase, hmem, hP⟩ := h
  rcases mem_set_or_eq hold hmem with hset | rfl
  · exact ⟨phase, hset, hP⟩
  · exact ⟨new, mem_set_self hold, hkeep hP⟩

/-- A call may move when it stays a fetcher if it is one, and listens to nothing new but the
entry. -/
theorem Inv.setPhase (h : s.Inv) (hold : s.calls[i]? = some old)
    (hentry : ∀ notify, old.holdsEntry notify = true → new.holdsEntry notify = true)
    (hnotifies : ∀ notify, old.notifies notify = true → new.notifies notify = true)
    (hlistens : ∀ notify, new.listens notify = true →
      old.listens notify = true ∨ s.inFlight = some notify) : (s.setPhase i new).Inv := by
  constructor
  · intro notify hin
    exact exists_mem_set hold (hentry notify) (h.entry_live notify hin)
  · intro notify phase hmem hphase
    apply exists_mem_set hold (hnotifies notify)
    rcases List.mem_or_eq_of_mem_set hmem with hmem | rfl
    · exact h.listener_live notify phase hmem hphase
    · rcases hlistens notify hphase with hlisten | hin
      · exact h.listener_live notify old (List.mem_of_getElem? hold) hlisten
      · obtain ⟨other, hother, hholds⟩ := h.entry_live notify hin
        exact ⟨other, hother, other.notifies_of_holdsEntry hholds⟩

/-- A call that is neither a fetcher nor a listener afterwards may move unless it is fetching. -/
theorem Inv.setPhase_idle (h : s.Inv) (hold : s.calls[i]? = some old)
    (hnotifies : ∀ notify, old.notifies notify = false)
    (hlistens : ∀ notify, new.listens notify = false) : (s.setPhase i new).Inv := by
  have hentry : ∀ notify, old.holdsEntry notify ≠ true := by
    intro notify hholds
    have := old.notifies_of_holdsEntry hholds
    rw [hnotifies] at this
    cases this
  apply h.setPhase hold
  · intro notify hholds
    exact absurd hholds (hentry notify)
  · intro notify hnotify
    rw [hnotifies] at hnotify
    cases hnotify
  · intro notify hlisten
    rw [hlistens] at hlisten
    cases hlisten

/-- A new call changes nothing for the others. -/
theorem Inv.call (h : s.Inv) : Inv { s with calls := s.calls ++ [.preparing] } := by
  constructor
  · intro notify hin
    obtain ⟨phase, hmem, hholds⟩ := h.entry_live notify hin
    exact ⟨phase, List.mem_append_left _ hmem, hholds⟩
  · intro notify phase hmem hphase
    rcases List.mem_append.1 hmem with hmem | hmem
    · obtain ⟨other, hother, hnotify⟩ := h.listener_live notify phase hmem hphase
      exact ⟨other, List.mem_append_left _ hother, hnotify⟩
    · rw [List.mem_singleton] at hmem
      subst hmem
      cases hphase

theorem Inv.insert (h : s.Inv) (hold : s.calls[i]? = some .entering) :
    Inv { s.setPhase i (.fetching s.nextNotify) with
      inFlight := some s.nextNotify, nextNotify := s.nextNotify + 1 } := by
  constructor
  · intro notify hin
    cases hin
    exact ⟨_, mem_set_self hold, by simp [CallPhase.holdsEntry]⟩
  · intro notify phase hmem hphase
    apply exists_mem_set hold (by simp [CallPhase.notifies])
    rcases List.mem_or_eq_of_mem_set hmem with hmem | rfl
    · exact h.listener_live notify phase hmem hphase
    · cases hphase

/-- Removing the entry leaves its fetcher live. -/
theorem Inv.remove (h : s.Inv) {notify : ℕ} {success : Bool}
    (hold : s.calls[i]? = some (.fetched notify success)) :
    Inv { s.setPhase i (.removed notify success) with inFlight := none } := by
  constructor
  · intro other hin
    cases hin
  · intro other phase hmem hphase
    refine exists_mem_set hold ?_ ?_
    · intro hnotify
      exact hnotify
    rcases List.mem_or_eq_of_mem_set hmem with hmem | rfl
    · exact h.listener_live other phase hmem hphase
    · cases hphase

theorem wake_listens {notify other : ℕ} {phase : CallPhase} (hcloned : phase ≠ .cloned notify)
    (h : (wake notify phase).listens other = true) : phase.listens other = true ∧ other ≠ notify := by
  unfold wake at h
  split_ifs at h with hwait
  · cases h
  · refine ⟨h, ?_⟩
    rintro rfl
    cases phase <;> simp_all [CallPhase.listens]

theorem wake_keeps {notify other : ℕ} {phase : CallPhase} :
    (wake notify phase).notifies other = phase.notifies other ∧
      (wake notify phase).holdsEntry other = phase.holdsEntry other := by
  unfold wake
  split_ifs with hwait
  · subst hwait
    exact ⟨rfl, rfl⟩
  · exact ⟨rfl, rfl⟩

/-- A fetcher that has removed its entry may notify when no call is about to listen to it: then no
call listens to it any more. -/
theorem Inv.notifyWaiters (h : s.Inv) {notify : ℕ} {success : Bool}
    (hold : s.calls[i]? = some (.removed notify success)) (hcloned : .cloned notify ∉ s.calls) :
    Inv { s with calls := (s.calls.set i (.returned success)).map (wake notify) } := by
  constructor
  · intro other hin
    obtain ⟨phase, hmem, hholds⟩ := h.entry_live other hin
    rcases mem_set_or_eq hold hmem with hset | rfl
    · exact ⟨_, List.mem_map_of_mem hset, by rw [wake_keeps.2, hholds]⟩
    · cases hholds
  · intro other phase hmem hphase
    obtain ⟨before, hbefore, rfl⟩ := List.mem_map.1 hmem
    rcases List.mem_or_eq_of_mem_set hbefore with hbefore | rfl
    · have hne : before ≠ .cloned notify := by
        rintro rfl
        exact hcloned hbefore
      obtain ⟨hlisten, hother⟩ := wake_listens hne hphase
      obtain ⟨fetcher, hfetcher, hnotify⟩ := h.listener_live other before hbefore hlisten
      rcases mem_set_or_eq hold hfetcher with hset | rfl
      · exact ⟨_, List.mem_map_of_mem hset, by rw [wake_keeps.1, hnotify]⟩
      · exact absurd (beq_iff_eq.1 hnotify) hother.symm
    · cases hphase

/-- Orderly steps keep the invariant. -/
theorem inv_step {s' : FlightState} {a : FlightAction} (h : s.Inv) (hok : s.orderly a = true)
    (hstep : s.step a = some s') : s'.Inv := by
  cases a with
  | call =>
    cases hstep
    exact h.call
  | prepare i success =>
    simp only [step] at hstep
    split at hstep <;> cases hstep
    next hold =>
    cases success <;> exact h.setPhase_idle hold (fun _ => rfl) (fun _ => rfl)
  | lookup i result =>
    simp only [step] at hstep
    split at hstep
    · next hold =>
      split_ifs at hstep
      cases hstep
      cases result <;> exact h.setPhase_idle hold (fun _ => rfl) (fun _ => rfl)
    · cases hstep
  | entry i =>
    simp only [step] at hstep
    split at hstep <;> cases hstep
    · next notify hold hin =>
      refine h.setPhase hold (fun _ hholds => by cases hholds) (fun _ hnotify => by cases hnotify) ?_
      intro other hlisten
      rw [hin, beq_iff_eq.1 hlisten]
      exact .inr rfl
    · next hold _ => exact h.insert hold
  | notified i =>
    simp only [step] at hstep
    split at hstep <;> cases hstep
    next hold =>
    exact h.setPhase hold (fun _ hholds => hholds) (fun _ hnotify => hnotify)
      (fun _ hlisten => .inl hlisten)
  | recheck i result =>
    simp only [step] at hstep
    split at hstep
    · next hold =>
      split_ifs at hstep
      cases hstep
      cases result <;> exact h.setPhase_idle hold (fun _ => rfl) (fun _ => rfl)
    · cases hstep
  | fetch i success =>
    simp only [step] at hstep
    split at hstep <;> cases hstep
    next notify hold =>
    have hset : (s.setPhase i (.fetched notify success)).Inv :=
      h.setPhase hold (fun _ hholds => hholds) (fun _ hnotify => hnotify)
        (fun _ hlisten => by cases hlisten)
    exact ⟨hset.entry_live, hset.listener_live⟩
  | remove i =>
    simp only [step] at hstep
    split at hstep <;> cases hstep
    next hold =>
    exact h.remove hold
  | notifyWaiters i =>
    simp only [step] at hstep
    split at hstep <;> cases hstep
    next hold =>
    simp only [orderly, hold] at hok
    exact h.notifyWaiters hold (by simpa using hok)
  | drop i =>
    simp only [step] at hstep
    split at hstep
    · next phase hold =>
      split_ifs at hstep with hsuspended
      cases hstep
      -- A suspended call that is not fetching will notify nobody.
      have hidle : ∀ notify, phase.notifies notify = false := by
        intro notify
        cases phase with
        | fetching other =>
          simp only [orderly, hold] at hok
          cases hok
        | _ => first | rfl | cases hsuspended
      exact h.setPhase_idle hold hidle (fun _ => rfl)
    · cases hstep

end

/-- **No lost wakeup in orderly runs.** In every run, of any number of calls, in which no fetcher is
dropped during its fetch and no fetcher notifies while a call has cloned its `Notify` and not yet
created its `Notified`, no state that is reached has a stranded call. -/
theorem not_stranded_of_orderly {actions : List FlightAction} {s : FlightState}
    (horderly : Guarded step (fun s a => s.orderly a = true) initial actions)
    (hrun : run step initial actions = some s) : ¬s.Stranded := by
  have hinv : s.Inv := run_invariant (fun _ _ _ h hok hstep => inv_step h hok hstep) inv_initial
    horderly hrun
  rintro ⟨notify, hwaiting, hnone⟩
  obtain ⟨other, hother, hnotifies⟩ :=
    hinv.listener_live notify _ hwaiting (by simp [CallPhase.listens])
  rw [hnone other hother] at hnotifies
  cases hnotifies

/-- Two calls; the second starts to wait before the first has fetched. -/
def orderlyRun : List FlightAction :=
  [.call, .prepare 0 true, .lookup 0 .miss, .entry 0, .call, .prepare 1 true, .lookup 1 .miss,
    .entry 1, .notified 1, .fetch 0 true, .remove 0, .notifyWaiters 0]

theorem not_stranded_orderlyRun :
    Guarded step (fun s a => s.orderly a = true) initial orderlyRun ∧
    run step initial orderlyRun = some ⟨[.returned true, .recheck], none, 1, true⟩ ∧
    ¬Stranded ⟨[.returned true, .recheck], none, 1, true⟩ := by
  have horderly : Guarded step (fun s a => s.orderly a = true) initial orderlyRun := by decide
  have hrun : run step initial orderlyRun = some ⟨[.returned true, .recheck], none, 1, true⟩ := by
    decide
  exact ⟨horderly, hrun, not_stranded_of_orderly horderly hrun⟩

/-- The second call has cloned the `Notify` when the first notifies, and then waits for ever. -/
def lostWakeupRun : List FlightAction :=
  [.call, .prepare 0 true, .lookup 0 .miss, .entry 0, .call, .prepare 1 true, .lookup 1 .miss,
    .entry 1, .fetch 0 true, .remove 0, .notifyWaiters 0, .notified 1]

theorem not_neverStranded :
    ¬∀ actions s, run step initial actions = some s → ¬s.Stranded := by
  intro h
  have hrun : run step initial lostWakeupRun = some ⟨[.returned true, .waiting 0], none, 1, true⟩ := by
    decide
  exact h _ _ hrun ⟨0, by decide, by decide⟩

/-- A dropped fetcher strands the calls that wait for it and leaves its entry in the map. -/
def droppedFetcherRun : List FlightAction :=
  [.call, .prepare 0 true, .lookup 0 .miss, .entry 0, .call, .prepare 1 true, .lookup 1 .miss,
    .entry 1, .notified 1, .drop 0]

example : run step initial droppedFetcherRun = some ⟨[.dropped, .waiting 0], some 0, 1, false⟩ := by
  decide

end FlightState

end Pourpoint
