import Mathlib.Order.Defs.LinearOrder
import Mathlib.Tactic

/-!
# Maps in key order

A map as the list of its entries in strictly increasing key order, the order in which an ordered map is
iterated. Two facts carry its use: what an insertion leaves in the map (`mem_insert_iff`), and that keys
do not repeat, so an entry is determined by its key (`eq_of_mem`).
-/

namespace Library

/-- Entries in strictly increasing key order. -/
structure SortedMap (κ V : Type) [LinearOrder κ] where
  entries : List (κ × V)
  sorted : entries.Pairwise fun a b => a.1 < b.1

namespace SortedMap

variable {κ V : Type} [LinearOrder κ]

/-- The map without keys. -/
def empty : SortedMap κ V := ⟨[], .nil⟩

/-- Put an entry in its place, over the one of the same key. -/
def insertEntry (k : κ) (v : V) : List (κ × V) → List (κ × V)
  | [] => [(k, v)]
  | entry :: entries =>
    if k < entry.1 then (k, v) :: entry :: entries
    else if k = entry.1 then (k, v) :: entries
    else entry :: insertEntry k v entries

theorem mem_insertEntry {k : κ} {v : V} {entries : List (κ × V)} {entry : κ × V}
    (h : entry ∈ insertEntry k v entries) : entry = (k, v) ∨ entry ∈ entries := by
  induction entries with
  | nil => exact .inl (List.mem_singleton.1 h)
  | cons head entries ih =>
    unfold insertEntry at h
    split_ifs at h with hlt heq
    · exact (List.mem_cons.1 h).imp_right id
    · exact (List.mem_cons.1 h).imp_right (List.mem_cons_of_mem _)
    · rcases List.mem_cons.1 h with rfl | hmem
      · exact .inr List.mem_cons_self
      · exact (ih hmem).imp_right (List.mem_cons_of_mem _)

theorem pairwise_insertEntry {k : κ} {v : V} {entries : List (κ × V)}
    (h : entries.Pairwise fun a b => a.1 < b.1) :
    (insertEntry k v entries).Pairwise fun a b => a.1 < b.1 := by
  induction entries with
  | nil => exact List.pairwise_singleton _ _
  | cons head entries ih =>
    obtain ⟨hhead, htail⟩ := List.pairwise_cons.1 h
    unfold insertEntry
    split_ifs with hlt heq
    · refine List.pairwise_cons.2 ⟨?_, h⟩
      intro entry hentry
      rcases List.mem_cons.1 hentry with rfl | hentry
      · exact hlt
      · exact hlt.trans (hhead entry hentry)
    · refine List.pairwise_cons.2 ⟨?_, htail⟩
      intro entry hentry
      exact heq ▸ hhead entry hentry
    · refine List.pairwise_cons.2 ⟨?_, ih htail⟩
      intro entry hentry
      rcases mem_insertEntry hentry with rfl | hentry
      · exact lt_of_le_of_ne (not_lt.1 hlt) (Ne.symm heq)
      · exact hhead entry hentry

/-- The value of a key is set or replaced. -/
def insert (m : SortedMap κ V) (k : κ) (v : V) : SortedMap κ V :=
  ⟨insertEntry k v m.entries, pairwise_insertEntry m.sorted⟩

def keys (m : SortedMap κ V) : List κ := m.entries.map (·.1)

def contains (m : SortedMap κ V) (k : κ) : Bool := k ∈ m.keys

theorem pairwise_keys (m : SortedMap κ V) : m.keys.Pairwise (· < ·) :=
  List.pairwise_map.2 m.sorted

theorem mem_keys {m : SortedMap κ V} {k : κ} : k ∈ m.keys ↔ ∃ v, (k, v) ∈ m.entries := by
  simp [keys]

theorem eq_of_mem {m : SortedMap κ V} {k : κ} {v v' : V} (h : (k, v) ∈ m.entries)
    (h' : (k, v') ∈ m.entries) : v = v' := by
  have hnodup : (m.entries.map (·.1)).Nodup := m.pairwise_keys.imp ne_of_lt
  exact (Prod.mk.inj (List.inj_on_of_nodup_map hnodup h h' rfl)).2

theorem self_mem_insertEntry (k : κ) (v : V) (entries : List (κ × V)) :
    (k, v) ∈ insertEntry k v entries := by
  induction entries with
  | nil => exact List.mem_singleton_self _
  | cons head entries ih =>
    unfold insertEntry
    split_ifs with hlt heq
    · exact List.mem_cons_self
    · exact List.mem_cons_self
    · exact List.mem_cons_of_mem _ ih

theorem mem_insertEntry_of_ne {k : κ} {v : V} {entries : List (κ × V)} {entry : κ × V}
    (hne : entry.1 ≠ k) (h : entry ∈ entries) : entry ∈ insertEntry k v entries := by
  induction entries with
  | nil => exact absurd h List.not_mem_nil
  | cons head entries ih =>
    unfold insertEntry
    split_ifs with hlt heq
    · exact List.mem_cons_of_mem _ h
    · rcases List.mem_cons.1 h with rfl | h
      · exact absurd heq.symm hne
      · exact List.mem_cons_of_mem _ h
    · rcases List.mem_cons.1 h with rfl | h
      · exact List.mem_cons_self
      · exact List.mem_cons_of_mem _ (ih h)

/-- What an insertion leaves in the map. -/
theorem mem_insert_iff {m : SortedMap κ V} {k : κ} {v : V} {entry : κ × V} :
    entry ∈ (m.insert k v).entries ↔ entry = (k, v) ∨ entry.1 ≠ k ∧ entry ∈ m.entries := by
  constructor
  · intro h
    by_cases hk : entry.1 = k
    · obtain ⟨key, value⟩ := entry
      obtain rfl : key = k := hk
      exact .inl (congrArg _ ((m.insert key v).eq_of_mem h (self_mem_insertEntry key v m.entries)))
    · rcases mem_insertEntry h with rfl | h
      · exact absurd rfl hk
      · exact .inr ⟨hk, h⟩
  · intro h
    rcases h with rfl | ⟨hne, h⟩
    · exact self_mem_insertEntry k v m.entries
    · exact mem_insertEntry_of_ne hne h

theorem mem_keys_insert {m : SortedMap κ V} {k k' : κ} {v : V} :
    k' ∈ (m.insert k v).keys ↔ k' = k ∨ k' ∈ m.keys := by
  simp only [mem_keys, mem_insert_iff, Prod.mk.injEq]
  constructor
  · rintro ⟨v', ⟨rfl, -⟩ | ⟨-, h⟩⟩
    · exact .inl rfl
    · exact .inr ⟨v', h⟩
  · intro h
    by_cases hk : k' = k
    · exact ⟨v, .inl ⟨hk, rfl⟩⟩
    · obtain ⟨v', h⟩ := h.resolve_left hk
      exact ⟨v', .inr ⟨hk, h⟩⟩

def get? (m : SortedMap κ V) (k : κ) : Option V := (m.entries.find? fun entry => entry.1 = k).map (·.2)

theorem get?_eq_some_iff {m : SortedMap κ V} {k : κ} {v : V} :
    m.get? k = some v ↔ (k, v) ∈ m.entries := by
  rw [get?, Option.map_eq_some_iff]
  constructor
  · rintro ⟨⟨key, value⟩, hfind, rfl⟩
    obtain rfl : key = k := by simpa using List.find?_some hfind
    exact List.mem_of_find?_eq_some hfind
  · intro h
    obtain ⟨entry, hfind⟩ : ∃ entry, m.entries.find? (fun entry => entry.1 = k) = some entry := by
      rw [← Option.isSome_iff_exists, List.find?_isSome]
      exact ⟨(k, v), h, decide_eq_true rfl⟩
    obtain ⟨key, value⟩ := entry
    obtain rfl : key = k := by simpa using List.find?_some hfind
    exact ⟨_, hfind, m.eq_of_mem (List.mem_of_find?_eq_some hfind) h⟩

theorem get?_insert (m : SortedMap κ V) (k k' : κ) (v : V) :
    (m.insert k v).get? k' = if k' = k then some v else m.get? k' := by
  ext w
  rw [get?_eq_some_iff, mem_insert_iff]
  split_ifs with h
  · simp [h, eq_comm]
  · simp [h, get?_eq_some_iff]

/-- Maps with the same entries are equal. -/
theorem ext_entries {m m' : SortedMap κ V} (h : ∀ entry, entry ∈ m.entries ↔ entry ∈ m'.entries) :
    m = m' := by
  have hperm : m.entries.Perm m'.entries := by
    refine (List.perm_ext_iff_of_nodup ?_ ?_).2 h
    · exact m.sorted.imp fun hlt heq => absurd (congrArg Prod.fst heq) hlt.ne
    · exact m'.sorted.imp fun hlt heq => absurd (congrArg Prod.fst heq) hlt.ne
  have hentries : m.entries = m'.entries :=
    hperm.eq_of_pairwise (fun _ _ _ _ hab hba => absurd hba hab.asymm) m.sorted m'.sorted
  cases m
  cases m'
  cases hentries
  rfl

/-- What the insertion of entries with distinct keys leaves in the map. -/
theorem mem_foldl_insert {l : List (κ × V)} (hnodup : (l.map (·.1)).Nodup) (m : SortedMap κ V)
    {entry : κ × V} :
    entry ∈ (l.foldl (fun m e => m.insert e.1 e.2) m).entries ↔
      entry ∈ l ∨ entry.1 ∉ l.map (·.1) ∧ entry ∈ m.entries := by
  induction l generalizing m with
  | nil => simp
  | cons e l ih =>
    obtain ⟨he, hrest⟩ := List.nodup_cons.1 hnodup
    rw [List.foldl_cons, ih hrest, mem_insert_iff, List.mem_cons, List.map_cons, List.mem_cons]
    constructor
    · intro h
      rcases h with h | ⟨hkey, rfl | ⟨hne, h⟩⟩
      · exact .inl (.inr h)
      · exact .inl (.inl rfl)
      · exact .inr ⟨fun h => h.elim hne hkey, h⟩
    · intro h
      rcases h with (rfl | h) | ⟨hkey, h⟩
      · exact .inr ⟨he, .inl rfl⟩
      · exact .inl h
      · exact .inr ⟨fun h => hkey (.inr h), .inr ⟨fun h => hkey (.inl h), h⟩⟩

end SortedMap

end Library
