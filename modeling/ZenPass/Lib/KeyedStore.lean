import Mathlib.Data.List.Sort
import Mathlib.Order.Basic

set_option autoImplicit false

-- A `Map` lists values in the order in which their keys were first set, an object store in key
-- order. A store mirrors a map when it holds the translations of the same entries.

namespace ZenPass.KeyedStore

variable {κ ν κ' ν' : Type}

structure InsertionMap (κ ν : Type) where
  entries : List (κ × ν)
  nodup : (entries.map Prod.fst).Nodup
deriving DecidableEq

namespace InsertionMap

variable [DecidableEq κ]

def empty : InsertionMap κ ν := ⟨[], List.nodup_nil⟩

def keys (map : InsertionMap κ ν) : List κ := map.entries.map Prod.fst

def values (map : InsertionMap κ ν) : List ν := map.entries.map Prod.snd

def get (map : InsertionMap κ ν) (key : κ) : Option ν :=
  (map.entries.find? fun entry => entry.1 = key).map Prod.snd

def replaceEntry (key : κ) (value : ν) (entry : κ × ν) : κ × ν :=
  if entry.1 = key then (key, value) else entry

theorem map_fst_replaceEntry (key : κ) (value : ν) (entries : List (κ × ν)) :
    (entries.map (replaceEntry key value)).map Prod.fst = entries.map Prod.fst := by
  rw [List.map_map]
  refine List.map_congr_left fun entry _ => ?_
  by_cases same : entry.1 = key <;> simp [replaceEntry, same]

def set (map : InsertionMap κ ν) (key : κ) (value : ν) : InsertionMap κ ν :=
  if here : key ∈ map.keys then
    ⟨map.entries.map (replaceEntry key value), by rw [map_fst_replaceEntry]; exact map.nodup⟩
  else
    ⟨map.entries ++ [(key, value)], by
      rw [List.map_append, List.nodup_append]
      refine ⟨map.nodup, List.nodup_singleton _, ?_⟩
      rintro other member _ mem rfl
      rw [List.map_singleton, List.mem_singleton] at mem
      subst mem
      exact here member⟩

def delete (map : InsertionMap κ ν) (key : κ) : InsertionMap κ ν :=
  ⟨map.entries.filter fun entry => entry.1 ≠ key,
    map.nodup.sublist (List.filter_sublist.map _)⟩

def filter (map : InsertionMap κ ν) (keep : κ → Bool) : InsertionMap κ ν :=
  ⟨map.entries.filter fun entry => keep entry.1, map.nodup.sublist (List.filter_sublist.map _)⟩

theorem get_eq_some (map : InsertionMap κ ν) (key : κ) (value : ν) :
    map.get key = some value ↔ (key, value) ∈ map.entries := by
  unfold get
  rw [Option.map_eq_some_iff]
  constructor
  · rintro ⟨⟨k, v⟩, found, rfl⟩
    have member := List.mem_of_find?_eq_some found
    have same := List.find?_some found
    rw [decide_eq_true_eq] at same
    exact same ▸ member
  · intro member
    cases found : map.entries.find? fun entry => entry.1 = key with
    | none =>
        rw [List.find?_eq_none] at found
        exact absurd (decide_eq_true rfl) (found _ member)
    | some entry =>
        have there := List.mem_of_find?_eq_some found
        have same := List.find?_some found
        rw [decide_eq_true_eq] at same
        have equal := List.inj_on_of_nodup_map map.nodup there member same
        exact ⟨entry, rfl, by rw [equal]⟩

theorem get_eq_none (map : InsertionMap κ ν) (key : κ) : map.get key = none ↔ key ∉ map.keys := by
  unfold get keys
  rw [Option.map_eq_none_iff, List.find?_eq_none]
  constructor
  · intro absent member
    obtain ⟨entry, there, rfl⟩ := List.mem_map.mp member
    exact absent entry there (decide_eq_true rfl)
  · intro absent entry there same
    exact absent (List.mem_map.mpr ⟨entry, there, of_decide_eq_true same⟩)

omit [DecidableEq κ] in
theorem mem_keys (map : InsertionMap κ ν) (key : κ) :
    key ∈ map.keys ↔ ∃ value, (key, value) ∈ map.entries := by
  simp [keys]

theorem keys_set (map : InsertionMap κ ν) (key : κ) (value : ν) :
    (map.set key value).keys = if key ∈ map.keys then map.keys else map.keys ++ [key] := by
  unfold set
  split
  · exact map_fst_replaceEntry key value map.entries
  · simp [keys]

theorem keys_delete (map : InsertionMap κ ν) (key : κ) :
    (map.delete key).keys = map.keys.filter fun other => other ≠ key := by
  unfold delete keys
  rw [List.filter_map]
  rfl

theorem mem_set (map : InsertionMap κ ν) (key : κ) (value : ν) (entry : κ × ν) :
    entry ∈ (map.set key value).entries ↔
      entry = (key, value) ∨ entry.1 ≠ key ∧ entry ∈ map.entries := by
  unfold set
  split
  · rename_i here
    rw [mem_keys] at here
    obtain ⟨old, member⟩ := here
    simp only [List.mem_map, replaceEntry]
    constructor
    · rintro ⟨other, there, rfl⟩
      by_cases same : other.1 = key
      · exact .inl (by simp [same])
      · exact .inr (by simpa [same] using there)
    · rintro (rfl | ⟨different, there⟩)
      · exact ⟨(key, old), member, by simp⟩
      · exact ⟨entry, there, by simp [different]⟩
  · rename_i absent
    simp only [List.mem_append, List.mem_singleton]
    constructor
    · rintro (there | rfl)
      · refine .inr ⟨?_, there⟩
        rintro rfl
        exact absent ((mem_keys map _).mpr ⟨entry.2, there⟩)
      · exact .inl rfl
    · rintro (rfl | ⟨-, there⟩)
      · exact .inr rfl
      · exact .inl there

theorem mem_delete (map : InsertionMap κ ν) (key : κ) (entry : κ × ν) :
    entry ∈ (map.delete key).entries ↔ entry.1 ≠ key ∧ entry ∈ map.entries := by
  unfold delete
  simp [and_comm]

theorem get_set_self (map : InsertionMap κ ν) (key : κ) (value : ν) :
    (map.set key value).get key = some value := by
  rw [get_eq_some, mem_set]
  exact .inl rfl

theorem get_set_of_ne (map : InsertionMap κ ν) {key other : κ} (value : ν) (different : other ≠ key) :
    (map.set key value).get other = map.get other := by
  refine Option.ext fun found => ?_
  rw [get_eq_some, get_eq_some, mem_set]
  simp [different]

theorem get_delete_self (map : InsertionMap κ ν) (key : κ) : (map.delete key).get key = none := by
  rw [get_eq_none, mem_keys]
  simp [mem_delete]

theorem get_delete_of_ne (map : InsertionMap κ ν) {key other : κ} (different : other ≠ key) :
    (map.delete key).get other = map.get other := by
  refine Option.ext fun found => ?_
  rw [get_eq_some, get_eq_some, mem_delete]
  simp [different]

theorem get_set (map : InsertionMap κ ν) (key other : κ) (value : ν) :
    (map.set key value).get other = if other = key then some value else map.get other := by
  split
  · rename_i same
    rw [same, get_set_self]
  · rename_i different
    exact map.get_set_of_ne value different

theorem get_delete (map : InsertionMap κ ν) (key other : κ) :
    (map.delete key).get other = if other = key then none else map.get other := by
  split
  · rename_i same
    rw [same, get_delete_self]
  · rename_i different
    exact map.get_delete_of_ne different

theorem get_set_cases {map : InsertionMap κ ν} {key other : κ} {value found : ν}
    (there : (map.set key value).get other = some found) :
    other = key ∧ found = value ∨ other ≠ key ∧ map.get other = some found := by
  rw [get_set] at there
  split at there
  · rename_i same
    exact .inl ⟨same, (Option.some.inj there).symm⟩
  · rename_i different
    exact .inr ⟨different, there⟩

theorem get_of_get_delete {map : InsertionMap κ ν} {key other : κ} {found : ν}
    (left : (map.delete key).get other = some found) : map.get other = some found := by
  rw [get_delete] at left
  split at left
  · cases left
  · exact left

theorem get_filter (map : InsertionMap κ ν) (keep : κ → Bool) (key : κ) :
    (map.filter keep).get key = if keep key then map.get key else none := by
  refine Option.ext fun found => ?_
  rw [get_eq_some, filter, List.mem_filter]
  by_cases kept : keep key = true
  · rw [if_pos kept, get_eq_some]
    exact ⟨fun there => there.1, fun there => ⟨there, kept⟩⟩
  · rw [if_neg kept]
    exact ⟨fun there => absurd there.2 kept, nofun⟩

end InsertionMap

structure ObjectStore (κ ν : Type) [LinearOrder κ] where
  rows : List (κ × ν)
  ordered : rows.Pairwise fun a b => a.1 < b.1

namespace ObjectStore

variable [LinearOrder κ]

def empty : ObjectStore κ ν := ⟨[], List.Pairwise.nil⟩

def getAll (store : ObjectStore κ ν) : List ν := store.rows.map Prod.snd

def get (store : ObjectStore κ ν) (key : κ) : Option ν :=
  (store.rows.find? fun row => row.1 = key).map Prod.snd

def putRow (key : κ) (value : ν) : List (κ × ν) → List (κ × ν)
  | [] => [(key, value)]
  | row :: rest =>
      if key < row.1 then (key, value) :: row :: rest
      else if key = row.1 then (key, value) :: rest
      else row :: putRow key value rest

theorem mem_putRow (key : κ) (value : ν) (rows : List (κ × ν))
    (ordered : rows.Pairwise fun a b => a.1 < b.1) (row : κ × ν) :
    row ∈ putRow key value rows ↔ row = (key, value) ∨ row.1 ≠ key ∧ row ∈ rows := by
  induction rows with
  | nil => simp [putRow]
  | cons first rest ih =>
      obtain ⟨above, later⟩ := List.pairwise_cons.mp ordered
      unfold putRow
      split
      · rename_i before
        have higher : ∀ other ∈ first :: rest, other.1 ≠ key := by
          intro other member
          obtain rfl | member := List.mem_cons.mp member
          · exact before.ne'
          · exact (before.trans (above other member)).ne'
        rw [List.mem_cons]
        exact or_congr_right ⟨fun member => ⟨higher row member, member⟩, And.right⟩
      · split
        · rename_i same
          have higher : ∀ other ∈ rest, other.1 ≠ key := by
            intro other member
            rw [same]
            exact (above other member).ne'
          simp only [List.mem_cons]
          constructor
          · rintro (rfl | member)
            · exact .inl rfl
            · exact .inr ⟨higher row member, .inr member⟩
          · rintro (rfl | ⟨different, rfl | member⟩)
            · exact .inl rfl
            · exact absurd same.symm different
            · exact .inr member
        · rename_i notBefore different
          simp only [List.mem_cons, ih later]
          constructor
          · rintro (rfl | rfl | ⟨other, member⟩)
            · exact .inr ⟨Ne.symm different, .inl rfl⟩
            · exact .inl rfl
            · exact .inr ⟨other, .inr member⟩
          · rintro (rfl | ⟨other, rfl | member⟩)
            · exact .inr (.inl rfl)
            · exact .inl rfl
            · exact .inr (.inr ⟨other, member⟩)

theorem pairwise_putRow (key : κ) (value : ν) (rows : List (κ × ν))
    (ordered : rows.Pairwise fun a b => a.1 < b.1) :
    (putRow key value rows).Pairwise fun a b => a.1 < b.1 := by
  induction rows with
  | nil => simp [putRow]
  | cons first rest ih =>
      obtain ⟨above, later⟩ := List.pairwise_cons.mp ordered
      unfold putRow
      split
      · rename_i before
        refine List.pairwise_cons.mpr ⟨fun other member => ?_, ordered⟩
        obtain rfl | member := List.mem_cons.mp member
        · exact before
        · exact before.trans (above other member)
      · split
        · rename_i same
          refine List.pairwise_cons.mpr ⟨fun other member => ?_, later⟩
          change key < other.1
          rw [same]
          exact above other member
        · rename_i notBefore different
          refine List.pairwise_cons.mpr ⟨fun other member => ?_, ih later⟩
          obtain rfl | ⟨-, member⟩ := (mem_putRow key value rest later other).mp member
          · exact lt_of_le_of_ne (not_lt.mp notBefore) (Ne.symm different)
          · exact above other member

def put (store : ObjectStore κ ν) (key : κ) (value : ν) : ObjectStore κ ν :=
  ⟨putRow key value store.rows, pairwise_putRow key value store.rows store.ordered⟩

def delete (store : ObjectStore κ ν) (key : κ) : ObjectStore κ ν :=
  ⟨store.rows.filter fun row => row.1 ≠ key, store.ordered.sublist List.filter_sublist⟩

theorem nodup (store : ObjectStore κ ν) : (store.rows.map Prod.fst).Nodup :=
  List.pairwise_map.mpr (store.ordered.imp fun less => less.ne)

theorem get_eq_some (store : ObjectStore κ ν) (key : κ) (value : ν) :
    store.get key = some value ↔ (key, value) ∈ store.rows :=
  InsertionMap.get_eq_some ⟨store.rows, store.nodup⟩ key value

theorem mem_put (store : ObjectStore κ ν) (key : κ) (value : ν) (row : κ × ν) :
    row ∈ (store.put key value).rows ↔ row = (key, value) ∨ row.1 ≠ key ∧ row ∈ store.rows :=
  mem_putRow key value store.rows store.ordered row

theorem mem_delete (store : ObjectStore κ ν) (key : κ) (row : κ × ν) :
    row ∈ (store.delete key).rows ↔ row.1 ≠ key ∧ row ∈ store.rows := by
  unfold delete
  simp [and_comm]

theorem get_put_self (store : ObjectStore κ ν) (key : κ) (value : ν) :
    (store.put key value).get key = some value := by
  rw [get_eq_some, mem_put]
  exact .inl rfl

theorem get_put_of_ne (store : ObjectStore κ ν) {key other : κ} (value : ν) (different : other ≠ key) :
    (store.put key value).get other = store.get other := by
  refine Option.ext fun found => ?_
  rw [get_eq_some, get_eq_some, mem_put]
  simp [different]

theorem get_delete_self (store : ObjectStore κ ν) (key : κ) : (store.delete key).get key = none := by
  refine Option.ext fun found => ?_
  rw [get_eq_some, mem_delete]
  simp

theorem get_delete_of_ne (store : ObjectStore κ ν) {key other : κ} (different : other ≠ key) :
    (store.delete key).get other = store.get other := by
  refine Option.ext fun found => ?_
  rw [get_eq_some, get_eq_some, mem_delete]
  simp [different]

end ObjectStore

section Mirrors

variable [DecidableEq κ] [LinearOrder κ'] {f : κ → κ'} {g : ν → ν'}

def Mirrors (f : κ → κ') (g : ν → ν') (map : InsertionMap κ ν) (store : ObjectStore κ' ν') : Prop :=
  ∀ row, row ∈ store.rows ↔ ∃ entry ∈ map.entries, (f entry.1, g entry.2) = row

variable {map : InsertionMap κ ν} {store : ObjectStore κ' ν'}

omit [DecidableEq κ] in
theorem mirrors_empty :
    Mirrors f g (InsertionMap.empty : InsertionMap κ ν) ObjectStore.empty := by
  intro row
  simp [InsertionMap.empty, ObjectStore.empty]

theorem Mirrors.get (mirrors : Mirrors f g map store) (injective : Function.Injective f) (key : κ) :
    store.get (f key) = (map.get key).map g := by
  refine Option.ext fun found => ?_
  rw [ObjectStore.get_eq_some, mirrors, Option.map_eq_some_iff]
  constructor
  · rintro ⟨⟨other, value⟩, member, same⟩
    obtain ⟨sameKey, rfl⟩ := Prod.mk.inj same
    rw [← injective sameKey]
    exact ⟨value, (map.get_eq_some _ _).mpr member, rfl⟩
  · rintro ⟨value, member, rfl⟩
    exact ⟨(key, value), (map.get_eq_some _ _).mp member, rfl⟩

theorem Mirrors.put (mirrors : Mirrors f g map store) (injective : Function.Injective f) (key : κ)
    (value : ν) : Mirrors f g (map.set key value) (store.put (f key) (g value)) := by
  intro row
  simp only [ObjectStore.mem_put, InsertionMap.mem_set, mirrors row]
  constructor
  · rintro (rfl | ⟨different, entry, member, rfl⟩)
    · exact ⟨(key, value), .inl rfl, rfl⟩
    · exact ⟨entry, .inr ⟨fun same => different (by rw [same]), member⟩, rfl⟩
  · rintro ⟨entry, rfl | ⟨different, member⟩, rfl⟩
    · exact .inl rfl
    · exact .inr ⟨fun same => different (injective same), entry, member, rfl⟩

theorem Mirrors.delete (mirrors : Mirrors f g map store) (injective : Function.Injective f)
    (key : κ) : Mirrors f g (map.delete key) (store.delete (f key)) := by
  intro row
  simp only [ObjectStore.mem_delete, InsertionMap.mem_delete, mirrors row]
  constructor
  · rintro ⟨different, entry, member, rfl⟩
    exact ⟨entry, ⟨fun same => different (by rw [same]), member⟩, rfl⟩
  · rintro ⟨entry, ⟨different, member⟩, rfl⟩
    exact ⟨fun same => different (injective same), entry, member, rfl⟩

omit [DecidableEq κ] in
theorem Mirrors.perm (mirrors : Mirrors f g map store)
    (injective : Function.Injective f) :
    store.rows.Perm (map.entries.map fun entry => (f entry.1, g entry.2)) := by
  refine (List.perm_ext_iff_of_nodup ?_ ?_).mpr ?_
  · exact store.nodup.of_map _
  · refine List.Nodup.of_map Prod.fst ?_
    rw [List.map_map]
    exact map.nodup.of_map _ |>.map_on fun a ha b hb same =>
      List.inj_on_of_nodup_map map.nodup ha hb (injective same)
  · intro row
    rw [mirrors row, List.mem_map]

omit [DecidableEq κ] in
theorem Mirrors.getAll_perm (mirrors : Mirrors f g map store) (injective : Function.Injective f) :
    store.getAll.Perm (map.values.map g) := by
  have perm := (mirrors.perm injective).map Prod.snd
  rw [List.map_map] at perm
  rw [InsertionMap.values, List.map_map]
  exact perm

omit [DecidableEq κ] in
/-- Both list the same values in the same order exactly when the keys of the map were first set in
ascending order. -/
theorem Mirrors.getAll_eq_iff (mirrors : Mirrors f g map store) (injective : Function.Injective f)
    (keyOf : ν' → κ') (keyed : ∀ entry ∈ map.entries, keyOf (g entry.2) = f entry.1) :
    store.getAll = map.values.map g ↔ (map.keys.map f).Pairwise (· < ·) := by
  constructor
  · intro same
    have keys : store.getAll.map keyOf = store.rows.map Prod.fst := by
      rw [ObjectStore.getAll, List.map_map]
      refine List.map_congr_left fun row member => ?_
      obtain ⟨entry, there, rfl⟩ := (mirrors row).mp member
      exact keyed entry there
    have mapped : (map.values.map g).map keyOf = map.keys.map f := by
      rw [InsertionMap.values, InsertionMap.keys, List.map_map, List.map_map, List.map_map]
      exact List.map_congr_left keyed
    rw [← mapped, ← same, keys]
    exact List.pairwise_map.mpr store.ordered
  · intro ascending
    have rows : store.rows = map.entries.map fun entry => (f entry.1, g entry.2) := by
      refine (mirrors.perm injective).eq_of_pairwise ?_ store.ordered ?_
      · intro a b _ _ less greater
        exact absurd less greater.asymm
      · rw [InsertionMap.keys, List.map_map, List.pairwise_map] at ascending
        exact List.pairwise_map.mpr ascending
    rw [ObjectStore.getAll, rows, InsertionMap.values, List.map_map, List.map_map]
    rfl

end Mirrors

end ZenPass.KeyedStore
