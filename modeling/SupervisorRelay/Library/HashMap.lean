import Mathlib.Data.List.AList
import Mathlib.Data.List.Count
import Mathlib.Data.List.Nodup

/-! Hash maps with one value type. Association lists without repeated keys
stand for the maps; the order of the entries is the order in which an iteration
visits them. Lookups and counts do not depend on that order. -/

abbrev HashMap (κ α : Type) := AList (fun _ : κ => α)

namespace HashMap

variable {κ α β : Type}

def values (m : HashMap κ α) : List α :=
  m.entries.map Sigma.snd

def len (m : HashMap κ α) : Nat :=
  m.entries.length

/-- Rewrite every value in place; keys and iteration order stay. -/
def mapValues (f : κ → α → β) (m : HashMap κ α) : HashMap κ β :=
  ⟨m.entries.map fun e => ⟨e.1, f e.1 e.2⟩, m.nodupKeys.map₂ f⟩

@[simp] theorem values_length (m : HashMap κ α) : m.values.length = m.len := by
  simp [values, len]

theorem values_mapValues (f : α → β) (m : HashMap κ α) :
    (mapValues (fun _ => f) m).values = m.values.map f := by
  simp [values, mapValues]

theorem mapValues_mapValues (f g : α → α) (m : HashMap κ α) :
    mapValues (fun _ => g) (mapValues (fun _ => f) m) =
      mapValues (fun _ value => g (f value)) m := by
  apply AList.ext
  simp [mapValues]

theorem mapValues_id {f : α → α} {m : HashMap κ α} (h : ∀ value ∈ m.values, f value = value) :
    mapValues (fun _ => f) m = m := by
  apply AList.ext
  refine (List.map_congr_left fun entry hentry => ?_).trans (List.map_id _)
  dsimp only [id]
  rw [h entry.2 (List.mem_map_of_mem hentry)]

theorem keys_length (m : HashMap κ α) : m.keys.length = m.len := by
  simp [AList.keys, List.keys, len]

theorem keys_perm {m : HashMap κ α} {n : HashMap κ β} (h : ∀ key, key ∈ m ↔ key ∈ n) :
    m.keys.Perm n.keys :=
  (List.perm_ext_iff_of_nodup m.keys_nodup n.keys_nodup).mpr h

theorem len_eq {m : HashMap κ α} {n : HashMap κ β} (h : ∀ key, key ∈ m ↔ key ∈ n) :
    m.len = n.len := by
  rw [← keys_length, ← keys_length, (keys_perm h).length_eq]

variable [DecidableEq κ]

/-- Rewrite the value stored under one key; an absent key changes nothing. -/
def modify (key : κ) (f : α → α) (m : HashMap κ α) : HashMap κ α :=
  mapValues (fun k value => if k = key then f value else value) m

@[simp] theorem lookup_mapValues (f : κ → α → β) (m : HashMap κ α) (key : κ) :
    (mapValues f m).lookup key = (m.lookup key).map (f key) :=
  List.dlookup_map₂ key

@[simp] theorem lookup_modify_self (key : κ) (f : α → α) (m : HashMap κ α) :
    (modify key f m).lookup key = (m.lookup key).map f := by
  simp [modify]

theorem lookup_modify_ne {key other : κ} (h : other ≠ key) (f : α → α)
    (m : HashMap κ α) : (modify key f m).lookup other = m.lookup other := by
  simp [modify, h]

theorem lookup_modify (key other : κ) (f : α → α) (m : HashMap κ α) :
    (modify key f m).lookup other =
      if other = key then (m.lookup other).map f else m.lookup other := by
  split
  · rename_i h
    rw [h, lookup_modify_self]
  · rename_i h
    exact lookup_modify_ne h f m

theorem mem_modify {key other : κ} {f : α → α} {m : HashMap κ α} :
    other ∈ modify key f m ↔ other ∈ m := by
  rw [← AList.lookup_isSome, ← AList.lookup_isSome, lookup_modify]
  split
  · rw [Option.isSome_map]
  · rfl

theorem modify_of_notMem {key : κ} {m : HashMap κ α} (h : key ∉ m) (f : α → α) :
    modify key f m = m := by
  apply AList.ext
  refine (List.map_congr_left fun entry hentry => ?_).trans (List.map_id _)
  have hne : entry.1 ≠ key := by
    rintro rfl
    exact h (List.mem_keys_of_mem hentry)
  simp [hne]

theorem modify_insert (key : κ) (f : α → α) (value : α) (m : HashMap κ α) :
    modify key f (AList.insert key value m) = AList.insert key (f value) m := by
  apply AList.ext
  simp only [modify, mapValues, AList.entries_insert, List.map_cons, if_true]
  congr 1
  refine (List.map_congr_left fun entry hentry => ?_).trans (List.map_id _)
  have hne : entry.1 ≠ key := by
    rintro rfl
    exact List.notMem_keys_kerase entry.1 m.nodupKeys (List.mem_keys_of_mem hentry)
  simp [hne]

theorem modify_modify (key : κ) (f g : α → α) (m : HashMap κ α) :
    modify key f (modify key g m) = modify key (fun value => f (g value)) m := by
  apply AList.ext
  simp only [modify, mapValues, List.map_map]
  apply List.map_congr_left
  intro entry _
  dsimp only [Function.comp]
  split <;> rfl

theorem modify_id (key : κ) {f : α → α} {m : HashMap κ α}
    (h : ∀ value, m.lookup key = some value → f value = value) : modify key f m = m := by
  apply AList.ext
  refine (List.map_congr_left fun entry hentry => ?_).trans (List.map_id _)
  have hlookup : m.lookup entry.1 = some entry.2 := AList.mem_lookup_iff.mpr hentry
  dsimp only [id]
  split
  · rename_i heq
    rw [h entry.2 (heq ▸ hlookup)]
  · rfl

theorem lookup_insert (key other : κ) (value : α) (m : HashMap κ α) :
    AList.lookup other (AList.insert key value m) =
      if other = key then some value else m.lookup other := by
  split
  · rename_i h
    rw [h, AList.lookup_insert]
  · rename_i h
    exact AList.lookup_insert_ne h

theorem lookup_insert_self (key : κ) (value : α) (m : HashMap κ α) :
    AList.lookup key (AList.insert key value m) = some value := by
  rw [lookup_insert, if_pos rfl]

theorem mem_iff_lookup {m : HashMap κ α} {key : κ} :
    key ∈ m ↔ ∃ value, m.lookup key = some value := by
  rw [← AList.lookup_isSome, Option.isSome_iff_exists]

theorem mem_of_lookup {m : HashMap κ α} {key : κ} {value : α} (h : m.lookup key = some value) :
    key ∈ m :=
  mem_iff_lookup.mpr ⟨value, h⟩

theorem mem_values {m : HashMap κ α} {value : α} :
    value ∈ m.values ↔ ∃ key, m.lookup key = some value := by
  simp only [values, List.mem_map]
  constructor
  · rintro ⟨⟨key, stored⟩, hmem, rfl⟩
    exact ⟨key, AList.mem_lookup_iff.mpr hmem⟩
  · rintro ⟨key, hlookup⟩
    exact ⟨⟨key, value⟩, AList.mem_lookup_iff.mp hlookup, rfl⟩

/-- Values that name their own key list the keys in iteration order. -/
theorem values_map_eq_keys {m : HashMap κ α} {name : α → κ}
    (h : ∀ key value, m.lookup key = some value → name value = key) :
    m.values.map name = m.keys := by
  unfold values AList.keys List.keys
  rw [List.map_map]
  apply List.map_congr_left
  intro entry hmem
  exact h entry.1 entry.2 (AList.mem_lookup_iff.mpr hmem)

theorem filter_values_map {m : HashMap κ α} {name : α → κ}
    (h : ∀ key value, m.lookup key = some value → name value = key) (p : α → Bool) :
    (m.values.filter p).map name = m.keys.filter fun key => (m.lookup key).any p := by
  rw [← values_map_eq_keys h, List.filter_map]
  congr 1
  apply List.filter_congr
  intro value hmem
  obtain ⟨key, hlookup⟩ := mem_values.mp hmem
  have hname := h key value hlookup
  rw [Function.comp_apply, hname, hlookup, Option.any_some]

theorem countP_values (p : α → Bool) (m : HashMap κ α) :
    m.values.countP p = m.keys.countP fun key => (m.lookup key).any p := by
  unfold values AList.keys List.keys
  rw [List.countP_map, List.countP_map]
  apply List.countP_congr
  intro entry hmem
  have hlookup : m.lookup entry.1 = some entry.2 := AList.mem_lookup_iff.mpr hmem
  simp [hlookup]

/-- Two maps with the same keys count alike when the predicates agree key by key. -/
theorem countP_values_eq {m : HashMap κ α} {n : HashMap κ β} {p : α → Bool} {q : β → Bool}
    (hkeys : ∀ key, key ∈ m ↔ key ∈ n)
    (h : ∀ key, (m.lookup key).any p = (n.lookup key).any q) :
    m.values.countP p = n.values.countP q := by
  rw [countP_values, countP_values, (keys_perm hkeys).countP_eq]
  apply List.countP_congr
  intro key _
  rw [h key]

end HashMap
