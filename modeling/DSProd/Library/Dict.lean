import Mathlib.Data.List.Nodup
import Mathlib.Data.List.Perm.Basic
import Mathlib.Tactic.Common

/-!
# Insertion-ordered dictionaries

A dictionary is a list of entries whose keys do not repeat.  Assigning to a
key that is present keeps its place, assigning to a new key appends it, and
iteration follows the list: the behaviour of the mappings of scripting
languages that remember insertion order.

Uniqueness of the keys is a field of the structure, so every operation carries
the proof that it keeps them unique and no client proves it again.
-/

namespace DSProd.Library

universe u v w

variable {K : Type u} {V : Type v} {W : Type w}

/-- A list of entries with unique keys, in insertion order. -/
structure Dict (K : Type u) (V : Type v) where
  items : List (K × V)
  nodupKeys : (items.map Prod.fst).Nodup

namespace Dict

/-- The keys, in iteration order. -/
def keys (dict : Dict K V) : List K :=
  dict.items.map Prod.fst

/-- The values, in iteration order. -/
def values (dict : Dict K V) : List V :=
  dict.items.map Prod.snd

theorem keys_nodup (dict : Dict K V) : dict.keys.Nodup :=
  dict.nodupKeys

@[ext]
theorem ext {first second : Dict K V} (itemsEq : first.items = second.items) :
    first = second := by
  cases first
  cases second
  simpa using itemsEq

instance [DecidableEq K] [DecidableEq V] : DecidableEq (Dict K V) := fun first second =>
  decidable_of_iff (first.items = second.items) ⟨ext, fun equal => equal ▸ rfl⟩

/-- The dictionary without entries. -/
def empty : Dict K V :=
  ⟨[], List.nodup_nil⟩

instance : Inhabited (Dict K V) :=
  ⟨empty⟩

@[simp]
theorem items_empty : (empty : Dict K V).items = [] :=
  rfl

@[simp]
theorem keys_empty : (empty : Dict K V).keys = [] :=
  rfl

/-- The number of entries. -/
def size (dict : Dict K V) : Nat :=
  dict.items.length

@[simp]
theorem length_keys (dict : Dict K V) : dict.keys.length = dict.size := by
  simp [keys, size]

/-! ## Lookup -/

variable [DecidableEq K]

/-- The first value stored under a key in a list of entries. -/
def lookupItems (key : K) : List (K × V) → Option V
  | [] => none
  | entry :: rest => if entry.1 = key then some entry.2 else lookupItems key rest

/-- The value stored under a key. -/
def get? (dict : Dict K V) (key : K) : Option V :=
  lookupItems key dict.items

/-- The value stored under a key, or a default. -/
def getD (dict : Dict K V) (key : K) (default : V) : V :=
  (dict.get? key).getD default

@[simp]
theorem get?_empty (key : K) : (empty : Dict K V).get? key = none :=
  rfl

theorem lookupItems_eq_none_iff {key : K} {items : List (K × V)} :
    lookupItems key items = none ↔ key ∉ items.map Prod.fst := by
  induction items with
  | nil => simp [lookupItems]
  | cons entry rest ih =>
      by_cases same : entry.1 = key
      · simp [lookupItems, same]
      · simp [lookupItems, same, ih, Ne.symm same]

theorem mem_of_lookupItems {key : K} {value : V} {items : List (K × V)}
    (found : lookupItems key items = some value) : (key, value) ∈ items := by
  induction items with
  | nil => simp [lookupItems] at found
  | cons entry rest ih =>
      by_cases same : entry.1 = key
      · simp only [lookupItems, same, if_true, Option.some.injEq] at found
        rw [← same, ← found]
        exact List.mem_cons_self
      · simp only [lookupItems, same, if_false] at found
        exact List.mem_cons_of_mem _ (ih found)

theorem lookupItems_of_mem {key : K} {value : V} {items : List (K × V)}
    (nodup : (items.map Prod.fst).Nodup) (member : (key, value) ∈ items) :
    lookupItems key items = some value := by
  induction items with
  | nil => simp at member
  | cons entry rest ih =>
      rw [List.map_cons, List.nodup_cons] at nodup
      rcases List.mem_cons.mp member with rfl | later
      · simp [lookupItems]
      · have different : entry.1 ≠ key := by
          rintro rfl
          exact nodup.1 (List.mem_map.mpr ⟨_, later, rfl⟩)
        simp only [lookupItems, different, if_false]
        exact ih nodup.2 later

theorem get?_eq_none_iff {dict : Dict K V} {key : K} :
    dict.get? key = none ↔ key ∉ dict.keys :=
  lookupItems_eq_none_iff

theorem get?_eq_some_iff {dict : Dict K V} {key : K} {value : V} :
    dict.get? key = some value ↔ (key, value) ∈ dict.items :=
  ⟨mem_of_lookupItems, lookupItems_of_mem dict.nodupKeys⟩

theorem mem_keys_iff {dict : Dict K V} {key : K} :
    key ∈ dict.keys ↔ ∃ value, dict.get? key = some value := by
  rw [← Option.ne_none_iff_exists', ne_eq, get?_eq_none_iff, not_not]

theorem mem_values_iff {dict : Dict K V} {value : V} :
    value ∈ dict.values ↔ ∃ key, dict.get? key = some value := by
  simp only [values, List.mem_map, Prod.exists, exists_eq_right, get?_eq_some_iff]

theorem mem_keys_of_get? {dict : Dict K V} {key : K} {value : V}
    (found : dict.get? key = some value) : key ∈ dict.keys :=
  mem_keys_iff.mpr ⟨value, found⟩

theorem items_eq_filterMap (dict : Dict K V) :
    dict.items = dict.keys.filterMap fun key => (dict.get? key).map fun value => (key, value) := by
  have found : ∀ entry ∈ dict.items,
      ((dict.get? entry.1).map fun value => (entry.1, value)) = some entry := by
    intro entry member
    rw [get?_eq_some_iff.mpr member, Option.map_some]
  rw [keys, List.filterMap_map]
  calc dict.items = dict.items.filterMap some := List.filterMap_some.symm
    _ = _ := List.filterMap_congr fun entry member => (found entry member).symm

/-- Dictionaries with the same keys in the same order and the same values are
equal. -/
theorem ext_get? {first second : Dict K V} (sameKeys : first.keys = second.keys)
    (sameValues : ∀ key, first.get? key = second.get? key) : first = second := by
  apply ext
  rw [items_eq_filterMap, items_eq_filterMap second, sameKeys]
  simp only [sameValues]

/-! ## Assignment -/

/-- Assignment in a list of entries: in place when the key is there, at the
end when it is not. -/
def setItems (key : K) (value : V) : List (K × V) → List (K × V)
  | [] => [(key, value)]
  | entry :: rest =>
      if entry.1 = key then (key, value) :: rest else entry :: setItems key value rest

theorem map_fst_setItems (key : K) (value : V) (items : List (K × V)) :
    (setItems key value items).map Prod.fst =
      if key ∈ items.map Prod.fst then items.map Prod.fst
      else items.map Prod.fst ++ [key] := by
  induction items with
  | nil => simp [setItems]
  | cons entry rest ih =>
      by_cases same : entry.1 = key
      · simp [setItems, same]
      · simp only [setItems, same, if_false, List.map_cons, ih, List.mem_cons, Ne.symm same,
          false_or]
        split <;> simp

/-- `dict[key] = value`. -/
def set (dict : Dict K V) (key : K) (value : V) : Dict K V where
  items := setItems key value dict.items
  nodupKeys := by
    rw [map_fst_setItems]
    split
    · exact dict.nodupKeys
    · rename_i absent
      exact List.nodup_append.mpr ⟨dict.nodupKeys, List.nodup_singleton key, by
        rintro other otherMem _ singleton rfl
        exact absent (List.mem_singleton.mp singleton ▸ otherMem)⟩

theorem keys_set (dict : Dict K V) (key : K) (value : V) :
    (dict.set key value).keys =
      if key ∈ dict.keys then dict.keys else dict.keys ++ [key] :=
  map_fst_setItems key value dict.items

theorem keys_set_of_mem {dict : Dict K V} {key : K} (value : V) (known : key ∈ dict.keys) :
    (dict.set key value).keys = dict.keys := by
  rw [keys_set, if_pos known]

theorem size_set_of_mem {dict : Dict K V} {key : K} (value : V) (known : key ∈ dict.keys) :
    (dict.set key value).size = dict.size := by
  rw [← length_keys, keys_set_of_mem value known, length_keys]

theorem size_set_of_notMem {dict : Dict K V} {key : K} (value : V) (absent : key ∉ dict.keys) :
    (dict.set key value).size = dict.size + 1 := by
  rw [← length_keys, keys_set, if_neg absent, List.length_append, length_keys,
    List.length_singleton]

@[simp]
theorem mem_keys_set {dict : Dict K V} {key other : K} {value : V} :
    other ∈ (dict.set key value).keys ↔ other = key ∨ other ∈ dict.keys := by
  rw [keys_set]
  split
  · rename_i present
    exact ⟨Or.inr, fun either => either.elim (fun same => same ▸ present) id⟩
  · simp [or_comm]

theorem lookupItems_setItems (key other : K) (value : V) (items : List (K × V)) :
    lookupItems other (setItems key value items) =
      if other = key then some value else lookupItems other items := by
  induction items with
  | nil =>
      by_cases same : key = other
      · simp [setItems, lookupItems, same]
      · simp [setItems, lookupItems, same, Ne.symm same]
  | cons entry rest ih =>
      by_cases same : entry.1 = key
      · by_cases asked : other = key
        · simp [setItems, lookupItems, same, asked]
        · simp [setItems, lookupItems, same, asked, Ne.symm asked]
      · by_cases asked : other = key
        · subst asked
          simp [setItems, lookupItems, same, ih]
        · simp [setItems, lookupItems, same, ih, asked]

theorem get?_set (dict : Dict K V) (key other : K) (value : V) :
    (dict.set key value).get? other = if other = key then some value else dict.get? other :=
  lookupItems_setItems key other value dict.items

@[simp]
theorem get?_set_self (dict : Dict K V) (key : K) (value : V) :
    (dict.set key value).get? key = some value := by
  simp [get?_set]

/-- `dict.setdefault(key, value)`: keep the value that is there. -/
def setdefault (dict : Dict K V) (key : K) (value : V) : Dict K V :=
  match dict.get? key with
  | some _ => dict
  | none => dict.set key value

theorem get?_setdefault (dict : Dict K V) (key other : K) (value : V) :
    (dict.setdefault key value).get? other =
      if other = key then some (dict.getD key value) else dict.get? other := by
  rw [setdefault, getD]
  cases found : dict.get? key with
  | some stored =>
      by_cases asked : other = key
      · simp [asked, found]
      · simp [asked]
  | none => simp [get?_set]

theorem mem_keys_setdefault {dict : Dict K V} {key other : K} {value : V} :
    other ∈ (dict.setdefault key value).keys ↔ other = key ∨ other ∈ dict.keys := by
  rw [setdefault]
  cases found : dict.get? key with
  | some stored =>
      have present := mem_keys_of_get? found
      exact ⟨Or.inr, fun either => either.elim (fun same => same ▸ present) id⟩
  | none => exact mem_keys_set

theorem items_set_of_notMem {dict : Dict K V} {key : K} (value : V) (absent : key ∉ dict.keys) :
    (dict.set key value).items = dict.items ++ [(key, value)] := by
  have general : ∀ items : List (K × V), key ∉ items.map Prod.fst →
      setItems key value items = items ++ [(key, value)] := by
    intro items
    induction items with
    | nil => exact fun _ => rfl
    | cons entry rest ih =>
        intro missing
        rw [List.map_cons, List.mem_cons, not_or] at missing
        simp [setItems, Ne.symm missing.1, ih missing.2]
  exact general dict.items absent

/-- A default is not seen once the key is assigned. -/
theorem set_setdefault (dict : Dict K V) (key : K) (default value : V) :
    (dict.setdefault key default).set key value = dict.set key value := by
  apply ext_get?
  · unfold setdefault
    cases found : dict.get? key with
    | some stored => rfl
    | none =>
        have absent := get?_eq_none_iff.mp found
        have stored : key ∈ (dict.set key default).keys := by simp
        rw [keys_set_of_mem value stored, keys_set, keys_set]
  · intro other
    simp only [get?_set, get?_setdefault]
    by_cases asked : other = key <;> simp [asked]

/-! ## Removal -/

/-- `dict.pop(key, None)`, as a dictionary. -/
def pop (dict : Dict K V) (key : K) : Dict K V where
  items := dict.items.filter fun entry => entry.1 ≠ key
  nodupKeys := dict.nodupKeys.sublist (List.Sublist.map Prod.fst List.filter_sublist)

@[simp]
theorem mem_keys_pop {dict : Dict K V} {key other : K} :
    other ∈ (dict.pop key).keys ↔ other ≠ key ∧ other ∈ dict.keys := by
  simp only [pop, keys, List.mem_map, List.mem_filter, decide_eq_true_eq]
  constructor
  · rintro ⟨entry, ⟨entryMem, different⟩, rfl⟩
    exact ⟨different, entry, entryMem, rfl⟩
  · rintro ⟨different, entry, entryMem, rfl⟩
    exact ⟨entry, ⟨entryMem, different⟩, rfl⟩

theorem get?_pop (dict : Dict K V) (key other : K) :
    (dict.pop key).get? other = if other = key then none else dict.get? other := by
  by_cases asked : other = key
  · rw [if_pos asked, get?_eq_none_iff, mem_keys_pop]
    exact fun both => both.1 asked
  · rw [if_neg asked]
    apply Option.ext
    intro value
    simp [get?_eq_some_iff, pop, asked]

/-- Popping the key of an entry takes just that entry out. -/
theorem items_pop_of_append {dict : Dict K V} {before after : List (K × V)} {entry : K × V}
    (split : dict.items = before ++ entry :: after) :
    (dict.pop entry.1).items = before ++ after := by
  have once := dict.nodupKeys
  rw [split, List.map_append, List.map_cons, List.nodup_middle, List.nodup_cons,
    List.mem_append, not_or] at once
  have others : ∀ entries : List (K × V), entry.1 ∉ entries.map Prod.fst →
      (entries.filter fun other => other.1 ≠ entry.1) = entries := by
    intro entries absent
    apply List.filter_eq_self.mpr
    intro other member
    exact decide_eq_true fun same => absent (same ▸ List.mem_map_of_mem member)
  have filtered : (dict.pop entry.1).items = dict.items.filter fun other => other.1 ≠ entry.1 := rfl
  rw [filtered, split, List.filter_append, List.filter_cons, others before once.1.1,
    others after once.1.2]
  simp

omit [DecidableEq K] in
theorem map_fst_map (f : K → V → W) (items : List (K × V)) :
    (items.map fun entry => (entry.1, f entry.1 entry.2)).map Prod.fst = items.map Prod.fst := by
  simp [List.map_map, Function.comp_def]

/-- Rewrite every value in place. -/
def mapValues (f : K → V → W) (dict : Dict K V) : Dict K W where
  items := dict.items.map fun entry => (entry.1, f entry.1 entry.2)
  nodupKeys := by
    rw [map_fst_map]
    exact dict.nodupKeys

omit [DecidableEq K] in
@[simp]
theorem keys_mapValues (f : K → V → W) (dict : Dict K V) :
    (dict.mapValues f).keys = dict.keys :=
  map_fst_map f dict.items

@[simp]
theorem get?_mapValues (f : K → V → W) (dict : Dict K V) (key : K) :
    (dict.mapValues f).get? key = (dict.get? key).map (f key) := by
  have step : ∀ items : List (K × V),
      lookupItems key (items.map fun entry => (entry.1, f entry.1 entry.2)) =
        (lookupItems key items).map (f key) := by
    intro items
    induction items with
    | nil => rfl
    | cons entry rest ih =>
        by_cases same : entry.1 = key
        · subst same
          simp [lookupItems]
        · simp [lookupItems, same, ih]
  exact step dict.items

omit [DecidableEq K] in
theorem mapValues_mapValues {X : Type*} (g : K → W → X) (f : K → V → W) (dict : Dict K V) :
    (dict.mapValues f).mapValues g = dict.mapValues fun key value => g key (f key value) := by
  apply ext
  simp [mapValues, List.map_map, Function.comp_def]

/-- An assignment that keeps a part of the value is not seen through that part. -/
theorem mapValues_set_of_same (f : V → W) {dict : Dict K V} {key : K} {old value : V}
    (found : dict.get? key = some old) (same : f value = f old) :
    ((dict.set key value).mapValues fun _ => f) = dict.mapValues fun _ => f := by
  apply ext_get?
  · rw [keys_mapValues, keys_mapValues, keys_set_of_mem value (mem_keys_of_get? found)]
  · intro other
    rw [get?_mapValues, get?_mapValues, get?_set]
    by_cases asked : other = key
    · rw [if_pos asked, asked, found, Option.map_some, Option.map_some, same]
    · rw [if_neg asked]

/-- Keep the entries a test accepts. -/
def filter (keep : K → V → Bool) (dict : Dict K V) : Dict K V where
  items := dict.items.filter fun entry => keep entry.1 entry.2
  nodupKeys := dict.nodupKeys.sublist (List.Sublist.map Prod.fst List.filter_sublist)

theorem mem_keys_filter {keep : K → V → Bool} {dict : Dict K V} {key : K} :
    key ∈ (dict.filter keep).keys ↔
      ∃ value, dict.get? key = some value ∧ keep key value = true := by
  simp only [keys, filter, List.mem_map, List.mem_filter]
  constructor
  · rintro ⟨entry, ⟨member, kept⟩, rfl⟩
    exact ⟨entry.2, get?_eq_some_iff.mpr member, kept⟩
  · rintro ⟨value, found, kept⟩
    exact ⟨(key, value), ⟨get?_eq_some_iff.mp found, kept⟩, rfl⟩

@[simp]
theorem get?_filter (keep : K → V → Bool) (dict : Dict K V) (key : K) :
    (dict.filter keep).get? key = (dict.get? key).filter (keep key) := by
  ext value
  rw [Option.filter_eq_some_iff, get?_eq_some_iff, get?_eq_some_iff]
  exact List.mem_filter

/-- `dict.update(other)`: assign the entries of a list one after the other. -/
def update (dict : Dict K V) (entries : List (K × V)) : Dict K V :=
  entries.foldl (fun current entry => current.set entry.1 entry.2) dict

@[simp]
theorem mem_keys_update {dict : Dict K V} {entries : List (K × V)} {key : K} :
    key ∈ (dict.update entries).keys ↔ key ∈ dict.keys ∨ key ∈ entries.map Prod.fst := by
  induction entries generalizing dict with
  | nil => simp [update]
  | cons entry rest ih =>
      have step : dict.update (entry :: rest) = (dict.set entry.1 entry.2).update rest := rfl
      rw [step, ih, mem_keys_set, List.map_cons, List.mem_cons]
      tauto

theorem mem_of_get?_update {dict : Dict K V} {entries : List (K × V)} {key : K} {value : V}
    (found : (dict.update entries).get? key = some value) :
    (key, value) ∈ entries ∨ dict.get? key = some value := by
  induction entries generalizing dict with
  | nil => exact Or.inr found
  | cons entry rest ih =>
      rcases ih (show ((dict.set entry.1 entry.2).update rest).get? key = some value from found)
        with later | before
      · exact Or.inl (List.mem_cons_of_mem entry later)
      · rw [get?_set] at before
        by_cases asked : key = entry.1
        · rw [if_pos asked, Option.some.injEq] at before
          left
          rw [asked, ← before]
          exact List.mem_cons_self
        · rw [if_neg asked] at before
          exact Or.inr before

/-- A key that no entry assigns keeps its value. -/
theorem get?_update_of_notMem {dict : Dict K V} {entries : List (K × V)} {key : K}
    (absent : key ∉ entries.map Prod.fst) : (dict.update entries).get? key = dict.get? key := by
  induction entries generalizing dict with
  | nil => rfl
  | cons entry rest ih =>
      rw [List.map_cons, List.mem_cons, not_or] at absent
      have step : dict.update (entry :: rest) = (dict.set entry.1 entry.2).update rest := rfl
      rw [step, ih absent.2, get?_set, if_neg absent.1]

/-- A key that some entry assigns has the value of one. -/
theorem exists_get?_update {dict : Dict K V} {entries : List (K × V)} {key : K}
    (assigned : key ∈ entries.map Prod.fst) :
    ∃ value, (key, value) ∈ entries ∧ (dict.update entries).get? key = some value := by
  induction entries generalizing dict with
  | nil => cases assigned
  | cons entry rest ih =>
      have step : dict.update (entry :: rest) = (dict.set entry.1 entry.2).update rest := rfl
      rw [step]
      by_cases later : key ∈ rest.map Prod.fst
      · exact (ih later).imp fun value ⟨member, found⟩ =>
          ⟨List.mem_cons_of_mem entry member, found⟩
      · have isFirst : key = entry.1 := (List.mem_cons.mp assigned).resolve_right later
        refine ⟨entry.2, isFirst ▸ List.mem_cons_self, ?_⟩
        rw [get?_update_of_notMem later, isFirst, get?_set_self]

/-- The keys of a dictionary stay in place, and those that are new to it are appended. -/
theorem keys_update {dict : Dict K V} {entries : List (K × V)}
    (once : (entries.map Prod.fst).Nodup) :
    (dict.update entries).keys =
      dict.keys ++ (entries.map Prod.fst).filter fun key => key ∉ dict.keys := by
  induction entries generalizing dict with
  | nil => simp [update]
  | cons entry rest ih =>
      obtain ⟨notLater, onceRest⟩ := List.nodup_cons.mp once
      have step : dict.update (entry :: rest) = (dict.set entry.1 entry.2).update rest := rfl
      have newKeys : ((rest.map Prod.fst).filter fun key => key ∉ (dict.set entry.1 entry.2).keys) =
          (rest.map Prod.fst).filter fun key => key ∉ dict.keys := by
        apply List.filter_congr
        intro key member
        have different : key ≠ entry.1 := fun same => notLater (same ▸ member)
        simp [different]
      rw [step, ih onceRest, newKeys, keys_set]
      by_cases known : entry.1 ∈ dict.keys
      · simp [known]
      · simp [known]

/-- The dictionary a list of entries builds, later entries winning. -/
def ofList (entries : List (K × V)) : Dict K V :=
  empty.update entries

end Dict

end DSProd.Library
