/-!
This module contains finite maps with text keys that remember the order in which their keys were
first written. Writing a key again replaces its value and leaves its place as it is.
-/

namespace SearchBox

namespace OrderedMap

/--
Replace the value of `key` in `entries`, or append the entry if there is none.
-/
def write {α : Type} (key : String) (value : α) : List (String × α) → List (String × α)
  | [] => [(key, value)]
  | entry :: entries =>
    if entry.1 = key then (key, value) :: entries else entry :: write key value entries

theorem keys_write {α : Type} (key : String) (value : α) (entries : List (String × α))
    : (write key value entries).map Prod.fst
      = if key ∈ entries.map Prod.fst then entries.map Prod.fst
        else entries.map Prod.fst ++ [key] := by
  induction entries with
  | nil => simp [write]
  | cons entry entries ih =>
    by_cases h : entry.1 = key
    . simp [write, h]
    . simp only [write, h, ite_false, List.map_cons, ih, List.mem_cons]
      split <;> simp_all [eq_comm]

theorem nodup_keys_write {α : Type} (key : String) (value : α) {entries : List (String × α)}
    (h : (entries.map Prod.fst).Nodup) : ((write key value entries).map Prod.fst).Nodup := by
  rw [keys_write]
  split
  . exact h
  . next hkey =>
    rw [List.nodup_append]
    exact ⟨h, by simp, by rintro a ha b hb rfl; simp_all⟩

end OrderedMap

/--
A finite map with text keys, ordered by the first write of each key.
-/
structure OrderedMap (α : Type) where
  toList : List (String × α)
  nodup_keys : (toList.map Prod.fst).Nodup

namespace OrderedMap

variable {α : Type}

def empty : OrderedMap α := ⟨[], List.nodup_nil⟩

instance : Inhabited (OrderedMap α) := ⟨empty⟩

def insert (map : OrderedMap α) (key : String) (value : α) : OrderedMap α :=
  ⟨write key value map.toList, nodup_keys_write key value map.nodup_keys⟩

def ofList (entries : List (String × α)) : OrderedMap α :=
  entries.foldl (fun map entry => map.insert entry.1 entry.2) empty

def values (map : OrderedMap α) : List α :=
  map.toList.map Prod.snd

def size (map : OrderedMap α) : Nat :=
  map.toList.length

theorem toList_insert (map : OrderedMap α) (key : String) (value : α)
    : (map.insert key value).toList = write key value map.toList := rfl

end OrderedMap

end SearchBox
