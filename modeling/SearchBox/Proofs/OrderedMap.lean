import Mathlib.Data.List.Basic
import Mathlib.Data.List.Induction
import SearchBox.OrderedMap

/-!
This module contains the laws of maps that remember the order of their keys. The main statement says
what a list of entries leaves in a map: for each key the entry that was given last, in the place of
the one that was given first.
-/

namespace SearchBox.OrderedMap

variable {α β : Type}

/--
The last item with each key, in the order in which the keys come first.
-/
def lastBy (key : β → String) (items : List β) : List β :=
  (items.map key).eraseDups.filterMap (fun word => items.findRev? (fun item => key item == word))

theorem findRev?_concat (p : β → Bool) (items : List β) (item : β)
    : (items ++ [item]).findRev? p = if p item then some item else items.findRev? p := by
  rw [List.findRev?_eq_find?_reverse, List.reverse_append, List.reverse_singleton,
    List.singleton_append, List.find?_cons, List.findRev?_eq_find?_reverse]
  split <;> simp_all

theorem exists_findRev?_of_mem {key : β → String} {items : List β} {word : String}
    (h : word ∈ items.map key)
    : ∃ item, items.findRev? (fun item => key item == word) = some item ∧ key item = word := by
  obtain ⟨item, hitem, hkey⟩ := List.mem_map.1 h
  rw [List.findRev?_eq_find?_reverse]
  cases hfound : items.reverse.find? (fun item => key item == word) with
  | none =>
    rw [List.find?_eq_none] at hfound
    exact absurd (beq_iff_eq.2 hkey) (hfound item (List.mem_reverse.2 hitem))
  | some found =>
    have hsame := List.find?_some hfound
    exact ⟨found, rfl, beq_iff_eq.1 hsame⟩

theorem eraseDups_concat_of_mem {words : List String} {word : String} (h : word ∈ words)
    : (words ++ [word]).eraseDups = words.eraseDups := by
  rw [List.eraseDups_append]
  simp [List.removeAll, h]

theorem eraseDups_concat_of_not_mem {words : List String} {word : String} (h : word ∉ words)
    : (words ++ [word]).eraseDups = words.eraseDups ++ [word] := by
  rw [List.eraseDups_append]
  simp [List.removeAll, h, List.eraseDups_cons]

theorem lastBy_concat_of_mem {key : β → String} {items : List β} {item : β}
    (h : key item ∈ items.map key)
    : lastBy key (items ++ [item])
      = (lastBy key items).map (fun old => if key old = key item then item else old) := by
  unfold lastBy
  rw [List.map_append, List.map_singleton, eraseDups_concat_of_mem h, List.map_filterMap]
  apply List.filterMap_congr
  intro word hword
  obtain ⟨found, hfound, rfl⟩ := exists_findRev?_of_mem (List.mem_eraseDups.1 hword)
  rw [findRev?_concat, hfound, Option.map_some]
  by_cases hkey : key found = key item
  . simp [hkey]
  . simp [hkey, Ne.symm hkey]

theorem lastBy_concat_of_not_mem {key : β → String} {items : List β} {item : β}
    (h : key item ∉ items.map key) : lastBy key (items ++ [item]) = lastBy key items ++ [item] := by
  unfold lastBy
  rw [List.map_append, List.map_singleton, eraseDups_concat_of_not_mem h, List.filterMap_append]
  congr 1
  . apply List.filterMap_congr
    intro word hword
    have hne : key item ≠ word := by
      rintro rfl
      exact h (List.mem_eraseDups.1 hword)
    rw [findRev?_concat, beq_eq_false_iff_ne.2 hne]
    rfl
  . rw [List.filterMap_cons, findRev?_concat, beq_self_eq_true, List.filterMap_nil]
    rfl

theorem map_key_lastBy (key : β → String) (items : List β)
    : (lastBy key items).map key = (items.map key).eraseDups := by
  have hsome : ∀ word ∈ (items.map key).eraseDups,
      (items.findRev? (fun item => key item == word)).map key = some word := by
    intro word hword
    obtain ⟨found, hfound, hkey⟩ := exists_findRev?_of_mem (List.mem_eraseDups.1 hword)
    rw [hfound, Option.map_some, hkey]
  unfold lastBy
  rw [List.map_filterMap, List.filterMap_congr hsome, List.filterMap_some]

theorem lastBy_map (key : β → String) (f : α → β) (items : List α)
    : lastBy key (items.map f) = (lastBy (fun item => key (f item)) items).map f := by
  unfold lastBy
  rw [List.map_filterMap, List.map_map]
  apply List.filterMap_congr
  intro word _
  rw [List.findRev?_eq_find?_reverse, List.findRev?_eq_find?_reverse, ← List.map_reverse,
    List.find?_map]
  rfl

theorem lastBy_of_nodup {key : β → String} {items : List β} (h : (items.map key).Nodup)
    : lastBy key items = items := by
  induction items using List.reverseRecOn with
  | nil => rfl
  | append_singleton items item ih =>
    rw [List.map_append, List.map_singleton, List.nodup_append] at h
    obtain ⟨hitems, _, hnew⟩ := h
    rw [lastBy_concat_of_not_mem, ih hitems]
    intro hmem
    exact hnew _ hmem _ (List.mem_singleton.2 rfl) rfl

theorem write_of_not_mem {key : String} {entries : List (String × α)}
    (h : key ∉ entries.map Prod.fst) (value : α)
    : write key value entries = entries ++ [(key, value)] := by
  induction entries with
  | nil => rfl
  | cons entry entries ih =>
    rw [List.map_cons, List.mem_cons, not_or] at h
    rw [write, if_neg (Ne.symm h.1), ih h.2, List.cons_append]

theorem write_of_mem {key : String} {entries : List (String × α)}
    (hnodup : (entries.map Prod.fst).Nodup) (h : key ∈ entries.map Prod.fst) (value : α)
    : write key value entries
      = entries.map (fun old => if old.1 = key then (key, value) else old) := by
  induction entries with
  | nil => contradiction
  | cons entry entries ih =>
    rw [List.map_cons, List.nodup_cons] at hnodup
    rw [write, List.map_cons]
    by_cases hkey : entry.1 = key
    . -- the key stands nowhere else
      rw [if_pos hkey, if_pos hkey, List.map_congr_left, List.map_id]
      intro old hold
      rw [if_neg]
      . rfl
      . intro hsame
        exact hnodup.1 (List.mem_map.2 ⟨old, hold, hsame.trans hkey.symm⟩)
    . rw [List.map_cons, List.mem_cons] at h
      rw [if_neg hkey, if_neg hkey, ih hnodup.2 (h.resolve_left (Ne.symm hkey))]

theorem ofList_concat (entries : List (String × α)) (entry : String × α)
    : ofList (entries ++ [entry]) = (ofList entries).insert entry.1 entry.2 := by
  unfold ofList
  rw [List.foldl_append]
  rfl

/--
Of the entries with one key the map keeps the last one, in the place of the first.
-/
theorem toList_ofList (entries : List (String × α))
    : (ofList entries).toList = lastBy Prod.fst entries := by
  induction entries using List.reverseRecOn with
  | nil => rfl
  | append_singleton entries entry ih =>
    have hkeys : (ofList entries).toList.map Prod.fst = (entries.map Prod.fst).eraseDups := by
      rw [ih, map_key_lastBy]
    rw [ofList_concat, toList_insert]
    by_cases h : entry.1 ∈ entries.map Prod.fst
    . rw [write_of_mem (ofList entries).nodup_keys, ih, lastBy_concat_of_mem h]
      rw [hkeys, List.mem_eraseDups]
      exact h
    . rw [write_of_not_mem, ih, lastBy_concat_of_not_mem h]
      rw [hkeys, List.mem_eraseDups]
      exact h

theorem toList_ofList_of_nodup {entries : List (String × α)} (h : (entries.map Prod.fst).Nodup)
    : (ofList entries).toList = entries := by
  rw [toList_ofList, lastBy_of_nodup h]

theorem ofList_toList (map : OrderedMap α) : ofList map.toList = map := by
  have htoList := toList_ofList_of_nodup map.nodup_keys
  cases hmap : ofList map.toList with
  | mk entries nodup_keys =>
    rw [hmap] at htoList
    subst htoList
    rfl

end SearchBox.OrderedMap
