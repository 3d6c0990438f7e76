import Mathlib.Data.List.DropRight
import SearchBox.Proofs.Text.Span
import SearchBox.Text.Blank

/-!
This module contains the laws of trimming. Trimming looks at the ends of a text only, so behind a
character that is not blank a text can be cut, and its parts can be trimmed on their outer sides.
No character is lost that is not blank.
-/

namespace SearchBox.Text

variable {b d : Char}

theorem rdropWhile_append_cons (h : isBlank b = false) (cs ds : List Char)
    : (cs ++ b :: ds).rdropWhile isBlank = cs ++ b :: ds.rdropWhile isBlank := by
  simp only [List.rdropWhile, List.reverse_append, List.reverse_cons, List.append_assoc,
    List.singleton_append]
  rw [dropWhile_append_cons h]
  simp

theorem trim_eq_rdropWhile (cs : List Char)
    : trim cs = (cs.dropWhile isBlank).rdropWhile isBlank := rfl

theorem trim_append_cons (h : isBlank b = false) (cs ds : List Char)
    : trim (cs ++ b :: ds) = cs.dropWhile isBlank ++ b :: ds.rdropWhile isBlank := by
  rw [trim_eq_rdropWhile, dropWhile_append_cons h, rdropWhile_append_cons h]

theorem trim_concat_of_isBlank (h : isBlank b = true) (cs : List Char)
    : trim (cs ++ [b]) = trim cs := by
  rw [trim_eq_rdropWhile, trim_eq_rdropWhile, List.dropWhile_append]
  split
  . next hblank =>
    rw [List.isEmpty_iff] at hblank
    simp [hblank, h]
  . rw [List.rdropWhile_concat_pos _ _ _ h]

theorem trim_concat_append_cons (hb : isBlank b = false) (hd : isBlank d = false) (c : Char)
    (cs ds : List Char)
    : trim (cs ++ [b] ++ c :: d :: ds) = trim (cs ++ [b]) ++ c :: trim (d :: ds) := by
  have hfront : trim (d :: ds) = d :: ds.rdropWhile isBlank := trim_append_cons hd [] ds
  have hbehind : (c :: d :: ds).rdropWhile isBlank = c :: d :: ds.rdropWhile isBlank :=
    rdropWhile_append_cons hd [c] ds
  rw [hfront, trim_append_cons hb cs [], List.append_assoc, List.singleton_append,
    trim_append_cons hb, hbehind]
  simp

theorem trim_trim (cs : List Char) : trim (trim cs) = trim cs := by
  cases hfront : cs.dropWhile isBlank with
  | nil =>
    rw [trim_eq_rdropWhile cs, hfront]
    rfl
  | cons b ds =>
    have hb := eq_false_of_dropWhile_eq_cons hfront
    have hcs : trim cs = b :: ds.rdropWhile isBlank := by
      rw [trim_eq_rdropWhile, hfront]
      exact rdropWhile_append_cons hb [] ds
    have htrim : trim (b :: ds.rdropWhile isBlank)
        = b :: (ds.rdropWhile isBlank).rdropWhile isBlank := trim_append_cons hb [] _
    rw [hcs, htrim, List.rdropWhile_idempotent]

theorem trim_of_not_isBlank {cs : List Char} (h : ∀ c ∈ cs, isBlank c = false) : trim cs = cs := by
  have hkeep : ∀ {ds : List Char}, (∀ c ∈ ds, isBlank c = false) → ds.dropWhile isBlank = ds := by
    intro ds hds
    cases ds with
    | nil => rfl
    | cons d ds => rw [List.dropWhile_cons_of_neg (by simp [hds d List.mem_cons_self])]
  rw [trim, trimBy, hkeep h, hkeep (by simpa using h), List.reverse_reverse]

theorem trim_infix_self (cs : List Char) : trim cs <:+: cs :=
  (List.rdropWhile_prefix isBlank _).isInfix.trans (List.dropWhile_suffix isBlank).isInfix

theorem trim_ne_nil {cs : List Char} (hmem : b ∈ cs) (h : isBlank b = false) : trim cs ≠ [] := by
  obtain ⟨front, behind, rfl⟩ := List.append_of_mem hmem
  rw [trim_append_cons h]
  simp

theorem isBlank_eq_false_of_trim_cons_eq_self {cs : List Char} (h : trim (b :: cs) = b :: cs)
    : isBlank b = false := by
  rw [Bool.eq_false_iff]
  intro hb
  have hdrop : trim (b :: cs) = trim cs := by
    simp only [trim, trimBy, List.dropWhile_cons_of_pos hb]
  have hle : (trim cs).length ≤ cs.length := by
    simp only [trim, trimBy, List.length_reverse]
    apply Nat.le_trans (List.dropWhile_sublist _).length_le
    rw [List.length_reverse]
    exact (List.dropWhile_sublist _).length_le
  rw [← hdrop, h, List.length_cons] at hle
  omega

theorem all_isBlank_eq_false_of_trim_eq_self {cs : List Char} (h : trim cs = cs) (hne : cs ≠ [])
    : cs.all isBlank = false := by
  cases cs with
  | nil => contradiction
  | cons c cs => simp [isBlank_eq_false_of_trim_cons_eq_self h]

def withoutBlanks (cs : List Char) : List Char :=
  cs.filter (!isBlank ·)

theorem withoutBlanks_append (cs ds : List Char)
    : withoutBlanks (cs ++ ds) = withoutBlanks cs ++ withoutBlanks ds :=
  List.filter_append cs ds

theorem withoutBlanks_cons_of_not_isBlank (h : isBlank b = false) (cs : List Char)
    : withoutBlanks (b :: cs) = b :: withoutBlanks cs := by
  simp [withoutBlanks, h]

theorem withoutBlanks_of_all_isBlank {cs : List Char} (h : cs.all isBlank = true)
    : withoutBlanks cs = [] := by
  simpa [withoutBlanks] using h

theorem withoutBlanks_trim (cs : List Char) : withoutBlanks (trim cs) = withoutBlanks cs := by
  unfold withoutBlanks
  rw [trim, trimBy, List.filter_reverse, filter_not_dropWhile, List.filter_reverse,
    List.reverse_reverse, filter_not_dropWhile]

end SearchBox.Text
