import SearchBox.Proofs.Token.Simulation

/-!
This module contains the agreement of the table with rescanning. The table holds the answers of a
lookahead that walks forward anew, so it makes no difference to the scanner which of them it asks.
-/

namespace SearchBox.Token

variable {text : Array Char} {position : Nat}

theorem keep_of_lt_advance (keep : Nat → Char → Bool) {i : Nat} {c : Char} (hle : position ≤ i)
    (hlt : i < advance text keep position) (hc : text[i]? = some c) : keep i c = true := by
  fun_induction advance text keep position with
  | case1 position h hkeep ih =>
    cases Nat.eq_or_lt_of_le hle with
    | inl heq =>
      subst heq
      rw [Array.getElem?_eq_getElem h, Option.some.injEq] at hc
      rw [← hc]
      exact hkeep
    | inr hnext => exact ih hnext hlt
  | case2 => omega
  | case3 => omega

theorem not_keep_advance (keep : Nat → Char → Bool) {c : Char}
    (hc : text[advance text keep position]? = some c)
    : ¬keep (advance text keep position) c = true := by
  fun_induction advance text keep position with
  | case1 position h hkeep ih => exact ih hc
  | case2 position h hkeep =>
    rw [Array.getElem?_eq_getElem h, Option.some.injEq] at hc
    rw [← hc]
    exact hkeep
  | case3 position h =>
    rw [Array.getElem?_eq_none (by omega)] at hc
    contradiction

theorem advance_congr {keep keep' : Nat → Char → Bool}
    (h : ∀ i, (hlt : i < text.size) → keep i text[i] = keep' i text[i]) (position : Nat)
    : advance text keep position = advance text keep' position := by
  fun_induction advance text keep position with
  | case1 position hlt hkeep ih =>
    rw [ih, advance.eq_def text keep' position, dif_pos hlt, ← h position hlt, if_pos hkeep]
  | case2 position hlt hkeep =>
    rw [advance.eq_def text keep' position, dif_pos hlt, ← h position hlt, if_neg hkeep]
  | case3 position hlt => rw [advance.eq_def text keep' position, dif_neg hlt]

/--
The least offset from `position` on that holds a stop, or the size of the text if there is none.
-/
structure IsNextStop (text : Array Char) (position stop : Nat) : Prop where
  position_le : position ≤ stop
  le_size : stop ≤ text.size
  isStop_of_getElem? : ∀ c, text[stop]? = some c → isStop c = true
  not_isStop_of_lt : ∀ i c, position ≤ i → i < stop → text[i]? = some c → ¬isStop c = true

theorem isNextStop_stopAfter (h : position ≤ text.size)
    : IsNextStop text position (stopAfter text position) := by
  constructor
  . exact le_advance text _ position
  . exact advance_le_size text _ position h
  . intro c hc
    simpa using not_keep_advance (fun _ c => !isStop c) hc
  . intro i c hle hlt hc
    simpa using keep_of_lt_advance (fun _ c => !isStop c) hle hlt hc

theorem IsNextStop.le {stop other : Nat} (h : IsNextStop text position stop)
    (hother : IsNextStop text position other) : stop ≤ other := by
  apply Nat.le_of_not_lt
  intro hlt
  have hsize : other < text.size := Nat.lt_of_lt_of_le hlt h.le_size
  have hc := Array.getElem?_eq_getElem hsize
  exact h.not_isStop_of_lt other _ hother.position_le hlt hc (hother.isStop_of_getElem? _ hc)

theorem isNextStop_iff (h : position ≤ text.size) {stop : Nat}
    : IsNextStop text position stop ↔ stopAfter text position = stop := by
  constructor
  . intro hstop
    exact Nat.le_antisymm ((isNextStop_stopAfter h).le hstop) (hstop.le (isNextStop_stopAfter h))
  . rintro rfl
    exact isNextStop_stopAfter h

theorem atKey_iff_isKeyStart {stop : Nat → Nat} (hstop : stop position = stopAfter text position)
    : atKey text stop position = true ↔ IsKeyStart text.toList position := by
  rw [isKeyStart_iff]
  have hread := key?_unread hstop
  rw [unread] at hread
  rw [hread]
  split
  . next hat => simpa using hat
  . next hat => simpa using hat

theorem atKey_congr {stop stop' : Nat → Nat} (h : stop position = stop' position)
    : atKey text stop position = atKey text stop' position := by
  rw [atKey, atKey, h]

namespace Scan

variable {stop stop' : Nat → Nat} {s : Scan}

theorem qualifier_congr (h : stop s.position = stop' s.position)
    : s.qualifier text stop = s.qualifier text stop' := by
  rw [qualifier, qualifier, h]

theorem word_congr (h : ∀ position ≤ text.size, stop position = stop' position)
    (hposition : s.position ≤ text.size) : s.word text stop = s.word text stop' := by
  have hword : advance text (fun p c => c != ' ' && !atKey text stop p) s.position
      = advance text (fun p c => c != ' ' && !atKey text stop' p) s.position := by
    apply advance_congr
    intro i hi
    rw [atKey_congr (h i (Nat.le_of_lt hi))]
  have hend := advance_le_size text (fun p c => c != ' ' && !atKey text stop' p) _ hposition
  unfold word
  rw [hword]
  simp only
  rw [atKey_congr (h _ hend)]

theorem step_congr (h : ∀ position ≤ text.size, stop position = stop' position)
    (hposition : s.position ≤ text.size) : s.step text stop = s.step text stop' := by
  have hstop := h s.position hposition
  rw [step, step, atKey_congr hstop, qualifier_congr hstop, word_congr h hposition]

/--
A lookahead makes a difference to the walk only inside of the text and at its end.
-/
theorem run_congr (h : ∀ position ≤ text.size, stop position = stop' position)
    (hposition : s.position ≤ text.size) : s.run text stop = s.run text stop' := by
  fun_induction run text stop s with
  | case1 s hlt _ ih =>
    rw [ih (position_step_le_size stop hlt), step_congr h hposition, run.eq_def text stop' s,
      dif_pos hlt]
  | case2 s hle => rw [run.eq_def text stop' s, dif_neg hle]

end Scan

/--
The next stop as the scanner looks it up.
-/
def stopInTable (text : Array Char) (position : Nat) : Nat :=
  (stopTable text).getD position text.size

theorem stopInTable_eq (h : position ≤ text.size)
    : stopInTable text position = stopAfter text position :=
  getD_stopTable h

/--
The table holds for each offset where the next stop is, and the scanner goes through the same states
with it as with a lookahead that walks forward anew at every test.
-/
theorem stopTable_agrees (text : Array Char)
    : (stopTable text).size = text.size + 1
      ∧ (∀ position ≤ text.size, ∀ stop,
          (stopTable text)[position]? = some stop ↔ IsNextStop text position stop)
      ∧ (∀ position ≤ text.size,
          atKey text (stopInTable text) position = true ↔ IsKeyStart text.toList position)
      ∧ (∀ s : Scan, s.position ≤ text.size
          → s.run text (stopInTable text) = s.run text (stopAfter text))
      ∧ scan text = scanWith text (stopAfter text) := by
  have hstop : ∀ position ≤ text.size, stopInTable text position = stopAfter text position :=
    fun _ => stopInTable_eq
  have hrun : ∀ s : Scan, s.position ≤ text.size
      → s.run text (stopInTable text) = s.run text (stopAfter text) :=
    fun _ => Scan.run_congr hstop
  refine ⟨size_stopTable text, ?_, ?_, hrun, ?_⟩
  . intro position hposition stop
    rw [getElem?_stopTable hposition, isNextStop_iff hposition, Option.some.injEq]
  . intro position hposition
    exact atKey_iff_isKeyStart (hstop position hposition)
  . have hscan : scan text = scanWith text (stopInTable text) := rfl
    rw [hscan, scanWith, scanWith, hrun {} (Nat.zero_le _)]

example : stopTable #['a', ':', 'b', ' '] = #[1, 1, 3, 3, 4] := by decide

end SearchBox.Token
