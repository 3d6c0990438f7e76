import SearchBox.Pattern.Marker
import SearchBox.Proofs.Pattern.Search
import SearchBox.Proofs.Text.Span

/-!
This module contains what is found by the patterns for the lines of properties. Their repetitions
never have to give a character back, so the end of a match can be told from the line alone. The main
statement says where a match starts, where it ends, and when there is none.
-/

namespace SearchBox.Pattern

/--
At this offset of a line there is a blank, then the marker, and then a blank again.
-/
structure MarkedAt (marker : String) (cs : List Char) (start : Nat) : Prop where
  blank_before : ∃ c, cs[start]? = some c ∧ Text.isBlank c = true
  marker_prefix : marker.toList <+: cs.drop (start + 1)
  blank_behind : ∃ c, cs[start + 1 + marker.length]? = some c ∧ Text.isBlank c = true

/--
From `start` to `stop` the text has only characters of one kind, and `stop` is as large as it can
be.
-/
structure IsRun (p : Char → Bool) (cs : List Char) (start stop : Nat) : Prop where
  start_le : start ≤ stop
  stop_le : stop ≤ cs.length
  inside : ∀ i c, start ≤ i → i < stop → cs[i]? = some c → p c = true
  ends : ∀ c, cs[stop]? = some c → p c = false

theorem isRun_iff {p : Char → Bool} {cs : List Char} {start stop : Nat}
    : IsRun p cs start stop
      ↔ start ≤ cs.length ∧ stop = start + ((cs.drop start).takeWhile p).length := by
  constructor
  . rintro ⟨hstart, hstop, hinside, hends⟩
    refine ⟨Nat.le_trans hstart hstop, ?_⟩
    have hlength : ((cs.drop start).takeWhile p).length = stop - start := by
      rw [Text.length_takeWhile_eq_iff, List.length_drop]
      refine ⟨by omega, ?_, ?_⟩
      . intro i c hi hc
        rw [List.getElem?_drop] at hc
        exact hinside (start + i) c (Nat.le_add_right start i) (by omega) hc
      . intro c hc
        rw [List.getElem?_drop, Nat.add_sub_cancel' hstart] at hc
        exact hends c hc
    omega
  . rintro ⟨hstart, rfl⟩
    obtain ⟨hle, hinside, hends⟩ := Text.length_takeWhile_eq_iff.1
      (rfl : ((cs.drop start).takeWhile p).length = _)
    rw [List.length_drop] at hle
    refine ⟨Nat.le_add_right start _, by omega, ?_, ?_⟩
    . intro i c hstart hi hc
      apply hinside (i - start) c (by omega)
      rw [List.getElem?_drop, Nat.add_sub_cancel' hstart]
      exact hc
    . intro c hc
      apply hends c
      rw [List.getElem?_drop]
      exact hc

theorem markedAt_iff {marker : String} {cs : List Char} {start : Nat}
    : MarkedAt marker cs start
      ↔ ∃ b d behind, cs.drop start = b :: (marker.toList ++ d :: behind)
        ∧ Text.isBlank b = true ∧ Text.isBlank d = true := by
  have hbefore : ∀ b, cs[start]? = some b ↔ (cs.drop start).head? = some b := by
    intro b
    rw [List.head?_drop]
  have hbehind : ∀ d, cs[start + 1 + marker.length]? = some d
      ↔ ((cs.drop (start + 1)).drop marker.length).head? = some d := by
    intro d
    rw [List.head?_drop, List.getElem?_drop]
  constructor
  . rintro ⟨⟨b, hb, hblank⟩, ⟨rest, hmarker⟩, d, hd, hdblank⟩
    rw [hbefore, List.head?_eq_some_iff] at hb
    obtain ⟨ds, hds⟩ := hb
    have htail : cs.drop (start + 1) = ds := by
      rw [← List.tail_drop, hds, List.tail_cons]
    rw [htail] at hmarker
    rw [hbehind, htail, ← hmarker, ← String.length_toList, List.drop_left,
      List.head?_eq_some_iff] at hd
    obtain ⟨behind, rfl⟩ := hd
    exact ⟨b, d, behind, by rw [hds, hmarker], hblank, hdblank⟩
  . rintro ⟨b, d, behind, hdrop, hblank, hdblank⟩
    have htail : cs.drop (start + 1) = marker.toList ++ d :: behind := by
      rw [← List.tail_drop, hdrop, List.tail_cons]
    refine ⟨⟨b, ?_, hblank⟩, ?_, d, ?_, hdblank⟩
    . rw [hbefore, hdrop, List.head?_cons]
    . rw [htail]
      apply List.prefix_append
    . rw [hbehind, htail, ← String.length_toList, List.drop_left, List.head?_cons]

/--
The length of the blanks at the front of a text and of the rest of the line behind them.
-/
def restLength (cs : List Char) : Nat :=
  (cs.takeWhile Text.isBlank).length
    + ((cs.dropWhile Text.isBlank).takeWhile (· != '\n')).length

theorem restLength_cons {d : Char} (h : Text.isBlank d = true) (cs : List Char)
    : restLength (d :: cs) = restLength cs + 1 := by
  unfold restLength
  rw [List.takeWhile_cons_of_pos h, List.dropWhile_cons_of_pos h, List.length_cons]
  omega

theorem matchFront_inLine (cs : List Char)
    : matchFront [.zeroOrMore .inLine] cs = some (cs.takeWhile (· != '\n')).length :=
  matchFront_zeroOrMore (matchFront_nil _)

theorem matchFront_blanks_inLine (cs : List Char)
    : matchFront [.zeroOrMore .blank, .zeroOrMore .inLine] cs = some (restLength cs) :=
  matchFront_zeroOrMore (matchFront_inLine _)

theorem matchFront_behind_marker_eq_some_iff {cs : List Char} {n : Nat}
    : matchFront [.oneOrMore .blank, .zeroOrMore .inLine] cs = some n
      ↔ (∃ d behind, cs = d :: behind ∧ Text.isBlank d = true) ∧ n = restLength cs := by
  rw [matchFront, matchFront_one_eq_some_iff]
  constructor
  . rintro ⟨d, behind, m, rfl, hd, hm, rfl⟩
    rw [matchFront_blanks_inLine, Option.some.injEq] at hm
    refine ⟨⟨d, behind, rfl, hd⟩, ?_⟩
    rw [restLength_cons hd, hm]
  . rintro ⟨⟨d, behind, rfl, hd⟩, rfl⟩
    exact ⟨d, behind, restLength behind, rfl, hd, matchFront_blanks_inLine behind,
      restLength_cons hd behind⟩

theorem exists_isRun_iff {cs : List Char} {start stop : Nat}
    : (∃ run, IsRun Text.isBlank cs start run ∧ IsRun (· != '\n') cs run stop)
      ↔ start ≤ cs.length ∧ stop = start + restLength (cs.drop start) := by
  simp only [isRun_iff]
  constructor
  . rintro ⟨run, ⟨hstart, rfl⟩, hrun, rfl⟩
    refine ⟨hstart, ?_⟩
    rw [← List.drop_drop, Text.drop_length_takeWhile, restLength]
    omega
  . rintro ⟨hstart, rfl⟩
    have hle := (List.takeWhile_prefix Text.isBlank (l := cs.drop start)).length_le
    rw [List.length_drop] at hle
    refine ⟨_, ⟨hstart, rfl⟩, by omega, ?_⟩
    rw [← List.drop_drop, Text.drop_length_takeWhile, restLength]
    omega

theorem drop_behind_marker {marker : String} {cs behind : List Char} {start : Nat} {b : Char}
    (h : cs.drop start = b :: (marker.toList ++ behind))
    : cs.drop (start + 1 + marker.length) = behind := by
  rw [← List.drop_drop, ← List.tail_drop, h, List.tail_cons, ← String.length_toList,
    List.drop_left]

theorem matchFront_marked_eq_some_iff {marker : String} {cs : List Char} {start n : Nat}
    : matchFront (marked marker) (cs.drop start) = some n
      ↔ MarkedAt marker cs start
        ∧ ∃ run, IsRun Text.isBlank cs (start + 1 + marker.length) run
          ∧ IsRun (· != '\n') cs run (start + n) := by
  have hpattern : marked marker = .one .blank :: (marker.toList.map (fun c => .one (.literal c))
      ++ [.oneOrMore .blank, .zeroOrMore .inLine]) := rfl
  rw [hpattern, matchFront_one_eq_some_iff, markedAt_iff, exists_isRun_iff]
  constructor
  . rintro ⟨b, rest, _, hdrop, hb, hrest, rfl⟩
    obtain ⟨behind, _, rfl, hbehind, rfl⟩ := matchFront_literals_eq_some_iff.1 hrest
    obtain ⟨⟨d, ds, rfl, hd⟩, rfl⟩ := matchFront_behind_marker_eq_some_iff.1 hbehind
    have hds := drop_behind_marker hdrop
    refine ⟨⟨b, d, ds, hdrop, hb, hd⟩, ?_, ?_⟩
    . apply Nat.le_of_lt
      apply List.length_lt_of_drop_ne_nil
      rw [hds]
      apply List.cons_ne_nil
    . rw [hds, String.length_toList]
      omega
  . rintro ⟨⟨b, d, ds, hdrop, hb, hd⟩, _, hstop⟩
    rw [drop_behind_marker hdrop] at hstop
    refine ⟨b, _, restLength (d :: ds) + marker.length, hdrop, hb, ?_, by omega⟩
    rw [matchFront_literals_eq_some_iff]
    exact ⟨d :: ds, restLength (d :: ds), rfl,
      matchFront_behind_marker_eq_some_iff.2 ⟨⟨d, ds, rfl, hd⟩, rfl⟩,
      by rw [String.length_toList]⟩

theorem matchFront_marked_eq_none_iff {marker : String} {cs : List Char} {start : Nat}
    : matchFront (marked marker) (cs.drop start) = none ↔ ¬MarkedAt marker cs start := by
  rw [Option.eq_none_iff_forall_ne_some]
  constructor
  . intro hnone hmarked
    obtain ⟨d, hd, _⟩ := hmarked.blank_behind
    have hle := Nat.le_of_lt (List.getElem?_eq_some_iff.1 hd).1
    -- the blanks and the rest of the line end somewhere, so there is a match
    obtain ⟨run, hrun⟩ := exists_isRun_iff.2 ⟨hle, rfl⟩
    apply hnone (1 + marker.length + restLength (cs.drop (start + 1 + marker.length)))
    rw [matchFront_marked_eq_some_iff]
    refine ⟨hmarked, run, ?_⟩
    rw [← Nat.add_assoc, ← Nat.add_assoc]
    exact hrun
  . intro hmarked n hsome
    exact hmarked (matchFront_marked_eq_some_iff.1 hsome).1

/--
The pattern finds the lines with a marker: it is spelled with the marker as it is, its match starts
at the first blank that the marker and another blank stand behind, and ends with the line in which
the blanks behind the marker end.
-/
structure FindsMarked (pattern : Pattern) (marker : String) : Prop where
  source_eq : pattern.source = "\\s" ++ marker ++ "\\s+.*"
  search_eq_none_iff : ∀ line : String,
    search pattern line = none ↔ ∀ start, ¬MarkedAt marker line.toList start
  search_eq_some_iff : ∀ (line : String) (start stop : Nat),
    search pattern line = some (start, stop)
      ↔ MarkedAt marker line.toList start
        ∧ (∀ earlier < start, ¬MarkedAt marker line.toList earlier)
        ∧ ∃ run, IsRun Text.isBlank line.toList (start + 1 + marker.length) run
          ∧ IsRun (· != '\n') line.toList run stop

theorem findsMarked_marked {marker : String} (hliteral : escape marker = marker)
    : FindsMarked (marked marker) marker := by
  constructor
  . rw [source_marked, hliteral]
  . intro line
    rw [search, searchFrom_eq_none_iff]
    apply forall_congr'
    intro start
    exact matchFront_marked_eq_none_iff
  . intro line start stop
    rw [search, searchFrom_eq_some_iff]
    simp only [matchFront_marked_eq_none_iff, matchFront_marked_eq_some_iff, Nat.zero_add]
    constructor
    . rintro ⟨_, n, rfl, rfl, ⟨hmarked, hrun⟩, hearlier⟩
      exact ⟨hmarked, hearlier, hrun⟩
    . rintro ⟨hmarked, hearlier, run, hrun, hstop⟩
      have hle : start ≤ stop := by
        have := hrun.start_le
        have := hstop.start_le
        omega
      refine ⟨start, stop - start, rfl, by omega, ⟨hmarked, run, hrun, ?_⟩, hearlier⟩
      rw [Nat.add_sub_cancel' hle]
      exact hstop

/--
The patterns for the lines of properties find the lines with their markers.
-/
theorem findsMarked_of_type
    : (∀ objectType ∈ ["dimension", "measure", "metric"], ∃ pattern,
        ofObjectType? objectType = some pattern ∧ ofObjectFilterType? objectType = some pattern
          ∧ FindsMarked pattern objectType)
      ∧ (∀ fieldType ∈ ["owner", "tag"], ∃ pattern,
        ofFieldType? fieldType = some pattern ∧ FindsMarked pattern (fieldType ++ ":"))
      ∧ ∃ pattern, ofFieldType? "datasource" = some pattern
        ∧ FindsMarked pattern "data_source_name:" := by
  refine ⟨?_, ?_, ?_⟩
  . have hliteral : ∀ objectType ∈ ["dimension", "measure", "metric"],
        ofObjectType? objectType = some (marked objectType)
          ∧ ofObjectFilterType? objectType = some (marked objectType)
          ∧ escape objectType = objectType := by
      decide +kernel
    intro objectType h
    obtain ⟨hpattern, hfilter, hescape⟩ := hliteral objectType h
    exact ⟨_, hpattern, hfilter, findsMarked_marked hescape⟩
  . have hliteral : ∀ fieldType ∈ ["owner", "tag"],
        ofFieldType? fieldType = some (marked (fieldType ++ ":"))
          ∧ escape (fieldType ++ ":") = fieldType ++ ":" := by
      decide +kernel
    intro fieldType h
    obtain ⟨hpattern, hescape⟩ := hliteral fieldType h
    exact ⟨_, hpattern, findsMarked_marked hescape⟩
  . exact ⟨_, rfl, findsMarked_marked (by decide +kernel)⟩

/--
The blanks behind the marker can hold line breaks. The match does not end at them.
-/
example : search (marked "tag:") "x\ntag: \n\ty\nz" = some (1, 10) := by cbv

end SearchBox.Pattern
