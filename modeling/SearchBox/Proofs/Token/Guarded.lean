import SearchBox.Proofs.Token.Rescanning

/-!
This module contains the guarded scanner, which makes the same walk as the scanner but fails at an
offset at which an array has no item, and does no more turns than it is given. The main statement is
that it never fails, and that it ends with the text after no more turns than there are characters.
-/

namespace SearchBox.Token

/--
An access at an offset that is not below the size of the array.
-/
structure OutOfRange where
  offset : Nat
  size : Nat
  deriving DecidableEq, Repr

namespace Guarded

variable {β : Type}

def read (items : Array β) (offset : Nat) : Except OutOfRange β :=
  match items[offset]? with
  | some item => .ok item
  | none => .error ⟨offset, items.size⟩

def write (items : Array β) (offset : Nat) (item : β) : Except OutOfRange (Array β) :=
  if h : offset < items.size then .ok (items.set offset item) else .error ⟨offset, items.size⟩

/--
The answer for an offset, where the one for the next offset is in `stops`.
-/
def nextStop (text : Array Char) (stops : Array Nat) (position : Nat) : Except OutOfRange Nat := do
  if isStop (← read text position) then return position else read stops (position + 1)

/--
Write the answers for the offsets below `position`, from the last to the first.
-/
def fillStops (text : Array Char) : (position : Nat) → Array Nat → Except OutOfRange (Array Nat)
  | 0, stops => return stops
  | position + 1, stops => do
    let stop ← nextStop text stops position
    fillStops text position (← write stops position stop)

def stopTable (text : Array Char) : Except OutOfRange (Array Nat) :=
  fillStops text text.size (Array.replicate (text.size + 1) text.size)

def atKey (text : Array Char) (table : Array Nat) (position : Nat) : Except OutOfRange Bool := do
  let stop ← read table position
  if stop < text.size then
    return (← read text stop) == ':' && position < stop
  else
    return false

def advance (text : Array Char) (keep : Nat → Char → Except OutOfRange Bool) (position : Nat)
    : Except OutOfRange Nat :=
  if position < text.size then do
    if ← keep position (← read text position) then
      advance text keep (position + 1)
    else
      return position
  else
    return position
termination_by text.size - position

def quoteAt (text : Array Char) (position : Nat) : Except OutOfRange Bool :=
  if position < text.size then return (← read text position) == '\x27' else return false

def escapeAt (text : Array Char) (position : Nat) (c : Char) : Except OutOfRange Bool :=
  if c = '\\' then quoteAt text (position + 1) else return false

def readQuoted (text : Array Char) (position : Nat) (value : List Char)
    : Except OutOfRange (List Char × Nat) :=
  if position < text.size then do
    let c ← read text position
    if ← escapeAt text position c then
      readQuoted text (position + 2) ('\x27' :: value)
    else if c = '\x27' then
      return (value.reverse, position + 1)
    else
      readQuoted text (position + 1) (c :: value)
  else
    return (value.reverse, position)
termination_by text.size - position

def readValue (text : Array Char) (position : Nat) : Except OutOfRange (List Char × Nat) := do
  if ← quoteAt text position then
    readQuoted text (position + 1) []
  else
    let stop ← advance text (fun _ c => return c != ' ') position
    return (slice text position stop, stop)

def qualifier (text : Array Char) (table : Array Nat) (s : Scan) : Except OutOfRange Scan := do
  let colon ← read table s.position
  let key := Text.trim (slice text s.position colon)
  let start ← advance text (fun _ c => return c == ' ') (colon + 1)
  let value ← readValue text start
  return {
    position := value.2
    pending := none
    tokens := (s.flush text).tokens.push (ofKeyValue key value.1) }

/--
A word goes on to a space or to the start of a qualifier.
-/
def keepsWord (text : Array Char) (table : Array Nat) (position : Nat) (c : Char)
    : Except OutOfRange Bool := do
  if c = ' ' then return false else return !(← atKey text table position)

/--
Whether a text that reaches up to `position` ends there, because a qualifier starts.
-/
def endsText (text : Array Char) (table : Array Nat) (position : Nat) : Except OutOfRange Bool :=
  if position < text.size then atKey text table position else return false

def word (text : Array Char) (table : Array Nat) (s : Scan) : Except OutOfRange Scan := do
  let position ← advance text (keepsWord text table) s.position
  let next : Scan := { s with position, pending := some (s.pending.getD s.position) }
  return if ← endsText text table position then next.flush text else next

/--
One turn of the walk. The offset of the state has to be in the text.
-/
def turn (text : Array Char) (table : Array Nat) (s : Scan) : Except OutOfRange Scan := do
  if (← read text s.position) = ' ' then
    return { s with position := s.position + 1 }
  else if ← atKey text table s.position then
    qualifier text table s
  else
    word text table s

/--
The state after the walk has gone on for a number of turns, or to the end of the text if that comes
before.
-/
def run (text : Array Char) (table : Array Nat) : (turns : Nat) → Scan → Except OutOfRange Scan
  | 0, s => return s
  | turns + 1, s =>
    if s.position < text.size then do
      run text table turns (← turn text table s)
    else
      return s

def scan (text : Array Char) : Except OutOfRange (List Token) := do
  let s ← run text (← stopTable text) text.size {}
  return (s.flush text).tokens.toList

def tokenize (query : String) : Except OutOfRange (List Token) :=
  let text := query.toList
  if text.all Text.isBlank then return [] else scan text.toArray

theorem ok_bind {γ : Type} (x : β) (f : β → Except OutOfRange γ) : (.ok x >>= f) = f x := rfl

variable {items : Array β} {offset : Nat}

theorem read_of_getElem? {item : β} (h : items[offset]? = some item)
    : read items offset = .ok item := by
  rw [read, h]

theorem read_of_lt (h : offset < items.size) : read items offset = .ok items[offset] :=
  read_of_getElem? (Array.getElem?_eq_getElem h)

theorem write_of_lt (h : offset < items.size) (item : β)
    : write items offset item = .ok (items.set offset item) := by
  rw [write, dif_pos h]

variable {text : Array Char} {position : Nat}

/--
Whether the answers from offset `position` on are written.
-/
structure FilledFrom (text : Array Char) (position : Nat) (stops : Array Nat) : Prop where
  size_eq : stops.size = text.size + 1
  getElem?_eq : ∀ i, position ≤ i → i ≤ text.size → stops[i]? = some (stopAfter text i)

theorem filledFrom_size (text : Array Char)
    : FilledFrom text text.size (Array.replicate (text.size + 1) text.size) := by
  constructor
  . exact Array.size_replicate
  . intro i hle hsize
    obtain rfl := Nat.le_antisymm hsize hle
    rw [stopAfter_size, Array.getElem?_replicate, if_pos (Nat.lt_succ_self _)]

theorem FilledFrom.set {stops : Array Nat} (h : FilledFrom text (position + 1) stops)
    (hlt : position < stops.size)
    : FilledFrom text position (stops.set position (stopAfter text position)) := by
  constructor
  . rw [Array.size_set, h.size_eq]
  . intro i hle hsize
    cases Nat.eq_or_lt_of_le hle with
    | inl heq =>
      subst heq
      rw [Array.getElem?_set_self]
    | inr hnext =>
      rw [Array.getElem?_set_ne hlt (Nat.ne_of_lt hnext), h.getElem?_eq i hnext hsize]

theorem FilledFrom.eq_stopTable {stops : Array Nat} (h : FilledFrom text 0 stops)
    : stops = Token.stopTable text := by
  apply Array.ext_getElem?
  intro i
  by_cases hle : i ≤ text.size
  . rw [h.getElem?_eq i (Nat.zero_le i) hle, getElem?_stopTable hle]
  . rw [Array.getElem?_eq_none, Array.getElem?_eq_none]
    . rw [size_stopTable]
      omega
    . rw [h.size_eq]
      omega

theorem nextStop_eq {stops : Array Nat} (h : FilledFrom text (position + 1) stops)
    (hlt : position < text.size)
    : nextStop text stops position = .ok (stopAfter text position) := by
  rw [nextStop, read_of_lt hlt, ok_bind, stopAfter_of_lt hlt]
  split
  . rfl
  . exact read_of_getElem? (h.getElem?_eq (position + 1) (Nat.le_refl _) hlt)

theorem fillStops_eq {stops : Array Nat} (h : FilledFrom text position stops)
    (hle : position ≤ text.size) : fillStops text position stops = .ok (Token.stopTable text) := by
  -- going down, the answers at and behind the offset are those of the forward lookahead
  induction position generalizing stops with
  | zero =>
    rw [fillStops, h.eq_stopTable]
    rfl
  | succ position ih =>
    have hlt : position < stops.size := by
      rw [h.size_eq]
      omega
    rw [fillStops, nextStop_eq h hle, ok_bind, write_of_lt hlt, ok_bind]
    exact ih (h.set hlt) (Nat.le_of_lt hle)

theorem stopTable_eq (text : Array Char) : stopTable text = .ok (Token.stopTable text) :=
  fillStops_eq (filledFrom_size text) (Nat.le_refl _)

theorem read_stopTable (h : position ≤ text.size)
    : read (Token.stopTable text) position = .ok (stopInTable text position) := by
  apply read_of_getElem?
  rw [getElem?_stopTable h, stopInTable_eq h]

theorem atKey_eq (h : position ≤ text.size)
    : atKey text (Token.stopTable text) position
      = .ok (Token.atKey text (stopInTable text) position) := by
  rw [atKey, read_stopTable h, ok_bind]
  split
  . next hlt =>
    rw [read_of_lt hlt, ok_bind, Token.atKey, Array.getElem?_eq_getElem hlt, Bool.and_comm]
    rfl
  . next hlt =>
    have hnone : (text[stopInTable text position]? == some ':') = false := by
      rw [Array.getElem?_eq_none (Nat.le_of_not_lt hlt)]
      rfl
    rw [Token.atKey, hnone, Bool.and_false]
    rfl

theorem advance_eq {keep : Nat → Char → Except OutOfRange Bool} (keep' : Nat → Char → Bool)
    (h : ∀ i, (hlt : i < text.size) → keep i text[i] = .ok (keep' i text[i])) (position : Nat)
    : advance text keep position = .ok (Token.advance text keep' position) := by
  fun_induction Token.advance text keep' position with
  | case1 position hlt hkeep ih =>
    rw [advance, if_pos hlt, read_of_lt hlt, ok_bind, h position hlt, ok_bind, if_pos hkeep, ih]
  | case2 position hlt hkeep =>
    rw [advance, if_pos hlt, read_of_lt hlt, ok_bind, h position hlt, ok_bind, if_neg hkeep]
    rfl
  | case3 position hlt =>
    rw [advance, if_neg hlt]
    rfl

theorem quoteAt_eq (text : Array Char) (position : Nat)
    : quoteAt text position = .ok (text[position]? == some '\x27') := by
  unfold quoteAt
  split
  . next hlt =>
    rw [read_of_lt hlt, Array.getElem?_eq_getElem hlt]
    rfl
  . next hlt =>
    rw [Array.getElem?_eq_none (Nat.le_of_not_lt hlt)]
    rfl

theorem escapeAt_eq (text : Array Char) (position : Nat) (c : Char)
    : escapeAt text position c
      = .ok (decide (c = '\\' ∧ text[position + 1]? = some '\x27')) := by
  unfold escapeAt
  split
  . next hc =>
    rw [quoteAt_eq]
    simp [hc, beq_eq_decide]
  . next hc =>
    simp [hc]
    rfl

theorem readQuoted_of_lt (h : position < text.size) (value : List Char)
    : readQuoted text position value
      = if text[position] = '\\' ∧ text[position + 1]? = some '\x27' then
          readQuoted text (position + 2) ('\x27' :: value)
        else if text[position] = '\x27' then
          .ok (value.reverse, position + 1)
        else
          readQuoted text (position + 1) (text[position] :: value) := by
  rw [readQuoted, if_pos h, read_of_lt h, ok_bind, escapeAt_eq, ok_bind]
  simp only [decide_eq_true_eq]
  rfl

theorem readQuoted_eq (text : Array Char) (position : Nat) (value : List Char)
    : readQuoted text position value = .ok (Token.readQuoted text position value) := by
  fun_induction Token.readQuoted text position value with
  | case1 position value hlt hescape ih => rw [readQuoted_of_lt hlt, if_pos hescape, ih]
  | case2 position value hlt hescape hquote =>
    rw [readQuoted_of_lt hlt, if_neg hescape, if_pos hquote]
  | case3 position value hlt hescape hquote ih =>
    rw [readQuoted_of_lt hlt, if_neg hescape, if_neg hquote, ih]
  | case4 position value hlt =>
    rw [readQuoted, if_neg hlt]
    rfl

theorem readValue_eq (text : Array Char) (position : Nat)
    : readValue text position = .ok (Token.readValue text position) := by
  rw [readValue, quoteAt_eq, ok_bind, Token.readValue]
  split
  . next hquote => rw [if_pos (by simpa using hquote), readQuoted_eq]
  . next hquote =>
    rw [if_neg (by simpa using hquote), advance_eq (fun _ c => c != ' ') (fun _ _ => rfl), ok_bind]
    rfl

variable {s : Scan}

theorem qualifier_eq (h : s.position ≤ text.size)
    : qualifier text (Token.stopTable text) s = .ok (s.qualifier text (stopInTable text)) := by
  rw [qualifier, read_stopTable h, ok_bind]
  simp only
  rw [advance_eq (fun _ c => c == ' ') (fun _ _ => rfl), ok_bind, readValue_eq, ok_bind]
  rfl

theorem keepsWord_eq (h : position < text.size) (c : Char)
    : keepsWord text (Token.stopTable text) position c
      = .ok (c != ' ' && !Token.atKey text (stopInTable text) position) := by
  unfold keepsWord
  split
  . next hc =>
    rw [hc]
    rfl
  . next hc =>
    rw [atKey_eq (Nat.le_of_lt h), ok_bind, bne_iff_ne.2 hc]
    rfl

theorem endsText_eq (text : Array Char) (position : Nat)
    : endsText text (Token.stopTable text) position
      = .ok (position < text.size && Token.atKey text (stopInTable text) position) := by
  unfold endsText
  split
  . next hlt =>
    rw [atKey_eq (Nat.le_of_lt hlt), decide_eq_true hlt]
    rfl
  . next hlt =>
    rw [decide_eq_false hlt]
    rfl

theorem word_eq (text : Array Char) (s : Scan)
    : word text (Token.stopTable text) s = .ok (s.word text (stopInTable text)) := by
  rw [word, advance_eq (fun p c => c != ' ' && !Token.atKey text (stopInTable text) p)
    (fun i hlt => keepsWord_eq hlt text[i]), ok_bind]
  simp only
  rw [endsText_eq, ok_bind]
  rfl

theorem turn_eq (h : s.position < text.size)
    : turn text (Token.stopTable text) s = .ok (s.step text (stopInTable text)) := by
  have hread : text[s.position]? = some ' ' ↔ text[s.position] = ' ' := by
    rw [Array.getElem?_eq_getElem h, Option.some.injEq]
  rw [turn, read_of_lt h, ok_bind, Scan.step]
  split
  . next hspace =>
    rw [if_pos (hread.2 hspace)]
    rfl
  . next hspace =>
    rw [if_neg (fun hc => hspace (hread.1 hc)), atKey_eq (Nat.le_of_lt h), ok_bind]
    split
    . exact qualifier_eq (Nat.le_of_lt h)
    . exact word_eq text s

-- the table has to have an answer for each offset
example : turn #['a'] #[] {} = .error ⟨0, 0⟩ := rfl

theorem exists_run (hvalid : Scan.Valid text s) (turns : Nat)
    : ∃ last, run text (Token.stopTable text) turns s = .ok last ∧ Scan.Valid text last := by
  induction turns generalizing s with
  | zero => exact ⟨s, rfl, hvalid⟩
  | succ turns ih =>
    rw [run]
    split
    . next hlt =>
      rw [turn_eq hlt, ok_bind]
      exact ih (Scan.valid_step hvalid hlt)
    . exact ⟨s, rfl, hvalid⟩

theorem run_succ {turns : Nat} {last : Scan}
    (h : run text (Token.stopTable text) turns s = .ok last) (hlt : last.position < text.size)
    : run text (Token.stopTable text) (turns + 1) s = turn text (Token.stopTable text) last := by
  induction turns generalizing s with
  | zero =>
    cases h
    rw [run, if_pos hlt, turn_eq hlt]
    rfl
  | succ turns ih =>
    rw [run] at h
    split at h
    . next hs =>
      rw [turn_eq hs, ok_bind] at h
      rw [run, if_pos hs, turn_eq hs, ok_bind, ih h]
    . next hs =>
      cases h
      contradiction

/--
Each turn moves the offset forward, so there are no more turns than characters behind it.
-/
theorem run_eq {turns : Nat} (h : text.size ≤ s.position + turns)
    : run text (Token.stopTable text) turns s = .ok (s.run text (stopInTable text)) := by
  induction turns generalizing s with
  | zero =>
    rw [Nat.add_zero] at h
    rw [Scan.run, dif_neg (Nat.not_lt.2 h)]
    rfl
  | succ turns ih =>
    rw [run, Scan.run]
    split
    . next hlt =>
      have hmove := Scan.position_lt_step (stopInTable text) hlt
      rw [turn_eq hlt, ok_bind, ih (by omega)]
    . rfl

theorem scan_eq (text : Array Char) : scan text = .ok (Token.scan text) := by
  rw [scan, stopTable_eq, ok_bind, run_eq (Nat.le_add_left _ _), ok_bind]
  rfl

theorem tokenize_eq (query : String) : tokenize query = .ok (Token.tokenize query) := by
  unfold tokenize Token.tokenize
  simp only
  split
  . rfl
  . exact scan_eq _

end Guarded

/--
The walk of the guarded scanner over a text, from its first state to its last one.
-/
structure Walk (text : Array Char) : Prop where
  stopTable_eq : Guarded.stopTable text = .ok (stopTable text)
  /--
  After any number of turns the offsets are in order, and a turn that follows moves on by at least
  one character.
  -/
  turn : ∀ turns, ∃ s, Guarded.run text (stopTable text) turns {} = .ok s ∧ s.Valid text
    ∧ (s.position < text.size →
      let next := s.step text (stopInTable text)
      Guarded.turn text (stopTable text) s = .ok next
        ∧ Guarded.run text (stopTable text) (turns + 1) {} = .ok next
        ∧ s.position < next.position ∧ next.Valid text)
  end_of_text : ∃ s : Scan,
    (∀ turns, text.size ≤ turns → Guarded.run text (stopTable text) turns {} = .ok s)
      ∧ s.position = text.size ∧ (s.flush text).pending = none
      ∧ (s.flush text).tokens.toList = scan text

/--
No access of the scanner fails, whatever the query is, and it ends with the end of the text.
-/
theorem tokenize_in_range (query : String)
    : Walk query.toList.toArray ∧ Guarded.tokenize query = .ok (tokenize query) := by
  refine ⟨⟨Guarded.stopTable_eq _, ?_, ?_⟩, Guarded.tokenize_eq query⟩
  . intro turns
    obtain ⟨s, hrun, hvalid⟩ := Guarded.exists_run (Scan.valid_initial _) turns
    refine ⟨s, hrun, hvalid, ?_⟩
    intro hlt
    have hturn := Guarded.turn_eq hlt
    refine ⟨hturn, ?_, Scan.position_lt_step _ hlt, Scan.valid_step hvalid hlt⟩
    rw [Guarded.run_succ hrun hlt, hturn]
  . generalize query.toList.toArray = text
    refine ⟨Scan.run text (stopInTable text) {}, ?_, ?_, Scan.pending_flush text _, rfl⟩
    . intro turns hturns
      apply Guarded.run_eq
      simpa using hturns
    . apply Nat.le_antisymm
      . exact (Scan.valid_run (Scan.valid_initial text)).position_le
      . exact Scan.size_le_position_run text _ _

end SearchBox.Token
