import SearchBox.Text.Blank
import SearchBox.Token.Lookahead

/-!
This module contains the scanner: one walk over the text that keeps an offset, the start of the free
text that is still open, and the tokens found so far. Every step moves the offset forward, which is
why the walk ends.
-/

namespace SearchBox.Token

structure Scan where
  position : Nat := 0
  /--
  The offset at which the open free text starts, if there is one.
  -/
  pending : Option Nat := none
  tokens : Array Token := #[]
  deriving Inhabited

def slice (text : Array Char) (start stop : Nat) : List Char :=
  (text.extract start stop).toList

/--
Read the rest of a quoted value from offset `position`, behind `value`, which holds the characters
read so far from the last to the first. A backslash before a quote stands for the quote. The value
ends behind the first other quote, or with the text. The answer holds the offset behind it.
-/
def readQuoted (text : Array Char) (position : Nat) (value : List Char) : List Char × Nat :=
  if h : position < text.size then
    if text[position] = '\\' ∧ text[position + 1]? = some '\x27' then
      readQuoted text (position + 2) ('\x27' :: value)
    else if text[position] = '\x27' then
      (value.reverse, position + 1)
    else
      readQuoted text (position + 1) (text[position] :: value)
  else
    (value.reverse, position)
termination_by text.size - position

theorem le_readQuoted (text : Array Char) (position : Nat) (value : List Char)
    : position ≤ (readQuoted text position value).2 := by
  fun_induction readQuoted text position value with
  | case1 => omega
  | case2 => simp
  | case3 => omega
  | case4 => simp

theorem readQuoted_le_size (text : Array Char) (position : Nat) (value : List Char)
    (h : position ≤ text.size) : (readQuoted text position value).2 ≤ text.size := by
  fun_induction readQuoted text position value with
  | case1 position value hlt hescape ih =>
    have := (Array.getElem?_eq_some_iff.1 hescape.2).1
    exact ih (by omega)
  | case2 => simp only; omega
  | case3 position value hlt _ _ ih => exact ih hlt
  | case4 => exact h

/--
Read a value at offset `position`: a quoted one if a quote stands there, and else all characters up
to the next space. The answer holds the offset behind it.
-/
def readValue (text : Array Char) (position : Nat) : List Char × Nat :=
  if text[position]? = some '\x27' then
    readQuoted text (position + 1) []
  else
    let stop := advance text (fun _ c => c != ' ') position
    (slice text position stop, stop)

theorem le_readValue (text : Array Char) (position : Nat)
    : position ≤ (readValue text position).2 := by
  rw [readValue]
  split
  . exact Nat.le_trans (Nat.le_succ position) (le_readQuoted text (position + 1) [])
  . exact le_advance text _ position

theorem readValue_le_size (text : Array Char) (position : Nat) (h : position ≤ text.size)
    : (readValue text position).2 ≤ text.size := by
  rw [readValue]
  split
  . next hquote =>
    exact readQuoted_le_size text _ _ (Array.getElem?_eq_some_iff.1 hquote).1
  . exact advance_le_size text _ position h

namespace Scan

/--
Close the open free text, if there is one: it ends at the offset of the state, and is trimmed.
-/
def flush (text : Array Char) (s : Scan) : Scan :=
  match s.pending with
  | none => s
  | some start =>
    { s with
      pending := none
      tokens := s.tokens.push (ofText (Text.trim (slice text start s.position))) }

theorem position_flush (text : Array Char) (s : Scan) : (s.flush text).position = s.position := by
  rw [flush]
  split <;> rfl

theorem pending_flush (text : Array Char) (s : Scan) : (s.flush text).pending = none := by
  rw [flush]
  split
  . assumption
  . rfl

def qualifier (text : Array Char) (stop : Nat → Nat) (s : Scan) : Scan :=
  let colon := stop s.position
  let key := Text.trim (slice text s.position colon)
  let start := advance text (fun _ c => c == ' ') (colon + 1)
  let value := readValue text start
  { position := value.2
    pending := none
    tokens := (s.flush text).tokens.push (ofKeyValue key value.1) }

/--
Read the word at the offset of the state, up to the next space or qualifier. It opens a free text or
belongs to the open one. A qualifier behind it closes the free text.
-/
def word (text : Array Char) (stop : Nat → Nat) (s : Scan) : Scan :=
  let position := advance text (fun p c => c != ' ' && !atKey text stop p) s.position
  let next : Scan := { s with position, pending := some (s.pending.getD s.position) }
  if position < text.size && atKey text stop position then next.flush text else next

def step (text : Array Char) (stop : Nat → Nat) (s : Scan) : Scan :=
  if text[s.position]? = some ' ' then
    { s with position := s.position + 1 }
  else if atKey text stop s.position then
    s.qualifier text stop
  else
    s.word text stop

theorem position_lt_qualifier {text : Array Char} {stop : Nat → Nat} {s : Scan}
    (h : atKey text stop s.position = true) : s.position < (s.qualifier text stop).position := by
  have hkey := lt_of_atKey h
  have hspaces := le_advance text (fun _ c => c == ' ') (stop s.position + 1)
  have hvalue := le_readValue text (advance text (fun _ c => c == ' ') (stop s.position + 1))
  simp only [qualifier]
  omega

theorem position_word (text : Array Char) (stop : Nat → Nat) (s : Scan)
    : (s.word text stop).position
      = advance text (fun p c => c != ' ' && !atKey text stop p) s.position := by
  simp only [word]
  split
  . rw [position_flush]
  . rfl

theorem position_lt_step {text : Array Char} (stop : Nat → Nat) {s : Scan}
    (h : s.position < text.size) : s.position < (s.step text stop).position := by
  rw [step]
  split
  . exact Nat.lt_succ_self s.position
  . next hspace =>
    split
    . next hkey => exact position_lt_qualifier hkey
    . next hkey =>
      rw [position_word]
      apply lt_advance h
      simp_all

theorem position_step_le_size {text : Array Char} (stop : Nat → Nat) {s : Scan}
    (h : s.position < text.size) : (s.step text stop).position ≤ text.size := by
  rw [step]
  split
  . exact h
  . split
    . next hkey =>
      have hcolon := lt_size_of_atKey hkey
      exact readValue_le_size text _ (advance_le_size text _ _ hcolon)
    . rw [position_word]
      exact advance_le_size text _ _ (Nat.le_of_lt h)

def run (text : Array Char) (stop : Nat → Nat) (s : Scan) : Scan :=
  if h : s.position < text.size then
    have := position_lt_step stop h
    run text stop (s.step text stop)
  else
    s
termination_by text.size - s.position

end Scan

def scanWith (text : Array Char) (stop : Nat → Nat) : List Token :=
  ((Scan.run text stop {}).flush text).tokens.toList

def scan (text : Array Char) : List Token :=
  let table := stopTable text
  scanWith text (fun position => table.getD position text.size)

def tokenize (query : String) : List Token :=
  let text := query.toList
  if text.all Text.isBlank then [] else scan text.toArray

end SearchBox.Token
