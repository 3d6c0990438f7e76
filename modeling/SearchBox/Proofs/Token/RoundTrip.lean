import SearchBox.Proofs.Token.Simulation
import SearchBox.Token.Printer

/-!
This module contains the round trip from tokens to a query and back. The main statement is that the
tokens of the query that spells a canonical list of tokens are this list again.
-/

namespace SearchBox.Token

theorem escapeQuotes_cons (c : Char) (cs : List Char)
    : escapeQuotes (c :: cs) = (if c = '\x27' then ['\\', '\x27'] else [c]) ++ escapeQuotes cs := rfl

theorem head?_escapeQuotes_cons_ne_quote (c : Char) (cs behind : List Char)
    : (escapeQuotes (c :: cs) ++ behind).head? ≠ some '\x27' := by
  rw [escapeQuotes_cons]
  split
  . simp
  . next hquote => simpa using hquote

theorem head?_escapeQuotes_ne_quote (value : List Char)
    : (escapeQuotes value).head? ≠ some '\x27' := by
  cases value with
  | nil => simp [escapeQuotes]
  | cons c cs => simpa using head?_escapeQuotes_cons_ne_quote c cs []

theorem unescape_escapeQuotes (value : List Char) : Lexeme.unescape (escapeQuotes value) = value := by
  induction value with
  | nil => rfl
  | cons c cs ih =>
    rw [escapeQuotes_cons]
    split
    . next hquote =>
      subst hquote
      rw [List.cons_append, List.cons_append, List.nil_append, Lexeme.unescape]
      simp only [List.head?_cons, and_self, if_true]
      rw [Lexeme.unescape_cons (head?_escapeQuotes_ne_quote cs), ih]
    . rw [List.singleton_append, Lexeme.unescape_cons (head?_escapeQuotes_ne_quote cs), ih]

theorem readQuoted_escapeQuotes (value : List Char)
    : Lexeme.readQuoted (escapeQuotes value) = (escapeQuotes value, false, []) := by
  induction value with
  | nil => rfl
  | cons c cs ih =>
    rw [escapeQuotes_cons]
    split
    . next hquote => simp [Lexeme.readQuoted, ih]
    . next hquote =>
      rw [List.singleton_append, Lexeme.readQuoted_cons hquote, ih]
      intro hescape
      exact head?_escapeQuotes_ne_quote cs hescape.2

theorem readQuoted_escapeQuotes_append {value : List Char} (h : value.getLast? ≠ some '\\')
    (behind : List Char)
    : Lexeme.readQuoted (escapeQuotes value ++ '\x27' :: behind) = (escapeQuotes value, true, behind) := by
  induction value with
  | nil => rfl
  | cons c cs ih =>
    -- the last character decides, so the condition goes over to the rest
    have hcs : cs.getLast? ≠ some '\\' := by
      cases cs with
      | nil => simp
      | cons d cs => simpa using h
    rw [escapeQuotes_cons]
    split
    . next hquote => simp [Lexeme.readQuoted, ih hcs]
    . next hquote =>
      rw [List.append_assoc, List.singleton_append, Lexeme.readQuoted_cons hquote, ih hcs]
      . rfl
      . rintro ⟨rfl, hhead⟩
        cases cs with
        | nil => simp at h
        | cons d cs =>
          exact head?_escapeQuotes_cons_ne_quote d cs _ hhead

theorem head_renderValue (value : List Char)
    : ∃ c cs, renderValue value = c :: cs ∧ c ≠ ' ' := by
  unfold renderValue
  split
  . next hbare =>
    cases value with
    | nil => contradiction
    | cons c cs =>
      refine ⟨c, cs, rfl, ?_⟩
      rintro rfl
      simp [isBare] at hbare
  . split
    . exact ⟨_, _, rfl, by decide⟩
    . exact ⟨_, _, rfl, by decide⟩

/--
What may follow the spelling of a token: nothing, or a space.
-/
def EndsToken (behind : List Char) : Prop :=
  ∀ c ∈ behind.head?, c = ' '

theorem readValue_bare {value behind : List Char} (hbare : isBare value = true)
    (hbehind : EndsToken behind)
    : Lexeme.readValue (value ++ behind) = (.bare value, behind) := by
  simp only [isBare, Bool.and_eq_true, Bool.not_eq_true', bne_iff_ne, ne_eq,
    List.isEmpty_eq_false_iff] at hbare
  obtain ⟨⟨hne, hspace⟩, hquote⟩ := hbare
  have hall : ∀ c ∈ value, (c != ' ') = true := by
    intro c hc
    simp only [bne_iff_ne, ne_eq]
    rintro rfl
    simp [hc] at hspace
  have hhead : (value ++ behind).head? ≠ some '\x27' := by
    rw [List.head?_append_of_ne_nil _ hne]
    exact hquote
  have htake : behind.takeWhile (· != ' ') = [] := by
    cases behind with
    | nil => rfl
    | cons c cs => simp [hbehind c (by simp)]
  have hdrop : behind.dropWhile (· != ' ') = behind := by
    cases behind with
    | nil => rfl
    | cons c cs => simp [hbehind c (by simp)]
  rw [Lexeme.readValue_of_head_ne_quote hhead, List.takeWhile_append_of_pos hall,
    List.dropWhile_append_of_pos hall, htake, hdrop, List.append_nil]

theorem readValue_renderValue {value behind : List Char} (hbehind : EndsToken behind)
    (hlast : isBare value = false → value.getLast? = some '\\' → behind = [])
    : (Lexeme.readValue (renderValue value ++ behind)).1.content = value
      ∧ (Lexeme.readValue (renderValue value ++ behind)).2 = behind := by
  unfold renderValue
  cases hbare : isBare value with
  | true =>
    rw [if_pos rfl, readValue_bare hbare hbehind]
    exact ⟨rfl, rfl⟩
  | false =>
    rw [if_neg Bool.false_ne_true]
    split
    . next hbackslash =>
      rw [hlast hbare hbackslash, List.append_nil, Lexeme.readValue_quote,
        readQuoted_escapeQuotes]
      exact ⟨unescape_escapeQuotes value, rfl⟩
    . next hbackslash =>
      rw [List.cons_append, List.cons_append, List.append_assoc, List.singleton_append,
        Lexeme.readValue_quote, readQuoted_escapeQuotes_append hbackslash]
      exact ⟨unescape_escapeQuotes value, rfl⟩

theorem isUnclosed_of_not_isBare {value : String} (hbare : isBare value.toList = false)
    (hlast : value.toList.getLast? = some '\\') (key separator : String)
    : isUnclosed (.keyValue key separator value) = true := by
  have hne : value.toList ≠ [] := by
    intro hnil
    rw [hnil] at hlast
    contradiction
  simp only [isBare, isUnclosed] at *
  grind

theorem map_token_ofText_keyValue {key value : String} {behind : List Char}
    (hne : key.toList ≠ []) (hwell : WellFormed (.keyValue key separator value))
    (hbehind : EndsToken behind)
    (hlast : isUnclosed (.keyValue key separator value) = true → behind = [])
    : (Lexeme.ofText (render (.keyValue key separator value) ++ behind)).map Lexeme.token
      = .keyValue key separator value :: (Lexeme.ofText behind).map Lexeme.token := by
  obtain ⟨_, htrim, hkey⟩ := hwell
  obtain ⟨hcontent, hrest⟩ := readValue_renderValue hbehind
    (fun hbare hbackslash => hlast (isUnclosed_of_not_isBare hbare hbackslash key separator))
  have hspelling : render (.keyValue key separator value) ++ behind
      = key.toList ++ ':' :: (renderValue value.toList ++ behind) := by
    simp [render, separator]
  have hspaces : (renderValue value.toList ++ behind).dropWhile (· == ' ')
      = renderValue value.toList ++ behind := by
    obtain ⟨c, cs, hrender, hc⟩ := head_renderValue value.toList
    rw [hrender, List.cons_append, List.dropWhile_cons_of_neg (by simpa using hc)]
  rw [hspelling, Lexeme.ofText_of_key? (Lexeme.key?_append_colon hne hkey _), hspaces,
    List.map_cons, Lexeme.token, hcontent, hrest, htrim, ofKeyValue, String.ofList_toList,
    String.ofList_toList]

theorem map_token_ofText_text {value : String} {behind : List Char}
    (hne : value.toList ≠ []) (hwell : WellFormed (.text value))
    (hbehind : behind = [] ∨ ∃ cs, behind = ' ' :: cs ∧ (Lexeme.key? cs).isSome = true)
    : (Lexeme.ofText (render (.text value) ++ behind)).map Lexeme.token
      = .text value :: (Lexeme.ofText behind).map Lexeme.token := by
  obtain ⟨htrim, hstart⟩ := hwell
  have hspan := snd_spanText_eq_nil_iff.2 hstart
  obtain ⟨c, cs, hvalue⟩ := List.exists_cons_of_ne_nil hne
  have hc : c ≠ ' ' := by
    rintro rfl
    rw [hvalue] at htrim
    have := Text.isBlank_eq_false_of_trim_cons_eq_self htrim
    contradiction
  have hkey : Lexeme.key? (c :: cs) = none := by
    have := hstart 0
    rw [isKeyStart_iff, hvalue] at this
    simpa using this
  rw [render]
  rw [hvalue] at hspan
  rcases hbehind with rfl | ⟨more, rfl, hmore⟩
  . rw [hvalue, List.append_nil, Lexeme.ofText_of_head_ne_space hc hkey, hspan,
      Lexeme.spanText_fst_of_snd_eq_nil hspan, ← hvalue, List.map_cons, Lexeme.token, htrim,
      ofText, String.ofList_toList]
  . have hlonger : Lexeme.key? (c :: (cs ++ ' ' :: more)) = none := by
      rw [← List.cons_append, Lexeme.key?_append_space, hkey]
      rfl
    have htoken : Text.trim (c :: cs ++ [' ']) = value.toList := by
      rw [Text.trim_concat_of_isBlank Text.isBlank_space, ← hvalue, htrim]
    rw [hvalue, List.cons_append, Lexeme.ofText_of_head_ne_space hc hlonger, ← List.cons_append,
      Lexeme.spanText_append_space_of_nil hspan, Lexeme.spanText_of_key? hmore, List.map_cons,
      Lexeme.token, htoken, ofText, String.ofList_toList, Lexeme.ofText_space]

theorem Canonical.tail {t : Token} {ts : List Token} (h : Canonical (t :: ts)) : Canonical ts := by
  constructor
  . intro token htoken
    exact h.wellFormed token (List.mem_cons_of_mem t htoken)
  . exact h.apart.tail
  . intro token htoken
    apply h.unclosed_last
    cases ts with
    | nil => simp at htoken
    | cons u ts => exact List.mem_cons_of_mem t htoken

def spelling (tokens : List Token) : List Char :=
  List.intercalate [' '] (tokens.map render)

/--
What stands behind the spelling of a token that the tokens `ts` follow.
-/
def trailing : List Token → List Char
  | [] => []
  | t :: ts => ' ' :: spelling (t :: ts)

theorem spelling_cons (t : Token) (ts : List Token)
    : spelling (t :: ts) = render t ++ trailing ts := by
  cases ts with
  | nil => simp [spelling, trailing, List.intercalate]
  | cons u ts => simp [spelling, trailing, List.intercalate]

theorem endsToken_trailing (ts : List Token) : EndsToken (trailing ts) := by
  cases ts with
  | nil => simp [EndsToken, trailing]
  | cons t ts => simp [EndsToken, trailing]

theorem ofText_trailing (ts : List Token)
    : Lexeme.ofText (trailing ts) = Lexeme.ofText (spelling ts) := by
  cases ts with
  | nil => rfl
  | cons t ts => apply Lexeme.ofText_space

theorem render_eq_lead_append (t : Token) : ∃ rest, render t = t.lead ++ rest := by
  cases t with
  | keyValue key sep value => exact ⟨_, List.append_assoc _ _ _⟩
  | text value => exact ⟨[], (List.append_nil _).symm⟩

theorem isSome_key?_spelling {t : Token} {ts : List Token} (htext : t.isText = false)
    (hlead : t.lead ≠ []) (hwell : t.WellFormed)
    : (Lexeme.key? (spelling (t :: ts))).isSome = true := by
  cases t with
  | text value => contradiction
  | keyValue key sep value =>
    obtain ⟨rfl, _, hkey⟩ := hwell
    have hne : key.toList ≠ [] := hlead
    have hspelling : spelling (.keyValue key separator value :: ts)
        = key.toList ++ ':' :: (renderValue value.toList ++ trailing ts) := by
      simp [spelling_cons, render, separator]
    rw [hspelling, Lexeme.key?_append_colon hne hkey]
    rfl

theorem map_token_ofText_spelling {tokens : List Token} (h : Canonical tokens)
    (hlead : ∀ token ∈ tokens, token.lead ≠ [])
    : (Lexeme.ofText (spelling tokens)).map Lexeme.token = tokens := by
  induction tokens with
  | nil => rw [spelling, List.map_nil, List.intercalate_nil, Lexeme.ofText_nil, List.map_nil]
  | cons t ts ih =>
    have htail := ih h.tail (fun token htoken => hlead token (List.mem_cons_of_mem t htoken))
    have hwell := h.wellFormed t List.mem_cons_self
    have hne := hlead t List.mem_cons_self
    cases t with
    | keyValue key sep value =>
      obtain rfl : sep = separator := hwell.1
      have hlast : isUnclosed (.keyValue key separator value) = true → trailing ts = [] := by
        intro hopen
        cases ts with
        | nil => rfl
        | cons u ts =>
          have := h.unclosed_last (.keyValue key separator value) List.mem_cons_self
          rw [hopen] at this
          contradiction
      rw [spelling_cons, map_token_ofText_keyValue hne hwell (endsToken_trailing ts) hlast,
        ofText_trailing, htail]
    | text value =>
      -- the next token is a qualifier, which ends the free text
      have hbehind : trailing ts = [] ∨ ∃ cs, trailing ts = ' ' :: cs
          ∧ (Lexeme.key? cs).isSome = true := by
        cases ts with
        | nil => exact .inl rfl
        | cons u ts =>
          have hu : u.isText = false := by
            have := h.apart.rel
            simpa [Apart, isText] using this
          refine .inr ⟨spelling (u :: ts), rfl, ?_⟩
          exact isSome_key?_spelling hu (hlead u (by simp)) (h.wellFormed u (by simp))
      rw [spelling_cons, map_token_ofText_text hne hwell hbehind, ofText_trailing, htail]

theorem trim_lead {t : Token} (h : t.WellFormed) : Text.trim t.lead = t.lead := by
  cases t with
  | keyValue key sep value => exact h.2.1
  | text value => exact h.1

theorem all_isBlank_spelling {t : Token} (ts : List Token) (hwell : t.WellFormed)
    (hlead : t.lead ≠ []) : (spelling (t :: ts)).all Text.isBlank = false := by
  obtain ⟨rest, hrender⟩ := render_eq_lead_append t
  rw [spelling_cons, hrender, List.append_assoc, List.all_append,
    Text.all_isBlank_eq_false_of_trim_eq_self (trim_lead hwell) hlead, Bool.false_and]

/--
The spelling of a canonical list of tokens without empty keys and texts is read as the same list.
-/
theorem tokenize_renderAll {tokens : List Token} (h : Canonical tokens)
    (hlead : ∀ token ∈ tokens, token.lead ≠ []) : tokenize (renderAll tokens) = tokens := by
  have hspelling : (renderAll tokens).toList = spelling tokens := String.toList_ofList
  cases tokens with
  | nil => rfl
  | cons t ts =>
    have hblank := all_isBlank_spelling ts (h.wellFormed t List.mem_cons_self)
      (hlead t List.mem_cons_self)
    rw [← hspelling] at hblank
    rw [tokenize_of_not_blank hblank, hspelling, map_token_ofText_spelling h hlead]

theorem tokenize_renderAll_unclosed
    : let tokens : List Token :=
        [.keyValue "k" ":" "it\\'s", .text "'x :y", .keyValue "e" ":" "", .keyValue "o" ":" "' \\"]
      Canonical tokens ∧ (∀ token ∈ tokens, token.lead ≠ [])
        ∧ tokenize (renderAll tokens) = tokens :=
  ⟨by decide, by decide, tokenize_renderAll (by decide) (by decide)⟩

end SearchBox.Token
