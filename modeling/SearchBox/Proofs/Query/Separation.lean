import SearchBox.Proofs.Operator.Compile
import SearchBox.Proofs.Query.Filters
import SearchBox.Proofs.Token.RoundTrip

/-!
This module contains the separation of queries. The main statement is that the operators of two
queries with a qualifier for files between them are those of both queries and that of the qualifier,
one after the other.
-/

namespace SearchBox

namespace Token

def ofFileType (fileType : String) : Token :=
  .keyValue "type" separator fileType

theorem isBare_of_isFileObjectType {fileType : String}
    (hfile : Vocabulary.isFileObjectType fileType = true) : isBare fileType.toList = true := by
  simp only [Vocabulary.isFileObjectType, Vocabulary.fileObjectTypes, decide_eq_true_eq,
    List.mem_cons, List.not_mem_nil, or_false] at hfile
  rcases hfile with rfl | rfl | rfl
  . decide
  . decide
  . decide

theorem render_ofFileType {fileType : String}
    (hfile : Vocabulary.isFileObjectType fileType = true)
    : render (ofFileType fileType) = "type:".toList ++ fileType.toList := by
  rw [ofFileType, render, renderValue, if_pos (isBare_of_isFileObjectType hfile)]
  rfl

theorem isUnclosed_ofFileType {fileType : String}
    (hfile : Vocabulary.isFileObjectType fileType = true)
    : isUnclosed (ofFileType fileType) = false := by
  have hbare := isBare_of_isFileObjectType hfile
  simp only [isBare, Bool.and_eq_true, Bool.not_eq_true', bne_iff_ne, ne_eq] at hbare
  obtain ⟨⟨_, hspace⟩, hquote⟩ := hbare
  have hhead : (fileType.toList.head? == some '\x27') = false := by simpa using hquote
  rw [ofFileType, isUnclosed, hspace, hhead, Bool.or_false, Bool.and_false]

theorem isStop_of_mem_type : ∀ c ∈ "type".toList, isStop c = false := by
  have hall : "type".toList.all (!isStop ·) = true := by decide
  intro c hc
  simpa using List.all_eq_true.1 hall c hc

theorem wellFormed_ofFileType (fileType : String) : WellFormed (ofFileType fileType) :=
  ⟨rfl, by decide, isStop_of_mem_type⟩

theorem map_token_ofText_ofFileType {fileType : String}
    (hfile : Vocabulary.isFileObjectType fileType = true) (cs : List Char)
    : (Lexeme.ofText (render (ofFileType fileType) ++ ' ' :: cs)).map Lexeme.token
      = ofFileType fileType :: (Lexeme.ofText cs).map Lexeme.token := by
  have hends : EndsToken (' ' :: cs) := by
    simp [EndsToken]
  have hlast : isUnclosed (ofFileType fileType) = true → ' ' :: cs = [] := by
    rw [isUnclosed_ofFileType hfile]
    intro hopen
    contradiction
  unfold ofFileType at hlast ⊢
  rw [map_token_ofText_keyValue (by decide) (wellFormed_ofFileType fileType) hends hlast,
    Lexeme.ofText_space]

theorem isSome_key?_render_ofFileType (fileType : String) (cs : List Char)
    : (Lexeme.key? (render (ofFileType fileType) ++ cs)).isSome = true := by
  have hspelling : render (ofFileType fileType) ++ cs
      = "type".toList ++ ':' :: (renderValue fileType.toList ++ cs) := by
    simp [ofFileType, render, separator]
  rw [hspelling, Lexeme.key?_append_colon (by decide) isStop_of_mem_type]
  rfl

theorem ofToken_ofFileType {fileType : String}
    (hfile : Vocabulary.isFileObjectType fileType = true)
    : Filter.ofToken (ofFileType fileType) = .object fileType "" := by
  have hobject := Vocabulary.isObjectType_of_isFileObjectType hfile
  simp [ofFileType, Filter.ofToken, Filter.ofKeyValue, hobject]

end Token

theorem Lexeme.map_filter_ofText_ofFileType {fileType : String}
    (hfile : Vocabulary.isFileObjectType fileType = true) (cs : List Char)
    : (ofText (Token.render (Token.ofFileType fileType) ++ ' ' :: cs)).map filter
      = .object fileType "" :: (ofText cs).map filter := by
  rw [map_filter, map_filter, Token.map_token_ofText_ofFileType hfile, List.map_cons,
    Token.ofToken_ofFileType hfile]

theorem Filter.ofQuery_append_ofFileType {fileType : String}
    (hfile : Vocabulary.isFileObjectType fileType = true) {a b : String}
    (ha : Query.SpacesIfBlank a) (hb : Query.SpacesIfBlank b)
    (hopen : Lexeme.endsOpen a.toList = false)
    : ofQuery (a ++ " type:" ++ fileType ++ " " ++ b)
      = ofQuery a ++ .object fileType "" :: ofQuery b := by
  have hwhole : (a ++ " type:" ++ fileType ++ " " ++ b).toList
      = a.toList ++ ' ' :: (Token.render (Token.ofFileType fileType) ++ ' ' :: b.toList) := by
    simp [Token.render_ofFileType hfile]
  have hspaces : Query.SpacesIfBlank (a ++ " type:" ++ fileType ++ " " ++ b) := by
    refine .inr ⟨'t', ?_, by decide⟩
    simp
  rw [ofQuery_of_spacesIfBlank ha, ofQuery_of_spacesIfBlank hb, ofQuery_of_spacesIfBlank hspaces,
    hwhole, Lexeme.ofText_append_space hopen,
    Lexeme.map_filter_resume (Token.isSome_key?_render_ofFileType fileType _),
    Lexeme.map_filter_ofText_ofFileType hfile, merge_append_cons rfl]

/--
The operators of two queries with a qualifier for files between them are those of the first query,
that of the qualifier and those of the second query.
-/
theorem Operator.ofQuery_append_file (base : Options) {fileType : String}
    (hfile : Vocabulary.isFileObjectType fileType = true) {a b : String}
    (ha : Query.SpacesIfBlank a) (hb : Query.SpacesIfBlank b)
    (hopen : Lexeme.endsOpen a.toList = false)
    : ofQuery base (a ++ " type:" ++ fileType ++ " " ++ b)
      = ofQuery base a ++ [⟨"", { base with fileType := some fileType }⟩] ++ ofQuery base b := by
  rw [ofQuery_eq, ofQuery_eq, ofQuery_eq, Filter.ofQuery_append_ofFileType hfile ha hb hopen,
    ofFilters_append_file base hfile, List.append_assoc]
  rfl

theorem Operator.ofQuery_append_file_behind_property
    : let a := "tag:x owner:'a b' type:dimension"
      let b := "free type:'open"
      Vocabulary.isFileObjectType "dataset" = true
        ∧ Query.SpacesIfBlank a ∧ Query.SpacesIfBlank b
        ∧ Lexeme.endsOpen a.toList = false
        ∧ ofQuery {} (a ++ " type:" ++ "dataset" ++ " " ++ b)
          = ofQuery {} a ++ [⟨"", { fileType := some "dataset" }⟩] ++ ofQuery {} b := by
  intro a b
  have ha : Query.SpacesIfBlank a := .inr ⟨'t', by decide, by decide⟩
  have hb : Query.SpacesIfBlank b := .inr ⟨'f', by decide, by decide⟩
  have hopen : Lexeme.endsOpen a.toList = false := by decide +kernel
  have hfile : Vocabulary.isFileObjectType "dataset" = true := by decide
  exact ⟨hfile, ha, hb, hopen, ofQuery_append_file {} hfile ha hb hopen⟩

end SearchBox
