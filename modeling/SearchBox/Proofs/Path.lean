import Mathlib.Data.List.TakeWhile
import SearchBox.Path
import SearchBox.Proofs.Text.Span
import SearchBox.Proofs.Text.Split

/-!
This module contains the laws of the type that a path tells about its file. It is the last one of
the types that stand behind a dot in the last component of the path. The main statement says when a
path tells a type, and that nothing else in the path matters.
-/

namespace SearchBox.Path

/--
The last component of a path, where empty components and single dots do not count.
-/
def IsName (path : String) (name : List Char) : Prop :=
  ((path.toList.splitOn '/').filter (fun component => component ≠ [] ∧ component ≠ ['.'])).getLast?
    = some name

/--
What can follow a type in a name: nothing, or pieces with dots before them that are not types.
-/
structure IsUntyped (rest : List Char) : Prop where
  starts : rest = [] ∨ rest.head? = some '.'
  not_type : ∀ piece ∈ rest.splitOn '.', String.ofList piece ∉ Vocabulary.fileObjectTypes

/--
The last type in a name that ends in no dot. The dots at the front of the name do not count.
-/
structure EndsInType (name : List Char) (fileType : String) : Prop where
  mem_types : fileType ∈ Vocabulary.fileObjectTypes
  not_dot : name.getLast? ≠ some '.'
  exists_append : ∃ front rest,
    name.dropWhile (· == '.') = front ++ '.' :: fileType.toList ++ rest ∧ IsUntyped rest

def HasType (path fileType : String) : Prop :=
  ∃ name, IsName path name ∧ EndsInType name fileType

/--
A path without components: there is nothing in it but slashes and single dots between them.
-/
def Nameless (path : String) : Prop :=
  ∀ component ∈ path.toList.splitOn '/', component = [] ∨ component = ['.']

instance (path : String) : Decidable (Nameless path) :=
  inferInstanceAs (Decidable (∀ component ∈ path.toList.splitOn '/', _))

def nameType? (name : List Char) : Option String :=
  ((suffixes name).map String.ofList).reverse.find? Vocabulary.isFileObjectType

theorem components_eq (path : List Char)
    : components path
      = (path.splitOn '/').filter (fun component => component ≠ [] ∧ component ≠ ['.']) := by
  rw [components, Text.splitOn_eq]
  apply List.filter_congr
  intro component _
  rw [Bool.eq_iff_iff]
  simp

theorem components_append_slash (cs ds : List Char)
    : components (cs ++ '/' :: ds) = components cs ++ components ds := by
  rw [components_eq, components_eq, components_eq, Text.splitOn_append_cons, List.filter_append]

theorem components_eq_nil_iff {path : String} : components path.toList = [] ↔ Nameless path := by
  rw [components_eq, List.filter_eq_nil_iff]
  apply forall₂_congr
  intro component _
  rw [decide_eq_true_iff]
  tauto

theorem isName_iff {path : String} {name : List Char}
    : IsName path name ↔ (components path.toList).getLast? = some name := by
  rw [IsName, components_eq]

theorem fileType?_eq_bind (path : String)
    : fileType? path = (components path.toList).getLast?.bind nameType? := by
  rw [fileType?, name]
  cases (components path.toList).getLast? with
  | none => rfl
  | some name => rfl

theorem fileType?_append_slash (front behind : String)
    : fileType? (front ++ "/" ++ behind)
      = if Nameless behind then fileType? front else fileType? behind := by
  have hpath : (front ++ "/" ++ behind).toList = front.toList ++ '/' :: behind.toList := by simp
  rw [fileType?_eq_bind, hpath, components_append_slash]
  split
  . next hnameless =>
    rw [components_eq_nil_iff.2 hnameless, List.append_nil, fileType?_eq_bind]
  . next hnamed =>
    rw [← components_eq_nil_iff] at hnamed
    rw [List.getLast?_append_of_ne_nil _ hnamed, fileType?_eq_bind]

theorem nameType?_of_getLast? {name : List Char} (h : name.getLast? = some '.')
    : nameType? name = none := by
  rw [nameType?, suffixes, if_pos h]
  rfl

theorem nameType?_of_not_getLast? {name : List Char} (h : name.getLast? ≠ some '.')
    : nameType? name
      = (((name.dropWhile (· == '.')).splitOn '.').tail.map String.ofList).reverse.find?
          Vocabulary.isFileObjectType := by
  rw [nameType?, suffixes, if_neg h, Text.splitOn_eq]

theorem fileType?_of_not_mem {name : String} (h : '/' ∉ name.toList)
    : fileType? name = nameType? name.toList := by
  rw [fileType?_eq_bind, components_eq, List.splitOn_eq_singleton h, List.filter_singleton,
    Bool.cond_decide]
  split
  . rfl
  . next hdropped =>
    rw [not_and_or, not_not, not_not] at hdropped
    cases hdropped with
    | inl hempty =>
      rw [hempty]
      rfl
    | inr hdot =>
      rw [hdot]
      rfl

theorem find?_reverse_map_ofList_eq_some_iff {p : String → Bool} {pieces : List (List Char)}
    {word : String}
    : (pieces.map String.ofList).reverse.find? p = some word
      ↔ p word = true ∧ ∃ front behind, pieces = front ++ word.toList :: behind
        ∧ ∀ piece ∈ behind, ¬p (String.ofList piece) = true := by
  rw [List.find?_eq_some_iff_append]
  apply and_congr_right
  intro _
  constructor
  . rintro ⟨later, earlier, hreverse, hlater⟩
    rw [List.reverse_eq_iff, List.reverse_append, List.reverse_cons, List.append_assoc,
      List.singleton_append, List.map_eq_append_iff] at hreverse
    obtain ⟨front, rest, rfl, _, hrest⟩ := hreverse
    obtain ⟨piece, behind, rfl, rfl, hbehind⟩ := List.map_eq_cons_iff.1 hrest
    refine ⟨front, behind, by rw [String.toList_ofList], ?_⟩
    intro piece hpiece
    have hmem : String.ofList piece ∈ later := by
      rw [← List.mem_reverse, ← hbehind]
      exact List.mem_map_of_mem hpiece
    simpa using hlater _ hmem
  . rintro ⟨front, behind, rfl, hbehind⟩
    refine ⟨(behind.map String.ofList).reverse, (front.map String.ofList).reverse, ?_, ?_⟩
    . simp
    . simpa using hbehind

theorem dot_not_mem_of_mem_types {fileType : String} (h : fileType ∈ Vocabulary.fileObjectTypes)
    : '.' ∉ fileType.toList := by
  have hall : ∀ fileType ∈ Vocabulary.fileObjectTypes, '.' ∉ fileType.toList := by decide
  exact hall fileType h

theorem nameType?_eq_some_iff {name : List Char} {fileType : String}
    : nameType? name = some fileType ↔ EndsInType name fileType := by
  constructor
  . intro h
    have hdot : name.getLast? ≠ some '.' := by
      intro hdot
      rw [nameType?_of_getLast? hdot] at h
      contradiction
    rw [nameType?_of_not_getLast? hdot, find?_reverse_map_ofList_eq_some_iff] at h
    obtain ⟨htype, front, behind, htail, hbehind⟩ := h
    obtain ⟨first, pieces, hpieces⟩ := List.exists_cons_of_ne_nil
      (List.splitOn_ne_nil '.' (name.dropWhile (· == '.')))
    rw [hpieces, List.tail_cons] at htail
    rw [htail, ← List.cons_append] at hpieces
    obtain ⟨rest, hname, hends, hrest⟩ := Text.exists_append_of_splitOn (by simp) hpieces
    refine ⟨by simpa [Vocabulary.isFileObjectType] using htype, hdot, _, rest, hname, hends, ?_⟩
    rw [hrest, List.forall_mem_cons]
    refine ⟨by decide, ?_⟩
    simpa [Vocabulary.isFileObjectType] using hbehind
  . rintro ⟨htype, hdot, front, rest, hname, hrest⟩
    have hpiece := dot_not_mem_of_mem_types htype
    rw [nameType?_of_not_getLast? hdot, find?_reverse_map_ofList_eq_some_iff]
    refine ⟨by simpa [Vocabulary.isFileObjectType] using htype, (front.splitOn '.').tail,
      (rest.splitOn '.').tail, ?_, ?_⟩
    . rw [hname, List.append_assoc, List.cons_append, Text.splitOn_append_cons,
        Text.splitOn_append_of_ends hpiece hrest.starts, List.tail_append_of_ne_nil]
      apply List.splitOn_ne_nil
    . intro piece hmem
      have := hrest.not_type piece (List.mem_of_mem_tail hmem)
      simpa [Vocabulary.isFileObjectType] using this

theorem fileType?_eq_some_iff {path fileType : String}
    : fileType? path = some fileType ↔ HasType path fileType := by
  rw [fileType?_eq_bind, Option.bind_eq_some_iff]
  apply exists_congr
  intro name
  rw [isName_iff, nameType?_eq_some_iff]

/--
A piece of a name: a text with neither dots nor slashes in it.
-/
structure IsPiece (piece : String) : Prop where
  ne_empty : piece ≠ ""
  not_dot : '.' ∉ piece.toList
  not_slash : '/' ∉ piece.toList

theorem IsPiece.dropWhile_append {piece : String} (h : IsPiece piece) {dots : List Char}
    (hdots : ∀ c ∈ dots, c = '.') (rest : List Char)
    : (dots ++ piece.toList ++ rest).dropWhile (· == '.') = piece.toList ++ rest := by
  obtain ⟨c, cs, hpiece⟩ : ∃ c cs, piece.toList = c :: cs := by
    apply List.exists_cons_of_ne_nil
    simpa using h.ne_empty
  have hc : c ≠ '.' := by
    rintro rfl
    apply h.not_dot
    simp [hpiece]
  rw [List.append_assoc, List.dropWhile_append_of_pos (by simpa using hdots), hpiece,
    List.cons_append, List.dropWhile_cons_of_neg (by simpa using hc)]

theorem nameType?_dots_append_piece {piece : String} (h : IsPiece piece) {dots : List Char}
    (hdots : ∀ c ∈ dots, c = '.') : nameType? (dots ++ piece.toList) = none := by
  have hdrop := h.dropWhile_append hdots []
  rw [List.append_nil, List.append_nil] at hdrop
  have hlast : (dots ++ piece.toList).getLast? ≠ some '.' := by
    rw [List.getLast?_append_of_ne_nil _ (by simpa using h.ne_empty)]
    intro hdot
    exact h.not_dot (List.mem_of_getLast? hdot)
  rw [nameType?_of_not_getLast? hlast, hdrop, List.splitOn_eq_singleton h.not_dot]
  rfl

theorem nameType?_dots_append_piece_append {piece other : String} (hpiece : IsPiece piece)
    (hother : IsPiece other) {dots : List Char} (hdots : ∀ c ∈ dots, c = '.') (rest : List Char)
    : nameType? (dots ++ piece.toList ++ '.' :: rest)
      = nameType? (other.toList ++ '.' :: rest) := by
  have hdrop := hpiece.dropWhile_append hdots ('.' :: rest)
  have hotherDrop := hother.dropWhile_append (List.forall_mem_nil _) ('.' :: rest)
  rw [List.nil_append] at hotherDrop
  by_cases hlast : ('.' :: rest).getLast? = some '.'
  . rw [nameType?_of_getLast?, nameType?_of_getLast?]
    . rw [List.getLast?_append_cons, hlast]
    . rw [List.getLast?_append_cons, hlast]
  . rw [nameType?_of_not_getLast?, nameType?_of_not_getLast?, hdrop, hotherDrop,
      Text.splitOn_append_cons, Text.splitOn_append_cons,
      List.splitOn_eq_singleton hpiece.not_dot, List.splitOn_eq_singleton hother.not_dot]
    . rfl
    . rwa [List.getLast?_append_cons]
    . rwa [List.getLast?_append_cons]

theorem endsInType_append {front rest : List Char} {fileType : String}
    (hfront : ∃ c ∈ front, c ≠ '.') (htype : fileType ∈ Vocabulary.fileObjectTypes)
    (hrest : IsUntyped rest) (hlast : rest.getLast? ≠ some '.')
    : EndsInType (front ++ '.' :: fileType.toList ++ rest) fileType := by
  have hne : fileType.toList ≠ [] := by
    have hall : ∀ fileType ∈ Vocabulary.fileObjectTypes, fileType.toList ≠ [] := by decide
    exact hall fileType htype
  have hdrop : front.dropWhile (· == '.') ≠ [] := by
    rw [ne_eq, List.dropWhile_eq_nil_iff]
    simpa using hfront
  refine ⟨htype, ?_, front.dropWhile (· == '.'), rest, ?_, hrest⟩
  . by_cases hnil : rest = []
    . rw [hnil, List.append_nil, List.getLast?_append_cons, List.getLast?_cons_of_ne_nil hne]
      intro hdot
      exact dot_not_mem_of_mem_types htype (List.mem_of_getLast? hdot)
    . rwa [List.getLast?_append_of_ne_nil _ hnil]
  . rw [List.append_assoc, Text.dropWhile_append_of_ne_nil hdrop, List.append_assoc]

/--
A path tells the last type that stands behind a dot in its last component, and no type if there is
none. What stands before this component, and slashes and single dots, do not matter. Neither do the
dots at the front of a name and the piece behind them, which is never a type. Of several types in a
name the last one counts.
-/
theorem fileType?_eq_last_type
    : (∀ path fileType : String, fileType? path = some fileType ↔ HasType path fileType)
      ∧ (∀ path : String, fileType? path = none ↔ ∀ fileType, ¬HasType path fileType)
      ∧ (∀ front behind : String, fileType? (front ++ "/" ++ behind)
          = if Nameless behind then fileType? front else fileType? behind)
      ∧ (∀ dots piece : String, (∀ c ∈ dots.toList, c = '.') → IsPiece piece →
          fileType? (dots ++ piece) = none
            ∧ ∀ other rest : String, IsPiece other → '/' ∉ rest.toList →
              fileType? (dots ++ piece ++ "." ++ rest) = fileType? (other ++ "." ++ rest))
      ∧ ∀ front fileType rest : String, (∃ c ∈ front.toList, c ≠ '.') →
          fileType ∈ Vocabulary.fileObjectTypes → IsUntyped rest.toList →
          rest.toList.getLast? ≠ some '.' → '/' ∉ (front ++ rest).toList →
          fileType? (front ++ "." ++ fileType ++ rest) = some fileType := by
  refine ⟨?_, ?_, fileType?_append_slash, ?_, ?_⟩
  . intro path fileType
    exact fileType?_eq_some_iff
  . intro path
    rw [Option.eq_none_iff_forall_ne_some]
    apply forall_congr'
    intro fileType
    rw [ne_eq, fileType?_eq_some_iff]
  . intro dots piece hdots hpiece
    have hslash : '/' ∉ dots.toList := by
      intro hmem
      have := hdots '/' hmem
      contradiction
    refine ⟨?_, ?_⟩
    . rw [fileType?_of_not_mem, String.toList_append]
      . exact nameType?_dots_append_piece hpiece hdots
      . simp [hslash, hpiece.not_slash]
    . intro other rest hother hrest
      have hname : (dots ++ piece ++ "." ++ rest).toList
          = dots.toList ++ piece.toList ++ '.' :: rest.toList := by simp
      have hotherName : (other ++ "." ++ rest).toList = other.toList ++ '.' :: rest.toList := by
        simp
      rw [fileType?_of_not_mem, fileType?_of_not_mem, hname, hotherName]
      . exact nameType?_dots_append_piece_append hpiece hother hdots rest.toList
      . simp [hother.not_slash, hrest]
      . simp [hslash, hpiece.not_slash, hrest]
  . intro front fileType rest hfront htype hrest hlast hslash
    have hname : (front ++ "." ++ fileType ++ rest).toList
        = front.toList ++ '.' :: fileType.toList ++ rest.toList := by simp
    have htypeSlash : ∀ fileType ∈ Vocabulary.fileObjectTypes, '/' ∉ fileType.toList := by decide
    rw [String.toList_append, List.mem_append, not_or] at hslash
    rw [fileType?_of_not_mem, nameType?_eq_some_iff, hname]
    . exact endsInType_append hfront htype hrest hlast
    . simp [hslash, htypeSlash fileType htype]

theorem fileType?_eq_last_type_behind_directory
    : fileType? "x.model//./..model.dataset.aml/./" = some "dataset"
      ∧ HasType "x.model//./..model.dataset.aml/./" "dataset"
      ∧ fileType? ".model" = none ∧ IsPiece "model" ∧ IsUntyped ".aml".toList
      ∧ fileType? ("a.model" ++ "." ++ "dashboard" ++ ".aml") = some "dashboard" := by
  have hlast : fileType? "x.model//./..model.dataset.aml/./" = some "dataset" := by decide +kernel
  have hpiece : IsPiece "model" := ⟨by decide, by decide, by decide⟩
  have huntyped : IsUntyped ".aml".toList := ⟨by decide, by decide⟩
  refine ⟨hlast, (fileType?_eq_last_type.1 _ _).1 hlast, ?_, hpiece, huntyped, ?_⟩
  . exact (fileType?_eq_last_type.2.2.2.1 "." "model" (by simp) hpiece).1
  . exact fileType?_eq_last_type.2.2.2.2 "a.model" "dashboard" ".aml"
      ⟨'a', by decide, by decide⟩ (by decide) huntyped (by decide) (by decide)

end SearchBox.Path
