import CensusNode.Path

/-!
The pieces of paths. Joining a name onto a base adds one piece to those of the base, and the parent
of a path has all of its pieces but the last, when pieces that stand for the directory they are
found in are left out.
-/

namespace CensusNode.Path

theorem pieces_ne_nil (chars : List Char) : pieces chars ≠ [] := by
  cases chars with
  | nil => simp [pieces]
  | cons char rest =>
      simp only [pieces]
      split
      · simp
      · split <;> simp

theorem pieces_cons_of_ne {char : Char} (other : char ≠ '/') (rest : List Char) :
    ∃ piece pieces', pieces rest = piece :: pieces' ∧
      pieces (char :: rest) = (char :: piece) :: pieces' := by
  obtain ⟨piece, others, split⟩ := List.exists_cons_of_ne_nil (pieces_ne_nil rest)
  refine ⟨piece, others, split, ?_⟩
  rw [pieces, if_neg other, split]

theorem pieces_append_slash (first second : List Char) :
    pieces (first ++ '/' :: second) = pieces first ++ pieces second := by
  induction first with
  | nil => simp [pieces]
  | cons char rest induction =>
      by_cases slash : char = '/'
      · rw [List.cons_append, pieces, if_pos slash, induction, pieces, if_pos slash,
          List.cons_append]
      · obtain ⟨piece, others, split, whole⟩ := pieces_cons_of_ne slash rest
        rw [List.cons_append, pieces, if_neg slash, induction, whole, split]
        rfl

theorem pieces_of_plain {chars : List Char} (plain : '/' ∉ chars) : pieces chars = [chars] := by
  induction chars with
  | nil => rfl
  | cons char rest induction =>
      rw [List.mem_cons, not_or] at plain
      have other : char ≠ '/' := fun same => plain.1 same.symm
      rw [pieces, if_neg other, induction plain.2]

theorem plain_of_mem_pieces {chars piece : List Char} (member : piece ∈ pieces chars) :
    '/' ∉ piece := by
  induction chars generalizing piece with
  | nil =>
      rw [pieces, List.mem_singleton] at member
      simp [member]
  | cons char rest induction =>
      by_cases slash : char = '/'
      · rw [pieces, if_pos slash, List.mem_cons] at member
        rcases member with isEmpty | later
        · simp [isEmpty]
        · exact induction later
      · obtain ⟨first, others, split, whole⟩ := pieces_cons_of_ne slash rest
        rw [whole, List.mem_cons] at member
        rcases member with isFirst | later
        · rw [isFirst, List.mem_cons, not_or]
          refine ⟨fun same => slash same.symm, induction ?_⟩
          rw [split]
          exact List.mem_cons_self
        · apply induction
          rw [split]
          exact List.mem_cons_of_mem _ later

def IsPlain (name : String) : Prop := '/' ∉ name.toList

theorem segments_of_plain {name : String} (plain : IsPlain name) : segments name = [name] := by
  rw [segments, pieces_of_plain plain, List.map_singleton, String.ofList_toList]

theorem segments_append_slash (first second : String) :
    segments (first ++ "/" ++ second) = segments first ++ segments second := by
  have chars : (first ++ "/" ++ second).toList = first.toList ++ '/' :: second.toList := by
    rw [String.toList_append, String.toList_append, List.append_assoc]
    rfl
  rw [segments, chars, pieces_append_slash, List.map_append]
  rfl

theorem segments_ne_nil (path : String) : segments path ≠ [] := by
  rw [segments, ne_eq, List.map_eq_nil_iff]
  exact pieces_ne_nil _

theorem plain_of_mem_segments {path segment : String} (member : segment ∈ segments path) :
    IsPlain segment := by
  rw [segments, List.mem_map] at member
  obtain ⟨piece, inPieces, same⟩ := member
  rw [IsPlain, ← same, String.toList_ofList]
  exact plain_of_mem_pieces inPieces

/-- A path is absolute when its first piece is empty and is not the only one. -/
theorem is_absolute_iff (path : String) :
    isAbsolute path = true ↔ ∃ rest, segments path = "" :: rest ∧ rest ≠ [] := by
  rw [isAbsolute, decide_eq_true_eq, segments]
  cases path.toList with
  | nil => simp [pieces]
  | cons char rest =>
      by_cases slash : char = '/'
      · have some_left : (pieces rest).map String.ofList ≠ [] := by
          rw [ne_eq, List.map_eq_nil_iff]
          exact pieces_ne_nil rest
        simp [pieces, slash, some_left]
      · obtain ⟨first, others, -, whole⟩ := pieces_cons_of_ne slash rest
        rw [whole]
        simp [slash, String.ofList_eq_empty_iff]

theorem is_absolute_of_segments {path first : String} {rest : List String}
    (split : segments path = first :: rest) (some_rest : rest ≠ []) :
    isAbsolute path = true ↔ first = "" := by
  rw [is_absolute_iff, split]
  constructor
  · rintro ⟨tail, same, -⟩
    exact (List.cons.inj same).1
  · intro isRoot
    exact ⟨rest, by rw [isRoot], some_rest⟩

/-- The pieces that a name joined onto a base comes after. -/
def stem (base : String) : List String :=
  if base = "" then []
  else if base.toList.getLast? = some '/' then (segments base).dropLast
  else segments base

theorem not_absolute_of_plain {name : String} (plain : IsPlain name) :
    isAbsolute name = false := by
  rw [isAbsolute, decide_eq_false_iff_not]
  intro slash
  exact plain (List.mem_of_mem_head? (Option.mem_def.mpr slash))

theorem segments_join_relative (base : String) {path : String}
    (relative : isAbsolute path = false) :
    segments (join base path) = stem base ++ segments path := by
  rw [join, relative]
  by_cases isEmpty : base = ""
  · rw [if_pos (by simp [isEmpty]), stem, if_pos isEmpty, List.nil_append]
  · rw [if_neg (by simp [isEmpty]), stem, if_neg isEmpty]
    by_cases slashed : base.toList.getLast? = some '/'
    · obtain ⟨front, chars⟩ := List.getLast?_eq_some_iff.mp slashed
      have joined : (base ++ path).toList = front ++ '/' :: path.toList := by
        rw [String.toList_append, chars, List.append_assoc]
        rfl
      rw [if_pos slashed, if_pos slashed, segments, joined, pieces_append_slash, List.map_append,
        segments, chars, pieces_append_slash, List.map_append]
      simp [pieces, segments]
    · rw [if_neg slashed, if_neg slashed, segments_append_slash]

theorem segments_join (base : String) {name : String} (plain : IsPlain name) :
    segments (join base name) = stem base ++ [name] := by
  rw [segments_join_relative base (not_absolute_of_plain plain), segments_of_plain plain]

theorem is_absolute_join_relative (base : String) {path : String}
    (relative : isAbsolute path = false) : isAbsolute (join base path) = isAbsolute base := by
  rw [join, relative]
  by_cases isEmpty : base = ""
  · rw [if_pos (by simp [isEmpty]), relative, isEmpty]
    rfl
  · obtain ⟨char, rest, chars⟩ := List.exists_cons_of_ne_nil
      (fun none => isEmpty (String.toList_eq_nil_iff.mp none))
    rw [if_neg (by simp [isEmpty])]
    split <;> simp [isAbsolute, String.toList_append, chars]

theorem is_absolute_join (base : String) {name : String} (plain : IsPlain name) :
    isAbsolute (join base name) = isAbsolute base :=
  is_absolute_join_relative base (not_absolute_of_plain plain)

theorem join_ends_in (base : String) {name : String} (plain : IsPlain name) :
    ∃ front, join base name = front ++ name := by
  rw [join, not_absolute_of_plain plain]
  split
  · exact ⟨"", String.empty_append.symm⟩
  · split
    · exact ⟨base, rfl⟩
    · exact ⟨base ++ "/", rfl⟩

theorem stem_join (base : String) {name : String} (plain : IsPlain name) (named : name ≠ "") :
    stem (join base name) = stem base ++ [name] := by
  obtain ⟨front, ends⟩ := join_ends_in base plain
  have some_chars : name.toList ≠ [] := fun none => named (String.toList_eq_nil_iff.mp none)
  have nonempty : join base name ≠ "" := by
    intro isEmpty
    rw [ends, String.append_eq_empty_iff] at isEmpty
    exact named isEmpty.2
  have open_ended : (join base name).toList.getLast? ≠ some '/' := by
    rw [ends, String.toList_append, List.getLast?_append, List.getLast?_eq_some_getLast some_chars,
      Option.some_or]
    intro slash
    apply plain
    rw [← Option.some.inj slash]
    exact List.getLast_mem some_chars
  rw [stem, if_neg nonempty, if_neg open_ended, segments_join base plain]

/-- The pieces that lead somewhere else. -/
def solid (segments : List String) : List String := segments.filter fun segment => !isSelf segment

theorem solid_drop_while (segments : List String) :
    solid (segments.dropWhile isSelf) = solid segments := by
  induction segments with
  | nil => rfl
  | cons segment rest induction =>
      cases self : isSelf segment with
      | true => rw [List.dropWhile_cons_of_pos self, induction, solid, solid]; simp [self]
      | false => rw [List.dropWhile_cons_of_neg (by simp [self])]

theorem solid_append (first second : List String) :
    solid (first ++ second) = solid first ++ solid second :=
  List.filter_append ..

theorem solid_reverse (segments : List String) :
    solid segments.reverse = (solid segments).reverse :=
  List.filter_reverse ..

theorem segments_of_segments {first : String} {rest : List String} (plain : IsPlain first)
    (others : ∀ segment ∈ rest, IsPlain segment) :
    segments (ofSegments (first :: rest)) = first :: rest := by
  induction rest generalizing first with
  | nil => rw [ofSegments, String.intercalate_singleton, segments_of_plain plain]
  | cons second rest induction =>
      have later := induction (others second List.mem_cons_self)
        fun segment member => others segment (List.mem_cons_of_mem _ member)
      rw [ofSegments] at *
      rw [String.intercalate_cons_cons, segments_append_slash, segments_of_plain plain, later]
      rfl

section

variable {path first : String} {rest : List String}

/-- The first piece of a path leads as far by itself. -/
theorem first_piece_spec (split : segments path = first :: rest) (some_rest : rest ≠ [])
    (plain : IsPlain first) :
    (if first = "" then "/" else first) ≠ "" ∧
      isAbsolute (if first = "" then "/" else first) = isAbsolute path ∧
      solid (segments (if first = "" then "/" else first)) = solid [first] := by
  have rooted := is_absolute_of_segments split some_rest
  by_cases isRoot : first = ""
  · have absolute : isAbsolute path = true := rooted.mpr isRoot
    rw [if_pos isRoot, isRoot, absolute]
    exact ⟨by decide, by decide, by decide⟩
  · have relative : isAbsolute path = false := by
      rw [← Bool.not_eq_true, rooted]
      exact isRoot
    rw [if_neg isRoot, relative, segments_of_plain plain]
    exact ⟨isRoot, not_absolute_of_plain plain, rfl⟩

theorem leading_pieces_spec (split : segments path = first :: rest) (some_rest : rest ≠ [])
    (plain : IsPlain first) {kept : List String} (others : ∀ segment ∈ kept, IsPlain segment)
    (some_kept : kept ≠ []) :
    ofSegments (first :: kept) ≠ "" ∧ isAbsolute (ofSegments (first :: kept)) = isAbsolute path ∧
      solid (segments (ofSegments (first :: kept))) = solid [first] ++ solid kept := by
  have whole := segments_of_segments plain others
  refine ⟨?_, ?_, ?_⟩
  · intro isEmpty
    rw [isEmpty] at whole
    exact some_kept (List.cons.inj whole).2.symm
  · rw [Bool.eq_iff_iff, is_absolute_of_segments split some_rest,
      is_absolute_of_segments whole some_kept]
  · rw [whole, ← solid_append, List.singleton_append]

end

theorem named_parent_spec (path : String) :
    ∃ before last, solid (segments path) = before ++ last ∧ last.length ≤ 1 ∧
      match namedParent? path with
      | some parent => isAbsolute parent = isAbsolute path ∧ solid (segments parent) = before
      | none => before = [] := by
  obtain ⟨first, rest, split⟩ := List.exists_cons_of_ne_nil (segments_ne_nil path)
  have plain : IsPlain first := plain_of_mem_segments (by rw [split]; exact List.mem_cons_self)
  have others : ∀ segment ∈ rest, IsPlain segment := fun segment member =>
    plain_of_mem_segments (by rw [split]; exact List.mem_cons_of_mem _ member)
  have parts : solid (first :: rest) =
      solid [first] ++ (solid (rest.reverse.dropWhile isSelf)).reverse := by
    rw [solid_drop_while, solid_reverse, List.reverse_reverse, ← solid_append,
      List.singleton_append]
  unfold namedParent? parent?
  rw [split]
  simp only
  cases trimmed : rest.reverse.dropWhile isSelf with
  | nil =>
      rw [trimmed] at parts
      have only : solid (first :: rest) = solid [first] := parts.trans (List.append_nil _)
      refine ⟨[], solid [first], only, List.length_filter_le _ [first], ?_⟩
      by_cases isRoot : first = "" <;> simp [isRoot]
  | cons name leading =>
      have some_rest : rest ≠ [] := by
        intro none
        rw [none] at trimmed
        cases trimmed
      have named : isSelf name = false := by
        have head := List.head?_dropWhile_not isSelf rest.reverse
        rw [trimmed] at head
        simpa using head
      have ended : solid (name :: leading) = name :: solid (leading.dropWhile isSelf) := by
        rw [solid_drop_while, solid, solid, List.filter_cons_of_pos (by simp [named])]
      rw [trimmed, ended, List.reverse_cons, ← List.append_assoc, ← solid_reverse] at parts
      refine ⟨_, [name], parts, Nat.le_refl 1, ?_⟩
      have plainKept : ∀ segment ∈ (leading.dropWhile isSelf).reverse, IsPlain segment := by
        intro segment member
        apply others
        have within := List.dropWhile_subset isSelf (List.mem_reverse.mp member)
        have inTrimmed : segment ∈ rest.reverse.dropWhile isSelf := by
          rw [trimmed]
          exact List.mem_cons_of_mem _ within
        exact List.mem_reverse.mp (List.dropWhile_subset isSelf inTrimmed)
      cases kept : leading.dropWhile isSelf with
      | nil =>
          obtain ⟨nonempty, absolute, pieces⟩ := first_piece_spec split some_rest plain
          simp only [kept]
          rw [if_neg nonempty]
          exact ⟨absolute, pieces.trans (List.append_nil _).symm⟩
      | cons last before =>
          rw [kept] at plainKept
          have some_kept : (last :: before).reverse ≠ [] := by simp
          obtain ⟨nonempty, absolute, pieces⟩ :=
            leading_pieces_spec split some_rest plain plainKept some_kept
          simp only [kept]
          rw [if_neg nonempty]
          exact ⟨absolute, pieces⟩

end CensusNode.Path
