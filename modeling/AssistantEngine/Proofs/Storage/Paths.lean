import AssistantEngine.Storage.Path

/-!
Names along paths. A path that is joined with a name goes along the names that it went along before,
and then along this one; its parent goes along the names from before.
-/

namespace AssistantEngine

/-- What an entry of a directory may be called. -/
structure FileName (name : String) : Prop where
  something : name ≠ ""
  single : '/' ∉ name.toList
  notHere : name ≠ "."
  notAbove : name ≠ ".."

namespace Path

variable {name : String} {characters : List Char}

/-! ## Between slashes -/

theorem split_slash (rest : List Char) : split ('/' :: rest) = [] :: split rest := rfl

theorem split_ne_nil (path : List Char) : split path ≠ [] := by
  cases path with
  | nil => exact List.cons_ne_nil _ _
  | cons character path =>
      by_cases slash : character = '/'
      · subst slash
        exact List.cons_ne_nil _ _
      · simp only [split, List.foldr_cons, if_neg slash]
        split <;> exact List.cons_ne_nil _ _

theorem split_cons {character : Char} (plain : character ≠ '/') {path first : List Char}
    {later : List (List Char)} (rest : split path = first :: later) :
    split (character :: path) = (character :: first) :: later := by
  unfold split at rest ⊢
  rw [List.foldr_cons, if_neg plain, rest]

theorem split_append_slash (front rest : List Char) :
    split (front ++ '/' :: rest) = split front ++ split rest := by
  induction front with
  | nil => rfl
  | cons character front induction =>
      by_cases slash : character = '/'
      · subst slash
        rw [List.cons_append, split_slash, split_slash, induction, List.cons_append]
      · cases parts : split front with
        | nil => exact absurd parts (split_ne_nil front)
        | cons first later =>
            rw [parts] at induction
            rw [List.cons_append, split_cons slash induction, split_cons slash parts]
            rfl

theorem split_of_single (single : '/' ∉ characters) : split characters = [characters] := by
  induction characters with
  | nil => rfl
  | cons character characters induction =>
      rw [List.mem_cons, not_or] at single
      exact split_cons (Ne.symm single.1) (induction single.2)

theorem not_mem_of_mem_split {path part : List Char} (member : part ∈ split path) :
    '/' ∉ part := by
  induction path generalizing part with
  | nil =>
      cases List.mem_singleton.mp member
      exact List.not_mem_nil
  | cons character path induction =>
      by_cases slash : character = '/'
      · subst slash
        rcases List.mem_cons.mp member with rfl | later
        · exact List.not_mem_nil
        · exact induction later
      · cases parts : split path with
        | nil => exact absurd parts (split_ne_nil path)
        | cons first later =>
            rw [split_cons slash parts] at member
            rw [parts] at induction
            rcases List.mem_cons.mp member with rfl | behind
            · rw [List.mem_cons, not_or]
              exact ⟨Ne.symm slash, induction List.mem_cons_self⟩
            · exact induction (List.mem_cons_of_mem _ behind)

/-! ## Names -/

theorem names_append_slash (front rest : List Char) :
    names (String.ofList (front ++ '/' :: rest)) =
      names (String.ofList front) ++ names (String.ofList rest) := by
  simp only [names, String.toList_ofList, split_append_slash, List.filter_append, List.map_append]

theorem mem_names {path name : String} (member : name ∈ names path) :
    name ≠ "" ∧ '/' ∉ name.toList ∧ name ≠ "." := by
  obtain ⟨part, kept, rfl⟩ := List.mem_map.mp member
  obtain ⟨between, something⟩ := List.mem_filter.mp kept
  simp only [Bool.not_eq_true', Bool.or_eq_false_iff, beq_eq_false_iff_ne] at something
  refine ⟨?_, ?_, ?_⟩
  · simpa using something.1
  · simpa using not_mem_of_mem_split between
  · intro same
    apply something.2
    rw [← String.toList_ofList (l := part), same]
    rfl

/-- A name that an entry can have is a path along itself. -/
theorem names_of_fileName (named : FileName name) : names name = [name] := by
  have something : name.toList ≠ [] := by simpa using named.something
  have notHere : name.toList ≠ ['.'] := fun same =>
    named.notHere (String.toList_inj.mp (same.trans rfl))
  rw [names, split_of_single named.single,
    List.filter_cons_of_pos (by simp [something, notHere])]
  simp

theorem isAbsolute_of_fileName (named : FileName name) : isAbsolute name = false := by
  unfold isAbsolute
  cases characters : name.toList with
  | nil => rfl
  | cons first rest =>
      have single := named.single
      rw [characters, List.mem_cons, not_or] at single
      simpa using Ne.symm single.1

/-- A joined path is the name alone, or has a slash in front of it. -/
theorem join_cases (base : String) (named : FileName name) :
    base = "" ∧ join base name = name ∨
      ∃ front, join base name = String.ofList (front ++ '/' :: name.toList) ∧
        names (String.ofList front) = names base := by
  simp only [join, isAbsolute_of_fileName named, Bool.false_or]
  by_cases empty : base = ""
  · exact .inl ⟨empty, by simp [empty]⟩
  · rw [if_neg (by simpa using empty)]
    right
    split
    · rename_i ends
      have slash : base.toList.getLast? = some '/' := by simpa using ends
      obtain ⟨front, whole⟩ := List.getLast?_eq_some_iff.mp slash
      refine ⟨front, String.toList_inj.mp (by simp [whole]), ?_⟩
      have joined := names_append_slash front []
      rw [← whole, String.ofList_toList] at joined
      rw [joined, show names (String.ofList []) = [] from rfl, List.append_nil]
    · exact ⟨base.toList, String.toList_inj.mp (by simp), by rw [String.ofList_toList]⟩

theorem names_join (base : String) (named : FileName name) :
    names (join base name) = names base ++ [name] := by
  rcases join_cases base named with ⟨rfl, joined⟩ | ⟨front, joined, same⟩
  · rw [joined, names_of_fileName named]
    rfl
  · rw [joined, names_append_slash, String.ofList_toList, same, names_of_fileName named]

/-! ## Parents -/

/-- What is trimmed from the end of a path names nothing. -/
theorem names_trimReversed (reversed : List Char) :
    names (String.ofList (trimReversed reversed).reverse) =
      names (String.ofList reversed.reverse) := by
  fun_induction trimReversed reversed with
  | case1 rest induction =>
      rw [induction, List.reverse_cons, names_append_slash]
      exact (List.append_nil _).symm
  | case2 rest induction =>
      rw [induction, List.reverse_cons, List.reverse_cons, List.append_assoc]
      exact ((names_append_slash rest.reverse ['.']).trans (List.append_nil _)).symm
  | case3 other => rfl

/-- Nothing is trimmed behind a name that an entry can have. -/
theorem trimReversed_of_fileName (named : FileName name) (rest : List Char) :
    trimReversed (name.toList.reverse ++ rest) = name.toList.reverse ++ rest := by
  cases reversed : name.toList.reverse with
  | nil => exact absurd (by simpa using reversed) named.something
  | cons first later =>
      have single : '/' ∉ first :: later := by
        rw [← reversed, List.mem_reverse]
        exact named.single
      apply trimReversed.eq_3
      · intro after same
        rw [(List.cons.inj same).1] at single
        exact single List.mem_cons_self
      · intro after same
        obtain ⟨dot, behind⟩ := List.cons.inj same
        cases later with
        | nil =>
            rw [dot] at reversed
            exact named.notHere (String.toList_inj.mp (List.reverse_eq_iff.mp reversed))
        | cons second later =>
            rw [(List.cons.inj behind).1] at single
            exact single (List.mem_cons_of_mem _ List.mem_cons_self)

theorem dropWhile_slash (named : FileName name) (rest : List Char) :
    (name.toList.reverse ++ rest).dropWhile (· ≠ '/') = rest.dropWhile (· ≠ '/') := by
  apply List.dropWhile_append_of_pos
  intro character member
  have different : character ≠ '/' := by
    rintro rfl
    exact named.single (List.mem_reverse.mp member)
  simpa using different

/-- The parent of a joined path goes along the names that were joined to. -/
theorem names_parent?_join (base : String) (named : FileName name) :
    names ((parent? (join base name)).getD "") = names base := by
  have something : (name.toList.reverse ++ ([] : List Char)).isEmpty = false := by
    simpa using named.something
  rcases join_cases base named with ⟨rfl, joined⟩ | ⟨front, joined, same⟩
  · have alone : name.toList.reverse = name.toList.reverse ++ [] := (List.append_nil _).symm
    rw [joined, parent?, alone, trimReversed_of_fileName named, dropWhile_slash named]
    dsimp only
    rw [something]
    rfl
  · have reversed : (String.ofList (front ++ '/' :: name.toList)).toList.reverse =
        name.toList.reverse ++ '/' :: front.reverse := by simp
    have nonempty : (name.toList.reverse ++ '/' :: front.reverse).isEmpty = false := by simp
    have trimmed := names_trimReversed front.reverse
    rw [List.reverse_reverse, same] at trimmed
    rw [joined, parent?, reversed, trimReversed_of_fileName named, dropWhile_slash named, ← trimmed]
    dsimp only
    rw [nonempty]
    -- A parent of which nothing is left is the top.
    change names (Option.getD (if (trimReversed front.reverse).isEmpty && true then some "/"
      else some (String.ofList (trimReversed front.reverse).reverse)) "") = _
    cases trimReversed front.reverse <;> rfl

end Path
end AssistantEngine
