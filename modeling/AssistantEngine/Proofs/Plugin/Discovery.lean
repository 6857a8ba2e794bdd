import AssistantEngine.Plugin.Registry
import AssistantEngine.Proofs.Storage.FileTrees

/-!
Discovery of manifests. What a registry holds after a reload is determined by the files alone: the
first manifest of every id, in the order of the directories and in each of them of the rows of names
that lead to its files. Files of other names, files that do not parse and files too far below
change nothing.
-/

namespace AssistantEngine

variable {files before after : FileSystem} {registry : PluginRegistry} {directory id name : String}
  {directories row place : List String} {content : String} {manifest : PluginManifest}
  {entries : Catalog FileTree} {levels : Nat}

namespace PluginRegistry

/-! ## What is offered -/

/-- The name of a directory some way below a configured one, unless its path ends with no name. -/
def nameBelow? (directory : String) (below : List String) : Option String :=
  below.getLast?.or (Path.fileName? directory)

/-- The id that a manifest goes by in a directory: its own, or else the name of the directory, or
else its display name. -/
def effectiveId (manifest : PluginManifest) (directory : String) (below : List String) : String :=
  if manifest.id = "" then (nameBelow? directory below).getD manifest.displayName
  else manifest.id

/-- A configured directory offers a manifest at the end of a row of names: there is a file with one
of the names of manifests, not too far below, that parses. -/
def Offers (files : FileSystem) (directory : String) (row : List String)
    (manifest : PluginManifest) : Prop :=
  ∃ below name content parsed, row = below ++ [name] ∧ name ∈ manifestNames ∧
    below.length ≤ deepestScan ∧ files.Holds directory row content ∧
    PluginManifest.ofYaml content = .ok parsed ∧
    manifest = { parsed with
      id := effectiveId parsed directory below
      baseDirectory := (Path.parent? (row.foldl Path.join directory)).getD "" }

/-- Rows of names in lexicographic order, in which a walk comes by them that takes the entries of
every directory in the order of their names and enters each before it goes on. -/
def RowBefore : List String → List String → Prop := List.Lex (· < ·)

/-- The first manifest that goes by an id: no directory in front of its own offers one, and its own
offers none at an earlier row of names. -/
def FirstOf (files : FileSystem) (directories : List String) (id : String)
    (manifest : PluginManifest) : Prop :=
  ∃ earlier directory later row, directories = earlier ++ directory :: later ∧
    Offers files directory row manifest ∧ manifest.id = id ∧
    (∀ before ∈ earlier, ∀ other rival, Offers files before other rival → rival.id ≠ id) ∧
    ∀ other rival, Offers files directory other rival → rival.id = id → ¬RowBefore other row

/-! ## The walk -/

theorem rowBefore_irrefl (row : List String) : ¬RowBefore row row := List.lt_irrefl row

theorem RowBefore.trans {first second third : List String} (one : RowBefore first second)
    (other : RowBefore second third) : RowBefore first third :=
  List.lt_trans one other

theorem rowBefore_cons_iff {first second : String} {rows others : List String} :
    RowBefore (first :: rows) (second :: others) ↔
      first < second ∨ first = second ∧ RowBefore rows others :=
  List.cons_lt_cons_iff

/-- What an entry contributes to a walk, if directories are walked in some way. -/
def rowsAt (inside : Catalog FileTree → List (List String × String)) :
    String × FileTree → List (List String × String)
  | (name, .file content) => if manifestNames.contains name then [([name], content)] else []
  | (name, .directory entries) => (inside entries).map fun found => (name :: found.1, found.2)

/-- The files with the names of manifests on some levels, by their rows of names, in the order of
the walk. -/
def rowsWithin : Nat → Catalog FileTree → List (List String × String)
  | 0, _ => []
  | levels + 1, entries => entries.flatMap (rowsAt (rowsWithin levels))

theorem rowsWithin_cons (levels : Nat) (entry : String × FileTree) (entries : Catalog FileTree) :
    rowsWithin (levels + 1) (entry :: entries) =
      rowsAt (rowsWithin levels) entry ++ rowsWithin (levels + 1) entries :=
  List.flatMap_cons

/-- The walk joins the names along each row to the path that it starts from. -/
theorem manifestFilesAmong_eq : ∀ (path : String) (levels : Nat) (entries : Catalog FileTree),
    manifestFilesAmong path levels entries =
      (rowsWithin (levels + 1) entries).map fun found => (found.1.foldl Path.join path, found.2)
  | path, levels, [] => by
      rw [manifestFilesAmong]
      rfl
  | path, levels, (name, .file content) :: rest => by
      rw [manifestFilesAmong, manifestFilesAmong_eq path levels rest, rowsWithin_cons,
        List.map_append, rowsAt]
      split <;> rfl
  | path, 0, (name, .directory inner) :: rest => by
      rw [manifestFilesAmong, manifestFilesAmong_eq path 0 rest, rowsWithin_cons]
      rfl
  | path, levels + 1, (name, .directory inner) :: rest => by
      rw [manifestFilesAmong, manifestFilesAmong_eq path (levels + 1) rest,
        manifestFilesAmong_eq (Path.join path name) levels inner, rowsWithin_cons,
        List.map_append, rowsAt, List.map_map]
      rfl
termination_by _ levels entries => (levels, entries.length)

theorem mem_rowsAt_iff {inside : Catalog FileTree → List (List String × String)} {tree : FileTree} :
    (row, content) ∈ rowsAt inside (name, tree) ↔
      (row = [name] ∧ name ∈ manifestNames ∧ tree = .file content) ∨
        ∃ entries below, tree = .directory entries ∧ row = name :: below ∧
          (below, content) ∈ inside entries := by
  cases tree with
  | file text =>
      rw [rowsAt]
      by_cases named : name ∈ manifestNames <;> simp [named, eq_comm]
  | directory entries =>
      rw [rowsAt, List.mem_map]
      constructor
      · rintro ⟨⟨below, content⟩, member, ⟨⟩⟩
        exact .inr ⟨entries, below, rfl, rfl, member⟩
      · rintro (⟨-, -, ⟨⟩⟩ | ⟨_, below, ⟨⟩, rfl, member⟩)
        exact ⟨_, member, rfl⟩

/-- The rows at an entry begin with its name. -/
theorem exists_cons_of_mem_rowsAt {inside : Catalog FileTree → List (List String × String)}
    {entry : String × FileTree} {found : List String × String}
    (member : found ∈ rowsAt inside entry) : ∃ below, found.1 = entry.1 :: below := by
  rcases mem_rowsAt_iff.mp member with ⟨row, -, -⟩ | ⟨_, below, -, row, -⟩
  · exact ⟨[], row⟩
  · exact ⟨below, row⟩

/-- The rows of a walk are those of files that have the names of manifests and lie on its levels. -/
theorem mem_rowsWithin_iff (wellFormed : (FileTree.directory entries).WellFormed) :
    (row, content) ∈ rowsWithin levels entries ↔
      (∃ below name, row = below ++ [name] ∧ name ∈ manifestNames ∧ below.length < levels) ∧
        (FileTree.directory entries).find? row = some (.file content) := by
  induction levels generalizing entries row with
  | zero => simp [rowsWithin]
  | succ levels induction =>
      obtain ⟨ascending, each⟩ := FileTree.wellFormed_directory_iff.mp wellFormed
      rw [rowsWithin, List.mem_flatMap]
      constructor
      · rintro ⟨⟨name, tree⟩, member, found⟩
        have here := ascending.find?_eq_some_iff.mpr member
        rcases mem_rowsAt_iff.mp found with ⟨rfl, named, rfl⟩ | ⟨inner, rest, rfl, rfl, inside⟩
        · refine ⟨⟨[], name, rfl, named, Nat.succ_pos levels⟩, ?_⟩
          rw [FileTree.find?_directory_cons, here]
          exact FileTree.find?_nil _
        · obtain ⟨⟨below, last, rfl, named, short⟩, found⟩ :=
            (induction (each _ member).2).mp inside
          refine ⟨⟨name :: below, last, rfl, named, Nat.succ_lt_succ short⟩, ?_⟩
          rw [FileTree.find?_directory_cons, here]
          exact found
      · rintro ⟨⟨below, last, rfl, named, short⟩, found⟩
        cases below with
        | nil =>
            rw [List.nil_append, FileTree.find?_directory_cons] at found
            obtain ⟨tree, here, found⟩ := Option.bind_eq_some_iff.mp found
            rw [FileTree.find?_nil, Option.some.injEq] at found
            exact ⟨(last, tree), ascending.find?_eq_some_iff.mp here,
              mem_rowsAt_iff.mpr (.inl ⟨rfl, named, found⟩)⟩
        | cons name below =>
            rw [List.cons_append, FileTree.find?_directory_cons] at found
            obtain ⟨tree, here, found⟩ := Option.bind_eq_some_iff.mp found
            have member := ascending.find?_eq_some_iff.mp here
            obtain ⟨inner, rfl⟩ : ∃ inner, tree = .directory inner := by
              cases below <;> exact FileTree.exists_directory_of_find?_cons found
            exact ⟨_, member, mem_rowsAt_iff.mpr (.inr ⟨inner, _, rfl, rfl,
              (induction (each _ member).2).mpr
                ⟨⟨below, last, rfl, named, Nat.lt_of_succ_lt_succ short⟩, found⟩⟩)⟩

/-- A walk goes along in lexicographic order. -/
theorem pairwise_rowsWithin (wellFormed : (FileTree.directory entries).WellFormed) :
    (rowsWithin levels entries).Pairwise fun first second => RowBefore first.1 second.1 := by
  induction levels generalizing entries with
  | zero => exact List.Pairwise.nil
  | succ levels induction =>
      obtain ⟨ascending, each⟩ := FileTree.wellFormed_directory_iff.mp wellFormed
      refine List.pairwise_flatMap.mpr ⟨?_, ascending.imp ?_⟩
      · rintro ⟨name, tree⟩ member
        cases tree with
        | file content =>
            rw [rowsAt]
            split <;> simp
        | directory inner =>
            refine List.pairwise_map.mpr ((induction (each _ member).2).imp fun less => ?_)
            exact rowBefore_cons_iff.mpr (.inr ⟨rfl, less⟩)
      · intro one other less first early second late
        obtain ⟨below, early⟩ := exists_cons_of_mem_rowsAt early
        obtain ⟨further, late⟩ := exists_cons_of_mem_rowsAt late
        rw [early, late]
        exact rowBefore_cons_iff.mpr (.inl less)

/-! ## What is discovered -/

/-- The manifest of a file that was found in a directory, if it parses. -/
def offered? (directory : String) (found : List String × String) : Option PluginManifest :=
  manifestAt? (found.1.foldl Path.join directory, found.2)

theorem filesIn_eq (files : FileSystem) (directory : String) :
    filesIn files directory = (rowsWithin (deepestScan + 1) (files.listing directory)).map
      fun found => (found.1.foldl Path.join directory, found.2) := by
  unfold filesIn FileSystem.listing
  cases files.find? directory with
  | none => rfl
  | some tree =>
      cases tree with
      | file content => simp [manifestFiles, FileTree.entries, rowsWithin]
      | directory entries =>
          simpa [manifestFiles, FileTree.entries] using
            manifestFilesAmong_eq directory deepestScan entries

theorem discovered_eq (files : FileSystem) (directories : List String) :
    discovered files directories = directories.flatMap fun directory =>
      (rowsWithin (deepestScan + 1) (files.listing directory)).filterMap (offered? directory) := by
  simp only [discovered, List.filterMap_flatMap, filesIn_eq, List.filterMap_map]
  rfl

/-- The path along a row of names comes to the directory that the row is joined to, and goes on
along the row. -/
theorem names_foldl_join (path : String) (named : ∀ name ∈ row, FileName name) :
    Path.names (row.foldl Path.join path) = Path.names path ++ row := by
  induction row generalizing path with
  | nil => simp
  | cons name row induction =>
      obtain ⟨here, later⟩ := List.forall_mem_cons.mp named
      rw [List.foldl_cons, induction _ later, Path.names_join path here, List.append_assoc,
        List.singleton_append]

/-- The name of the directory that a file lies in. -/
theorem fileName?_parent (directory : String) {below : List String}
    (above : ∀ name ∈ below, FileName name) (named : FileName name) :
    Path.fileName? ((Path.parent? ((below ++ [name]).foldl Path.join directory)).getD "") =
      nameBelow? directory below := by
  have along : Path.names ((Path.parent? ((below ++ [name]).foldl Path.join directory)).getD "") =
      Path.names directory ++ below := by
    rw [List.foldl_concat, Path.names_parent?_join _ named, names_foldl_join directory above]
  unfold Path.fileName? nameBelow?
  rw [along, List.getLast?_append]
  cases last : below.getLast? with
  | none => rfl
  | some name => simp [(above name (List.mem_of_getLast? last)).notAbove]

theorem atPath_eq (parsed : PluginManifest) (directory : String) {below : List String}
    (above : ∀ name ∈ below, FileName name) (named : FileName name) :
    parsed.atPath ((below ++ [name]).foldl Path.join directory) =
      { parsed with
        id := effectiveId parsed directory below
        baseDirectory :=
          (Path.parent? ((below ++ [name]).foldl Path.join directory)).getD "" } := by
  rw [PluginManifest.atPath, fileName?_parent directory above named, effectiveId]
  simp

theorem offered?_eq_some_iff {below : List String} (above : ∀ name ∈ below, FileName name)
    (named : FileName name) : offered? directory (below ++ [name], content) = some manifest ↔
      ∃ parsed, PluginManifest.ofYaml content = .ok parsed ∧
        manifest = { parsed with
          id := effectiveId parsed directory below
          baseDirectory :=
            (Path.parent? ((below ++ [name]).foldl Path.join directory)).getD "" } := by
  unfold offered? manifestAt?
  cases parses : PluginManifest.ofYaml content with
  | error fault => simp
  | ok parsed =>
      simp only [atPath_eq parsed directory above named, Except.ok.injEq, exists_eq_left',
        Option.some.injEq]
      exact eq_comm

/-- What a directory offers are the manifests of the files of its walk. -/
theorem offers_iff (wellFormed : files.WellFormed) :
    Offers files directory row manifest ↔
      ∃ content, (row, content) ∈ rowsWithin (deepestScan + 1) (files.listing directory) ∧
        offered? directory (row, content) = some manifest := by
  have inside := wellFormed.listing directory
  constructor
  · rintro ⟨below, name, content, parsed, rfl, named, short, held, parses⟩
    have present : (FileTree.directory (files.listing directory)).find? (below ++ [name]) =
        some (.file content) := by
      cases below <;> exact FileSystem.find?_listing_iff.mpr held
    obtain ⟨above, last⟩ := List.forall_mem_append.mp (inside.named present)
    refine ⟨content, (mem_rowsWithin_iff inside).mpr
      ⟨⟨below, name, rfl, named, Nat.lt_succ_of_le short⟩, present⟩, ?_⟩
    exact (offered?_eq_some_iff above (last name (List.mem_singleton_self name))).mpr
      ⟨parsed, parses⟩
  · rintro ⟨content, member, offered⟩
    obtain ⟨⟨below, name, rfl, named, short⟩, present⟩ := (mem_rowsWithin_iff inside).mp member
    obtain ⟨above, last⟩ := List.forall_mem_append.mp (inside.named present)
    have held : files.Holds directory (below ++ [name]) content := by
      cases below <;> exact FileSystem.find?_listing_iff.mp present
    obtain ⟨parsed, parses⟩ :=
      (offered?_eq_some_iff above (last name (List.mem_singleton_self name))).mp offered
    exact ⟨below, name, content, parsed, rfl, named, Nat.le_of_lt_succ short, held, parses⟩

/-! ## What one directory offers first -/

/-- The first manifest of a walk that goes by an id. -/
theorem find?_offered_eq_some_iff (wellFormed : files.WellFormed) :
    ((rowsWithin (deepestScan + 1) (files.listing directory)).filterMap
        (offered? directory)).find? (·.id = id) = some manifest ↔
      ∃ row, Offers files directory row manifest ∧ manifest.id = id ∧
        ∀ other rival, Offers files directory other rival → rival.id = id →
          ¬RowBefore other row := by
  have ordered : (rowsWithin (deepestScan + 1) (files.listing directory)).Pairwise
      fun first second => RowBefore first.1 second.1 :=
    pairwise_rowsWithin (wellFormed.listing directory)
  rw [← List.head?_filter, List.filter_filterMap, List.head?_filterMap,
    findSome?_filter_eq_some_iff RowBefore ordered rowBefore_irrefl RowBefore.trans]
  simp only [← offers_iff wellFormed, decide_eq_true_eq]

theorem find?_offered_eq_none_iff (wellFormed : files.WellFormed) :
    ((rowsWithin (deepestScan + 1) (files.listing directory)).filterMap
        (offered? directory)).find? (·.id = id) = none ↔
      ∀ row manifest, Offers files directory row manifest → manifest.id ≠ id := by
  rw [List.find?_eq_none]
  simp only [List.mem_filterMap, Prod.exists, decide_eq_true_eq, offers_iff wellFormed]
  constructor
  · rintro none row manifest ⟨content, member, offered⟩
    exact none manifest ⟨row, content, member, offered⟩
  · rintro none manifest ⟨row, content, member, offered⟩
    exact none row manifest ⟨content, member, offered⟩

/-! ## The first of each id -/

theorem firstOfEach_concat (manifests : List PluginManifest) (last : PluginManifest) :
    firstOfEach (manifests ++ [last]) = (firstOfEach manifests).insertNew last.id last :=
  List.foldl_append

/-- Of several manifests with one id the first one is kept. -/
theorem find?_firstOfEach (manifests : List PluginManifest) (id : String) :
    (firstOfEach manifests).find? id = manifests.find? (·.id = id) := by
  induction manifests using List.reverseRecOn with
  | nil => rfl
  | append_singleton manifests last induction =>
      rw [firstOfEach_concat, Catalog.find?_insertNew, induction, List.find?_append]
      by_cases same : last.id = id <;> simp [same]

theorem ascending_firstOfEach (manifests : List PluginManifest) :
    (firstOfEach manifests).Ascending := by
  induction manifests using List.reverseRecOn with
  | nil => exact Catalog.ascending_nil
  | append_singleton manifests last induction =>
      rw [firstOfEach_concat]
      exact induction.insertNew last.id last

/-- What is kept stands under its id. -/
theorem id_of_firstOfEach {manifests : List PluginManifest}
    (found : (firstOfEach manifests).find? id = some manifest) : manifest.id = id := by
  rw [find?_firstOfEach] at found
  simpa using List.find?_some found

theorem id_of_mem_firstOfEach {manifests : List PluginManifest} {entry : String × PluginManifest}
    (member : entry ∈ firstOfEach manifests) : entry.2.id = entry.1 :=
  id_of_firstOfEach ((ascending_firstOfEach manifests).find?_eq_some_iff.mpr member)

/-! ## Reloads -/

theorem find?_reload (registry : PluginRegistry) (files : FileSystem) (id : String) :
    (registry.reload files).find? id = registry.directories.findSome? fun directory =>
      ((rowsWithin (deepestScan + 1) (files.listing directory)).filterMap
        (offered? directory)).find? (·.id = id) := by
  unfold reload find?
  rw [find?_firstOfEach, discovered_eq, List.find?_flatMap]

theorem find?_reload_eq_some_iff (wellFormed : files.WellFormed) :
    (registry.reload files).find? id = some manifest ↔
      FirstOf files registry.directories id manifest := by
  rw [find?_reload, List.findSome?_eq_some_iff]
  simp only [find?_offered_eq_some_iff wellFormed, find?_offered_eq_none_iff wellFormed]
  constructor
  · rintro ⟨earlier, directory, later, whole, ⟨row, offers, named, least⟩, none⟩
    exact ⟨earlier, directory, later, row, whole, offers, named, none, least⟩
  · rintro ⟨earlier, directory, later, row, whole, offers, named, none, least⟩
    exact ⟨earlier, directory, later, whole, ⟨row, offers, named, least⟩, none⟩

theorem find?_reload_eq_none_iff (wellFormed : files.WellFormed) :
    (registry.reload files).find? id = none ↔ ∀ directory ∈ registry.directories,
      ∀ row manifest, Offers files directory row manifest → manifest.id ≠ id := by
  rw [find?_reload, List.findSome?_eq_none_iff]
  simp only [find?_offered_eq_none_iff wellFormed]

/-- A list shows every manifest under its id. -/
theorem list_ids_reload (registry : PluginRegistry) (files : FileSystem) :
    (registry.reload files).list.map (·.id) = (registry.reload files).manifests.keys := by
  rw [list, Catalog.values, Catalog.keys, List.map_map]
  exact List.map_congr_left fun entry member => id_of_mem_firstOfEach member

theorem mem_list_reload_iff :
    manifest ∈ (registry.reload files).list ↔
      (registry.reload files).find? manifest.id = some manifest := by
  constructor
  · intro listed
    obtain ⟨entry, member, rfl⟩ := List.mem_map.mp listed
    rw [id_of_mem_firstOfEach member]
    exact (ascending_firstOfEach _).find?_eq_some_iff.mpr member
  · exact Catalog.mem_values_of_find?

/-! ## What changes no answer -/

/-- A file is none that is discovered: it does not parse, has no name of manifests, or lies too far
below every configured directory. -/
inductive Aside (files : FileSystem) (directories : List String) (place : List String)
    (content : String) : Prop
  | unparsable (fails : ∀ parsed, PluginManifest.ofYaml content ≠ .ok parsed)
  | otherName (other : ∀ name ∈ place.getLast?, name ∉ manifestNames)
  | deeper (apart : ∀ directory ∈ directories, ∀ base below name,
      files.row? directory = some base → place = base ++ (below ++ [name]) →
        deepestScan < below.length)

section

variable (aside : Aside before directories place content) (gains : before.Gains after place content)

include aside gains

theorem Aside.offers_iff (configured : directory ∈ directories) :
    Offers after directory row manifest ↔ Offers before directory row manifest := by
  constructor
  · rintro ⟨below, name, text, parsed, rfl, named, short, held, parses, whole⟩
    rcases gains.holds_iff.mp held with older | ⟨base, leads, rfl, rfl⟩
    · exact ⟨below, name, text, parsed, rfl, named, short, older, parses, whole⟩
    -- The new file offers nothing.
    · cases aside with
      | unparsable fails => exact absurd parses (fails parsed)
      | otherName other =>
          rw [← List.append_assoc, List.getLast?_concat] at other
          exact absurd named (other name rfl)
      | deeper apart =>
          have far := apart directory configured base below name leads rfl
          exact absurd short (Nat.not_le.mpr far)
  · rintro ⟨below, name, text, parsed, whole, named, short, held, rest⟩
    exact ⟨below, name, text, parsed, whole, named, short, gains.holds_iff.mpr (.inl held), rest⟩

end

/-- What is first is so by what the configured directories offer. -/
theorem FirstOf.congr (first : FirstOf before directories id manifest)
    (same : ∀ directory ∈ directories, ∀ row manifest,
      Offers after directory row manifest ↔ Offers before directory row manifest) :
    FirstOf after directories id manifest := by
  obtain ⟨earlier, directory, later, row, rfl, offers, named, none, least⟩ := first
  have configured : directory ∈ earlier ++ directory :: later :=
    List.mem_append_right _ List.mem_cons_self
  refine ⟨earlier, directory, later, row, rfl, (same _ configured _ _).mpr offers, named, ?_, ?_⟩
  · intro front member other rival offers
    exact none front member other rival
      ((same _ (List.mem_append_left _ member) _ _).mp offers)
  · intro other rival offers
    exact least other rival ((same _ configured _ _).mp offers)

theorem Aside.reload_eq (aside : Aside before registry.directories place content)
    (gains : before.Gains after place content) (one : before.WellFormed)
    (other : after.WellFormed) : registry.reload after = registry.reload before := by
  have same : ∀ directory ∈ registry.directories, ∀ row manifest,
      Offers after directory row manifest ↔ Offers before directory row manifest :=
    fun _ configured _ _ => aside.offers_iff gains configured
  have catalogs : (registry.reload after).manifests = (registry.reload before).manifests := by
    apply (ascending_firstOfEach _).ext (ascending_firstOfEach _)
    intro id
    apply Option.ext
    intro manifest
    change (registry.reload after).find? id = _ ↔ (registry.reload before).find? id = _
    rw [find?_reload_eq_some_iff one, find?_reload_eq_some_iff other]
    exact ⟨fun first => first.congr fun directory configured row manifest =>
      (same directory configured row manifest).symm, fun first => first.congr same⟩
  exact congrArg (PluginRegistry.mk registry.directories) catalogs

/-! ## Discovery -/

/-- A reload fills a registry anew, whatever it held. Under an id is found the first manifest that
goes by it, or nothing if no directory offers one; the list shows each of these once, by ascending
ids, and the size is their number. A file that is added aside, or was there and is removed, changes
nothing. -/
theorem reload_discovers (wellFormed : files.WellFormed) (registry : PluginRegistry) :
    (∀ id manifest, (registry.reload files).find? id = some manifest ↔
      FirstOf files registry.directories id manifest) ∧
    (∀ id, (registry.reload files).find? id = none ↔ ∀ directory ∈ registry.directories,
      ∀ row manifest, Offers files directory row manifest → manifest.id ≠ id) ∧
    ((registry.reload files).list.map (·.id)).Pairwise (· < ·) ∧
    (∀ manifest, manifest ∈ (registry.reload files).list ↔
      FirstOf files registry.directories manifest.id manifest) ∧
    (registry.reload files).size = (registry.reload files).list.length ∧
    ∀ others place content, others.WellFormed → files.Gains others place content →
      Aside files registry.directories place content →
        registry.reload others = registry.reload files := by
  refine ⟨fun _ _ => find?_reload_eq_some_iff wellFormed,
    fun _ => find?_reload_eq_none_iff wellFormed, ?_, fun _ => ?_, ?_, ?_⟩
  · rw [list_ids_reload]
    exact List.pairwise_map.mpr (ascending_firstOfEach _)
  · rw [mem_list_reload_iff, find?_reload_eq_some_iff wellFormed]
  · exact (List.length_map _).symm
  · intro others place content later gains aside
    exact aside.reload_eq gains wellFormed later

/-- A manifest without an id. -/
def weatherText (url : String) : String :=
  "display_name: Weather\nexecution:\n  mode: remote\n  url: " ++ url ++ "\n"

def weather (id directory url : String) : PluginManifest where
  id := id
  displayName := "Weather"
  execution := { mode := .remote, url := some url }
  baseDirectory := directory

/-- Two manifests without ids, in directories of one name, and a file between them that does not
parse. -/
def stockFiles : FileSystem :=
  ((({} : FileSystem).write "/own/weather/plugin.yml" (weatherText "http://own")).write
    "/shared/maps/plugin.json" "id: [").write "/shared/weather/plugin.yaml"
      (weatherText "http://shared")

def stockRegistry : PluginRegistry where
  directories := ["/own", "/shared"]
  manifests := [("weather", weather "weather" "/old" "http://old")]

theorem wellFormed_stockFiles : stockFiles.WellFormed :=
  ((FileSystem.wellFormed_empty.edited (.write _ _)).edited (.write _ _)).edited (.write _ _)

/-- The manifest of the first directory is found, also when the file that does not parse is
removed. -/
theorem reload_discovers_stock :
    let removed := stockFiles.remove "/shared/maps/plugin.json"
    let found := weather "weather" "/own/weather" "http://own"
    stockFiles.WellFormed ∧ FirstOf stockFiles ["/own", "/shared"] "weather" found ∧
      (stockRegistry.reload stockFiles).list = [found] ∧
      removed.Gains stockFiles ["shared", "maps", "plugin.json"] "id: [" ∧
      stockRegistry.reload stockFiles = stockRegistry.reload removed := by
  obtain ⟨-, -, -, listed, -⟩ := reload_discovers wellFormed_stockFiles stockRegistry
  have removal := reload_discovers
    (wellFormed_stockFiles.edited (.remove "/shared/maps/plugin.json")) stockRegistry
  have gains : (stockFiles.remove "/shared/maps/plugin.json").Gains stockFiles
      ["shared", "maps", "plugin.json"] "id: [" :=
    FileSystem.gains_remove (by decide +kernel) (List.cons_ne_nil _ _) rfl
  have fails : ∀ parsed, PluginManifest.ofYaml "id: [" ≠ .ok parsed := by
    have none : (PluginManifest.ofYaml "id: [").toOption = none := by decide +kernel
    intro parsed parses
    rw [parses] at none
    cases none
  have list : (stockRegistry.reload stockFiles).list =
      [weather "weather" "/own/weather" "http://own"] := by
    have discovered : discovered stockFiles ["/own", "/shared"] =
        [weather "weather" "/own/weather" "http://own",
          weather "weather" "/shared/weather" "http://shared"] := by
      rw [discovered_eq]
      decide +kernel
    rw [reload, stockRegistry, discovered]
    rfl
  refine ⟨wellFormed_stockFiles, (listed _).mp ?_, list, gains, ?_⟩
  · rw [list]
    exact List.mem_singleton_self _
  · exact removal.2.2.2.2.2 _ _ _ wellFormed_stockFiles gains (.unparsable fails)

/-- One manifest without an id, beside an empty directory. -/
def bareFiles : FileSystem :=
  (({} : FileSystem).write "/plugins/plugin.yaml" (weatherText "http://own")).makeDirectory
    "/plugins/x"

/-- A directory that is configured by a path without a last name does not give its name to a
manifest without an id: what lies in it goes by the display name. -/
theorem reload_by_displayName :
    bareFiles.WellFormed ∧ bareFiles.row? "/plugins/x/.." = some ["plugins"] ∧
      bareFiles.Holds "/plugins/x/.." ["plugin.yaml"] (weatherText "http://own") ∧
      (PluginManifest.ofYaml (weatherText "http://own")).toOption =
        some (weather "" "" "http://own") ∧
      (load bareFiles ["/plugins/x/.."]).find? "plugins" = none ∧
      (load bareFiles ["/plugins/x/.."]).find? "Weather" =
        some (weather "Weather" "/plugins/x/.." "http://own") := by
  refine ⟨(FileSystem.wellFormed_empty.edited (.write _ _)).edited (.makeDirectory _),
    by decide +kernel, ⟨["plugins"], by decide +kernel, rfl⟩, by decide +kernel, ?_, ?_⟩
  · rw [load, find?_reload]
    decide +kernel
  · rw [load, find?_reload]
    decide +kernel

end PluginRegistry
end AssistantEngine
