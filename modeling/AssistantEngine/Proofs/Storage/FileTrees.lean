import AssistantEngine.Proofs.Catalog
import AssistantEngine.Proofs.Storage.Paths
import AssistantEngine.Storage.FileTree

/-!
Trees of files that are edited, and where paths lead in them. Every edit keeps the entries of all
directories in order and under names that entries can have. Where a file is added or removed,
everything else stays what it was, so that a path to a directory leads where it led before.
-/

namespace AssistantEngine

namespace FileTree

variable {tree new found before after : FileTree} {name content : String} {row rest : List String}

/-! ## Rows of names -/

@[simp] theorem find?_nil (tree : FileTree) : tree.find? [] = some tree := by
  cases tree <;> rfl

theorem find?_cons (tree : FileTree) (name : String) (rest : List String) :
    tree.find? (name :: rest) = (Catalog.find? tree.entries name).bind (·.find? rest) := by
  cases tree with
  | file content => rfl
  | directory entries =>
      rw [find?, FileTree.entries]
      cases Catalog.find? entries name <;> rfl

theorem find?_append (tree : FileTree) (row rest : List String) :
    tree.find? (row ++ rest) = (tree.find? row).bind (·.find? rest) := by
  induction row generalizing tree with
  | nil => simp
  | cons name row induction =>
      rw [List.cons_append, find?_cons, find?_cons]
      cases Catalog.find? tree.entries name with
      | none => rfl
      | some below => exact induction below

theorem find?_file_cons (content name : String) (rest : List String) :
    (file content).find? (name :: rest) = none := rfl

theorem find?_directory_cons (entries : Catalog FileTree) (name : String) (rest : List String) :
    (directory entries).find? (name :: rest) =
      (Catalog.find? entries name).bind (·.find? rest) :=
  find?_cons _ _ _

/-- Only directories have something in them. -/
theorem exists_directory_of_find?_cons (present : tree.find? (name :: rest) = some found) :
    ∃ entries, tree = directory entries := by
  cases tree with
  | file content => cases present
  | directory entries => exact ⟨entries, rfl⟩

/-! ## Order -/

/-- The entries of every directory are in ascending order and have names that entries can have. -/
def WellFormed (tree : FileTree) : Prop :=
  ∀ row entries, tree.find? row = some (.directory entries) →
    Catalog.Ascending entries ∧ ∀ entry ∈ entries, FileName entry.1

theorem wellFormed_file (content : String) : (file content).WellFormed := by
  intro row entries found
  cases row <;> simp [find?] at found

theorem wellFormed_directory_iff {entries : Catalog FileTree} : (directory entries).WellFormed ↔
    Catalog.Ascending entries ∧ ∀ entry ∈ entries, FileName entry.1 ∧ entry.2.WellFormed := by
  constructor
  · intro wellFormed
    obtain ⟨ascending, named⟩ := wellFormed [] entries rfl
    refine ⟨ascending, fun entry member => ⟨named entry member, fun row inner found => ?_⟩⟩
    apply wellFormed (entry.1 :: row) inner
    rw [find?_cons, FileTree.entries, ascending.find?_eq_some_iff.mpr member]
    exact found
  · rintro ⟨ascending, each⟩ row inner found
    cases row with
    | nil =>
        cases found
        exact ⟨ascending, fun entry member => (each entry member).1⟩
    | cons name row =>
        rw [find?_cons] at found
        obtain ⟨below, present, found⟩ := Option.bind_eq_some_iff.mp found
        exact (each _ (Catalog.mem_of_find? present)).2 row inner found

theorem wellFormed_empty : empty.WellFormed :=
  wellFormed_directory_iff.mpr ⟨Catalog.ascending_nil, nofun⟩

theorem WellFormed.entries (wellFormed : tree.WellFormed) :
    Catalog.Ascending tree.entries ∧
      ∀ entry ∈ tree.entries, FileName entry.1 ∧ entry.2.WellFormed := by
  cases tree with
  | file content => exact ⟨Catalog.ascending_nil, nofun⟩
  | directory entries => exact wellFormed_directory_iff.mp wellFormed

theorem WellFormed.find? (wellFormed : tree.WellFormed)
    (present : tree.find? row = some found) : found.WellFormed := by
  intro rest inner below
  apply wellFormed (row ++ rest) inner
  rw [find?_append, present]
  exact below

/-- What is found has a proper name all the way down. -/
theorem WellFormed.named (wellFormed : tree.WellFormed) (present : tree.find? row = some found) :
    ∀ name ∈ row, FileName name := by
  induction row generalizing tree with
  | nil => nofun
  | cons name row induction =>
      rw [find?_cons] at present
      obtain ⟨below, here, present⟩ := Option.bind_eq_some_iff.mp present
      obtain ⟨named, inner⟩ := wellFormed.entries.2 _ (Catalog.mem_of_find? here)
      exact List.forall_mem_cons.mpr ⟨named, induction inner present⟩

/-- What lies under a name, or else an empty directory. -/
theorem WellFormed.below (wellFormed : tree.WellFormed) (name : String) :
    ((Catalog.find? tree.entries name).getD empty).WellFormed := by
  cases present : Catalog.find? tree.entries name with
  | none => exact wellFormed_empty
  | some below => exact (wellFormed.entries.2 _ (Catalog.mem_of_find? present)).2

theorem WellFormed.insert (wellFormed : tree.WellFormed) (named : FileName name)
    (inner : new.WellFormed) : (directory (Catalog.insert tree.entries name new)).WellFormed := by
  obtain ⟨ascending, each⟩ := wellFormed.entries
  refine wellFormed_directory_iff.mpr ⟨ascending.insert name new, fun entry member => ?_⟩
  rcases Catalog.mem_insert member with rfl | older
  · exact ⟨named, inner⟩
  · exact each entry older

theorem WellFormed.erase (wellFormed : tree.WellFormed) (name : String) :
    (directory (Catalog.erase tree.entries name)).WellFormed := by
  obtain ⟨ascending, each⟩ := wellFormed.entries
  exact wellFormed_directory_iff.mpr
    ⟨ascending.erase name, fun entry member => each entry (List.mem_of_mem_filter member)⟩

theorem WellFormed.place (wellFormed : tree.WellFormed) (inner : new.WellFormed)
    (named : ∀ name ∈ row, FileName name) : (tree.place row new).WellFormed := by
  induction row generalizing tree with
  | nil => simpa [FileTree.place] using inner
  | cons name row induction =>
      obtain ⟨here, later⟩ := List.forall_mem_cons.mp named
      rw [FileTree.place]
      exact wellFormed.insert here (induction (wellFormed.below name) later)

theorem WellFormed.makeDirectory (wellFormed : tree.WellFormed)
    (named : ∀ name ∈ row, FileName name) : (tree.makeDirectory row).WellFormed := by
  induction row generalizing tree with
  | nil => simpa [FileTree.makeDirectory] using wellFormed
  | cons name row induction =>
      obtain ⟨here, later⟩ := List.forall_mem_cons.mp named
      rw [FileTree.makeDirectory]
      exact wellFormed.insert here (induction (wellFormed.below name) later)

theorem WellFormed.remove (wellFormed : tree.WellFormed) (named : ∀ name ∈ row, FileName name) :
    (tree.remove row).WellFormed := by
  induction row generalizing tree with
  | nil => simpa [FileTree.remove] using wellFormed_empty
  | cons name row induction =>
      obtain ⟨here, later⟩ := List.forall_mem_cons.mp named
      cases row with
      | nil => exact wellFormed.erase name
      | cons next row =>
          rw [FileTree.remove]
          cases present : Catalog.find? tree.entries name with
          | none => exact wellFormed
          | some below =>
              have inner := (wellFormed.entries.2 _ (Catalog.mem_of_find? present)).2
              exact wellFormed.insert here (induction inner later)

/-! ## Files that come and go -/

/-- The content, if it is a file. -/
def content? : FileTree → Option String
  | .file content => some content
  | .directory _ => none

/-- There is one more file after than before: at the end of a row of names, where nothing was. At
any other row there is a directory where there was one, a file where there was one with the same
content, and else nothing. -/
structure Gains (before after : FileTree) (row : List String) (content : String) : Prop where
  absent : before.find? row = none
  present : after.find? row = some (.file content)
  others : ∀ other, other ≠ row →
    (after.find? other).map content? = (before.find? other).map content?

section

variable {entries others : Catalog FileTree}
  (same : ∀ other, other ≠ name → Catalog.find? others other = Catalog.find? entries other)

include same

/-- A directory has one more entry, which is a file. -/
theorem gains_entry (absent : Catalog.find? entries name = none)
    (present : Catalog.find? others name = some (.file content)) :
    (directory entries).Gains (directory others) [name] content where
  absent := by rw [find?_directory_cons, absent]; rfl
  present := by rw [find?_directory_cons, present]; exact find?_nil _
  others other different := by
    cases other with
    | nil => rfl
    | cons first other =>
        rw [find?_directory_cons, find?_directory_cons]
        by_cases here : first = name
        · subst here
          cases other with
          | nil => exact absurd rfl different
          | cons next other => simp [absent, present, find?_file_cons]
        · rw [same first here]

/-- One entry of a directory has one more file in it. -/
theorem Gains.within {below above : FileTree} (inner : below.Gains above row content)
    (before : Catalog.find? entries name = some below)
    (after : Catalog.find? others name = some above) :
    (directory entries).Gains (directory others) (name :: row) content where
  absent := by rw [find?_directory_cons, before]; exact inner.absent
  present := by rw [find?_directory_cons, after]; exact inner.present
  others other different := by
    cases other with
    | nil => rfl
    | cons first other =>
        rw [find?_directory_cons, find?_directory_cons]
        by_cases here : first = name
        · subst here
          rw [before, after]
          exact inner.others other fun whole => different (by rw [whole])
        · rw [same first here]

end

/-- A file is added to a directory. -/
theorem gains_place {inside : Catalog FileTree} (parent : tree.find? row = some (.directory inside))
    (absent : tree.find? (row ++ [name]) = none) :
    tree.Gains (tree.place (row ++ [name]) (.file content)) (row ++ [name]) content := by
  induction row generalizing tree with
  | nil =>
      rw [find?_nil] at parent
      cases parent
      rw [List.nil_append, find?_directory_cons] at absent
      refine gains_entry (fun other different => ?_) (by simpa using absent) ?_
      · rw [Catalog.find?_insert, if_neg different.symm]
        rfl
      · rw [Catalog.find?_insert_self]
        rfl
  | cons first row induction =>
      obtain ⟨entries, rfl⟩ := exists_directory_of_find?_cons parent
      rw [find?_directory_cons] at parent
      obtain ⟨below, here, parent⟩ := Option.bind_eq_some_iff.mp parent
      rw [List.cons_append, find?_directory_cons, here] at absent
      refine Gains.within (fun other different => ?_) (induction parent absent) here ?_
      · rw [Catalog.find?_insert, if_neg different.symm]
        rfl
      · rw [Catalog.find?_insert_self, FileTree.entries, here]
        rfl

/-- A file is removed. -/
theorem gains_remove (present : tree.find? row = some (.file content)) (below : row ≠ []) :
    (tree.remove row).Gains tree row content := by
  induction row generalizing tree with
  | nil => exact absurd rfl below
  | cons name row induction =>
      obtain ⟨entries, rfl⟩ := exists_directory_of_find?_cons present
      rw [find?_directory_cons] at present
      obtain ⟨inner, here, present⟩ := Option.bind_eq_some_iff.mp present
      cases row with
      | nil =>
          rw [find?_nil] at present
          cases present
          refine gains_entry (fun other different => ?_) ?_ here
          · rw [FileTree.entries, Catalog.find?_erase, if_neg different.symm]
          · rw [Catalog.find?_erase, if_pos rfl]
      | cons next row =>
          rw [FileTree.remove, FileTree.entries, here]
          refine Gains.within (fun other different => ?_)
            (induction present (List.cons_ne_nil _ _)) ?_ here
          · rw [Catalog.find?_insert, if_neg different.symm]
          · rw [Catalog.find?_insert_self]

/-! ## Walks -/

/-- The row of names from the top where a walk ends. Stepping up is possible only from a
directory. -/
def landing? (tree : FileTree) (walked : List String) : List String → Option (List String)
  | [] => some walked.reverse
  | name :: rest =>
    if name = ".." then
      if (tree.find? walked.reverse).any isDirectory then landing? tree (walked.drop 1) rest
      else none
    else landing? tree (name :: walked) rest

theorem walk?_eq (tree : FileTree) (walked names : List String) :
    tree.walk? walked names = (tree.landing? walked names).bind tree.find? := by
  induction names generalizing walked with
  | nil => rfl
  | cons name names induction =>
      rw [walk?, landing?]
      split
      · split
        · exact induction _
        · rfl
      · exact induction _

theorem isDirectory_eq (tree : FileTree) : tree.isDirectory = tree.content?.isNone := by
  cases tree <;> rfl

/-- Directories are those that have been there. -/
theorem Gains.isDirectory_eq (gains : before.Gains after row content) (other : List String) :
    (after.find? other).any isDirectory = (before.find? other).any isDirectory := by
  by_cases same : other = row
  · subst same
    rw [gains.present, gains.absent]
    rfl
  · have alike := gains.others other same
    have kind (found : Option FileTree) :
        found.any isDirectory = (found.map content?).any Option.isNone := by
      cases found with
      | none => rfl
      | some tree => exact FileTree.isDirectory_eq tree
    rw [kind, kind, alike]

theorem Gains.landing?_eq (gains : before.Gains after row content) (walked names : List String) :
    after.landing? walked names = before.landing? walked names := by
  induction names generalizing walked with
  | nil => rfl
  | cons name names induction =>
      rw [landing?, landing?, gains.isDirectory_eq, induction, induction]

/-- Files are those that have been there, and the new one. -/
theorem Gains.find?_file_iff (gains : before.Gains after row content) {other : List String}
    {text : String} :
    after.find? other = some (.file text) ↔
      before.find? other = some (.file text) ∨ other = row ∧ text = content := by
  have file_iff {found : Option FileTree} :
      found = some (.file text) ↔ found.map content? = some (some text) := by
    cases found with
    | none => simp
    | some tree => cases tree <;> simp [content?]
  by_cases same : other = row
  · subst same
    simp [gains.present, gains.absent, eq_comm]
  · rw [file_iff, gains.others other same, ← file_iff]
    simp [same]

end FileTree

namespace FileSystem

variable {files before after : FileSystem} {path directory content name : String}
  {row place : List String}

/-! ## Edits -/

/-- The tree is in order, and paths start from a proper directory. -/
structure WellFormed (files : FileSystem) : Prop where
  tree : files.tree.WellFormed
  working : ∀ name ∈ files.workingDirectory, FileName name

inductive Edit where
  | write (path content : String)
  | makeDirectory (path : String)
  | remove (path : String)

def edited (files : FileSystem) : Edit → FileSystem
  | .write path content => files.write path content
  | .makeDirectory path => files.makeDirectory path
  | .remove path => files.remove path

/-- Where names that stay are proper, they are when some have been stepped up from. -/
theorem fileName_of_mem_steps {names : List String}
    (each : ∀ name ∈ names, name ≠ ".." → FileName name) :
    ∀ name ∈ Path.steps names, FileName name := by
  have kept (walked : List String) (proper : ∀ name ∈ walked, FileName name) :
      ∀ name ∈ names.foldl
        (fun walked name => if name = ".." then walked.drop 1 else name :: walked) walked,
        FileName name := by
    induction names generalizing walked with
    | nil => exact proper
    | cons name names induction =>
        obtain ⟨here, each⟩ := List.forall_mem_cons.mp each
        rw [List.foldl_cons]
        apply induction each
        split
        · exact fun name member => proper name (List.mem_of_mem_drop member)
        · rename_i stays
          exact List.forall_mem_cons.mpr ⟨here stays, proper⟩
  intro name member
  exact kept [] nofun name (List.mem_reverse.mp member)

theorem fileName_of_mem_names {path name : String} (member : name ∈ Path.names path)
    (stays : name ≠ "..") : FileName name := by
  obtain ⟨something, single, notHere⟩ := Path.mem_names member
  exact ⟨something, single, notHere, stays⟩

theorem WellFormed.fileName_of_mem_resolve (wellFormed : files.WellFormed) (path : String) :
    ∀ name ∈ files.resolve path, FileName name := by
  apply fileName_of_mem_steps
  intro name member stays
  unfold way at member
  split at member
  · exact fileName_of_mem_names member stays
  · rcases List.mem_append.mp member with above | below
    · exact wellFormed.working name above
    · exact fileName_of_mem_names below stays

theorem wellFormed_empty : ({} : FileSystem).WellFormed := ⟨FileTree.wellFormed_empty, nofun⟩

/-- Every edit keeps a file system in order. -/
theorem WellFormed.edited (wellFormed : files.WellFormed) (edit : Edit) :
    (files.edited edit).WellFormed := by
  have named := wellFormed.fileName_of_mem_resolve
  cases edit with
  | write path content =>
      exact ⟨wellFormed.tree.place (FileTree.wellFormed_file content) (named path),
        wellFormed.working⟩
  | makeDirectory path => exact ⟨wellFormed.tree.makeDirectory (named path), wellFormed.working⟩
  | remove path => exact ⟨wellFormed.tree.remove (named path), wellFormed.working⟩

/-! ## Paths -/

/-- The row of names from the top where a path leads. -/
def row? (files : FileSystem) (path : String) : Option (List String) :=
  files.tree.landing? [] (files.way path)

/-- A file lies below a directory, at the end of a row of names. -/
def Holds (files : FileSystem) (directory : String) (row : List String) (content : String) :
    Prop :=
  ∃ base, files.row? directory = some base ∧
    files.tree.find? (base ++ row) = some (.file content)

theorem find?_eq_directory_iff {entries : Catalog FileTree} :
    files.find? path = some (.directory entries) ↔
      ∃ base, files.row? path = some base ∧ files.tree.find? base = some (.directory entries) := by
  rw [find?, FileTree.walk?_eq, Option.filter_eq_some_iff, Option.bind_eq_some_iff]
  simp [row?, FileTree.isDirectory]

/-- Files lie only below directories. -/
theorem holds_iff : files.Holds directory (name :: row) content ↔
    ∃ entries, files.find? directory = some (.directory entries) ∧
      (FileTree.directory entries).find? (name :: row) = some (.file content) := by
  simp only [find?_eq_directory_iff, Holds]
  constructor
  · rintro ⟨base, leads, present⟩
    rw [FileTree.find?_append] at present
    obtain ⟨tree, here, present⟩ := Option.bind_eq_some_iff.mp present
    obtain ⟨entries, rfl⟩ := FileTree.exists_directory_of_find?_cons present
    exact ⟨entries, ⟨base, leads, here⟩, present⟩
  · rintro ⟨entries, ⟨base, leads, here⟩, present⟩
    refine ⟨base, leads, ?_⟩
    rw [FileTree.find?_append, here]
    exact present

/-- The entries of a directory, which are none where no directory is. -/
def listing (files : FileSystem) (directory : String) : Catalog FileTree :=
  ((files.find? directory).map FileTree.entries).getD []

theorem WellFormed.listing (wellFormed : files.WellFormed) (directory : String) :
    (FileTree.directory (files.listing directory)).WellFormed := by
  unfold FileSystem.listing
  cases found : files.find? directory with
  | none => exact FileTree.wellFormed_empty
  | some tree =>
      cases tree with
      | file content => exact FileTree.wellFormed_empty
      | directory entries =>
          obtain ⟨base, -, here⟩ := find?_eq_directory_iff.mp found
          exact wellFormed.tree.find? here

theorem WellFormed.ascending_listing (wellFormed : files.WellFormed) (directory : String) :
    (files.listing directory).Ascending :=
  (wellFormed.listing directory).entries.1

/-- A file that lies below a directory is found among its entries. -/
theorem find?_listing_iff :
    (FileTree.directory (files.listing directory)).find? (name :: row) = some (.file content) ↔
      files.Holds directory (name :: row) content := by
  rw [holds_iff, listing]
  cases files.find? directory with
  | none => simp [FileTree.find?_directory_cons]
  | some tree =>
      cases tree with
      | file content => simp [FileTree.entries, FileTree.find?_directory_cons]
      | directory entries => simp [FileTree.entries]

/-! ## Files that come and go -/

/-- There is one more file after than before, at the end of a row of names, and all else is as it
was. -/
structure Gains (before after : FileSystem) (place : List String) (content : String) : Prop where
  tree : before.tree.Gains after.tree place content
  working : after.workingDirectory = before.workingDirectory

/-- A new file is written into a directory. -/
theorem gains_write {inside : Catalog FileTree} (leads : files.resolve path = row ++ [name])
    (parent : files.tree.find? row = some (.directory inside))
    (absent : files.tree.find? (row ++ [name]) = none) :
    files.Gains (files.write path content) (row ++ [name]) content where
  tree := by
    rw [write, leads]
    exact FileTree.gains_place parent absent
  working := rfl

theorem gains_remove (leads : files.resolve path = place) (below : place ≠ [])
    (present : files.tree.find? place = some (.file content)) :
    (files.remove path).Gains files place content where
  tree := by
    rw [remove, leads]
    exact FileTree.gains_remove present below
  working := rfl

theorem Gains.row?_eq (gains : before.Gains after place content) (path : String) :
    after.row? path = before.row? path := by
  rw [row?, row?, gains.tree.landing?_eq, way, way, gains.working]

/-- The files below a directory are those that were there, and the new one if it lies below. -/
theorem Gains.holds_iff (gains : before.Gains after place content) {text : String} :
    after.Holds directory row text ↔
      before.Holds directory row text ∨
        ∃ base, before.row? directory = some base ∧ base ++ row = place ∧ text = content := by
  simp only [Holds, gains.row?_eq, gains.tree.find?_file_iff, and_or_left, exists_or]

end FileSystem
end AssistantEngine
