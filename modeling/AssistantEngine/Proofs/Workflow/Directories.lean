import AssistantEngine.Proofs.Storage.FileTrees
import AssistantEngine.Workflow.Source

/-!
Directories of documents. A directory is read anew for every question, so that each answer is right
for the files of its moment: of the documents of one kind and id the one with the last name counts,
and nothing else does than documents of the kind that lie directly in the directory.
-/

namespace AssistantEngine

variable {α : Type} {select : SpecDocument → Option α} {idOf : α → String}
  {files before after : FileSystem} {directory id name content : String} {place : List String}
  {spec : α}

namespace SpecDocument

/-! ## What a directory specifies -/

def workflow? : SpecDocument → Option WorkflowSpec
  | .workflow spec => some spec
  | .assistant _ => none

def assistant? : SpecDocument → Option AssistantSpec
  | .workflow _ => none
  | .assistant spec => some spec

/-- A file that lies directly in a directory specifies something of a kind: its name has the suffix
of documents, and its content reads as a document of this kind. -/
def Specifies (select : SpecDocument → Option α) (files : FileSystem) (directory name : String)
    (spec : α) : Prop :=
  isDocument name ∧ ∃ content document, files.Holds directory [name] content ∧
    ofYaml? content = some document ∧ select document = some spec

/-- What a directory specifies of a kind under an id: what the last file in the order of names
specifies, of those that specify something of the kind with this id. -/
def LastOf (select : SpecDocument → Option α) (idOf : α → String) (files : FileSystem)
    (directory id : String) (spec : α) : Prop :=
  ∃ name, Specifies select files directory name spec ∧ idOf spec = id ∧
    ∀ other rival, Specifies select files directory other rival → idOf rival = id → other ≤ name

/-- What is found of a kind under an id in a directory: what the last file specifies, or nothing if
no file specifies something of the kind with the id. -/
structure Finds (select : SpecDocument → Option α) (idOf : α → String) (files : FileSystem)
    (directory id : String) (found : Option α) : Prop where
  last : ∀ spec, found = some spec ↔ LastOf select idOf files directory id spec
  nothing : found = none ↔
    ∀ name spec, Specifies select files directory name spec → idOf spec ≠ id

end SpecDocument

open SpecDocument

/-! ## Entries -/

namespace SpecCollection

/-- What an entry specifies of a kind. -/
def specified? (select : SpecDocument → Option α) (entry : String × FileTree) : Option α :=
  match entry.2 with
  | .file content => if isDocument entry.1 then (ofYaml? content).bind select else none
  | .directory _ => none

/-- What a directory specifies of a kind, by id. -/
def catalog (select : SpecDocument → Option α) (idOf : α → String) (entries : Catalog FileTree) :
    Catalog α :=
  Catalog.ofList ((entries.filterMap (specified? select)).map fun spec => (idOf spec, spec))

/-- The files among the entries are those that lie directly in the directory. -/
theorem mem_listing_iff (wellFormed : files.WellFormed) :
    (name, .file content) ∈ files.listing directory ↔ files.Holds directory [name] content := by
  rw [← FileSystem.find?_listing_iff, FileTree.find?_directory_cons,
    ← (wellFormed.ascending_listing directory).find?_eq_some_iff]
  simp

theorem specified?_file (select : SpecDocument → Option α) (name content : String) :
    specified? select (name, .file content) =
      if isDocument name then (ofYaml? content).bind select else none := rfl

theorem exists_specified?_iff (wellFormed : files.WellFormed) :
    (∃ tree, (name, tree) ∈ files.listing directory ∧
      specified? select (name, tree) = some spec) ↔ Specifies select files directory name spec := by
  constructor
  · rintro ⟨tree, member, specified⟩
    cases tree with
    | directory entries => cases specified
    | file content =>
        obtain ⟨suffix, specified⟩ := Option.ite_none_right_eq_some.mp specified
        obtain ⟨document, reads, kind⟩ := Option.bind_eq_some_iff.mp specified
        exact ⟨suffix, content, document, (mem_listing_iff wellFormed).mp member, reads, kind⟩
  · rintro ⟨suffix, content, document, held, reads, kind⟩
    refine ⟨.file content, (mem_listing_iff wellFormed).mpr held, ?_⟩
    rw [specified?_file, if_pos suffix, reads]
    exact kind

/-- The last entry counts that specifies something with an id. -/
theorem find?_catalog (entries : Catalog FileTree) (id : String) :
    (catalog select idOf entries).find? id =
      entries.reverse.findSome? fun entry => (specified? select entry).filter (idOf · = id) := by
  rw [← List.head?_filterMap, ← List.filter_filterMap, List.head?_filter, List.filterMap_reverse,
    catalog, Catalog.find?_ofList, ← List.map_reverse, List.find?_map, Option.map_map]
  exact Option.map_id'

/-- Under an id that is found which the last file specifies. -/
theorem find?_catalog_eq_some_iff (wellFormed : files.WellFormed) :
    (catalog select idOf (files.listing directory)).find? id = some spec ↔
      LastOf select idOf files directory id spec := by
  have backwards : (files.listing directory).reverse.Pairwise fun first second =>
      second.1 < first.1 :=
    List.pairwise_reverse.mpr (wellFormed.ascending_listing directory)
  rw [find?_catalog, findSome?_filter_eq_some_iff (fun one other => other < one) backwards
    String.lt_irrefl fun later earlier => String.lt_trans earlier later]
  simp only [List.mem_reverse, exists_specified?_iff wellFormed, decide_eq_true_eq]
  rfl

theorem find?_catalog_eq_none_iff (wellFormed : files.WellFormed) :
    (catalog select idOf (files.listing directory)).find? id = none ↔
      ∀ name spec, Specifies select files directory name spec → idOf spec ≠ id := by
  rw [find?_catalog, List.findSome?_eq_none_iff]
  constructor
  · rintro none name spec specifies rfl
    obtain ⟨tree, member, specified⟩ := (exists_specified?_iff wellFormed).mpr specifies
    have counts := none _ (List.mem_reverse.mpr member)
    simp [specified] at counts
  · rintro others ⟨name, tree⟩ member
    rw [Option.filter_eq_none_iff]
    intro spec specified alike
    exact others name spec ((exists_specified?_iff wellFormed).mp
      ⟨tree, List.mem_reverse.mp member, specified⟩) (of_decide_eq_true alike)

theorem finds_catalog (wellFormed : files.WellFormed) :
    Finds select idOf files directory id
      ((catalog select idOf (files.listing directory)).find? id) where
  last _ := find?_catalog_eq_some_iff wellFormed
  nothing := find?_catalog_eq_none_iff wellFormed

/-- Catalogs are the same where files specify the same. -/
theorem catalog_congr (one : before.WellFormed) (other : after.WellFormed)
    (same : ∀ name spec, Specifies select after directory name spec ↔
      Specifies select before directory name spec) :
    catalog select idOf (after.listing directory) =
      catalog select idOf (before.listing directory) := by
  apply (Catalog.ascending_ofList _).ext (Catalog.ascending_ofList _)
  intro id
  apply Option.ext
  intro spec
  change (catalog select idOf _).find? id = _ ↔ (catalog select idOf _).find? id = _
  simp only [find?_catalog_eq_some_iff one, find?_catalog_eq_some_iff other, LastOf, same]

/-! ## Collections -/

theorem filterMap_documents (select : SpecDocument → Option α) (entries : Catalog FileTree) :
    (documents entries).filterMap select = entries.filterMap (specified? select) := by
  rw [documents, List.filterMap_filterMap]
  apply List.filterMap_congr
  rintro ⟨name, tree⟩ -
  cases tree with
  | directory entries => rfl
  | file content =>
      rw [specified?_file]
      by_cases suffix : isDocument name <;> simp [suffix]

/-- Documents that are added go to the specifications of their kind. -/
theorem foldl_insert (documents : List SpecDocument) (collection : SpecCollection) :
    documents.foldl insert collection =
      { workflows := ((documents.filterMap workflow?).map fun spec => (spec.id, spec)).foldl
          (fun specs entry => specs.insert entry.1 entry.2) collection.workflows
        assistants := ((documents.filterMap assistant?).map fun spec => (spec.id, spec)).foldl
          (fun specs entry => specs.insert entry.1 entry.2) collection.assistants } := by
  induction documents generalizing collection with
  | nil => rfl
  | cons document documents induction =>
      rw [List.foldl_cons, induction]
      cases document <;> rfl

/-- A directory is what its entries specify of either kind. -/
theorem ofDirectory_eq (files : FileSystem) (directory : String) :
    ofDirectory files directory =
      { workflows := catalog workflow? (·.id) (files.listing directory)
        assistants := catalog assistant? (·.id) (files.listing directory) } := by
  have read : ofDirectory files directory =
      (documents (files.listing directory)).foldl insert {} := by
    unfold ofDirectory FileSystem.listing
    cases files.find? directory <;> rfl
  rw [read, foldl_insert, filterMap_documents, filterMap_documents]
  rfl

end SpecCollection

/-! ## Sessions -/

namespace SpecSource

/-- What a source can be asked for. -/
inductive Question where
  | workflow (id : String)
  | assistant (id : String)
  | workflowIds

inductive Answer where
  | workflow (found : Except Fault (Option WorkflowSpec))
  | assistant (found : Except Fault (Option AssistantSpec))
  | workflowIds (ids : List String)
deriving DecidableEq

def ask (source : SpecSource) (files : FileSystem) : Question → Answer
  | .workflow id => .workflow (source.workflow files id)
  | .assistant id => .assistant (source.assistant files id)
  | .workflowIds => .workflowIds (source.workflowIds files)

/-- A step of a session: files are edited, or something is asked. -/
inductive Step where
  | edit (edit : FileSystem.Edit)
  | ask (question : Question)

/-- The answers of a session, in order. -/
def answers (source : SpecSource) : FileSystem → List Step → List Answer
  | _, [] => []
  | files, .edit edit :: steps => source.answers (files.edited edit) steps
  | files, .ask question :: steps => source.ask files question :: source.answers files steps

/-- An answer is right for a directory: under an id is found what the last file with it specifies,
and the ids are those under which workflows are found, in ascending order. -/
def Right (directory : String) (files : FileSystem) : Question → Answer → Prop
  | .workflow id, .workflow (.ok found) => Finds workflow? (·.id) files directory id found
  | .assistant id, .assistant (.ok found) => Finds assistant? (·.id) files directory id found
  | .workflowIds, .workflowIds ids =>
    ids.Pairwise (· < ·) ∧
      ∀ id, id ∈ ids ↔ ∃ spec, LastOf workflow? (·.id) files directory id spec
  | _, _ => False

/-- Each answer of a session is right for the files as they are at its moment. -/
inductive AllRight (directory : String) : FileSystem → List Step → List Answer → Prop
  | done (files : FileSystem) : AllRight directory files [] []
  | edit {files : FileSystem} {edit : FileSystem.Edit} {steps : List Step} {answers : List Answer}
      (later : AllRight directory (files.edited edit) steps answers) :
      AllRight directory files (.edit edit :: steps) answers
  | ask {files : FileSystem} {question : Question} {answer : Answer} {steps : List Step}
      {answers : List Answer} (right : Right directory files question answer)
      (later : AllRight directory files steps answers) :
      AllRight directory files (.ask question :: steps) (answer :: answers)

theorem right_ask (wellFormed : files.WellFormed) (directory : String) (question : Question) :
    Right directory files question ((SpecSource.directory directory).ask files question) := by
  cases question with
  | workflow id =>
      rw [ask, workflow, collection, SpecCollection.ofDirectory_eq]
      · exact SpecCollection.finds_catalog wellFormed
      · nofun
  | assistant id =>
      rw [ask, assistant, collection, SpecCollection.ofDirectory_eq]
      · exact SpecCollection.finds_catalog wellFormed
      · nofun
  | workflowIds =>
      rw [ask, workflowIds, collection, SpecCollection.ofDirectory_eq]
      refine ⟨List.pairwise_map.mpr (Catalog.ascending_ofList _), fun id => ?_⟩
      rw [Catalog.mem_keys_iff, Option.isSome_iff_exists]
      exact exists_congr fun spec => SpecCollection.find?_catalog_eq_some_iff wellFormed

theorem allRight_answers (wellFormed : files.WellFormed) (directory : String)
    (steps : List Step) :
    AllRight directory files steps ((SpecSource.directory directory).answers files steps) := by
  induction steps generalizing files with
  | nil => exact .done files
  | cons step steps induction =>
      cases step with
      | edit edit => exact .edit (induction (wellFormed.edited edit))
      | ask question => exact .ask (right_ask wellFormed directory question) (induction wellFormed)

/-! ## What changes no answer -/

/-- A question is about documents of one kind. -/
def Question.concerns : Question → SpecDocument → Bool
  | .workflow _, document | .workflowIds, document => (workflow? document).isSome
  | .assistant _, document => (assistant? document).isSome

/-- A file is none that a question is about: it cannot be read, is of the other kind, has another
suffix, or does not lie directly in the directory. -/
inductive Aside (files : FileSystem) (directory : String) (question : Question)
    (place : List String) (content : String) : Prop
  | unreadable (fails : ofYaml? content = none)
  | otherKind {document : SpecDocument} (reads : ofYaml? content = some document)
      (other : question.concerns document = false)
  | otherSuffix {name : String} (last : place.getLast? = some name)
      (other : isDocument name = false)
  | elsewhere (apart : ∀ base name, files.row? directory = some base → place ≠ base ++ [name])

section

variable {question : Question} (aside : Aside before directory question place content)
  (gains : before.Gains after place content)

include aside gains

/-- With a file that is added aside, what is asked for is specified as before. -/
theorem Aside.specifies_iff
    (concerned : ∀ document spec, select document = some spec → question.concerns document) :
    Specifies select after directory name spec ↔ Specifies select before directory name spec := by
  constructor
  · rintro ⟨suffix, text, document, held, reads, kind⟩
    rcases gains.holds_iff.mp held with older | ⟨base, leads, rfl, rfl⟩
    · exact ⟨suffix, text, document, older, reads, kind⟩
    -- The new file specifies nothing that is asked for.
    · cases aside with
      | unreadable fails =>
          rw [fails] at reads
          cases reads
      | otherKind read other =>
          rw [read] at reads
          cases reads
          simp [concerned document spec kind] at other
      | otherSuffix last other =>
          rw [List.getLast?_concat] at last
          cases last
          simp [suffix] at other
      | elsewhere apart => exact absurd rfl (apart base name leads)
  · rintro ⟨suffix, text, document, held, reads, kind⟩
    exact ⟨suffix, text, document, gains.holds_iff.mpr (.inl held), reads, kind⟩

theorem Aside.ask_eq (one : before.WellFormed) (other : after.WellFormed) :
    (SpecSource.directory directory).ask after question =
      (SpecSource.directory directory).ask before question := by
  have same {α : Type} (select : SpecDocument → Option α) (idOf : α → String)
      (concerned : ∀ document spec, select document = some spec → question.concerns document) :
      SpecCollection.catalog select idOf (after.listing directory) =
        SpecCollection.catalog select idOf (before.listing directory) :=
    SpecCollection.catalog_congr one other fun _ _ => aside.specifies_iff gains concerned
  cases question with
  | workflow id =>
      simp only [ask, workflow, collection, SpecCollection.ofDirectory_eq]
      rw [same workflow? _ fun document spec kind => by simp [Question.concerns, kind]]
  | assistant id =>
      simp only [ask, assistant, collection, SpecCollection.ofDirectory_eq]
      rw [same assistant? _ fun document spec kind => by simp [Question.concerns, kind]]
  | workflowIds =>
      simp only [ask, workflowIds, collection, SpecCollection.ofDirectory_eq]
      rw [same workflow? _ fun document spec kind => by simp [Question.concerns, kind]]

end

/-- Where no directory is, it is answered as in an empty one. -/
theorem ask_of_missing {missing empty : FileSystem} {path other : String}
    (absent : missing.find? path = none) (bare : empty.find? other = some (.directory []))
    (question : Question) :
    (SpecSource.directory path).ask missing question =
      (SpecSource.directory other).ask empty question := by
  have same : missing.listing path = empty.listing other := by
    rw [FileSystem.listing, FileSystem.listing, absent, bare]
    rfl
  cases question <;>
    simp only [ask, workflow, assistant, workflowIds, collection, SpecCollection.ofDirectory_eq,
      same]

/-! ## Directories as sources -/

/-- In every session of edits and questions, each answer about a directory is right for the files of
its moment. A file that is added aside, or was there and is removed, changes no answer, and a
directory that is not there is one that is empty. -/
theorem directory_answers (wellFormed : files.WellFormed) (directory : String) :
    (∀ steps, AllRight directory files steps
      ((SpecSource.directory directory).answers files steps)) ∧
    (∀ question others place content, others.WellFormed → files.Gains others place content →
      Aside files directory question place content →
        (SpecSource.directory directory).ask others question =
          (SpecSource.directory directory).ask files question) ∧
    ∀ empty other, files.find? directory = none → empty.find? other = some (.directory []) →
      ∀ question, (SpecSource.directory directory).ask files question =
        (SpecSource.directory other).ask empty question :=
  ⟨allRight_answers wellFormed directory,
    fun _ _ _ _ later gains aside => aside.ask_eq gains wellFormed later,
    fun _ _ => ask_of_missing⟩

/-- A workflow that has a name. -/
def deskText (name : String) : String := "kind: workflow\nid: desk\nname: " ++ name ++ "\n"

def clerkText : String := "kind: assistant\nid: desk\nname: Clerk\n"

/-- Two workflows and an assistant with one id. -/
def deskFiles : FileSystem :=
  ((({} : FileSystem).write "/desk/a.yaml" (deskText "Front")).write "/desk/b.yml"
    (deskText "Back")).write "/desk/c.yaml" clerkText

theorem wellFormed_deskFiles : deskFiles.WellFormed :=
  ((FileSystem.wellFormed_empty.edited (.write _ _)).edited (.write _ _)).edited (.write _ _)

/-- One more document, which cannot be read. -/
theorem gains_deskFiles :
    deskFiles.Gains (deskFiles.write "/desk/d.yaml" "kind: [") ["desk", "d.yaml"] "kind: [" := by
  have leads : deskFiles.resolve "/desk/d.yaml" = ["desk"] ++ ["d.yaml"] := by decide +kernel
  have inside : deskFiles.tree.find? ["desk"] = some (.directory
      [("a.yaml", .file (deskText "Front")), ("b.yml", .file (deskText "Back")),
        ("c.yaml", .file clerkText)]) := rfl
  exact FileSystem.gains_write leads inside rfl

/-- The workflow with the later name is found until its file is removed, and the assistant beside
them. A file that cannot be read changes nothing, and where nothing is nothing is found. -/
theorem directory_answers_desk :
    let desk := SpecSource.directory "/desk"
    let steps := [.ask (.workflow "desk"), .ask (.assistant "desk"), .edit (.remove "/desk/b.yml"),
      .ask (.workflow "desk"), .ask .workflowIds]
    deskFiles.WellFormed ∧ AllRight "/desk" deskFiles steps (desk.answers deskFiles steps) ∧
    desk.answers deskFiles steps =
      [.workflow (.ok (some { id := "desk", name := "Back" })),
        .assistant (.ok (some { id := "desk", name := "Clerk" })),
        .workflow (.ok (some { id := "desk", name := "Front" })), .workflowIds ["desk"]] ∧
    (∀ question, desk.ask (deskFiles.write "/desk/d.yaml" "kind: [") question =
      desk.ask deskFiles question) ∧
    ∀ question, (SpecSource.directory "/shelf").ask deskFiles question =
      (SpecSource.directory "/").ask {} question := by
  obtain ⟨session, added, missing⟩ := directory_answers wellFormed_deskFiles "/desk"
  refine ⟨wellFormed_deskFiles, session _, by decide +kernel, fun question => ?_, ?_⟩
  · exact added question _ _ _ (wellFormed_deskFiles.edited (.write _ _)) gains_deskFiles
      (.unreadable (by decide +kernel))
  · exact (directory_answers wellFormed_deskFiles "/shelf").2.2 _ _ rfl rfl

end SpecSource
end AssistantEngine
