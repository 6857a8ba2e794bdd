import Mathlib.Data.List.DropRight
import Mathlib.Data.List.Induction
import Mathlib.Data.List.Nodup
import AssistantEngine.Engine.Plugins
import AssistantEngine.Proofs.Catalog
import AssistantEngine.Proofs.Concurrency.Runs

/-!
What the store of records keeps. The queue of identifiers and the records by identifier are two
views of one window: the latest registrations since the store was emptied, as many as there is
room for.
-/

namespace AssistantEngine

namespace ArtifactStore

open Activity (Deed Runs)

/-! ## Uses -/

inductive Use where
  | register (id : String) (record : Record)
  | find (id : String)
  | clear
deriving DecidableEq

namespace Use

def registered? : Use → Option (String × Record)
  | register id record => some (id, record)
  | _ => none

/-- Looking up is the one use that changes nothing. -/
def changes : Use → Bool
  | find _ => false
  | _ => true

end Use

def after (store : ArtifactStore) : Use → ArtifactStore
  | .register id record => store.register id record
  | .find _ => store
  | .clear => store.clear

def afterUses (store : ArtifactStore) (uses : List Use) : ArtifactStore := uses.foldl after store

/-- The identifiers under which records are registered. -/
def identifiers (uses : List Use) : List String := (uses.filterMap Use.registered?).map (·.1)

/-- What has been registered since the store was last emptied, one more use later. -/
def count (registered : List (String × Record)) : Use → List (String × Record)
  | .register id record => registered ++ [(id, record)]
  | .find _ => registered
  | .clear => []

/-- What has been registered since the store was last emptied, oldest first. -/
def registrations (uses : List Use) : List (String × Record) := uses.foldl count []

theorem afterUses_append (store : ArtifactStore) (front rest : List Use) :
    store.afterUses (front ++ rest) = (store.afterUses front).afterUses rest :=
  List.foldl_append

theorem registrations_concat (uses : List Use) (use : Use) :
    registrations (uses ++ [use]) = count (registrations uses) use :=
  List.foldl_append

theorem identifiers_append (front rest : List Use) :
    identifiers (front ++ rest) = identifiers front ++ identifiers rest := by
  simp [identifiers]

theorem afterUses_filter (store : ArtifactStore) (uses : List Use) :
    store.afterUses (uses.filter Use.changes) = store.afterUses uses := by
  unfold afterUses
  rw [List.foldl_filter]
  congr
  funext store use
  cases use <;> rfl

/-- Once the store is emptied, it does not matter what was registered before. -/
theorem registrations_append (front rest : List Use) :
    registrations (front ++ rest) =
      if .clear ∈ rest then registrations rest
      else registrations front ++ rest.filterMap Use.registered? := by
  induction rest using List.reverseRecOn with
  | nil => simp
  | append_singleton rest use induction =>
      rw [← List.append_assoc, registrations_concat, registrations_concat, induction]
      cases use with
      | register id record =>
          by_cases emptied : Use.clear ∈ rest <;> simp [emptied, count, Use.registered?]
      | find id =>
          by_cases emptied : Use.clear ∈ rest <;> simp [emptied, count, Use.registered?]
      | clear => simp [count]

theorem registrations_sublist (uses : List Use) :
    (registrations uses).Sublist (uses.filterMap Use.registered?) := by
  induction uses using List.reverseRecOn with
  | nil => exact .refl _
  | append_singleton uses use induction =>
      rw [registrations_concat, List.filterMap_append]
      cases use with
      | register id record => exact induction.append (.refl _)
      | find id => exact induction.trans (List.sublist_append_left _ _)
      | clear => exact List.nil_sublist _

/-! ## Windows -/

/-- The queue and the records are those of a window of registrations. -/
structure Holds (store : ArtifactStore) (window : List (String × Record)) : Prop where
  once : (window.map (·.1)).Nodup
  order : store.order = window.map (·.1)
  records : store.records.Perm window

namespace Holds

variable {store : ArtifactStore} {window : List (String × Record)}

theorem empty (none : store.order = []) (nothing : store.records = []) : store.Holds [] :=
  ⟨List.nodup_nil, none, nothing ▸ .refl _⟩

theorem keys_nodup (holds : store.Holds window) : (Catalog.keys store.records).Nodup :=
  (holds.records.map _).nodup_iff.mpr holds.once

theorem find?_iff (holds : store.Holds window) (id : String) (record : Record) :
    store.find? id = some record ↔ (id, record) ∈ window := by
  rw [← holds.records.mem_iff]
  exact ⟨Catalog.mem_of_find?, Catalog.find?_of_mem holds.keys_nodup⟩

theorem size_eq (holds : store.Holds window) : store.size = window.length :=
  holds.records.length_eq

end Holds

/-- The loop that makes room takes away the front of the window, in the queue as in the records. -/
theorem makeRoom_window (capacity : Nat) {window : List (String × Record)}
    {records : Catalog Record} (once : (window.map (·.1)).Nodup) (same : records.Perm window) :
    (makeRoom capacity (window.map (·.1)) records).1 =
        (window.drop (window.length + 1 - capacity)).map (·.1) ∧
      (makeRoom capacity (window.map (·.1)) records).2.Perm
        (window.drop (window.length + 1 - capacity)) := by
  induction window generalizing records with
  | nil => simpa [makeRoom] using same
  | cons entry window induction =>
      have held : records.length = window.length + 1 := same.length_eq
      rw [List.map_cons]
      unfold makeRoom
      rw [held]
      split
      · rename_i full
        have distinct : (Catalog.keys records).Nodup := (same.map _).nodup_iff.mpr once
        have found : Catalog.find? records entry.1 = some entry.2 :=
          Catalog.find?_of_mem distinct (same.mem_iff.mpr List.mem_cons_self)
        have rest : (Catalog.erase records entry.1).Perm window :=
          ((Catalog.perm_erase distinct found).symm.trans same).cons_inv
        have excess : (entry :: window).length + 1 - capacity =
            (window.length + 1 - capacity) + 1 := by
          rw [List.length_cons]
          omega
        rw [excess, List.drop_succ_cons]
        exact induction (List.nodup_cons.mp once).2 rest
      · rename_i roomy
        have none : (entry :: window).length + 1 - capacity = 0 := by
          rw [List.length_cons]
          omega
        rw [none, List.drop_zero]
        exact ⟨rfl, same⟩

theorem Holds.register {store : ArtifactStore} {window : List (String × Record)}
    (holds : store.Holds window) {id : String} (fresh : id ∉ window.map (·.1)) (record : Record) :
    (store.register id record).Holds
      (window.drop (window.length + 1 - store.capacity) ++ [(id, record)]) := by
  rcases makeRoom_window store.capacity holds.once holds.records with ⟨order, records⟩
  have left : id ∉ (window.drop (window.length + 1 - store.capacity)).map (·.1) :=
    fun member => fresh (((List.drop_sublist _ _).map _).subset member)
  have absent : Catalog.find?
      (makeRoom store.capacity (window.map (·.1)) store.records).2 id = none := by
    rw [← Option.not_isSome_iff_eq_none, ← Catalog.mem_keys_iff]
    exact fun member => left ((records.map _).mem_iff.mp member)
  unfold ArtifactStore.register
  rw [holds.order]
  constructor
  · rw [List.map_append]
    exact (holds.once.sublist ((List.drop_sublist _ _).map _)).append
      (List.nodup_singleton id) (List.disjoint_singleton.mpr left)
  · dsimp only
    rw [order, List.map_append]
    rfl
  · exact ((Catalog.perm_insert_of_absent absent record).trans (records.cons _)).trans
      (List.perm_append_singleton _ _).symm

/-- One more registration moves the window on. -/
theorem rtake_concat {capacity : Nat} (positive : 0 < capacity)
    (registered : List (String × Record)) (entry : String × Record) :
    (registered ++ [entry]).rtake capacity =
      (registered.rtake capacity).drop ((registered.rtake capacity).length + 1 - capacity) ++
        [entry] := by
  rcases Nat.exists_eq_succ_of_ne_zero positive.ne' with ⟨less, rfl⟩
  rw [List.rtake_concat_succ]
  congr 1
  unfold List.rtake
  rw [List.drop_drop, List.length_drop]
  congr 1
  omega

/-- After any uses the store holds the latest registrations. -/
theorem holds_afterUses (capacity : Nat) {uses : List Use} (fresh : (identifiers uses).Nodup) :
    ((ofCapacity capacity).afterUses uses).Holds
        ((registrations uses).rtake (max capacity 1)) ∧
      ((ofCapacity capacity).afterUses uses).capacity = max capacity 1 := by
  induction uses using List.reverseRecOn with
  | nil =>
      rw [registrations, List.foldl_nil, List.rtake_nil]
      exact ⟨.empty rfl rfl, rfl⟩
  | append_singleton uses use induction =>
      rw [identifiers_append] at fresh
      rcases induction (List.Nodup.of_append_left fresh) with ⟨holds, same⟩
      rw [afterUses_append, registrations_concat]
      cases use with
      | register id record =>
          have new : id ∉ ((registrations uses).rtake (max capacity 1)).map (·.1) := by
            intro member
            have earlier : id ∈ identifiers uses :=
              (((List.drop_sublist _ _).trans (registrations_sublist uses)).map _).subset member
            exact List.disjoint_of_nodup_append fresh earlier List.mem_cons_self
          have moved := holds.register new record
          rw [same, ← rtake_concat (by omega)] at moved
          exact ⟨moved, same⟩
      | find id => exact ⟨holds, same⟩
      | clear =>
          rw [count, List.rtake_nil]
          exact ⟨.empty rfl rfl, same⟩

theorem mem_rtake_iff {entry : String × Record} {front rest : List (String × Record)}
    (last : entry ∉ rest) (capacity : Nat) :
    entry ∈ (front ++ entry :: rest).rtake capacity ↔ rest.length < capacity := by
  unfold List.rtake
  rw [List.drop_append, List.mem_append]
  constructor
  · rintro (early | late)
    · by_contra short
      have all : front.length ≤ (front ++ entry :: rest).length - capacity := by
        rw [List.length_append, List.length_cons]
        omega
      rw [List.drop_eq_nil_of_le all] at early
      cases early
    · by_contra short
      have past : ∃ more, (front ++ entry :: rest).length - capacity - front.length = more + 1 := by
        refine ⟨rest.length - capacity, ?_⟩
        rw [List.length_append, List.length_cons]
        omega
      rcases past with ⟨more, past⟩
      rw [past, List.drop_succ_cons] at late
      exact last (List.mem_of_mem_drop late)
  · intro short
    have none : (front ++ entry :: rest).length - capacity - front.length = 0 := by
      rw [List.length_append, List.length_cons]
      omega
    rw [none, List.drop_zero]
    exact Or.inr List.mem_cons_self

/-- A record is found until the store is emptied or as many records have come after it as there
is room for. -/
theorem find?_registered (capacity : Nat) {front rest : List Use} {id : String} {record : Record}
    (fresh : (identifiers (front ++ .register id record :: rest)).Nodup) :
    ((ofCapacity capacity).afterUses (front ++ .register id record :: rest)).find? id =
        some record ↔
      .clear ∉ rest ∧ (rest.filterMap Use.registered?).length < max capacity 1 := by
  have later : id ∉ identifiers rest := by
    rw [identifiers_append] at fresh
    exact (List.nodup_cons.mp (List.Nodup.of_append_right fresh)).1
  have last : (id, record) ∉ rest.filterMap Use.registered? := fun member =>
    later (List.mem_map_of_mem member)
  rw [(holds_afterUses capacity fresh).1.find?_iff, List.append_cons, registrations_append]
  split
  · rename_i emptied
    have gone : (id, record) ∉ (registrations rest).rtake (max capacity 1) := fun member =>
      last (((List.drop_sublist _ _).trans (registrations_sublist rest)).subset member)
    simp [gone, emptied]
  · rename_i kept
    rw [registrations_concat]
    have joined : count (registrations front) (.register id record) ++
        rest.filterMap Use.registered? =
          registrations front ++ (id, record) :: rest.filterMap Use.registered? := by
      simp [count]
    rw [joined, mem_rtake_iff last]
    simp [kept]

/-! ## Records that are handed out -/

/-- A call that succeeds has registered the record of what the server answered, and hands out its
identifier and its text. -/
structure HandedOut (connection : ConnectionId) (tool : String) (arguments : Json)
    (deeds : List (Deed World)) (result : CallResult) (record : Record) (deed : Deed World) :
    Prop where
  answered : ∃ asked ∈ deeds, ∃ raw latency,
    (ToolServer.answerCall connection tool arguments asked.before).1 = .ok raw ∧
      record = PluginRuntime.recordOf raw latency tool
  took : deed ∈ deeds
  registered : deed.after.artifacts =
    deed.before.artifacts.register result.envelope.artifactId record
  brief : result.envelope.modelText = record.modelText
  shown : result.content = record.modelText

theorem intercept_runs {others : World → World → Prop} {connection : ConnectionId} {tool : String}
    {arguments : Json} {world final : World} {deeds : List (Deed World)} {result : CallResult}
    (runs : Runs others (PluginRuntime.intercept connection tool arguments) world deeds (.ok result)
      final) :
    ∃ record deed, HandedOut connection tool arguments deeds result record deed := by
  unfold PluginRuntime.intercept at runs
  rcases runs.of_bind with ⟨_, _, start, early, rfl, -, calling⟩
  rcases calling.of_bind with ⟨_, _, answer, _, rfl, called, rest⟩
  unfold ToolServer.callTool at called
  rcases called.of_bind with ⟨_, _, given, _, rfl, asked, waiting⟩
  rcases asked.of_transact with ⟨rfl, rfl, rfl⟩
  rcases waiting.of_bind with ⟨_, _, _, _, rfl, -, replied⟩
  rcases replied.of_done with ⟨rfl, rfl, rfl⟩
  split at rest
  · rcases rest.of_done with ⟨-, same, -⟩
    cases same
  · rename_i raw answered
    rcases rest.of_bind with ⟨_, _, time, late, rfl, -, registering⟩
    rcases registering.of_bind with ⟨_, _, id, later, rfl, registered, rest⟩
    rcases registered.of_transact with ⟨rfl, rfl, rfl⟩
    rcases rest.of_done with ⟨-, same, -⟩
    cases same
    let record := PluginRuntime.recordOf raw (time - start) tool
    refine ⟨record, ⟨late, (late.registerRecord record).2⟩, ?_⟩
    constructor
    case answered => exact ⟨Activity.glance early, by simp [Activity.glance], raw, _, answered, rfl⟩
    case took => simp [record]
    case registered => rfl
    case brief => rfl
    case shown => rfl

/-! ## Retention -/

/-- What a store keeps that was made for so many records and then used. -/
structure Retention (capacity : Nat) (uses : List Use) : Prop where
  /-- The latest registrations are found, each with its own record, and nothing else is. -/
  found : ∀ id record, ((ofCapacity capacity).afterUses uses).find? id = some record ↔
    (id, record) ∈ (registrations uses).rtake (max capacity 1)
  size : ((ofCapacity capacity).afterUses uses).size =
    min (registrations uses).length (max capacity 1)
  bounded : ((ofCapacity capacity).afterUses uses).size ≤ max capacity 1
  /-- It makes no difference which records are looked up on the way. -/
  unread : ∀ other, other.filter Use.changes = uses.filter Use.changes →
    (ofCapacity capacity).afterUses other = (ofCapacity capacity).afterUses uses
  lasting : ∀ front id record rest, uses = front ++ .register id record :: rest →
    (((ofCapacity capacity).afterUses uses).find? id = some record ↔
      .clear ∉ rest ∧ (rest.filterMap Use.registered?).length < max capacity 1)
  /-- What a call hands out leads to the whole record of the server's answer, until the store is
  emptied or as many records have come after it as there is room for. -/
  handedOut : ∀ others connection tool arguments world deeds result final,
    Runs others (PluginRuntime.intercept connection tool arguments) world deeds (.ok result) final →
      ∃ record deed, HandedOut connection tool arguments deeds result record deed ∧
        (deed.before.artifacts = (ofCapacity capacity).afterUses uses → ∀ rest,
          (identifiers (uses ++ .register result.envelope.artifactId record :: rest)).Nodup →
            ((deed.after.artifacts.afterUses rest).find? result.envelope.artifactId = some record ↔
              .clear ∉ rest ∧ (rest.filterMap Use.registered?).length < max capacity 1))

theorem retention (capacity : Nat) {uses : List Use} (fresh : (identifiers uses).Nodup) :
    Retention capacity uses := by
  have holds := (holds_afterUses capacity fresh).1
  have size : ((ofCapacity capacity).afterUses uses).size =
      min (registrations uses).length (max capacity 1) := by
    rw [holds.size_eq, List.rtake, List.length_drop]
    omega
  constructor
  case found => exact holds.find?_iff
  case size => exact size
  case bounded => exact size ▸ Nat.min_le_right _ _
  case unread =>
    intro other same
    rw [← afterUses_filter _ other, same, afterUses_filter]
  case lasting =>
    rintro front id record rest rfl
    exact find?_registered capacity fresh
  case handedOut =>
    intro others connection tool arguments world deeds result final runs
    rcases intercept_runs runs with ⟨record, deed, handed⟩
    refine ⟨record, deed, handed, fun before rest distinct => ?_⟩
    have later : deed.after.artifacts.afterUses rest = (ofCapacity capacity).afterUses
        (uses ++ .register result.envelope.artifactId record :: rest) := by
      rw [afterUses_append, ← before, handed.registered]
      rfl
    rw [later]
    exact find?_registered capacity distinct

/-- Of four records in a store for two, the first went when the store was emptied, and the second
made room for the last. -/
theorem retention_two :
    let uses : List Use :=
      [.register "a" { modelText := "1" }, .clear, .register "b" { modelText := "2" },
        .register "c" { modelText := "3" }, .find "b", .register "d" { modelText := "4" }]
    let store := (ofCapacity 2).afterUses uses
    (identifiers uses).Nodup ∧ store.size = 2 ∧ (∀ record, store.find? "b" ≠ some record) ∧
      store.find? "c" = some { modelText := "3" } := by
  intro uses store
  have fresh : (identifiers uses).Nodup := by decide
  have kept := retention 2 fresh
  have window : (registrations uses).rtake 2 =
      [("c", { modelText := "3" }), ("d", { modelText := "4" })] := rfl
  refine ⟨fresh, kept.size, fun record found => ?_, (kept.found "c" _).mpr ?_⟩
  · have member := (kept.found "b" record).mp found
    change _ ∈ (registrations uses).rtake 2 at member
    simp [window] at member
  · exact window ▸ List.mem_cons_self

end ArtifactStore

end AssistantEngine
