import Mathlib.Algebra.BigOperators.Group.List.Basic
import Mathlib.Algebra.Order.Group.Multiset
import AssistantEngine.Engine.World
import AssistantEngine.Proofs.Catalog

/-!
The estates of those who work with tool servers. A connection belongs to whoever has opened it.
When it has been handed to a plugin runtime, the runtime belongs to somebody instead, or to the
map of the singletons, until it gives the connection up; and whoever made it do so has the
connection to close.
-/

namespace AssistantEngine

/-! ## Holdings -/

/-- What the estates have to be in accordance with. -/
structure Holdings where
  plugins : List PluginRuntime
  closedPlugins : List Nat
  singletons : Catalog PluginRuntime
  reserved : List String
  /-- How many times each connection was closed. -/
  closings : List Nat

def World.holdings (world : World) : Holdings where
  plugins := world.plugins
  closedPlugins := world.closedPlugins
  singletons := world.singletons
  reserved := world.reserved
  closings := world.connections.map (·.closings)

variable {holdings next : Holdings}

namespace Holdings

/-- A runtime has a connection unless it has given it up. -/
def IsOpen (holdings : Holdings) (runtime : PluginRuntime) : Prop :=
  runtime ∈ holdings.plugins ∧ runtime.number ∉ holdings.closedPlugins

instance (holdings : Holdings) (runtime : PluginRuntime) : Decidable (holdings.IsOpen runtime) :=
  inferInstanceAs (Decidable (_ ∧ _))

/-- A connection is closed once more. -/
def shut (holdings : Holdings) (connection : ConnectionId) : Holdings :=
  { holdings with closings := holdings.closings.modify connection (· + 1) }

theorem closings_shut_of_ne {connection other : ConnectionId}
    (different : connection ≠ other) :
    (holdings.shut connection).closings[other]? = holdings.closings[other]? := by
  unfold shut
  simp [different]

theorem closings_shut_self {connection : ConnectionId} {closings : Nat}
    (found : holdings.closings[connection]? = some closings) :
    (holdings.shut connection).closings[connection]? = some (closings + 1) := by
  unfold shut
  simp [found]

theorem length_shut (connection : ConnectionId) :
    (holdings.shut connection).closings.length = holdings.closings.length :=
  List.length_modify _ _ _

/-- There is one more runtime. -/
def add (holdings : Holdings) (runtime : PluginRuntime) : Holdings :=
  { holdings with plugins := holdings.plugins ++ [runtime] }

theorem mem_add {runtime other : PluginRuntime} :
    other ∈ (holdings.add runtime).plugins ↔ other ∈ holdings.plugins ∨ other = runtime := by
  simp [add]

theorem isOpen_add_of_ne {runtime other : PluginRuntime} (different : other ≠ runtime) :
    (holdings.add runtime).IsOpen other ↔ holdings.IsOpen other := by
  unfold IsOpen
  rw [mem_add]
  simp [add, different]

/-- A runtime gives its connection up. -/
def giveUp (holdings : Holdings) (runtime : PluginRuntime) : Holdings :=
  { holdings with closedPlugins := runtime.number :: holdings.closedPlugins }

end Holdings

/-! ## Shares -/

inductive Share where
  /-- A connection that no runtime has got yet. -/
  | fresh (connection : ConnectionId)
  /-- A connection that its runtime has given up, to be closed. -/
  | parting (connection : ConnectionId)
  /-- An active runtime, to be closed. It may have been taken out of the map of the singletons. -/
  | live (drained : Bool) (runtime : PluginRuntime)
  /-- The right to make a singleton. -/
  | turn (registryId : String)
  /-- The same right, where it is known that there is no such singleton. -/
  | vacancy (registryId : String)
  /-- The duty to empty the map of the singletons. -/
  | drain
  /-- The memory of a singleton that was in the map when this duty was taken on. -/
  | early (runtime : PluginRuntime)
deriving DecidableEq

abbrev Estate := Multiset Share

/-- The share in a runtime, if it is active. -/
def PluginRuntime.share (drained : Bool) (runtime : PluginRuntime) : Estate :=
  if runtime.isActive then {.live drained runtime} else 0

def PluginRuntime.shares (drained : Bool) (runtimes : List PluginRuntime) : Estate :=
  (runtimes.map (share drained)).sum

/-- The memory of runtimes that were in the map. -/
def PluginRuntime.memories (runtimes : List PluginRuntime) : Estate :=
  Multiset.ofList (runtimes.map Share.early)

/-- How many parties have got a runtime. -/
def Estate.keepers (estate : Estate) (runtime : PluginRuntime) : Nat :=
  estate.count (.live false runtime) + estate.count (.live true runtime)

variable {total later others : Estate}

/-- One more share of a kind. -/
theorem count_share_self (share : Share) :
    (({share} : Estate) + others).count share = others.count share + 1 := by
  rw [Multiset.count_add, Multiset.count_singleton_self, Nat.add_comm]

theorem count_share_of_ne {share other : Share} (different : other ≠ share) :
    (({share} : Estate) + others).count other = others.count other := by
  rw [Multiset.count_add, Multiset.count_singleton, if_neg different, Nat.zero_add]

theorem keepers_live_self (drained : Bool) (runtime : PluginRuntime) :
    (({Share.live drained runtime} : Estate) + others).keepers runtime =
      others.keepers runtime + 1 := by
  unfold Estate.keepers
  cases drained <;> rw [count_share_self, count_share_of_ne (by simp)] <;> omega

theorem Estate.keepers_add (first second : Estate) (runtime : PluginRuntime) :
    Estate.keepers (first + second) runtime = first.keepers runtime + second.keepers runtime := by
  unfold Estate.keepers
  rw [Multiset.count_add, Multiset.count_add]
  omega

theorem keepers_share_of_ne {share : Share} {runtime : PluginRuntime}
    (different : ∀ drained, .live drained runtime ≠ share) :
    (({share} : Estate) + others).keepers runtime = others.keepers runtime := by
  unfold Estate.keepers
  rw [count_share_of_ne (different false), count_share_of_ne (different true)]

namespace PluginRuntime

theorem isActive_eq (runtime : PluginRuntime) : runtime.isActive = runtime.connection?.isSome := by
  unfold isActive connection?
  cases runtime.state <;> rfl

theorem isActive_of_connection? {runtime : PluginRuntime} {connection : ConnectionId}
    (linked : runtime.connection? = some connection) : runtime.isActive = true := by
  rw [isActive_eq, linked]
  rfl

theorem count_shares_of_ne {drained : Bool} {share : Share}
    (different : ∀ runtime, share ≠ .live drained runtime) (runtimes : List PluginRuntime) :
    (shares drained runtimes).count share = 0 := by
  induction runtimes with
  | nil => rfl
  | cons runtime rest induction =>
      have none : (runtime.share drained).count share = 0 := by
        unfold PluginRuntime.share
        split
        · rw [Multiset.count_singleton, if_neg (different runtime)]
        · rfl
      unfold shares at induction ⊢
      rw [List.map_cons, List.sum_cons, Multiset.count_add, none, induction]

theorem keepers_shares {runtime : PluginRuntime} (active : runtime.isActive = true)
    (drained : Bool) (runtimes : List PluginRuntime) :
    (shares drained runtimes).keepers runtime = runtimes.count runtime := by
  induction runtimes with
  | nil => rfl
  | cons first rest induction =>
      have split : shares drained (first :: rest) = first.share drained + shares drained rest :=
        List.sum_cons
      rw [split, List.count_cons, ← induction]
      unfold PluginRuntime.share
      split
      · by_cases same : first = runtime
        · subst same
          rw [keepers_live_self, if_pos (beq_self_eq_true _)]
        · rw [keepers_share_of_ne (by simp [Ne.symm same]), if_neg (by simpa using same)]
          rfl
      · rename_i inactive
        have different : first ≠ runtime := fun same => inactive (same ▸ active)
        rw [if_neg (by simpa using different), zero_add]
        rfl

theorem count_memories_of_ne {share : Share} (different : ∀ runtime, share ≠ .early runtime)
    (runtimes : List PluginRuntime) : (memories runtimes).count share = 0 := by
  apply Multiset.count_eq_zero_of_notMem
  intro member
  rcases List.mem_map.mp (Multiset.mem_coe.mp member) with ⟨runtime, _, same⟩
  exact different runtime same.symm

theorem mem_of_count_memories {runtime : PluginRuntime} {runtimes : List PluginRuntime}
    (counted : 0 < (memories runtimes).count (.early runtime)) : runtime ∈ runtimes := by
  rcases List.mem_map.mp (Multiset.mem_coe.mp (Multiset.count_pos.mp counted)) with
    ⟨found, member, same⟩
  cases same
  exact member

end PluginRuntime

/-! ## Accounts -/

/-- Every connection is fresh, or one runtime has got it; then it was closed, or is about to be,
just if the runtime has given it up. -/
structure Wired (total : Estate) (holdings : Holdings) : Prop where
  numbered : ∀ (index : Nat) (runtime : PluginRuntime),
    holdings.plugins[index]? = some runtime → runtime.number = index
  made : ∀ number ∈ holdings.closedPlugins, number < holdings.plugins.length
  fresh : ∀ connection, 0 < total.count (.fresh connection) →
    total.count (.fresh connection) = 1 ∧ total.count (.parting connection) = 0 ∧
      holdings.closings[connection]? = some 0 ∧
        ∀ runtime ∈ holdings.plugins, runtime.connection? ≠ some connection
  parting : ∀ connection, 0 < total.count (.parting connection) →
    connection < holdings.closings.length
  apart : ∀ first ∈ holdings.plugins, ∀ second ∈ holdings.plugins, ∀ connection,
    first.connection? = some connection → second.connection? = some connection → first = second
  counted : ∀ runtime ∈ holdings.plugins, ∀ connection, runtime.connection? = some connection →
    ∃ closings, holdings.closings[connection]? = some closings ∧
      closings + total.count (.parting connection) =
        if runtime.number ∈ holdings.closedPlugins then 1 else 0

/-- Every open runtime belongs to somebody, or is in the map of the singletons. -/
structure Owned (total : Estate) (holdings : Holdings) : Prop where
  single : ∀ runtime : PluginRuntime, runtime.isActive = true →
    total.keepers runtime + holdings.singletons.values.count runtime =
      if holdings.IsOpen runtime then 1 else 0
  shared : ∀ runtime ∈ holdings.singletons.values, runtime.kind = .singleton
  /-- Once the map has been emptied, nothing that was in it comes back. -/
  early : ∀ runtime, 0 < total.count (.early runtime) → runtime.isActive = true →
    runtime ∈ holdings.plugins ∧ total.count (.live false runtime) = 0 ∧
      (total.count .drain = 0 → runtime ∉ holdings.singletons.values)

/-- Every reservation belongs to one party. -/
structure Reserved (total : Estate) (holdings : Holdings) : Prop where
  single : ∀ registryId, total.count (.turn registryId) + total.count (.vacancy registryId) =
    holdings.reserved.count registryId ∧ holdings.reserved.count registryId ≤ 1
  vacant : ∀ registryId, 0 < total.count (.vacancy registryId) →
    holdings.singletons.find? registryId = none

/-- The estates of all together are what they should be. -/
structure Sound (total : Estate) (holdings : Holdings) : Prop where
  wired : Wired total holdings
  owned : Owned total holdings
  reserved : Reserved total holdings

/-! ## What accounts depend on -/

namespace Wired

theorem congr (wired : Wired total holdings) (plugins : next.plugins = holdings.plugins)
    (closed : next.closedPlugins = holdings.closedPlugins)
    (closings : next.closings = holdings.closings)
    (fresh : ∀ connection, later.count (.fresh connection) = total.count (.fresh connection))
    (parting : ∀ connection,
      later.count (.parting connection) = total.count (.parting connection)) :
    Wired later next := by
  constructor <;> simp only [plugins, closed, closings, fresh, parting]
  exacts [wired.numbered, wired.made, wired.fresh, wired.parting, wired.apart, wired.counted]

theorem index (wired : Wired total holdings) {runtime : PluginRuntime}
    (member : runtime ∈ holdings.plugins) : holdings.plugins[runtime.number]? = some runtime := by
  rcases List.getElem?_of_mem member with ⟨index, found⟩
  exact wired.numbered index runtime found ▸ found

theorem number_lt (wired : Wired total holdings) {runtime : PluginRuntime}
    (member : runtime ∈ holdings.plugins) : runtime.number < holdings.plugins.length :=
  (List.getElem?_eq_some_iff.mp (wired.index member)).1

theorem eq_of_number (wired : Wired total holdings) {first second : PluginRuntime}
    (firstMember : first ∈ holdings.plugins) (secondMember : second ∈ holdings.plugins)
    (same : first.number = second.number) : first = second := by
  have found := wired.index firstMember
  rw [same, wired.index secondMember] at found
  exact (Option.some.inj found).symm

theorem numbered_add (wired : Wired total holdings) {runtime : PluginRuntime}
    (number : runtime.number = holdings.plugins.length) (index : Nat) (other : PluginRuntime)
    (found : (holdings.add runtime).plugins[index]? = some other) : other.number = index := by
  rcases Nat.lt_or_ge index holdings.plugins.length with within | beyond
  · exact wired.numbered index other ((List.getElem?_append_left within).symm.trans found)
  · have last : index = holdings.plugins.length ∧ other = runtime := by
      have appended := (List.getElem?_append_right beyond).symm.trans found
      rcases List.getElem?_eq_some_iff.mp appended with ⟨single, same⟩
      have zero : index - holdings.plugins.length = 0 := Nat.lt_one_iff.mp single
      refine ⟨by omega, ?_⟩
      simp only [zero] at same
      exact same.symm
    rw [last.1, last.2, number]

theorem made_add (wired : Wired total holdings) (runtime : PluginRuntime) (number : Nat)
    (closed : number ∈ holdings.closedPlugins) :
    number < (holdings.add runtime).plugins.length := by
  have within := wired.made number closed
  change number < (holdings.plugins ++ [runtime]).length
  rw [List.length_append]
  omega

end Wired

theorem Owned.congr (owned : Owned total holdings)
    (opens : ∀ runtime : PluginRuntime, runtime.isActive = true →
      (next.IsOpen runtime ↔ holdings.IsOpen runtime))
    (plugins : ∀ runtime ∈ holdings.plugins, runtime ∈ next.plugins)
    (singletons : next.singletons = holdings.singletons)
    (live : ∀ drained runtime,
      later.count (.live drained runtime) = total.count (.live drained runtime))
    (drain : later.count .drain = total.count .drain)
    (early : ∀ runtime, later.count (.early runtime) = total.count (.early runtime)) :
    Owned later next := by
  constructor <;> simp only [singletons, Estate.keepers, live, drain, early]
  · intro runtime active
    simp only [opens runtime active]
    exact owned.single runtime active
  · exact owned.shared
  · intro runtime remembered active
    rcases owned.early runtime remembered active with ⟨member, unshared, gone⟩
    exact ⟨plugins runtime member, unshared, gone⟩

theorem Reserved.congr (reserved : Reserved total holdings)
    (same : next.reserved = holdings.reserved)
    (singletons : next.singletons = holdings.singletons)
    (turn : ∀ registryId, later.count (.turn registryId) = total.count (.turn registryId))
    (vacancy : ∀ registryId,
      later.count (.vacancy registryId) = total.count (.vacancy registryId)) :
    Reserved later next := by
  constructor <;> simp only [same, singletons, turn, vacancy]
  exacts [reserved.single, reserved.vacant]

/-- A runtime that somebody has got is open, and nobody else has got it. -/
theorem Owned.of_live (owned : Owned total holdings) {runtime : PluginRuntime} {drained : Bool}
    (active : runtime.isActive = true) (held : 0 < total.count (.live drained runtime)) :
    holdings.IsOpen runtime ∧
      total.keepers runtime + holdings.singletons.values.count runtime = 1 := by
  have single := owned.single runtime active
  have kept : 0 < total.keepers runtime := by
    unfold Estate.keepers
    cases drained <;> omega
  by_cases isOpen : holdings.IsOpen runtime
  · rw [if_pos isOpen] at single
    exact ⟨isOpen, single⟩
  · rw [if_neg isOpen] at single
    omega

/-- When no connection is about to be closed, a runtime's connection has been closed once, unless
somebody has got the runtime or it is in the map: then it is still open. -/
theorem Sound.closings (sound : Sound total holdings) {runtime : PluginRuntime}
    (member : runtime ∈ holdings.plugins) {connection : ConnectionId}
    (linked : runtime.connection? = some connection)
    (settled : total.count (.parting connection) = 0) :
    holdings.closings[connection]? =
      some (if total.keepers runtime + holdings.singletons.values.count runtime = 0 then 1
        else 0) := by
  rcases sound.wired.counted runtime member connection linked with ⟨closings, found, counted⟩
  have single := sound.owned.single runtime (PluginRuntime.isActive_of_connection? linked)
  rw [found]
  by_cases closed : runtime.number ∈ holdings.closedPlugins
  · rw [if_pos closed] at counted
    rw [if_neg fun isOpen => isOpen.2 closed] at single
    rw [if_pos single, show closings = 1 by omega]
  · rw [if_neg closed] at counted
    rw [if_pos ⟨member, closed⟩] at single
    rw [if_neg (by omega), show closings = 0 by omega]

end AssistantEngine
