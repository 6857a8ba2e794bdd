import AssistantEngine.Proofs.Engine.Estate

/-!
Transfers between estates. With every change of what there is to account for somebody trades a
share for another one, so that the estates of all together are in order again.
-/

namespace AssistantEngine

variable {others : Estate} {holdings : Holdings}

namespace Sound

/-! ## Connections -/

/-- A connection that is opened is fresh. -/
theorem opened (sound : Sound others holdings) :
    Sound (({Share.fresh holdings.closings.length} : Estate) + others)
      { holdings with closings := holdings.closings ++ [0] } := by
  rcases sound with ⟨wired, owned, reserved⟩
  refine ⟨?_, owned.congr (fun _ _ => .rfl) (fun _ => id) rfl (by simp) (by simp) (by simp),
    reserved.congr rfl rfl (by simp) (by simp)⟩
  -- Nothing is known of a connection that is not open yet.
  have unknown : holdings.closings[holdings.closings.length]? = none :=
    List.getElem?_eq_none (Nat.le_refl _)
  have unshared : others.count (.fresh holdings.closings.length) = 0 := by
    by_contra shared
    rw [(wired.fresh _ (Nat.pos_of_ne_zero shared)).2.2.1] at unknown
    cases unknown
  have notParting : others.count (.parting holdings.closings.length) = 0 := by
    by_contra parting
    exact Nat.lt_irrefl _ (wired.parting _ (Nat.pos_of_ne_zero parting))
  have kept {connection closings : Nat} (found : holdings.closings[connection]? = some closings) :
      (holdings.closings ++ [0])[connection]? = some closings := by
    rw [List.getElem?_append_left (List.getElem?_eq_some_iff.mp found).1, found]
  constructor
  case numbered => exact wired.numbered
  case made => exact wired.made
  case fresh =>
    intro connection shared
    by_cases same : connection = holdings.closings.length
    · subst same
      refine ⟨by rw [count_share_self, unshared], by simpa using notParting, by simp,
        fun runtime member linked => ?_⟩
      rcases wired.counted runtime member _ linked with ⟨closings, found, _⟩
      rw [unknown] at found
      cases found
    · have different : Share.fresh connection ≠ .fresh holdings.closings.length := by
        simpa using same
      rw [count_share_of_ne different] at shared ⊢
      rcases wired.fresh connection shared with ⟨single, notParting, found, unlinked⟩
      exact ⟨single, by simpa using notParting, kept found, unlinked⟩
  case parting =>
    intro connection parting
    rw [count_share_of_ne (by simp)] at parting
    have within := wired.parting connection parting
    change connection < (holdings.closings ++ [0]).length
    rw [List.length_append]
    exact Nat.lt_succ_of_lt within
  case apart => exact wired.apart
  case counted =>
    intro runtime member connection linked
    rcases wired.counted runtime member connection linked with ⟨closings, found, balance⟩
    exact ⟨closings, kept found, by simpa using balance⟩

/-- A fresh connection may be forgotten. -/
theorem dropped {connection : ConnectionId}
    (sound : Sound (({Share.fresh connection} : Estate) + others) holdings) :
    Sound others holdings := by
  rcases sound with ⟨wired, owned, reserved⟩
  refine ⟨?_, owned.congr (fun _ _ => .rfl) (fun _ => id) rfl (by simp) (by simp) (by simp),
    reserved.congr rfl rfl (by simp) (by simp)⟩
  constructor
  case numbered => exact wired.numbered
  case made => exact wired.made
  case fresh =>
    intro other shared
    have more : others.count (.fresh other) ≤
        (({Share.fresh connection} : Estate) + others).count (.fresh other) :=
      Multiset.count_le_of_le _ (Multiset.le_add_left _ _)
    rcases wired.fresh other (Nat.lt_of_lt_of_le shared more) with
      ⟨single, notParting, found, unlinked⟩
    exact ⟨by omega, by simpa using notParting, found, unlinked⟩
  case parting => exact fun other parting => wired.parting other (by simpa using parting)
  case apart => exact wired.apart
  case counted => simpa using wired.counted

/-- A fresh connection is closed. -/
theorem shutFresh {connection : ConnectionId}
    (sound : Sound (({Share.fresh connection} : Estate) + others) holdings) :
    Sound others (holdings.shut connection) := by
  rcases sound.wired.fresh connection (by simp) with ⟨single, notParting, found, unlinked⟩
  rcases sound.dropped with ⟨wired, owned, reserved⟩
  refine ⟨?_, owned.congr (fun _ _ => .rfl) (fun _ => id) rfl (by simp) (by simp) (by simp),
    reserved.congr rfl rfl (by simp) (by simp)⟩
  rw [count_share_self] at single
  constructor
  case numbered => exact wired.numbered
  case made => exact wired.made
  case fresh =>
    intro other shared
    have different : connection ≠ other := by
      rintro rfl
      omega
    rw [Holdings.closings_shut_of_ne different]
    exact wired.fresh other shared
  case parting =>
    intro other parting
    rw [Holdings.length_shut]
    exact wired.parting other parting
  case apart => exact wired.apart
  case counted =>
    intro runtime member other linked
    have different : connection ≠ other := by
      rintro rfl
      exact unlinked runtime member linked
    rw [Holdings.closings_shut_of_ne different]
    exact wired.counted runtime member other linked

/-- A connection that its runtime has given up is closed. -/
theorem shutParting {connection : ConnectionId}
    (sound : Sound (({Share.parting connection} : Estate) + others) holdings) :
    Sound others (holdings.shut connection) := by
  rcases sound with ⟨wired, owned, reserved⟩
  refine ⟨?_, owned.congr (fun _ _ => .rfl) (fun _ => id) rfl (by simp) (by simp) (by simp),
    reserved.congr rfl rfl (by simp) (by simp)⟩
  have fewer (other : ConnectionId) : others.count (.parting other) ≤
      (({Share.parting connection} : Estate) + others).count (.parting other) :=
    Multiset.count_le_of_le _ (Multiset.le_add_left _ _)
  constructor
  case numbered => exact wired.numbered
  case made => exact wired.made
  case fresh =>
    intro other shared
    rcases wired.fresh other (by simpa using shared) with ⟨single, notParting, found, unlinked⟩
    have different : connection ≠ other := by
      rintro rfl
      rw [count_share_self] at notParting
      cases notParting
    rw [Holdings.closings_shut_of_ne different]
    have rest := fewer other
    exact ⟨by simpa using single, by omega, found, unlinked⟩
  case parting =>
    intro other parting
    rw [Holdings.length_shut]
    exact wired.parting other (Nat.lt_of_lt_of_le parting (fewer other))
  case apart => exact wired.apart
  case counted =>
    intro runtime member other linked
    rcases wired.counted runtime member other linked with ⟨closings, found, balance⟩
    by_cases same : connection = other
    · subst same
      rw [count_share_self] at balance
      exact ⟨closings + 1, Holdings.closings_shut_self found,
        (Nat.succ_add closings _).trans balance⟩
    · rw [count_share_of_ne (by simpa using Ne.symm same)] at balance
      exact ⟨closings, (Holdings.closings_shut_of_ne same).trans found, balance⟩

/-! ## Runtimes -/

/-- A runtime whose plugin could not be contacted has no connection. -/
theorem madeFailed {runtime : PluginRuntime} (sound : Sound others holdings)
    (number : runtime.number = holdings.plugins.length) (failed : runtime.connection? = none) :
    Sound others (holdings.add runtime) := by
  rcases sound with ⟨wired, owned, reserved⟩
  refine ⟨?_, owned.congr ?_ (fun _ => List.mem_append_left _) rfl (by simp) rfl (by simp),
    reserved.congr rfl rfl (by simp) (by simp)⟩
  · constructor
    case numbered => exact wired.numbered_add number
    case made => exact wired.made_add runtime
    case fresh =>
      intro connection shared
      rcases wired.fresh connection shared with ⟨single, notParting, found, unlinked⟩
      refine ⟨single, notParting, found, fun other member => ?_⟩
      rcases Holdings.mem_add.mp member with present | rfl
      · exact unlinked other present
      · rw [failed]
        exact nofun
    case parting => exact wired.parting
    case apart =>
      intro first firstMember second secondMember connection firstLinked secondLinked
      have present {other : PluginRuntime} (member : other ∈ (holdings.add runtime).plugins)
          (linked : other.connection? = some connection) : other ∈ holdings.plugins := by
        rcases Holdings.mem_add.mp member with present | rfl
        · exact present
        · rw [failed] at linked
          cases linked
      exact wired.apart first (present firstMember firstLinked) second
        (present secondMember secondLinked) connection firstLinked secondLinked
    case counted =>
      intro other member connection linked
      rcases Holdings.mem_add.mp member with present | rfl
      · exact wired.counted other present connection linked
      · rw [failed] at linked
        cases linked
  · intro other active
    apply Holdings.isOpen_add_of_ne
    rintro rfl
    rw [PluginRuntime.isActive_eq, failed] at active
    cases active

/-- A runtime gets a fresh connection. -/
theorem wired_madeActive {runtime : PluginRuntime} {connection : ConnectionId}
    (sound : Sound (({Share.fresh connection} : Estate) + others) holdings)
    (number : runtime.number = holdings.plugins.length)
    (linked : runtime.connection? = some connection)
    (unclosed : runtime.number ∉ holdings.closedPlugins) :
    Wired (({Share.live false runtime} : Estate) + others) (holdings.add runtime) := by
  rcases sound.wired.fresh connection (by simp) with ⟨single, notParting, found, unlinked⟩
  rw [count_share_self] at single
  rw [count_share_of_ne (by simp)] at notParting
  have wired := sound.dropped.wired
  constructor
  case numbered => exact wired.numbered_add number
  case made => exact wired.made_add runtime
  case fresh =>
    intro other shared
    rw [count_share_of_ne (by simp)] at shared ⊢
    rcases wired.fresh other shared with ⟨single, notParting, found, unlinked⟩
    refine ⟨single, by simpa using notParting, found, fun candidate member => ?_⟩
    rcases Holdings.mem_add.mp member with present | rfl
    · exact unlinked candidate present
    · rw [linked]
      rintro ⟨rfl⟩
      omega
  case parting => exact fun other parting => wired.parting other (by simpa using parting)
  case apart =>
    intro first firstMember second secondMember other firstLinked secondLinked
    rcases Holdings.mem_add.mp firstMember with firstPresent | rfl <;>
      rcases Holdings.mem_add.mp secondMember with secondPresent | rfl
    · exact wired.apart first firstPresent second secondPresent other firstLinked secondLinked
    · cases linked.symm.trans secondLinked
      exact absurd firstLinked (unlinked first firstPresent)
    · cases linked.symm.trans firstLinked
      exact absurd secondLinked (unlinked second secondPresent)
    · rfl
  case counted =>
    intro other member candidate otherLinked
    rw [count_share_of_ne (by simp)]
    rcases Holdings.mem_add.mp member with present | rfl
    · exact wired.counted other present candidate otherLinked
    · cases linked.symm.trans otherLinked
      exact ⟨0, found, (Nat.zero_add _).trans (notParting.trans (if_neg unclosed).symm)⟩

/-- Whoever has made an active runtime has got it. -/
theorem owned_madeActive {runtime : PluginRuntime} (owned : Owned others holdings)
    (absent : runtime ∉ holdings.plugins) (unclosed : runtime.number ∉ holdings.closedPlugins)
    (active : runtime.isActive = true) :
    Owned (({Share.live false runtime} : Estate) + others) (holdings.add runtime) := by
  constructor
  case single =>
    intro other otherActive
    by_cases same : other = runtime
    · subst same
      have before := owned.single other active
      rw [if_neg fun isOpen : holdings.IsOpen other => absent isOpen.1] at before
      have isOpen : (holdings.add other).IsOpen other :=
        ⟨List.mem_append_right _ List.mem_cons_self, unclosed⟩
      rw [keepers_live_self, if_pos isOpen]
      change _ + holdings.singletons.values.count other = 1
      omega
    · rw [keepers_share_of_ne (by simp [same])]
      simp only [Holdings.isOpen_add_of_ne same]
      exact owned.single other otherActive
  case shared => exact owned.shared
  case early =>
    intro other remembered otherActive
    rw [count_share_of_ne (by simp)] at remembered
    rcases owned.early other remembered otherActive with ⟨member, unshared, gone⟩
    have different : other ≠ runtime := fun same => absent (same ▸ member)
    refine ⟨List.mem_append_left _ member, ?_, fun drained => gone (by simpa using drained)⟩
    rw [count_share_of_ne (by simp [different]), unshared]

/-- A fresh connection is handed to a runtime. -/
theorem madeActive {runtime : PluginRuntime} {connection : ConnectionId}
    (sound : Sound (({Share.fresh connection} : Estate) + others) holdings)
    (number : runtime.number = holdings.plugins.length)
    (linked : runtime.connection? = some connection) :
    Sound (({Share.live false runtime} : Estate) + others) (holdings.add runtime) := by
  have absent : runtime ∉ holdings.plugins := fun member =>
    (sound.wired.fresh connection (by simp)).2.2.2 runtime member linked
  have unclosed : runtime.number ∉ holdings.closedPlugins := fun closed =>
    Nat.lt_irrefl _ (number ▸ sound.wired.made _ closed)
  exact ⟨sound.wired_madeActive number linked unclosed,
    owned_madeActive sound.dropped.owned absent unclosed
      (PluginRuntime.isActive_of_connection? linked),
    sound.dropped.reserved.congr rfl rfl (by simp) (by simp)⟩

/-- Only one runtime's number is new among those that have given up their connection. -/
theorem closed_giveUp_iff {runtime other : PluginRuntime} (wired : Wired others holdings)
    (member : runtime ∈ holdings.plugins) (present : other ∈ holdings.plugins)
    (different : other ≠ runtime) :
    other.number ∈ (holdings.giveUp runtime).closedPlugins ↔
      other.number ∈ holdings.closedPlugins := by
  have numbers : other.number ≠ runtime.number :=
    fun same => different (wired.eq_of_number present member same)
  exact List.mem_cons.trans (or_iff_right numbers)

/-- The connection of a runtime that gives it up is about to be closed. -/
theorem wired_givenUp {runtime : PluginRuntime} {drained : Bool} {connection : ConnectionId}
    (wired : Wired (({Share.live drained runtime} : Estate) + others) holdings)
    (isOpen : holdings.IsOpen runtime) (linked : runtime.connection? = some connection) :
    Wired (({Share.parting connection} : Estate) + others) (holdings.giveUp runtime) := by
  rcases isOpen with ⟨member, unclosed⟩
  rcases wired.counted runtime member connection linked with ⟨closings, found, balance⟩
  rw [count_share_of_ne (by simp), if_neg unclosed] at balance
  constructor
  case numbered => exact wired.numbered
  case made =>
    intro number closed
    rcases List.mem_cons.mp closed with rfl | earlier
    · exact wired.number_lt member
    · exact wired.made number earlier
  case fresh =>
    intro other shared
    rw [count_share_of_ne (by simp)] at shared ⊢
    rcases wired.fresh other (by simpa using shared) with ⟨single, notParting, found, unlinked⟩
    have different : other ≠ connection := by
      rintro rfl
      exact unlinked runtime member linked
    rw [count_share_of_ne (by simp)] at single notParting
    rw [count_share_of_ne (by simpa using different)]
    exact ⟨single, notParting, found, unlinked⟩
  case parting =>
    intro other parting
    by_cases same : other = connection
    · subst same
      exact (List.getElem?_eq_some_iff.mp found).1
    · rw [count_share_of_ne (by simpa using same)] at parting
      exact wired.parting other (by simpa using parting)
  case apart => exact wired.apart
  case counted =>
    intro other present candidate otherLinked
    by_cases same : other = runtime
    · subst same
      cases linked.symm.trans otherLinked
      have closedNow : other.number ∈ (holdings.giveUp other).closedPlugins := List.mem_cons_self
      refine ⟨closings, found, ?_⟩
      rw [count_share_self, if_pos closedNow]
      omega
    · have different : candidate ≠ connection := by
        rintro rfl
        exact same (wired.apart other present runtime member _ otherLinked linked)
      rcases wired.counted other present candidate otherLinked with ⟨count, known, accounted⟩
      refine ⟨count, known, ?_⟩
      rw [count_share_of_ne (by simp)] at accounted
      rw [count_share_of_ne (by simpa using different), accounted]
      simp only [closed_giveUp_iff wired member present same]

/-- Nobody has got a runtime that has given up its connection. -/
theorem owned_givenUp {runtime : PluginRuntime} {drained : Bool} {connection : ConnectionId}
    (sound : Sound (({Share.live drained runtime} : Estate) + others) holdings)
    (active : runtime.isActive = true) :
    Owned (({Share.parting connection} : Estate) + others) (holdings.giveUp runtime) := by
  rcases sound with ⟨wired, owned, _⟩
  rcases owned.of_live active (Multiset.count_pos.mpr (Multiset.mem_add.mpr
    (.inl (Multiset.mem_singleton_self _)))) with ⟨⟨member, _⟩, single⟩
  rw [keepers_live_self] at single
  constructor
  case single =>
    intro other otherActive
    have before := owned.single other otherActive
    rw [keepers_share_of_ne (by simp)]
    by_cases same : other = runtime
    · subst same
      rw [if_neg fun isOpen : (holdings.giveUp other).IsOpen other => isOpen.2 List.mem_cons_self]
      change _ + holdings.singletons.values.count other = 0
      omega
    · rw [keepers_share_of_ne (by simp [same])] at before
      have alike : (holdings.giveUp runtime).IsOpen other ↔ holdings.IsOpen other :=
        and_congr_right fun present => not_congr (closed_giveUp_iff wired member present same)
      simp only [alike]
      exact before
  case shared => exact owned.shared
  case early =>
    intro other remembered otherActive
    rw [count_share_of_ne (by simp)] at remembered ⊢
    rcases owned.early other (by simpa using remembered) otherActive with ⟨present, unshared, gone⟩
    refine ⟨present, ?_, fun drained => gone (by simpa using drained)⟩
    rw [Multiset.count_add] at unshared
    omega

/-- Whoever has got a runtime may make it give its connection up. -/
theorem givenUp {runtime : PluginRuntime} {drained : Bool} {connection : ConnectionId}
    (sound : Sound (({Share.live drained runtime} : Estate) + others) holdings)
    (linked : runtime.connection? = some connection) :
    Sound (({Share.parting connection} : Estate) + others) (holdings.giveUp runtime) := by
  have active := PluginRuntime.isActive_of_connection? linked
  have held : 0 < (({Share.live drained runtime} : Estate) + others).count
      (.live drained runtime) := by simp
  exact ⟨wired_givenUp sound.wired (sound.owned.of_live active held).1 linked,
    sound.owned_givenUp active, sound.reserved.congr rfl rfl (by simp) (by simp)⟩

/-! ## Singletons -/

/-- A singleton is reserved that nobody has reserved. -/
theorem reserve {registryId : String} (sound : Sound others holdings)
    (unreserved : registryId ∉ holdings.reserved) :
    Sound (({Share.turn registryId} : Estate) + others)
      { holdings with reserved := registryId :: holdings.reserved } := by
  rcases sound with ⟨wired, owned, reserved⟩
  refine ⟨wired.congr rfl rfl rfl (by simp) (by simp),
    owned.congr (fun _ _ => .rfl) (fun _ => id) rfl (by simp) (by simp) (by simp), ?_⟩
  constructor
  case single =>
    intro other
    rcases reserved.single other with ⟨single, once⟩
    rw [count_share_of_ne (by simp : Share.vacancy other ≠ _)]
    by_cases same : other = registryId
    · subst same
      have zero : holdings.reserved.count other = 0 := List.count_eq_zero.mpr unreserved
      rw [count_share_self, List.count_cons_self]
      omega
    · rw [count_share_of_ne (by simpa using same), List.count_cons_of_ne (Ne.symm same)]
      exact ⟨single, once⟩
  case vacant =>
    intro other vacancy
    exact reserved.vacant other (by simpa using vacancy)

/-- A reservation is given up. -/
theorem unreserve {registryId : String}
    (sound : Sound (({Share.turn registryId} : Estate) + others) holdings) :
    Sound others { holdings with reserved := holdings.reserved.erase registryId } := by
  rcases sound with ⟨wired, owned, reserved⟩
  refine ⟨wired.congr rfl rfl rfl (by simp) (by simp),
    owned.congr (fun _ _ => .rfl) (fun _ => id) rfl (by simp) (by simp) (by simp), ?_⟩
  constructor
  case single =>
    intro other
    rcases reserved.single other with ⟨single, once⟩
    rw [count_share_of_ne (by simp : Share.vacancy other ≠ _)] at single
    by_cases same : other = registryId
    · subst same
      rw [count_share_self] at single
      change _ = (holdings.reserved.erase other).count other ∧
        (holdings.reserved.erase other).count other ≤ 1
      rw [List.count_erase_self]
      omega
    · rw [count_share_of_ne (by simpa using same)] at single
      change _ = (holdings.reserved.erase registryId).count other ∧
        (holdings.reserved.erase registryId).count other ≤ 1
      rw [List.count_erase_of_ne same]
      exact ⟨single, once⟩
  case vacant =>
    intro other vacancy
    exact reserved.vacant other (by simpa using vacancy)

/-- Whoever may make a singleton sees that there is none. -/
theorem observe {registryId : String}
    (sound : Sound (({Share.turn registryId} : Estate) + others) holdings)
    (absent : holdings.singletons.find? registryId = none) :
    Sound (({Share.vacancy registryId} : Estate) + others) holdings := by
  rcases sound with ⟨wired, owned, reserved⟩
  refine ⟨wired.congr rfl rfl rfl (by simp) (by simp),
    owned.congr (fun _ _ => .rfl) (fun _ => id) rfl (by simp) (by simp) (by simp), ?_⟩
  constructor
  case single =>
    intro other
    rcases reserved.single other with ⟨single, once⟩
    refine ⟨?_, once⟩
    rw [← single]
    by_cases same : other = registryId
    · subst same
      simp
      omega
    · simp [same]
  case vacant =>
    intro other vacancy
    by_cases same : other = registryId
    · exact same ▸ absent
    · rw [count_share_of_ne (by simpa using same)] at vacancy
      exact reserved.vacant other (by simpa using vacancy)

/-- The share in a runtime is of one kind. -/
theorem count_add_share {runtime : PluginRuntime} {share : Share}
    (different : ∀ drained runtime, share ≠ .live drained runtime) :
    (runtime.share false + others).count share = others.count share := by
  unfold PluginRuntime.share
  split
  · exact count_share_of_ne (different false runtime)
  · rw [zero_add]

/-- A runtime that goes into the map is there instead of with whoever has made it. -/
theorem owned_entered {registryId : String} {runtime : PluginRuntime}
    (owned : Owned (({Share.vacancy registryId} : Estate) + (runtime.share false + others))
      holdings)
    (kind : runtime.kind = .singleton)
    (values : (holdings.singletons.insert registryId runtime).values.Perm
      (runtime :: holdings.singletons.values)) :
    Owned (({Share.turn registryId} : Estate) + others)
      { holdings with singletons := holdings.singletons.insert registryId runtime } := by
  constructor
  case single =>
    intro other active
    have before := owned.single other active
    have alike : Holdings.IsOpen { holdings with
        singletons := holdings.singletons.insert registryId runtime } other ↔
          holdings.IsOpen other := .rfl
    rw [keepers_share_of_ne (by simp)] at before ⊢
    simp only [alike, values.count_eq, List.count_cons]
    rw [← before]
    unfold PluginRuntime.share
    by_cases same : runtime = other
    · subst same
      rw [if_pos active, keepers_live_self, if_pos (beq_self_eq_true _)]
      omega
    · rw [if_neg (by simpa using same), Nat.add_zero]
      split
      · rw [keepers_share_of_ne (by simp [Ne.symm same])]
      · rw [zero_add]
  case shared =>
    intro other member
    rcases List.mem_cons.mp (values.mem_iff.mp member) with rfl | present
    · exact kind
    · exact owned.shared other present
  case early =>
    intro other remembered active
    rw [count_share_of_ne (by simp)] at remembered ⊢
    rcases owned.early other (by
        rw [count_share_of_ne (by simp), count_add_share (by simp)]
        exact remembered) active with ⟨present, unshared, gone⟩
    rw [count_share_of_ne (by simp), Multiset.count_add] at unshared
    refine ⟨present, by omega, fun drained => ?_⟩
    have absentBefore := gone (by
        rw [count_share_of_ne (by simp), count_add_share (by simp)]
        simpa using drained)
    intro member
    rcases List.mem_cons.mp (values.mem_iff.mp member) with rfl | present
    · unfold PluginRuntime.share at unshared
      rw [if_pos active, Multiset.count_singleton_self] at unshared
      omega
    · exact absentBefore present

/-- Whoever has made a singleton still has it reserved. -/
theorem reserved_entered {registryId : String} {runtime : PluginRuntime}
    (reserved : Reserved (({Share.vacancy registryId} : Estate) + (runtime.share false + others))
      holdings) :
    Reserved (({Share.turn registryId} : Estate) + others)
      { holdings with singletons := holdings.singletons.insert registryId runtime } := by
  constructor
  case single =>
    intro other
    rcases reserved.single other with ⟨single, once⟩
    refine ⟨?_, once⟩
    rw [← single, count_share_of_ne (by simp : Share.vacancy other ≠ .turn registryId),
      count_share_of_ne (by simp : Share.turn other ≠ .vacancy registryId),
      count_add_share (by simp)]
    by_cases same : other = registryId
    · subst same
      rw [count_share_self, count_share_self, count_add_share (by simp)]
      omega
    · rw [count_share_of_ne (by simpa using same), count_share_of_ne (by simpa using same),
        count_add_share (by simp)]
  case vacant =>
    intro other vacancy
    rw [count_share_of_ne (by simp)] at vacancy
    have single := reserved.single other
    have different : registryId ≠ other := by
      rintro rfl
      rw [count_share_self, count_add_share (by simp)] at single
      omega
    rw [Catalog.find?_insert, if_neg different]
    apply reserved.vacant
    rw [Multiset.count_add, Multiset.count_add]
    omega

/-- A new singleton goes into the map. -/
theorem enter {registryId : String} {runtime : PluginRuntime}
    (sound : Sound (({Share.vacancy registryId} : Estate) + (runtime.share false + others))
      holdings)
    (kind : runtime.kind = .singleton) :
    Sound (({Share.turn registryId} : Estate) + others)
      { holdings with singletons := holdings.singletons.insert registryId runtime } := by
  have absent := sound.reserved.vacant registryId (by simp)
  refine ⟨sound.wired.congr rfl rfl rfl (fun connection => ?_) (fun connection => ?_),
    owned_entered sound.owned kind (Catalog.perm_values_insert absent runtime),
    reserved_entered sound.reserved⟩ <;>
  rw [count_share_of_ne (by simp), count_share_of_ne (by simp), count_add_share (by simp)]

/-- The map is emptied, and whoever does so has got the singletons to close. -/
theorem emptied (sound : Sound (({Share.drain} : Estate) + others) holdings) :
    Sound (PluginRuntime.shares true holdings.singletons.values + others)
      { holdings with singletons := [] } := by
  rcases sound with ⟨wired, owned, reserved⟩
  have unlike {share : Share} (different : ∀ runtime, share ≠ .live true runtime) :
      (PluginRuntime.shares true holdings.singletons.values + others).count share =
        others.count share := by
    rw [Multiset.count_add, PluginRuntime.count_shares_of_ne different, Nat.zero_add]
  refine ⟨wired.congr rfl rfl rfl ?_ ?_, ?_, ?_⟩
  · intro connection
    rw [count_share_of_ne (by simp), unlike (by simp)]
  · intro connection
    rw [count_share_of_ne (by simp), unlike (by simp)]
  · constructor
    case single =>
      intro runtime active
      have before := owned.single runtime active
      rw [keepers_share_of_ne (by simp)] at before
      have alike : Holdings.IsOpen { holdings with singletons := [] } runtime ↔
          holdings.IsOpen runtime := .rfl
      simp only [alike]
      rw [← before, Estate.keepers_add, PluginRuntime.keepers_shares active]
      change _ + _ + 0 = _
      omega
    case shared => exact nofun
    case early =>
      intro runtime remembered active
      rw [unlike (by simp)] at remembered ⊢
      rcases owned.early runtime (by simpa using remembered) active with ⟨present, unshared, _⟩
      exact ⟨present, by simpa using unshared, fun _ => nofun⟩
  · constructor
    case single =>
      intro registryId
      rw [unlike (by simp), unlike (by simp)]
      simpa using reserved.single registryId
    case vacant => exact fun _ _ => rfl

/-- The duty to empty the map is taken on. -/
theorem remember (sound : Sound others holdings) :
    Sound (({Share.drain} : Estate) +
      (PluginRuntime.memories holdings.singletons.values + others)) holdings := by
  rcases sound with ⟨wired, owned, reserved⟩
  have unlike {share : Share} (notDrain : share ≠ .drain)
      (different : ∀ runtime, share ≠ .early runtime) :
      (({Share.drain} : Estate) +
        (PluginRuntime.memories holdings.singletons.values + others)).count share =
          others.count share := by
    rw [count_share_of_ne notDrain, Multiset.count_add,
      PluginRuntime.count_memories_of_ne different, Nat.zero_add]
  refine ⟨wired.congr rfl rfl rfl (fun _ => unlike (by simp) (by simp))
      (fun _ => unlike (by simp) (by simp)), ?_,
    reserved.congr rfl rfl (fun _ => unlike (by simp) (by simp))
      (fun _ => unlike (by simp) (by simp))⟩
  constructor
  case single =>
    intro runtime active
    unfold Estate.keepers
    rw [unlike (by simp) (by simp), unlike (by simp) (by simp)]
    exact owned.single runtime active
  case shared => exact owned.shared
  case early =>
    intro runtime remembered active
    rw [count_share_of_ne (by simp), Multiset.count_add] at remembered
    rw [unlike (by simp) (by simp)]
    have undrained : ¬ (({Share.drain} : Estate) +
        (PluginRuntime.memories holdings.singletons.values + others)).count .drain = 0 := by
      rw [count_share_self]
      exact Nat.succ_ne_zero _
    by_cases earlier : 0 < others.count (.early runtime)
    · rcases owned.early runtime earlier active with ⟨present, unshared, _⟩
      exact ⟨present, unshared, fun drained => absurd drained undrained⟩
    · have member : runtime ∈ holdings.singletons.values :=
        PluginRuntime.mem_of_count_memories (by omega)
      have single := owned.single runtime active
      have counted := List.count_pos_iff.mpr member
      unfold Estate.keepers at single
      by_cases isOpen : holdings.IsOpen runtime
      · rw [if_pos isOpen] at single
        exact ⟨isOpen.1, by omega, fun drained => absurd drained undrained⟩
      · rw [if_neg isOpen] at single
        omega

end Sound

end AssistantEngine
