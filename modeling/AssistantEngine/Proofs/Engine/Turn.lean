import AssistantEngine.Engine.Turn
import AssistantEngine.Proofs.Checkpoint.Rows
import AssistantEngine.Proofs.Concurrency.Spares

/-!
What one invocation does to its thread. It loads the thread, takes a turn, which leaves the
database as it is, and saves the state it has reached; between two of these there may be pauses.
-/

namespace AssistantEngine

open Activity (Spares)

/-- A part of the world that stays as it is while turns are taken: neither the model nor the tool
servers change it with their answers, nor does the record of an artifact. -/
structure World.Aloof {View : Type} (view : World → View) : Prop where
  model : ∀ world model, view { world with model := model } = view world
  answerCall : ∀ id tool arguments world,
    view (ToolServer.answerCall id tool arguments world).2 = view world
  registerRecord : ∀ record world, view (world.registerRecord record).2 = view world

/-- What is stored is aloof. -/
theorem World.aloof_database {Part : Type} (part : Database → Part) :
    Aloof fun world => part world.database where
  model world model := rfl
  answerCall id tool arguments world := by
    unfold ToolServer.answerCall
    split <;> rfl
  registerRecord record world := rfl

variable {View : Type} {view : World → View} {seen : View}

/-! ## Calls of models and tools -/

/-- A state with the user's next message. -/
def ThreadState.ask (state : ThreadState) (text : String) : ThreadState :=
  { state with messages := state.messages ++ [.user text] }

/-- The state that an output stands for, on top of the state that was loaded. -/
def RunOutput.after (output : RunOutput) (base : ThreadState) : ThreadState :=
  { messages := base.messages ++ output.messages, activeAssistant := output.activeAssistant }

/-- What the output leaves out is just what was loaded, so that together they are the state. -/
theorem RunOutput.after_drop {base reached : ThreadState} {artifacts : List Envelope}
    (longer : base.messages <+: reached.messages) :
    RunOutput.after
      { messages := reached.messages.drop base.messages.length
        activeAssistant := reached.activeAssistant
        artifacts := artifacts } base = reached := by
  have whole := List.prefix_iff_eq_append.mp longer
  unfold after
  rw [whole]

theorem ThreadState.prefix_ask (state : ThreadState) (text : String) :
    state.messages <+: (state.ask text).messages :=
  List.prefix_append _ _

namespace CompiledRuntime

theorem askModel_spares (aloof : World.Aloof view) (request : ChatRequest) :
    Spares view (fun _ => True) seen (askModel request) := by
  unfold askModel
  refine (Spares.transact fun world => aloof.model world _).bind fun later answer _ => ?_
  refine Spares.giveWay.bind fun later _ _ => ?_
  exact (Spares.sleep answer.delay).bind fun later _ _ => trivial

end CompiledRuntime

theorem ToolServer.callTool_spares {id : ConnectionId} {tool : String} {arguments : Json}
    (answered : ∀ world, view (answerCall id tool arguments world).2 = view world) :
    Spares view (fun _ => True) seen (callTool id tool arguments) := by
  unfold callTool
  refine (Spares.transact answered).bind fun later answer _ => ?_
  exact Spares.giveWay.bind fun later _ _ => trivial

namespace PluginRuntime

theorem intercept_spares {connection : ConnectionId} {tool : String} {arguments : Json}
    (answered : ∀ world,
      view (ToolServer.answerCall connection tool arguments world).2 = view world)
    (registered : ∀ record world, view (World.registerRecord world record).2 = view world) :
    Spares view (fun _ => True) seen (intercept connection tool arguments) := by
  unfold intercept
  refine Spares.now.bind fun later start _ => ?_
  refine (ToolServer.callTool_spares answered).bind fun later result _ => ?_
  cases result with
  | error fault => trivial
  | ok raw =>
      refine Spares.now.bind fun later time _ => ?_
      exact (Spares.transact (registered _)).bind fun later id _ => trivial

/-- A call spares what the tool that it means spares. -/
theorem callTool_spares {plugin : PluginRuntime} {name : String} {arguments : Json}
    (answered : ∀ tool connection, plugin.tool name = .ok tool →
      plugin.connection? = some connection → ∀ world,
        view (ToolServer.answerCall connection tool.serverName arguments world).2 = view world)
    (registered : ∀ record world, view (World.registerRecord world record).2 = view world) :
    Spares view (fun _ => True) seen (plugin.callTool name arguments) := by
  unfold callTool
  split
  · trivial
  · rename_i tool connection meant connected
    have looked : Spares view (fun _ => True) seen
        (Activity.inspect (·.isClosed plugin)) := Spares.inspect fun _ _ => trivial
    refine looked.bind fun later closed _ => ?_
    cases closed with
    | true => trivial
    | false => exact intercept_spares (answered tool connection meant connected) registered
  · trivial

end PluginRuntime

namespace CompiledRuntime

theorem answerCall_spares (aloof : World.Aloof view) (assistant : AssistantRuntime)
    (transfer : Option String) (call : ToolCall) :
    Spares view (fun _ => True) seen (answerCall assistant transfer call) := by
  unfold answerCall
  split
  · split <;> trivial
  · rename_i plugin _
    have answered : ∀ tool connection, plugin.tool call.name = .ok tool →
        plugin.connection? = some connection → ∀ world,
          view (ToolServer.answerCall connection tool.serverName call.arguments world).2 =
            view world := fun tool connection _ _ => aloof.answerCall connection tool.serverName _
    refine (PluginRuntime.callTool_spares answered aloof.registerRecord).bind fun later result _ => ?_
    cases result <;> trivial
  · trivial

theorem answerCalls_spares (aloof : World.Aloof view) (assistant : AssistantRuntime)
    (calls : List ToolCall) (transfer : Option String) :
    Spares view (fun _ => True) seen (answerCalls assistant calls transfer) := by
  induction calls generalizing transfer seen with
  | nil => trivial
  | cons call rest induction =>
      unfold answerCalls
      refine (answerCall_spares aloof assistant transfer call).bind fun later outcome _ => ?_
      exact (induction outcome.transfer).bind fun later answers _ => trivial

/-! ## Turns -/

/-- The messages of a turn come after those it began with. -/
def Extends (messages : List ChatMessage) (result : Except Fault (List ChatMessage)) : Prop :=
  ∀ reached, result = .ok reached → messages <+: reached

theorem route_spares (aloof : World.Aloof view) (assistants : Catalog AssistantRuntime)
    (steps : Nat) (progress : Progress) :
    Spares view
      (fun result => Extends progress.messages (result.map (·.messages))) seen
      (route assistants steps progress) := by
  induction steps generalizing progress seen with
  | zero =>
      rintro reached ⟨⟩
      exact List.prefix_refl _
  | succ steps induction =>
      unfold route
      split
      · rintro reached ⟨⟩
      · rename_i assistant _
        refine (askModel_spares aloof _).bind fun later answer _ => ?_
        have longer (reply : ChatMessage) (answers : List ChatMessage) (transfer : Option String) :
            progress.messages <+: (progress.add reply answers transfer).messages := by
          rw [Progress.add, List.append_assoc]
          exact List.prefix_append _ _
        cases answer with
        | error fault => rintro reached ⟨⟩
        | ok reply =>
            dsimp only
            split
            · rintro reached ⟨⟩
              exact longer _ _ _
            · refine (answerCalls_spares aloof assistant _ none).bind fun later answers _ => ?_
              refine (induction (progress.add _ answers.1 answers.2)).mono fun result extends' => ?_
              intro reached equal
              exact (longer _ _ _).trans (extends' reached equal)

theorem takeTurn_spares (aloof : World.Aloof view) (runtime : CompiledRuntime)
    (state : ThreadState) (seen : View) :
    Spares view
      (fun result => Extends state.messages (result.map (·.1.messages))) seen
      (runtime.takeTurn state) := by
  unfold takeTurn
  split
  · refine (askModel_spares aloof _).bind fun later answer _ => ?_
    cases answer with
    | error fault => rintro reached ⟨⟩
    | ok reply =>
        rintro reached ⟨⟩
        exact List.prefix_append _ _
  · rename_i assistants default maxSteps _
    refine (route_spares aloof assistants maxSteps _).bind fun later result extends' => ?_
    cases result with
    | error fault => rintro reached ⟨⟩
    | ok progress =>
        rintro reached ⟨⟩
        exact extends' progress.messages rfl

/-! ## Invocations -/

variable {scope thread : String}

/-- The end of an invocation, once the turn has been taken. -/
def conclude (runtime : CompiledRuntime) (thread : String) (base : ThreadState) :
    Except Fault (ThreadState × List Envelope) → Activity World (Except Fault RunOutput)
  | .error fault => .done (.error fault)
  | .ok (reached, artifacts) =>
    (runtime.checkpoints.save thread reached).bind fun
      | .error fault => .done (.error fault)
      | .ok _ => .done (.ok {
          messages := reached.messages.drop base.messages.length
          activeAssistant := reached.activeAssistant
          artifacts := artifacts })

/-- What follows when an invocation has loaded its thread. -/
def proceedFrom (runtime : CompiledRuntime) (thread text : String) :
    Except Fault (Option ThreadState) → Activity World (Except Fault RunOutput)
  | .error fault => .done (.error fault)
  | .ok found =>
    (runtime.takeTurn ((found.getD {}).ask text)).bind (runtime.conclude thread (found.getD {}))

theorem invoke_eq (runtime : CompiledRuntime) (thread text : String) :
    runtime.invoke thread text =
      .pause none (fun _ => true)
        (.look fun _ world => proceedFrom runtime thread text
          (world.database.load runtime.checkpoints.scope thread)) := by
  unfold invoke proceedFrom
  rfl

/-- An invocation spares what neither its turn nor the database is part of. -/
theorem invoke_spares_view (aloof : World.Aloof view)
    (stored : ∀ (world : World) database, view { world with database := database } = view world)
    (runtime : CompiledRuntime) (thread text : String) (seen : View) :
    Spares view (fun _ => True) seen (runtime.invoke thread text) := by
  have saves (reached : ThreadState) (later : View) :
      Spares view (fun _ => True) later (runtime.checkpoints.save thread reached) := by
    refine Spares.giveWay.bind fun later _ _ => Spares.transact fun world => ?_
    split
    · exact stored world _
    · rfl
  rw [invoke_eq]
  intro later time world _
  unfold proceedFrom
  dsimp only
  split
  · trivial
  · refine (runtime.takeTurn_spares aloof _ later).bind fun later taken _ => ?_
    unfold conclude
    split
    · trivial
    · refine (saves _ later).bind fun later saved _ => ?_
      split <;> trivial

/-- Where an invocation stands that has loaded its thread: still in its turn, or about to save
the state it has reached. -/
inductive Underway (scope thread text : String) (base : ThreadState) :
    Activity World (Except Fault RunOutput) → Prop where
  | turning (runtime : CompiledRuntime) (own : runtime.checkpoints.scope = scope)
      (deadline : Option Time) (ready : World → Bool)
      (rest : Activity World (Except Fault (ThreadState × List Envelope)))
      (spares : ∀ rows, Spares (World.rowsOf scope thread)
        (fun result => Extends (base.ask text).messages (result.map (·.1.messages)))
        rows rest) :
      Underway scope thread text base
        ((Activity.pause deadline ready rest).bind (runtime.conclude thread base))
  | saving (runtime : CompiledRuntime) (own : runtime.checkpoints.scope = scope)
      (reached : ThreadState) (artifacts : List Envelope)
      (longer : (base.ask text).messages <+: reached.messages) :
      Underway scope thread text base (runtime.conclude thread base (.ok (reached, artifacts)))

theorem Underway.pauses {text : String} {base : ThreadState}
    {rest : Activity World (Except Fault RunOutput)}
    (underway : Underway scope thread text base rest) :
    ∃ deadline ready next, rest = .pause deadline ready next := by
  cases underway with
  | turning runtime own deadline ready rest spares => exact ⟨deadline, ready, _, rfl⟩
  | saving runtime own reached artifacts longer => exact ⟨none, fun _ => true, _, rfl⟩

/-- A piece of an invocation that leaves the thread as it was. -/
structure Uneventful (scope thread text : String) (base : ThreadState) (before : World)
    (piece : Activity World (Except Fault RunOutput) × World) : Prop where
  same : World.rowsOf scope thread piece.2 = World.rowsOf scope thread before
  standing : (∃ fault, piece.1 = .done (.error fault)) ∨ Underway scope thread text base piece.1

/-- The last piece of an invocation that succeeds: it adds one row, which holds the messages
that were loaded, the user's text, and whatever came after it. -/
structure Successful (scope thread text : String) (base : ThreadState) (before : World)
    (piece : Activity World (Except Fault RunOutput) × World) (output : RunOutput)
    (rows : List CheckpointRow) (row : CheckpointRow) : Prop where
  done : piece.1 = .done (.ok output)
  asked : [.user text] <+: output.messages
  before : World.rowsOf scope thread before = some rows
  follows : CheckpointRow.Follows rows row
  written : row.state = (output.after base).toJson.compact
  after : World.rowsOf scope thread piece.2 = some (rows ++ [row])

variable {runtime : CompiledRuntime} {text : String} {base : ThreadState} {world : World}

theorem turn_uneventful (own : runtime.checkpoints.scope = scope)
    {rest : Activity World (Except Fault (ThreadState × List Envelope))}
    (spares : Spares (World.rowsOf scope thread)
      (fun result => Extends (base.ask text).messages (result.map (·.1.messages)))
      (World.rowsOf scope thread world) rest) (time : Time) :
    Uneventful scope thread text base world
      ((rest.bind (runtime.conclude thread base)).advance time world) := by
  rcases spares.advance time with ⟨same, onward⟩
  rw [Activity.advance_bind]
  rcases rest.advance_ends time world with ⟨result, ended⟩ | ⟨deadline, ready, next, paused⟩
  · rcases advanced : rest.advance time world with ⟨left, later⟩
    rw [advanced] at same onward ended
    subst ended
    cases result with
    | error fault => exact ⟨same, .inl ⟨fault, rfl⟩⟩
    | ok reached =>
        exact ⟨same, .inr (.saving runtime own reached.1 reached.2
          (onward none reached.1.messages rfl))⟩
  · rcases advanced : rest.advance time world with ⟨left, later⟩
    rw [advanced] at same onward paused
    subst paused
    exact ⟨same, .inr (.turning runtime own deadline ready next (onward none))⟩

/-- The first piece of an invocation loads the thread. -/
theorem invoke_resume (own : runtime.checkpoints.scope = scope) (thread text : String)
    (time : Time) (world : World) :
    let piece := (runtime.invoke thread text).resume time world
    (∃ fault, piece.1 = .done (.error fault)) ∧
        World.rowsOf scope thread piece.2 = World.rowsOf scope thread world ∨
      ∃ found, world.database.load scope thread = .ok found ∧
        Uneventful scope thread text (found.getD {}) world piece := by
  subst own
  intro piece
  have loading : piece = (proceedFrom runtime thread text
      (world.database.load runtime.checkpoints.scope thread)).advance time world := by
    rw [show piece = (runtime.invoke thread text).resume time world from rfl, invoke_eq]
    rfl
  rw [loading]
  cases found : world.database.load runtime.checkpoints.scope thread with
  | error fault => exact .inl ⟨⟨fault, rfl⟩, rfl⟩
  | ok state =>
      have spares := runtime.takeTurn_spares
        (World.aloof_database (·.rowsOf runtime.checkpoints.scope thread))
        ((state.getD {}).ask text) (World.rowsOf runtime.checkpoints.scope thread world)
      exact .inr ⟨state, rfl, turn_uneventful rfl spares time⟩

/-- The last piece of an invocation saves the state that was reached. -/
theorem conclude_resume (reached : ThreadState) (artifacts : List Envelope) (time : Time) :
    (runtime.conclude thread base (.ok (reached, artifacts))).resume time world =
      match world.database.save runtime.checkpoints.scope thread reached with
      | .error fault => (.done (.error fault), world)
      | .ok (_, database) =>
        (.done (.ok {
          messages := reached.messages.drop base.messages.length
          activeAssistant := reached.activeAssistant
          artifacts := artifacts }), { world with database := database }) := by
  unfold conclude CheckpointStore.save
  cases saved : world.database.save runtime.checkpoints.scope thread reached with
  | error fault =>
      simp [bind, Activity.bind, Activity.giveWay, Activity.transact, Activity.resume,
        Activity.advance, saved]
  | ok result =>
      simp [bind, Activity.bind, Activity.giveWay, Activity.transact, Activity.resume,
        Activity.advance, saved]

/-- Every later piece is uneventful or saves the thread. -/
theorem Underway.resume {rest : Activity World (Except Fault RunOutput)}
    (underway : Underway scope thread text base rest) (time : Time) (world : World) :
    Uneventful scope thread text base world (rest.resume time world) ∨
      ∃ output rows row,
        Successful scope thread text base world (rest.resume time world) output rows row := by
  cases underway with
  | turning runtime own deadline ready rest spares =>
      exact .inl (turn_uneventful own (spares _) time)
  | saving runtime own reached artifacts longer =>
      subst own
      have asked : [.user text] <+: reached.messages.drop base.messages.length := by
        rcases longer with ⟨more, extended⟩
        rw [← extended, ThreadState.ask, List.append_assoc, List.drop_left]
        exact List.prefix_append _ _
      rw [conclude_resume]
      cases saved : world.database.save runtime.checkpoints.scope thread reached with
      | error fault => exact .inl ⟨rfl, .inl ⟨fault, rfl⟩⟩
      | ok result =>
          rcases Database.save_ok saved with ⟨rows, row, before, follows, written, after⟩
          refine .inr ⟨_, rows, row, rfl, asked, before, follows, ?_, after⟩
          rw [written, RunOutput.after_drop ((base.prefix_ask text).trans longer)]

end CompiledRuntime

end AssistantEngine
