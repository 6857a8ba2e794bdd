import AssistantEngine.CommandLine.Launch
import AssistantEngine.Text.Search

/-!
Conversations at a terminal. A line is a command or the text of a turn; each turn takes the
workflow's present runtime.
-/

namespace AssistantEngine

namespace CommandLine

structure Conversation where
  workflow : String
  thread : String
  client : Client

/-- How things stand after a line. -/
inductive Standing where
  | open
  | over
  | failed (fault : Fault)
deriving DecidableEq

/-- Takes a turn on the present runtime of a workflow. -/
def takeTurn (workflow thread text : String) (client : Client) :
    Except Fault RunOutput × Client :=
  match client.borrow workflow fun client id runtime =>
    client.perform (some id) (runtime.invoke thread text) with
  | (.ok (some result), client) => (result, client)
  | (.ok none, client) => (.error (.internal "no answer"), client)
  | (.error fault, client) => (.error fault, client)

def lineOf (text : String) : String := text ++ "\n"

/-- The plugin results of a turn, and who says what. -/
def outputText (output : RunOutput) : String :=
  let speaker := output.activeAssistant.getD "assistant"
  let reply := output.reply?.getD "(no reply)"
  let artifacts := output.artifacts.map fun envelope =>
    lineOf s!"  [artifact {envelope.artifactId}] {envelope.modelText}"
  String.join artifacts ++ lineOf s!"{speaker}: {reply}"

def promptText : String := "> "

def rule : String := String.ofList (List.replicate 38 '═')

/-- What is shown before the first prompt. -/
def banner (workflow thread : String) (runtime : CompiledRuntime) : String :=
  let fallback := (runtime.fallbackReason?.map fun reason => s!"Fallback: {reason}").toList
  String.join ((
    ["Switchyard Chat", rule, s!"Workflow: {workflow} ({runtime.kind.debug})"] ++ fallback ++
    [s!"Thread: {thread}", rule, "", "Type your message and press Enter. Type /quit to exit.",
      "Commands: /rebuild, /threads, /quit", ""]).map lineOf)

namespace Conversation

/-- Begins a conversation; answers what is shown. -/
def start (workflow thread : String) (client : Client) : Except Fault String × Conversation :=
  match client.borrow workflow fun client _ runtime =>
    (banner workflow thread runtime ++ promptText, client) with
  | (text, client) => (text, ⟨workflow, thread, client⟩)

def rebuild (conversation : Conversation) : String × Conversation :=
  match conversation.client.call (.rebuild · conversation.workflow) with
  | (call, client) =>
    match client.await call with
    | (answer, client) =>
      let text :=
        match answer with
        | some (.runtime (.ok id)) =>
          let kind := ((client.state.runtime? id).map fun runtime => runtime.kind.debug).getD ""
          s!"Rebuilt '{conversation.workflow}' ({kind})"
        | some (.runtime (.error fault)) => s!"Rebuild failed: {fault.message}"
        | _ => "Rebuild failed"
      (text, { conversation with client := client.act (.drop (.call call)) })

/-- The threads of the workflow, one on each line. -/
def threadsText (client : Client) (runtime : CompiledRuntime) : String :=
  match client.state.world.database.threads runtime.checkpoints.scope with
  | .ok names => Text.join "\n" names
  | .error fault => s!"Error: {fault.message}"

def threads (conversation : Conversation) : Except Fault String × Conversation :=
  match conversation.client.borrow conversation.workflow fun client _ runtime =>
    (threadsText client runtime, client) with
  | (text, client) => (text, { conversation with client := client })

def say (conversation : Conversation) (text : String) : String × Conversation :=
  match takeTurn conversation.workflow conversation.thread text conversation.client with
  | (.ok output, client) => (outputText output, { conversation with client := client })
  | (.error fault, client) =>
    (lineOf s!"Error: {fault.message}", { conversation with client := client })

/-- Takes in a line; answers what is shown and how things stand. -/
def hear (conversation : Conversation) (line : String) : String × Standing × Conversation :=
  match Text.trim line with
  | "" => (promptText, .open, conversation)
  | "/quit" | "/exit" | "/q" => (lineOf "Goodbye!", .over, conversation)
  | "/rebuild" =>
    let (text, conversation) := conversation.rebuild
    (lineOf text ++ promptText, .open, conversation)
  | "/threads" =>
    match conversation.threads with
    | (.ok text, conversation) => (lineOf text ++ promptText, .open, conversation)
    | (.error fault, conversation) => ("", .failed fault, conversation)
  | text =>
    let (shown, conversation) := conversation.say text
    (shown ++ promptText, .open, conversation)

/-- Takes in lines for as long as the conversation is open. -/
def hearAll (conversation : Conversation) : List String → String × Standing × Conversation
  | [] => ("", .open, conversation)
  | line :: rest =>
    match conversation.hear line with
    | (shown, .open, conversation) =>
      let (further, standing, conversation) := conversation.hearAll rest
      (shown ++ further, standing, conversation)
    | answer => answer

end Conversation

end CommandLine

end AssistantEngine
