import AssistantEngine.CommandLine.Conversation
import AssistantEngine.CommandLine.Overview

/-!
Running a command from its start to its end: what it writes, how it ends, and what the
surroundings are afterwards.
-/

namespace AssistantEngine

namespace CommandLine

/-- What a run has written, and its exit code. -/
structure Report where
  exit : Nat := 0
  output : String := ""
  errors : List String := []
deriving DecidableEq, Repr

namespace Report

def misused : Report := { exit := 2, errors := Text.lines usage }

def failed (output message : String) : Report :=
  { exit := 1, output := output, errors := Text.lines message }

/-- A command that failed names its fault. -/
def ofFault (output : String) (fault : Fault) : Report :=
  failed output s!"Error: {fault.message}"

def ofResult : Except Fault String → Report
  | .ok output => { output := output }
  | .error fault => ofFault "" fault

end Report

/-- A conversation over given lines. -/
def converse (workflow thread : String) (lines : List String) (client : Client) :
    Report × Client :=
  match Conversation.start workflow thread client with
  | (.error fault, conversation) => (Report.ofFault "" fault, conversation.client)
  | (.ok shown, conversation) =>
    match conversation.hearAll lines with
    | (further, .failed fault, conversation) =>
      (Report.ofFault (shown ++ further) fault, conversation.client)
    | (further, _, conversation) => ({ output := shown ++ further }, conversation.client)

def perform (clock : String) (lines : List String) (launched : Launched) :
    Command → Report × Client
  | .plugins =>
    let overview := registryOverview launched.client.state.world.registry
    ({ output := lineOf overview.indented }, launched.client)
  | .inspect workflow =>
    let (overview, client) := inspect clock workflow launched.client
    (Report.ofResult (overview.map fun value => lineOf value.indented), client)
  | .chat workflow thread (some message) =>
    let (result, client) := takeTurn workflow thread message launched.client
    (Report.ofResult (result.map outputText), client)
  | .chat workflow thread none => converse workflow thread lines launched.client

/-- Runs the command of a command line on the lines of an input. -/
def run (surroundings : Surroundings) (words lines : List String) : Report × Surroundings :=
  match Options.read? surroundings.environment words with
  | none => (Report.misused, surroundings)
  | some options =>
    match options.command with
    | none => ({ output := usage }, surroundings)
    | some command =>
      match launch surroundings options with
      | (.error message, surroundings) => (Report.failed "" message, surroundings)
      | (.ok launched, surroundings) =>
        let (report, client) := perform surroundings.clock lines launched command
        (report, shutdown surroundings { launched with client := client })

end CommandLine

end AssistantEngine
