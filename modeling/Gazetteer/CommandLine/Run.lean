import Gazetteer.Command.Handler
import Gazetteer.CommandLine.Arguments
import Gazetteer.CommandLine.Text

/-!
# Running the program

What a call of the program prints and the code that it exits with.
-/

namespace Gazetteer.CommandLine

open Command
open Session (Run)

structure Output where
  code : Nat
  /-- The text on standard output. -/
  printed : String
  /-- The lines on standard error. -/
  complaints : List String
deriving DecidableEq, Repr

/-- What a call of the program is given besides its arguments. -/
structure Surroundings where
  standardInput : String
  now : UInt64
  elapsed : UInt64

def withNewlines (lines : List String) : String := String.join (lines.map (· ++ "\n"))

/-- The environment of the commands of an invocation. -/
def environment (i : Invocation) (s : Surroundings) : Environment :=
  let dialect := match i.verb with
    | .command _ _ _ => .toolCall
    | _ => if i.agent then .toolCall else .terminal
  ⟨i.root, dialect, i.limit, s.now, s.elapsed⟩

/-- The exit code for a response. -/
def codeOf (r : Response) : Nat := if r.isError then 1 else 0

/-- Why a request could not be read. -/
inductive RequestFailure where
  | unreadable (path : String) (e : Disk.IoError)
  | empty
deriving DecidableEq, Repr

def RequestFailure.lines : RequestFailure → List String
  | .unreadable path e =>
    ["Error: Failed to read JSON from " ++ path, "", "Caused by:", "    " ++ e.message]
  | .empty =>
    ["Error: Command request is empty. Pass it inline, with --file, or via stdin."]

/-- The text of a request: given inline, in a file or on standard input. -/
def requestText (request file : Option String) (s : Surroundings) (d : Disk) :
    Except RequestFailure String :=
  match request, file with
  | some text, _ => .ok text
  | none, some path => (d.readText (d.resolve path)).mapError (.unreadable path)
  | none, none =>
    if Text.trim s.standardInput.toList = [] then .error .empty else .ok s.standardInput

/-- Answers the text of a request. -/
def respondToText (env : Environment) (text : String) : Run Response := do
  match Request.ofText text with
  | .ok request => Handler.respond env request
  | .error e =>
    let message := "Invalid command request: " ++ e.message
    return .ofError message (notesOnError message)

def runCommand (i : Invocation) (s : Surroundings) (request file : Option String)
    (isPretty : Bool) : Run Output := do
  match requestText request file s (← Session.currentDisk) with
  | .error failure => return ⟨1, "", failure.lines⟩
  | .ok text =>
    let response ← respondToText (environment i s) text
    let json := response.encode
    return ⟨codeOf response, (if isPretty then json.pretty else json.compact) ++ "\n", []⟩

/-- The response as a reader sees it. -/
def shown (decoder : Json.Decoder α) (lines : α → List String) (r : Response) : Output :=
  let warnings := (r.notes.filter fun n => n.kind = .warn).map fun n => "warning: " ++ n.text
  let decoded (text : Except Json.DecodeError String) : Output :=
    match text with
    | .ok text => ⟨0, text, warnings⟩
    | .error e => ⟨1, "", warnings ++ ["Error: " ++ e.message]⟩
  match r.status with
  | .error =>
    let steps := (r.notes.filter fun n => n.kind = .action).map fun n => "  " ++ n.text
    ⟨1, "", warnings ++ ["Error: " ++ r.message.getD "Unknown error"] ++ steps⟩
  | .notFound => decoded ((Hint.Recovery.decoder.ofValue r.data).map Hint.Recovery.text)
  | .ok => decoded ((decoder.ofValue r.data).map fun a => withNewlines (lines a))

/-- Runs an action and shows its response, as JSON if that is wanted. -/
def present (i : Invocation) (s : Surroundings) (action : Action) (fields : List (String × Json))
    (decoder : Json.Decoder α) (lines : α → List String) : Run Output := do
  let response ← Handler.respond (environment i s) (.plain action (.ofFields fields))
  if i.json then return ⟨codeOf response, response.encode.pretty ++ "\n", []⟩
  else return shown decoder lines response

def runVerb (i : Invocation) (s : Surroundings) : Run Output :=
  match i.verb with
  | .command request file isPretty => runCommand i s request file isPretty
  | .map force => present i s .map [("force", .bool force)] ProjectMap.decoder mapLines
  | .areas => present i s .areas [] AreasOutput.decoder areasLines
  | .area reference =>
    present i s .area [("area", .string reference)] AreaOutput.decoder areaLines
  | .find query => present i s .find [("query", .string query)] FindOutput.decoder findLines
  | .describe target =>
    present i s .describe [("file", .string target)] DescribeOutput.decoder describeLines
  | .cacheStatus => present i s .cacheStatus [] CacheStatusOutput.decoder cacheStatusLines
  | .cacheClear => present i s .cacheClear [] CacheClearOutput.decoder cacheClearLines

def usageLine : String := "Usage: atlas [OPTIONS] <COMMAND>"

def helpLines : List String :=
  ["Project maps, feature areas and forgiving file lookup", "", usageLine, "",
   "Commands: command, map, areas, area, find, describe, cache status, cache clear", "",
   "Options: --root <ROOT>, --limit <LIMIT>, --agent, --json, -v, --verbose, -h, --help,",
   "         -V, --version"]

def outputOfEnding : Ending → Output
  | .usage => ⟨2, "", ["error: these arguments are not understood", "", usageLine]⟩
  | .version => ⟨0, "atlas " ++ Cache.toolVersion ++ "\n", []⟩
  | .help => ⟨0, withNewlines helpLines, []⟩

/-- A warning as it is logged; its further lines are indented. -/
def logLines (w : Warning) : List String :=
  match w.message.splitOn "\n" with
  | [] => []
  | first :: rest => ("[WARN  atlas] " ++ first) :: rest.map ("    " ++ ·)

/-- The output with what was logged meanwhile in front of its complaints. -/
def Output.afterLog (o : Output) (warnings : List Warning) : Output :=
  { o with complaints := warnings.flatMap logLines ++ o.complaints }

/-- The file from which an invocation takes its request, and whether it reads standard input. -/
def requestSource (i : Invocation) : Option String × Bool :=
  match i.verb with
  | .command none file _ => (file, file.isNone)
  | _ => (none, false)

/-- The path of the project that the text of a request names, if it names one. -/
def namedProject? (text : String) : Option String :=
  (Request.ofText text).toOption.bind fun request =>
    match request.payload.field? "project" with
    | some (.string path) => some path
    | _ => none

/-- Runs an invocation and puts what was logged in front of its complaints. -/
def runLogged (i : Invocation) (s : Surroundings) : Run Output := do
  let output ← runVerb i s
  return output.afterLog (← get).warnings

/-- The output of a program that was stopped, without what it says about this. -/
def stoppedOutput : Output := ⟨101, "", []⟩

/-- Runs the program with arguments on a disk. -/
def run (arguments : List String) (s : Surroundings) (d : Disk) : Output × Disk :=
  match parse arguments with
  | .error ending => (outputOfEnding ending, d)
  | .ok invocation =>
    let (output?, d) := Session.complete (.ofDepth Area.globRules) (runLogged invocation s) d
    (output?.getD stoppedOutput, d)

end Gazetteer.CommandLine
