import DepositBridge.CommandLine.Help
import DepositBridge.CommandLine.Run
import DepositBridge.Json.Reader
import DepositBridge.Json.Writer

/-!
# The program

The command line with its environment and files. The nodes are reached through two pipes, whose
names the environment gives: each request is written to the first one as a line of JSON with the URL
that it is meant for, and its answer is read from the second one as a line of JSON.
-/

namespace DepositBridge.CommandLine

/-- The environment of the running process. -/
def readEnvironment : IO EnvFile.Environment := do
  let content ← IO.FS.readBinFile "/proc/self/environ"
  let records := content.toList.splitOn 0
  pure (records.filterMap fun record =>
    match Text.decodeUtf8 record with
    | .ok text =>
      match text.toList.dropWhile (· ≠ '=') with
      | _ :: value => some (String.ofList (text.toList.takeWhile (· ≠ '=')), String.ofList value)
      | [] => none
    | .error _ => none)

/-- What a path leads to, if it is a file that can be read. -/
def readFile (path : Path) : IO (List (Path × FileTree.Entry)) := do
  try
    let content ← IO.FS.readBinFile path.text
    pure [(path, .file content.toList)]
  catch _ => pure []

/-- The files that an invocation may read: the one of the environment, and the interfaces of the two
contracts. -/
def readTree (invocation : CommandLine.Invocation) (environment : EnvFile.Environment) :
    IO FileTree := do
  let files ← readFile (Path.ofText invocation.envFile)
  let merge := Settings.mergeFile ⟨[], files⟩ (some invocation.envFile) environment
  match merge.environment.get? "ABI_DIR" with
  | none => pure ⟨[], files⟩
  | some directory =>
    let artifact (name : String) : Path :=
      (Path.ofText directory).join (Path.ofText (name ++ ".json"))
    let liquidity ← readFile (artifact Abi.liquidityName)
    let rollup ← readFile (artifact Abi.rollupName)
    pure ⟨[], files ++ liquidity ++ rollup⟩

/-- The pipes to the nodes. -/
structure Pipes where
  requests : IO.FS.Handle
  answers : IO.FS.Handle

/-- Opens the pipes that an environment names. -/
def openPipes (environment : EnvFile.Environment) : IO Pipes := do
  match environment.get? "NODE_REQUESTS", environment.get? "NODE_ANSWERS" with
  | some requests, some answers =>
    pure ⟨← IO.FS.Handle.mk requests .write, ← IO.FS.Handle.mk answers .read⟩
  | _, _ => throw (IO.userError "NODE_REQUESTS and NODE_ANSWERS must name the pipes to the nodes")

/-- The line of a request. -/
def requestLine (url : String) (request : Node.Request) : String :=
  String.ofList (Json.write (.object [("url", .text url), ("jsonrpc", .text "2.0"),
    ("id", .int 0), ("method", .text request.method), ("params", .list request.params)]))

/-- The answer in a line. -/
def answerOf (line : String) : IO Node.Answer := do
  match Json.read line.toList with
  | .ok v =>
    match v.get? "error" with
    | some (.object members) => pure (.error (.object members))
    | _ => pure (.result ((v.get? "result").getD .null))
  | .error _ => throw (IO.userError "a node's answer is not JSON")

/-- Carries out a conversation over pipes, which are opened for the first request. Notes are shown
as they are taken. -/
def converse {α : Type} (isShown : Note → Bool) (environment : EnvFile.Environment) :
    Node.Talk α → Option Pipes → List (Nat × String) → IO α
  | .done a, _, _ => pure a
  | .note note next, pipes, urls => do
    if isShown note then IO.eprintln note.line
    converse isShown environment next pipes urls
  | .ask (.connect connection url) next, pipes, urls =>
    converse isShown environment (next (.result .null)) pipes ((connection, url) :: urls)
  | .ask (.disconnect _) next, pipes, urls =>
    converse isShown environment (next (.result .null)) pipes urls
  | .ask (.request connection request) next, pipes, urls => do
    let pipes ← match pipes with
      | some pipes => pure pipes
      | none => openPipes environment
    pipes.requests.putStrLn (requestLine ((urls.lookup connection).getD "") request)
    pipes.requests.flush
    let answer ← answerOf (← pipes.answers.getLine)
    converse isShown environment (next answer) (some pipes) urls

end DepositBridge.CommandLine

open DepositBridge in
/-- Carries out what the arguments ask for. -/
def main (arguments : List String) : IO UInt32 := do
  match CommandLine.Invocation.ofArguments arguments with
  | .error stop =>
    let report := stop.report
    IO.print report.output
    IO.eprint report.errors
    pure report.code.toUInt32
  | .ok invocation =>
    let environment ← CommandLine.readEnvironment
    let tree ← CommandLine.readTree invocation environment
    let isShown (note : Note) : Bool := !(CommandLine.shownNotes invocation.verbose [note]).isEmpty
    let conversation := (CommandLine.run tree environment invocation).run
    match ← CommandLine.converse isShown environment conversation none [] with
    | .ok (code, output) =>
      IO.print output
      pure code.toUInt32
    | .error failure =>
      IO.eprintln failure.message
      pure 1
