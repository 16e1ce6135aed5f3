import DepositBridge.Bridge.Basic
import DepositBridge.CommandLine.Command

/-!
# Carrying out commands

A command runs with the settings of its environment. Nothing is sent before everything has been
checked, and nothing is written before the nodes have been asked for everything.
-/

namespace DepositBridge.CommandLine

open Bridge (Talk take)

/-! ## Depositing -/

/-- The draft of an order with the endpoints of settings. -/
def DepositOrder.draft (order : DepositOrder) (settings : Settings) : Request.Draft where
  privateKey := some (.text order.privateKey)
  l1Url := some (.parsed settings.l1Url)
  liquidityAddress := some (.text settings.liquidityAddress.text)
  l2Url := some (.parsed settings.l2Url)
  rollupAddress := some (.text settings.rollupAddress.text)
  amount := some (.int order.amount)
  tokenType := some (.int order.tokenType.code)
  tokenAddress := some (.text order.tokenAddress)
  tokenId := some (.text order.tokenId)
  salt := some (.text order.saltHash)

/-- Deposits what an order asks for; the output is the outcome in one line. -/
def deposit (tree : FileTree) (settings : Settings) (order : DepositOrder) : Talk String := do
  let request ← take ((Request.ofDraft (order.draft settings)).mapError .request)
  let outcome ← Bridge.depositOnce tree order.relays request (.ofSettings settings)
  let summary ← take (outcome.summary.mapError .numeral)
  pure (summary ++ "\n")

/-! ## Listing -/

/-- What is written, and why it breaks off if it does. -/
structure Printout where
  text : String
  fault : Option Numeral.Fault

/-- Lines one after the other, up to the first that cannot be written. -/
def printLines : List (Except Numeral.Fault String) → Printout
  | [] => ⟨"", none⟩
  | .error fault :: _ => ⟨"", some fault⟩
  | .ok line :: rest =>
    let later := printLines rest
    ⟨line ++ later.text, later.fault⟩

/-- A number at the right end of a column. -/
def alignRight (width : Nat) (n : Int) : Except Numeral.Fault String :=
  (Numeral.write n).map fun digits =>
    String.ofList (List.replicate (width - digits.length) ' ') ++ digits

/-- The line of a leaf, unless one of its numbers has too many digits. -/
def leafLine (leaf : Leaf) : Except Numeral.Fault String := do
  let index ← alignRight 6 leaf.index
  let block ← Numeral.write leaf.block
  pure s!"{index}  {leaf.hash}  block {block}\n"

/-- Leaves one in a line, and their number. Each line is written before the next one is made up. -/
def listing (leaves : List Leaf) : Printout :=
  printLines (leaves.map leafLine ++ [.ok s!"{leaves.length} deposit leaf event(s)\n"])

/-- Lists the leaves that the rollup has announced; the connection is closed in the end. -/
def leaves (tree : FileTree) (settings : Settings) (fromBlock : Option Int) : Talk Printout := do
  let endpoints := Bridge.Endpoints.ofSettings settings
  let client ← Bridge.connectRollup 0 tree endpoints
  let (result, chain) ←
    ExceptT.lift ((client.leavesFrom endpoints.deployedBlock fromBlock).start endpoints.l2ChainId)
  let _ ← ExceptT.lift (client.close.start chain)
  match result with
  | .ok found => pure (listing found)
  | .error fault => throw (.client fault)

/-! ## Running -/

/-- The settings of an environment that a file completes. -/
def settingsFor (tree : FileTree) (envFile : String) (environment : EnvFile.Environment) :
    Except Failure Settings :=
  let merge := Settings.mergeFile tree (some envFile) environment
  match merge.fault with
  | some fault => .error (.environment fault)
  | none => (Settings.ofEnvironment merge.environment).mapError .settings

/-- Carries out a command; the result is what it writes. -/
def perform (tree : FileTree) (environment : EnvFile.Environment) (invocation : Invocation) :
    Talk Printout := do
  let settings ← take (settingsFor tree invocation.envFile environment)
  match invocation.command with
  | .deposit order => (⟨·, none⟩) <$> deposit tree settings order
  | .leaves fromBlock => leaves tree settings fromBlock

/-- What becomes of a command: the exit code and the output. A failure that is reported is noted and
makes the exit code one, also when it comes while the output is written; any other one ends the
program. -/
def report : Except Failure Printout → Node.Talk (Except Failure (Nat × String))
  | .ok ⟨text, none⟩ => pure (.ok (0, text))
  | .ok ⟨text, some fault⟩ => do
    Program.journal .error .commandLine fault.message
    pure (.ok (1, text))
  | .error failure => do
    if failure.isReported then
      Program.journal .error .commandLine failure.message
      pure (.ok (1, ""))
    else pure (.error failure)

/-- Carries out a command. The result is the exit code and the output. -/
def run (tree : FileTree) (environment : EnvFile.Environment) (invocation : Invocation) :
    Talk (Nat × String) :=
  ExceptT.mk ((perform tree environment invocation).run.bind report)

/-- The notes that are shown: with `verbose` all of them, otherwise those of some weight. -/
def shownNotes (verbose : Bool) (notes : List Note) : List Note :=
  notes.filter fun note => verbose || note.level ≠ .debug

end DepositBridge.CommandLine
