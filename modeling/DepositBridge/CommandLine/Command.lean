import DepositBridge.CommandLine.Option
import DepositBridge.Deposit.Token
import DepositBridge.Numeral
import DepositBridge.Text.LowerCase

/-!
# Commands

What the program can be told to do, and how its arguments tell it.
-/

namespace DepositBridge.CommandLine

/-! ## Commands -/

/-- What is to be deposited, and whether the deposit is relayed. -/
structure DepositOrder where
  privateKey : String
  amount : Int
  tokenType : TokenType
  tokenAddress : String
  tokenId : String
  saltHash : String
  relays : Bool
  deriving DecidableEq, Repr

/-- What the program is told to do. -/
inductive Command where
  | deposit (order : DepositOrder)
  /-- To list the leaves that the rollup has announced from a block on. -/
  | leaves (fromBlock : Option Int)
  deriving DecidableEq, Repr

/-- A command, whether it is carried out with all notes shown, and the file that its environment is
completed from. -/
structure Invocation where
  verbose : Bool
  envFile : String
  command : Command
  deriving DecidableEq, Repr

/-- The parts of the command line that have a usage of their own. -/
inductive Page where
  | main
  | deposit
  | leaves
  deriving DecidableEq, Repr

/-- Why arguments make no invocation. -/
inductive Stop where
  /-- They ask for help. -/
  | help (page : Page)
  | misuse (page : Page) (fault : Misuse)
  deriving DecidableEq, Repr

/-! ## The options of all commands -/

/-- The options in front of a command. -/
inductive MainOption where
  | help
  | verbose
  | envFile

/-- The spellings of the options in front of a command. -/
def mainOptions : Options MainOption where
  spellings := [("-h", .help), ("--help", .help), ("-v", .verbose), ("--verbose", .verbose),
    ("--env-file", .envFile)]
  takesValue
    | .envFile => true
    | _ => false
  label
    | .help => "-h/--help"
    | .verbose => "-v/--verbose"
    | .envFile => "--env-file"

/-- What the options in front of a command say. -/
structure MainState where
  verbose : Bool
  envFile : String

/-- Applies an option in front of a command. -/
def applyMain (s : MainState) (key : MainOption) (value : Option String) : Except Stop MainState :=
  match key with
  | .help => .error (.help .main)
  | .verbose => .ok { s with verbose := true }
  | .envFile => .ok { s with envFile := value.getD "" }

/-! ## The options of a deposit -/

/-- The options of a deposit. -/
inductive DepositOption where
  | help
  | privateKey
  | amount
  | tokenType
  | tokenAddress
  | tokenId
  | saltHash
  | noRelay

/-- The spellings of the options of a deposit. -/
def depositOptions : Options DepositOption where
  spellings := [("-h", .help), ("--help", .help), ("--private-key", .privateKey),
    ("--amount", .amount), ("--token-type", .tokenType), ("--token-address", .tokenAddress),
    ("--token-id", .tokenId), ("--pubkey-salt-hash", .saltHash), ("--no-relay", .noRelay)]
  takesValue
    | .help => false
    | .noRelay => false
    | _ => true
  label
    | .help => "-h/--help"
    | .privateKey => "--private-key"
    | .amount => "--amount"
    | .tokenType => "--token-type"
    | .tokenAddress => "--token-address"
    | .tokenId => "--token-id"
    | .saltHash => "--pubkey-salt-hash"
    | .noRelay => "--no-relay"

/-- The kinds of tokens by the words that choose them. -/
def tokenChoices : List (String × TokenType) :=
  [("erc20", .erc20), ("native", .native), ("nft", .nft), ("sft", .sft)]

/-- What the options of a deposit say. -/
structure DepositState where
  privateKey : Option String
  amount : Option Int
  tokenType : Option TokenType
  tokenAddress : String
  tokenId : String
  saltHash : Option String
  relays : Bool

/-- What is said without any option: the zero address and identifier, and the relay. -/
def DepositState.start : DepositState :=
  ⟨none, none, none, "0x0000000000000000000000000000000000000000", "0", none, true⟩

/-- The whole number of an option's value. -/
def numberValue (page : Page) (option value : String) : Except Stop Int :=
  match Numeral.read .ten value with
  | .ok n => .ok n
  | .error _ => .error (.misuse page (.badNumber option value))

/-- The kind of token of an option's value, in any case. -/
def tokenValue (value : String) : Except Stop TokenType :=
  let word := String.ofList (Text.lower value.toList)
  match tokenChoices.lookup word with
  | some t => .ok t
  | none =>
    .error (.misuse .deposit
      (.badChoice (depositOptions.label .tokenType) word (tokenChoices.map (·.1))))

/-- Applies an option of a deposit. -/
def applyDeposit (s : DepositState) (key : DepositOption) (value : Option String) :
    Except Stop DepositState :=
  match key with
  | .help => .error (.help .deposit)
  | .noRelay => .ok { s with relays := false }
  | .privateKey => .ok { s with privateKey := value }
  | .amount => do
    let n ← numberValue .deposit (depositOptions.label .amount) (value.getD "")
    pure { s with amount := some n }
  | .tokenType => do pure { s with tokenType := some (← tokenValue (value.getD "")) }
  | .tokenAddress => .ok { s with tokenAddress := value.getD "" }
  | .tokenId => .ok { s with tokenId := value.getD "" }
  | .saltHash => .ok { s with saltHash := value }

/-- The order of the options of a deposit, if all that are required are there. -/
def orderOf (s : DepositState) : Except Stop DepositOrder :=
  match s.privateKey, s.amount, s.tokenType, s.saltHash with
  | some privateKey, some amount, some tokenType, some saltHash =>
    .ok ⟨privateKey, amount, tokenType, s.tokenAddress, s.tokenId, saltHash, s.relays⟩
  | _, _, _, _ =>
    let missing (isThere : Bool) (key : DepositOption) : List String :=
      if isThere then [] else [depositOptions.label key]
    .error (.misuse .deposit (.missing (missing s.privateKey.isSome .privateKey ++
      missing s.amount.isSome .amount ++ missing s.tokenType.isSome .tokenType ++
      missing s.saltHash.isSome .saltHash)))

/-! ## The options of a listing -/

/-- The options of a listing. -/
inductive LeavesOption where
  | help
  | fromBlock

/-- The spellings of the options of a listing. -/
def leavesOptions : Options LeavesOption where
  spellings := [("-h", .help), ("--help", .help), ("--from-block", .fromBlock)]
  takesValue
    | .help => false
    | .fromBlock => true
  label
    | .help => "-h/--help"
    | .fromBlock => "--from-block"

/-- Applies an option of a listing. -/
def applyLeaves (_ : Option Int) (key : LeavesOption) (value : Option String) :
    Except Stop (Option Int) :=
  match key with
  | .help => .error (.help .leaves)
  | .fromBlock => do
    pure (some (← numberValue .leaves (leavesOptions.label .fromBlock) (value.getD "")))

/-! ## Invocations -/

/-- What the options of a command say, and the arguments that are none. -/
def consumeAll {κ σ : Type} (page : Page) (options : Options κ)
    (apply : σ → κ → Option String → Except Stop σ) (start : σ) (arguments : List String) :
    Except Stop (σ × List String) := do
  let pieces ← (options.pieces arguments).mapError (.misuse page)
  let consumed ← options.consume (.misuse page) apply false pieces start
  pure (consumed.state, consumed.extras)

/-- The words that choose a command. -/
def commandNames : List String := ["deposit", "leaves"]

/-- The command of a name with arguments, and the arguments that are no options. -/
def readCommand (name : String) (arguments : List String) : Except Stop (Command × List String) :=
  match name with
  | "deposit" => do
    let (s, extras) ← consumeAll .deposit depositOptions applyDeposit .start arguments
    pure (.deposit (← orderOf s), extras)
  | "leaves" => do
    let (fromBlock, extras) ← consumeAll .leaves leavesOptions applyLeaves none arguments
    pure (.leaves fromBlock, extras)
  | _ => .error (.misuse .main (.badChoice "command" name commandNames))

/-- The invocation that arguments make. -/
def Invocation.ofArguments (arguments : List String) : Except Stop Invocation := do
  let pieces ← (mainOptions.pieces arguments).mapError (.misuse .main)
  let consumed ← mainOptions.consume (.misuse .main) applyMain true pieces ⟨false, ".env"⟩
  match consumed.rest.map Piece.text with
  | [] => throw (.misuse .main (.missing ["command"]))
  | name :: rest =>
    let (command, extras) ← readCommand name rest
    match consumed.extras ++ extras with
    | [] => pure ⟨consumed.state.verbose, consumed.state.envFile, command⟩
    | extras => throw (.misuse .main (.unrecognized extras))

end DepositBridge.CommandLine
