import DepositBridge.CommandLine.Command

/-!
# Usage and help

What the program says about its command line, in lines of at most eighty characters.
-/

namespace DepositBridge.CommandLine

/-- The name by which a part of the command line calls itself. -/
def Page.program : Page → String
  | main => "deposit-invoker"
  | deposit => "deposit-invoker deposit"
  | leaves => "deposit-invoker leaves"

/-- Lines of text, each with its end. -/
def lines (texts : List String) : String := String.join (texts.map (· ++ "\n"))

/-- How a part of the command line is used. -/
def Page.usage : Page → String
  | main => lines [
    "usage: deposit-invoker [-h] [-v] [--env-file ENV_FILE] \x7bdeposit,leaves\x7d ..."]
  | deposit => lines [
    "usage: deposit-invoker deposit [-h] --private-key PRIVATE_KEY --amount AMOUNT",
    "                               --token-type \x7berc20,native,nft,sft\x7d",
    "                               [--token-address TOKEN_ADDRESS]",
    "                               [--token-id TOKEN_ID] --pubkey-salt-hash",
    "                               PUBKEY_SALT_HASH [--no-relay]"]
  | leaves => lines ["usage: deposit-invoker leaves [-h] [--from-block FROM_BLOCK]"]

/-- What a part of the command line offers. -/
def Page.details : Page → String
  | main => lines [
    "Deposit tokens on the L1 Liquidity contract and relay them to the L2 Rollup",
    "",
    "positional arguments:",
    "  \x7bdeposit,leaves\x7d",
    "    deposit            deposit on L1 and relay the deposit hash to L2",
    "    leaves             list DepositLeafInserted events on the rollup",
    "",
    "options:",
    "  -h, --help           show this help message and exit",
    "  -v, --verbose        enable debug logging",
    "  --env-file ENV_FILE  dotenv file to load (default: .env)"]
  | deposit => lines [
    "options:",
    "  -h, --help            show this help message and exit",
    "  --private-key PRIVATE_KEY",
    "                        L1 depositor private key (hex)",
    "  --amount AMOUNT       amount in base units",
    "  --token-type \x7berc20,native,nft,sft\x7d",
    "                        token type (only native and erc20 can be deposited)",
    "  --token-address TOKEN_ADDRESS",
    "  --token-id TOKEN_ID",
    "  --pubkey-salt-hash PUBKEY_SALT_HASH",
    "                        recipient pubkey salt hash (32-byte hex)",
    "  --no-relay            skip processDeposits on the rollup"]
  | leaves => lines [
    "options:",
    "  -h, --help            show this help message and exit",
    "  --from-block FROM_BLOCK",
    "                        default: rollup deployment block"]

/-- The help for a part of the command line. -/
def Page.help (page : Page) : String := page.usage ++ "\n" ++ page.details

/-- What the program leaves behind: its exit code and what it has written. -/
structure Report where
  code : Nat
  output : String
  errors : String
  deriving DecidableEq, Repr

/-- The report of a stop: help is output, misuse an error with the usage in front. -/
def Stop.report : Stop → Report
  | help page => ⟨0, page.help, ""⟩
  | misuse page fault =>
    ⟨2, "", page.usage ++ s!"{page.program}: error: {fault.message}\n"⟩

end DepositBridge.CommandLine
