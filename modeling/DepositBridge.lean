import DepositBridge.Abi.Artifact
import DepositBridge.Abi.Codec
import DepositBridge.Abi.Coherence
import DepositBridge.Abi.Event
import DepositBridge.Abi.Interface
import DepositBridge.Abi.Type
import DepositBridge.Address
import DepositBridge.Binary64
import DepositBridge.Bridge.Basic
import DepositBridge.Bridge.Call
import DepositBridge.Bridge.Journey
import DepositBridge.Bytes32
import DepositBridge.Client.Basic
import DepositBridge.Client.Fault
import DepositBridge.Client.Liquidity
import DepositBridge.Client.Log
import DepositBridge.Client.Read
import DepositBridge.Client.Rollup
import DepositBridge.Client.Submission
import DepositBridge.CommandLine.Command
import DepositBridge.CommandLine.Help
import DepositBridge.CommandLine.Option
import DepositBridge.CommandLine.Run
import DepositBridge.Crypto.Keccak
import DepositBridge.Crypto.Secp256k1
import DepositBridge.Crypto.Sha256
import DepositBridge.Deposit.Hash
import DepositBridge.Deposit.Record
import DepositBridge.Deposit.Request
import DepositBridge.Deposit.Token
import DepositBridge.EnvFile
import DepositBridge.Failure
import DepositBridge.Field
import DepositBridge.FileTree
import DepositBridge.Hex
import DepositBridge.Journal
import DepositBridge.Json.Reader
import DepositBridge.Json.Writer
import DepositBridge.Main
import DepositBridge.Node.Fault
import DepositBridge.Node.Request
import DepositBridge.Node.Script
import DepositBridge.Numeral
import DepositBridge.Octets
import DepositBridge.Program
import DepositBridge.Proofs.Accounts
import DepositBridge.Proofs.Address
import DepositBridge.Proofs.Artifacts
import DepositBridge.Proofs.Batches
import DepositBridge.Proofs.Blame
import DepositBridge.Proofs.Bridge
import DepositBridge.Proofs.Checks
import DepositBridge.Proofs.Codec
import DepositBridge.Proofs.Coherence
import DepositBridge.Proofs.Collisions
import DepositBridge.Proofs.CommandLine
import DepositBridge.Proofs.Commitment
import DepositBridge.Proofs.Contracts
import DepositBridge.Proofs.DepositHash
import DepositBridge.Proofs.Enlargement
import DepositBridge.Proofs.Failures
import DepositBridge.Proofs.Fields
import DepositBridge.Proofs.Hexadecimal
import DepositBridge.Proofs.HiddenKey
import DepositBridge.Proofs.Interfaces
import DepositBridge.Proofs.Journey
import DepositBridge.Proofs.JsonFaults
import DepositBridge.Proofs.JsonText
import DepositBridge.Proofs.JsonTokens
import DepositBridge.Proofs.LeafLogs
import DepositBridge.Proofs.Lifetime
import DepositBridge.Proofs.Meaning
import DepositBridge.Proofs.Merging
import DepositBridge.Proofs.NormalForm
import DepositBridge.Proofs.Octets
import DepositBridge.Proofs.Outcomes
import DepositBridge.Proofs.PrivateKeys
import DepositBridge.Proofs.RemoteFaults
import DepositBridge.Proofs.Results
import DepositBridge.Proofs.Rlp
import DepositBridge.Proofs.Runs
import DepositBridge.Proofs.Scan
import DepositBridge.Proofs.Separation
import DepositBridge.Proofs.Session
import DepositBridge.Proofs.Settlement
import DepositBridge.Proofs.SignedCalls
import DepositBridge.Proofs.Spellings
import DepositBridge.Proofs.StepOrder
import DepositBridge.Proofs.Stranding
import DepositBridge.Proofs.Submission
import DepositBridge.Proofs.TokenAnswers
import DepositBridge.Proofs.TokenIds
import DepositBridge.Proofs.TokenRefusal
import DepositBridge.Proofs.Utf8
import DepositBridge.Proofs.Variables
import DepositBridge.Proofs.Windows
import DepositBridge.Proofs.Words
import DepositBridge.Rlp
import DepositBridge.Settings
import DepositBridge.Text.Basic
import DepositBridge.Text.Composed
import DepositBridge.Text.LowerCase
import DepositBridge.Text.Printable
import DepositBridge.Text.Quoted
import DepositBridge.Text.Utf8
import DepositBridge.Transaction.Basic
import DepositBridge.Transaction.Draft
import DepositBridge.Url.Basic
import DepositBridge.Url.Domain
import DepositBridge.Url.DomainMap
import DepositBridge.Url.Host
import DepositBridge.Url.Percent
import DepositBridge.Url.Punycode
import DepositBridge.Value
import DepositBridge.Wallet
import DepositBridge.Proofs.Checksum
import DepositBridge.Proofs.KeptAddresses
