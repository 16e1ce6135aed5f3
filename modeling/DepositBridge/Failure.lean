import DepositBridge.Abi.Artifact
import DepositBridge.Client.Fault
import DepositBridge.Deposit.Request
import DepositBridge.Settings

/-!
# Failures

Why a deposit, a relay or a listing comes to nothing. Every failure is an error of some class. The
command line reports the errors of five classes, and of those below them; any other error ends the
program.
-/

namespace DepositBridge

/-! ## Classes of errors -/

/-- The classes of errors. Those that are never asked for are told apart by their names only. -/
inductive ErrorClass where
  | configuration
  | unsupportedTokenType
  | wallet
  | remoteCall
  /-- A value that is not what it has to be. -/
  | value
  /-- Fields that make no record. -/
  | validation
  /-- Octets that are no text. -/
  | decoding
  /-- Digits that are not hexadecimal. -/
  | digits
  /-- A value of an interface, or of a node, that is not what it has to be. -/
  | remoteValue
  | other (name : String)
  deriving DecidableEq, Repr

namespace ErrorClass

/-- The name of a class. -/
def name : ErrorClass → String
  | configuration => "ConfigurationError"
  | unsupportedTokenType => "UnsupportedTokenTypeError"
  | wallet => "WalletError"
  | remoteCall => "RemoteCallError"
  | value => "ValueError"
  | validation => "ValidationError"
  | decoding => "UnicodeDecodeError"
  | digits => "Error"
  | remoteValue => "Web3ValueError"
  | other name => name

/-- The class right above a class, as far as it is ever asked for. -/
def above? : ErrorClass → Option ErrorClass
  | validation => some value
  | decoding => some value
  | digits => some value
  | remoteValue => some value
  | _ => none

/-- Whether a class is another one or below it. -/
def isWithin (c d : ErrorClass) : Bool := c = d || c.above? = some d

/-- The classes that the command line reports. -/
def reported : List ErrorClass := [configuration, unsupportedTokenType, wallet, remoteCall, value]

end ErrorClass

/-! ## Failures -/

/-- Why nothing comes of what was to be done. -/
inductive Failure where
  /-- The environment gives no settings. -/
  | settings (fault : Settings.Fault)
  /-- The environment's file cannot be merged into the environment. -/
  | environment (fault : EnvFile.Fault)
  /-- The fields make no request. -/
  | request (fault : Request.Fault)
  /-- The key makes no wallet. -/
  | wallet (fault : Wallet.Fault)
  /-- The interface of a contract is not loaded. -/
  | artifact (fault : Abi.ArtifactFault)
  /-- No client can be made of the interface of a contract. -/
  | interface (fault : Abi.CoherenceFault)
  /-- A call of a contract fails. -/
  | client (fault : Client.Fault)
  /-- What a client answers makes no record. -/
  | rejected (rejection : Rejection)
  /-- A relay without deposits. -/
  | nothingToRelay
  /-- A number has too many digits to be written. -/
  | numeral (fault : Numeral.Fault)

namespace Failure

/-- The wording of a failure. -/
def message : Failure → String
  | settings fault => fault.message
  | environment fault => fault.message
  | request fault => fault.message
  | wallet fault => fault.message
  | artifact fault => fault.message
  | interface fault => fault.message
  | client fault => fault.message
  | rejected rejection => rejection.message
  | nothingToRelay => "No deposits to relay"
  | numeral fault => fault.message

/-! ## The classes of failures -/

/-- The class of a fault of an environment's file. -/
def environmentClass : EnvFile.Fault → ErrorClass
  | .encoding _ => .decoding
  | .nullCharacter => .value
  | .equalsSign => .value

/-- The class of a fault of an artifact. A file that is no text, and a number that is too long, are
not looked after, and are no faults of the configuration. -/
def artifactClass : Abi.ArtifactFault → ErrorClass
  | .encoding _ => .decoding
  | .numeral _ => .value
  | _ => .configuration

/-- The class of a fault of a request. -/
def requestClass : Request.Fault → ErrorClass
  | .unsupportedToken .. => .unsupportedTokenType
  | .rejected _ => .validation

/-- The class of a fault of a wallet. A transaction whose fields are of the wrong kind, or cannot be
written, is the program's own fault. -/
def walletClass : Wallet.Fault → ErrorClass
  | .transaction .malformed => .other "TypeError"
  | .transaction (.unformattable ..) => .value
  | .transaction (.unwritable _) => .other "ObjectSerializationError"
  | .signing .tooLarge => .other "EncodingError"
  | _ => .wallet

/-- The class of a fault of an interface. -/
def interfaceClass : Abi.CoherenceFault → ErrorClass
  | .missingField _ => .other "KeyError"
  | .malformed => .other "TypeError"
  | .reservedName _ => .other "Web3AttributeError"
  | .notObjects => .remoteValue
  | .collision _ => .remoteValue

/-- The class of a fault of a lookup in an interface. -/
def lookupClass : Abi.LookupFault → ErrorClass
  | .noFunctions => .other "NoABIFunctionsFound"
  | .noEvents => .other "NoABIEventsFound"
  | .functionNotFound _ => .other "ABIFunctionNotFound"
  | .eventNotFound _ => .other "ABIEventNotFound"
  | .mismatch _ => .other "MismatchedABI"

/-- The class of a fault of a log. -/
def logClass : Abi.LogFault → ErrorClass
  | .otherEvent => .other "MismatchedABI"
  | .topicCount => .other "LogTopicError"
  | .tooShort => .other "InsufficientDataBytes"
  | .padding => .other "NonEmptyPaddingBytes"

/-- The class of an error that a node answers with. -/
def nodeClass : Node.Fault → ErrorClass
  | .refused _ => .other "Web3RPCError"
  | .methodUnavailable _ => .other "MethodUnavailable"
  | .transactionNotFound _ => .other "TransactionNotFound"
  | .timedOut _ => .other "RequestTimedOut"
  | .badObject => .other "BadResponseFormat"
  | .reverted .. => .other "ContractLogicError"
  | .panicked .. => .other "ContractPanicError"
  | .unknownPanic => .other "KeyError"
  | .custom _ => .other "ContractCustomError"

/-- The class of a fault of a client: what the remote side refuses to carry out, and values that
cannot be what they are meant to be, have classes of their own. -/
def clientClass : Client.Fault → ErrorClass
  | .lookup fault => lookupClass fault
  | .refused _ => .value
  | .wallet fault => walletClass fault
  | .node fault => nodeClass fault
  | .numeral _ => .value
  | .notHexadecimal => .digits
  | .width .. => .remoteValue
  | .malformed => .other "TypeError"
  | .missingField _ => .other "KeyError"
  | .noBlock => .other "BlockNotFound"
  | .chainMismatch .. => .other "Web3ValidationError"
  | .gasLimit .. => .remoteValue
  | .valueNotTaken => .other "Web3ValidationError"
  | .notMined .. => .other "TimeExhausted"
  | .noAccount _ => .remoteCall
  | .reverted .. => .remoteCall
  | .undecodable => .other "BadFunctionCallOutput"
  | .log fault => logClass fault
  | .foreign kind _ isRemote => if isRemote then .remoteCall else .other kind

/-- The class of a failure. -/
def errorClass : Failure → ErrorClass
  | settings _ => .configuration
  | environment fault => environmentClass fault
  | request fault => requestClass fault
  | wallet fault => walletClass fault
  | artifact fault => artifactClass fault
  | interface fault => interfaceClass fault
  | client fault => clientClass fault
  | rejected _ => .validation
  | nothingToRelay => .value
  | numeral _ => .value

/-- Whether the command line reports a failure and ends in order. -/
def isReported (failure : Failure) : Bool :=
  ErrorClass.reported.any failure.errorClass.isWithin

end Failure

end DepositBridge
