import DepositBridge.Value

/-!
# Tokens

The kinds of tokens that the liquidity contract knows, which of them can be deposited, and the
numerals that name a token of a kind.
-/

namespace DepositBridge

/-- A kind of token. -/
inductive TokenType where
  | native
  | erc20
  | nft
  | sft
  deriving DecidableEq, Repr, Inhabited

namespace TokenType

/-- The number of a kind in a call of the contract. -/
def code : TokenType → Nat
  | native => 0
  | erc20 => 1
  | nft => 2
  | sft => 3

/-- The kind of a number. -/
def ofCode? : Int → Option TokenType
  | 0 => some native
  | 1 => some erc20
  | 2 => some nft
  | 3 => some sft
  | _ => none

/-- The name of a kind. -/
def name : TokenType → String
  | native => "NATIVE"
  | erc20 => "ERC20"
  | nft => "NFT"
  | sft => "SFT"

end TokenType

/-- The kinds of tokens that can be deposited. -/
inductive DepositToken where
  | native
  | erc20
  deriving DecidableEq, Repr, Inhabited

namespace DepositToken

/-- A kind that can be deposited, among all kinds. -/
def toTokenType : DepositToken → TokenType
  | native => .native
  | erc20 => .erc20

/-- The kind that a value names: the numbers zero and one, and nothing else. -/
def ofValue? : Value → Option DepositToken
  | .int 0 => some native
  | .int 1 => some erc20
  | _ => none

end DepositToken

/-! ## Token identifiers -/

/-- The identifier of a token: the numeral it was given by, and its number. -/
structure TokenId where
  text : String
  number : Nat
  deriving DecidableEq, Repr

namespace TokenId

/-- The base of a numeral: sixteen behind the mark `0x` or `0X`, else ten. -/
def baseOf (text : String) : Numeral.Base :=
  if Hex.isMarked text.toList then .sixteen else .ten

/-- The number of a numeral. -/
def readNumber (text : String) : Except Numeral.Fault Int := Numeral.read (baseOf text) text

/-- The identifier zero. -/
def zero : TokenId := ⟨"0", 0⟩

end TokenId

end DepositBridge
