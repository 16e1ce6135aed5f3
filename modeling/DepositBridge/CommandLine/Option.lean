import DepositBridge.Text.Basic
import DepositBridge.Text.Quoted

/-!
# Options of a command line

How arguments are told apart: options by their spellings, which may be cut short as long as they
stay unique, words, and two dashes behind which there are only words. An option that takes a value
has it behind an equals sign or in the next word.
-/

namespace DepositBridge.CommandLine

/-! ## Misuse -/

/-- Why arguments are not accepted. -/
inductive Misuse where
  | ambiguous (argument : String) (spellings : List String)
  /-- An option has a value that it does not take. -/
  | ignoredValue (option value : String)
  | missingValue (option : String)
  | badNumber (option value : String)
  | badChoice (option value : String) (choices : List String)
  | missing (names : List String)
  | unrecognized (arguments : List String)
  deriving DecidableEq, Repr

/-- The wording of a misuse. -/
def Misuse.message : Misuse → String
  | ambiguous argument spellings =>
    s!"ambiguous option: {argument} could match " ++ String.intercalate ", " spellings
  | ignoredValue option value => s!"argument {option}: ignored explicit argument {Text.quote value}"
  | missingValue option => s!"argument {option}: expected one argument"
  | badNumber option value => s!"argument {option}: invalid int value: {Text.quote value}"
  | badChoice option value choices =>
    s!"argument {option}: invalid choice: {Text.quote value} (choose from " ++
      String.intercalate ", " (choices.map Text.quote) ++ ")"
  | missing names => "the following arguments are required: " ++ String.intercalate ", " names
  | unrecognized arguments => "unrecognized arguments: " ++ String.intercalate " " arguments

/-! ## Telling arguments apart -/

/-- The options of a command: their spellings, in the order in which they are listed, which of them
take a value, and their names in a message. -/
structure Options (κ : Type) where
  spellings : List (String × κ)
  takesValue : κ → Bool
  label : κ → String

/-- An option that an argument spells, and the value that the argument holds: behind an equals sign,
or right behind the letter of the option. -/
structure Spelt (κ : Type) where
  key : κ
  spelling : String
  hasEquals : Bool
  value : Option String

/-- An argument. -/
inductive Piece (κ : Type) where
  | word (text : String)
  | dashes
  | known (text : String) (spelt : Spelt κ)
  | unknown (text : String)

/-- The text of an argument. -/
def Piece.text {κ : Type} : Piece κ → String
  | word text => text
  | dashes => "--"
  | known text _ => text
  | unknown text => text

/-- What stands before the first equals sign and what stands behind it. -/
def splitEquals (text : List Char) : List Char × Option (List Char) :=
  match text.dropWhile (· ≠ '=') with
  | _ :: value => (text.takeWhile (· ≠ '='), some value)
  | [] => (text, none)

/-- Whether digits, of which there may be none in front of a point, are all that is left. -/
def isUnsigned (text : List Char) : Bool :=
  let isDigit (c : Char) : Bool := (Text.decimalDigit? c).isSome
  match text.dropWhile isDigit with
  | [] => !text.isEmpty
  | c :: fraction => c = '.' && !fraction.isEmpty && fraction.all isDigit

/-- Whether a text looks like a negative number. A line feed at its end does not count. -/
def looksNegative : List Char → Bool
  | '-' :: rest => isUnsigned rest || (rest.getLast? = some '\n' && isUnsigned rest.dropLast)
  | _ => false

/-- Whether an option is spelt with two dashes. -/
def isLong (spelling : List Char) : Bool := spelling.take 2 = ['-', '-']

namespace Options

variable {κ : Type} (options : Options κ)

/-- The options that an argument may spell when it is cut short, or when a value follows one
letter. -/
def candidates (argument : List Char) : List (Spelt κ) :=
  if isLong argument then
    let (start, value) := splitEquals argument
    (options.spellings.filter fun (spelling, _) => start.isPrefixOf spelling.toList).map
      fun (spelling, key) => ⟨key, spelling, value.isSome, value.map String.ofList⟩
  else
    options.spellings.filterMap fun (spelling, key) =>
      if spelling.toList = argument.take 2 then
        some ⟨key, spelling, false, some (String.ofList (argument.drop 2))⟩
      else if argument.isPrefixOf spelling.toList then some ⟨key, spelling, false, none⟩
      else none

/-- The option that an argument spells in full, with or without a value behind an equals sign. -/
def full? (argument : String) : Option (Spelt κ) :=
  match options.spellings.lookup argument with
  | some key => some ⟨key, argument, false, none⟩
  | none =>
    match splitEquals argument.toList with
    | (start, some value) =>
      let spelling := String.ofList start
      (options.spellings.lookup spelling).map fun key =>
        ⟨key, spelling, true, some (String.ofList value)⟩
    | (_, none) => none

/-- What an argument is. One that starts with a dash is an option, unless it is a dash alone, looks
like a negative number, or has a blank in it. -/
def classify (argument : String) : Except Misuse (Piece κ) :=
  match argument.toList with
  | '-' :: _ :: _ =>
    match options.full? argument with
    | some spelt => .ok (.known argument spelt)
    | none =>
      match options.candidates argument.toList with
      | [spelt] => .ok (.known argument spelt)
      | [] =>
        if looksNegative argument.toList || argument.toList.contains ' ' then .ok (.word argument)
        else .ok (.unknown argument)
      | several => .error (.ambiguous argument (several.map (·.spelling)))
  | _ => .ok (.word argument)

/-- What arguments are. -/
def pieces : List String → Except Misuse (List (Piece κ))
  | [] => .ok []
  | argument :: rest =>
    if argument = "--" then .ok (.dashes :: rest.map .word)
    else do
      let piece ← options.classify argument
      let others ← pieces rest
      pure (piece :: others)

/-! ## Values -/

/-- What an argument with a known option stands for: options that take no value, then maybe one more
with its value, if the argument holds it, or else letters that are no option. -/
structure Resolved (κ : Type) where
  flags : List κ
  last : Option (κ × Option String)
  extra : Option String

/-- The same with one more option in front that takes no value. -/
def Resolved.withFlag {κ : Type} (key : κ) (resolved : Resolved κ) : Resolved κ :=
  { resolved with flags := key :: resolved.flags }

/-- What an option with a value stands for. The letters behind one dash are options that take no
value, the last of which may take the rest; `isClosed` tells that the value is no further
letters. -/
def expand (key : κ) (isClosed : Bool) : List Char → Except Misuse (Resolved κ)
  | [] =>
    if options.takesValue key then .ok ⟨[], some (key, some ""), none⟩
    else .error (.ignoredValue (options.label key) "")
  | c :: rest =>
    let value := String.ofList (c :: rest)
    if options.takesValue key then .ok ⟨[], some (key, some value), none⟩
    else if isClosed || c = '-' then .error (.ignoredValue (options.label key) value)
    else
      match options.spellings.lookup (String.ofList ['-', c]), rest with
      | none, _ => .ok ⟨[key], none, some (String.ofList ('-' :: c :: rest))⟩
      | some next, [] => .ok ⟨[key], some (next, none), none⟩
      | some next, '=' :: more => (expand next true more).map (.withFlag key)
      | some next, more => (expand next false more).map (.withFlag key)

/-- What an argument with a known option stands for. -/
def resolve (spelt : Spelt κ) : Except Misuse (Resolved κ) :=
  match spelt.value with
  | none => .ok ⟨[], some (spelt.key, none), none⟩
  | some value =>
    options.expand spelt.key (spelt.hasEquals || isLong spelt.spelling.toList) value.toList

/-- What comes of arguments: the options and their values in turn, the arguments that are no
options, and, when a word ends the options, the word and all behind it. -/
structure Consumed (σ κ : Type) where
  state : σ
  extras : List String
  rest : List (Piece κ)

/-- What comes of arguments with one more in front that is no option. -/
def Consumed.withExtra {σ κ : Type} (consumed : Consumed σ κ) (text : String) : Consumed σ κ :=
  { consumed with extras := text :: consumed.extras }

/-- Goes through arguments. Each option is applied with its value as it is met; `endsAtWord` tells
that a word, or two dashes with something behind them, ends the options. -/
def consume {σ ε : Type} (misuse : Misuse → ε) (apply : σ → κ → Option String → Except ε σ)
    (endsAtWord : Bool) : List (Piece κ) → σ → Except ε (Consumed σ κ)
  | [], s => .ok ⟨s, [], []⟩
  | .word text :: rest, s =>
    if endsAtWord then .ok ⟨s, [], .word text :: rest⟩
    else (consume misuse apply endsAtWord rest s).map (·.withExtra text)
  | .dashes :: rest, s =>
    if endsAtWord && !rest.isEmpty then .ok ⟨s, [], .dashes :: rest⟩
    else (consume misuse apply endsAtWord rest s).map (·.withExtra "--")
  | .unknown text :: rest, s => (consume misuse apply endsAtWord rest s).map (·.withExtra text)
  | .known _ spelt :: rest, s =>
    let applyFlags (flags : List κ) (s : σ) : Except ε σ :=
      flags.foldlM (fun s flag => apply s flag none) s
    match options.resolve spelt with
    | .error fault => .error (misuse fault)
    | .ok ⟨flags, none, extra⟩ => do
      let s ← applyFlags flags s
      let consumed ← consume misuse apply endsAtWord rest s
      pure (extra.elim consumed consumed.withExtra)
    | .ok ⟨flags, some (key, some value), _⟩ => do
      let s ← apply (← applyFlags flags s) key (some value)
      consume misuse apply endsAtWord rest s
    | .ok ⟨flags, some (key, none), _⟩ =>
      if options.takesValue key then
        match rest with
        | .word value :: rest => do
          let s ← apply (← applyFlags flags s) key (some value)
          consume misuse apply endsAtWord rest s
        | _ => .error (misuse (.missingValue (options.label key)))
      else do
        let s ← apply (← applyFlags flags s) key none
        consume misuse apply endsAtWord rest s

end Options

end DepositBridge.CommandLine
