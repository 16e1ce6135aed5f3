import DepositBridge.FileTree
import DepositBridge.Text.Basic

/-!
# Environment files

Files of assignments that are merged into an environment. Variables that are already there win.
Merging breaks off at an assignment that no environment can hold; what was merged before it stays.
-/

namespace DepositBridge.EnvFile

/-- An environment: values under names, each name once. -/
abbrev Environment := List (String × String)

/-- The value of a variable. -/
def Environment.get? (environment : Environment) (name : String) : Option String :=
  environment.lookup name

/-- One line of a file: a name, and its value before expansion if it has one. -/
structure Assignment where
  name : List Char
  value : Option (List Char)
  deriving DecidableEq, Repr

/-! ## Lines -/

/-- Blanks within a line. -/
def isInlineBlank (c : Char) : Bool :=
  Text.isBlankOrSeparator c && c ≠ '\n' && c ≠ '\r'

/-- The rest of a text behind the end of its first line. -/
def dropLine (text : List Char) : List Char := (text.dropWhile (· ≠ '\n')).drop 1

/-- Drops blanks within a line. -/
def dropBlanks (text : List Char) : List Char := text.dropWhile isInlineBlank

/-- Drops the word `export` when a blank follows it. -/
def dropExport (text : List Char) : List Char :=
  match text with
  | 'e' :: 'x' :: 'p' :: 'o' :: 'r' :: 't' :: c :: rest =>
    if isInlineBlank c then dropBlanks rest else text
  | _ => text

/-- The text up to a quote mark and the text behind the mark. A mark behind a backslash does not
count, unless no other follows. -/
def splitQuoted (quote : Char) : List Char → Option (List Char × List Char)
  | [] => none
  | '\\' :: c :: rest =>
    if c = quote then
      match splitQuoted quote rest with
      | some (inside, behind) => some ('\\' :: c :: inside, behind)
      | none => some (['\\'], rest)
    else (splitQuoted quote (c :: rest)).map fun (inside, behind) => ('\\' :: inside, behind)
  | c :: rest =>
    if c = quote then some ([], rest)
    else (splitQuoted quote rest).map fun (inside, behind) => (c :: inside, behind)

/-- The character that a backslash and a character write between double quotes. -/
def doubleEscape? : Char → Option Char
  | '\\' => some '\\'
  | '\'' => some '\''
  | '"' => some '"'
  | 'a' => some '\x07'
  | 'b' => some '\x08'
  | 'f' => some '\x0c'
  | 'n' => some '\n'
  | 'r' => some '\r'
  | 't' => some '\t'
  | 'v' => some '\x0b'
  | _ => none

/-- The character that a backslash and a character write between single quotes. -/
def singleEscape? : Char → Option Char
  | '\\' => some '\\'
  | '\'' => some '\''
  | _ => none

/-- A quoted text with its escapes replaced; a backslash that starts none stays. -/
def unescape (escape? : Char → Option Char) : List Char → List Char
  | '\\' :: c :: rest =>
    match escape? c with
    | some e => e :: unescape escape? rest
    | none => '\\' :: unescape escape? (c :: rest)
  | c :: rest => c :: unescape escape? rest
  | [] => []

/-- A value without quotes: up to a number sign that follows a blank, without blanks at its end. -/
def dropComment (blankBefore : Bool) : List Char → List Char
  | [] => []
  | c :: rest =>
    if c = '#' ∧ blankBefore then []
    else c :: dropComment (Text.isBlankOrSeparator c) rest

/-- A value without the blanks at its end. -/
def dropBlanksAtEnd (text : List Char) : List Char :=
  (text.reverse.dropWhile Text.isBlankOrSeparator).reverse

/-- The value behind an equals sign, and the rest of the text. -/
def readValue (text : List Char) : Option (List Char × List Char) :=
  match text with
  | '\'' :: rest =>
    (splitQuoted '\'' rest).map fun (inside, behind) => (unescape singleEscape? inside, behind)
  | '"' :: rest =>
    (splitQuoted '"' rest).map fun (inside, behind) => (unescape doubleEscape? inside, behind)
  | _ =>
    let line := text.takeWhile (· ≠ '\n')
    some (dropBlanksAtEnd (dropComment false line), text.dropWhile (· ≠ '\n'))

/-- The name at the front of a text: none for a comment, quoted or without blanks. Without a name
the reader stops where it stands. -/
def readName (text : List Char) : Except (List Char) (Option (List Char) × List Char) :=
  match text with
  | '#' :: _ => .ok (none, text)
  | '\'' :: rest =>
    let name := rest.takeWhile (· ≠ '\'')
    match rest.dropWhile (· ≠ '\'') with
    | _ :: behind => if name.isEmpty then .error text else .ok (some name, behind)
    | [] => .error text
  | _ =>
    let inName (c : Char) : Bool := !(c = '=' || c = '#' || Text.isBlankOrSeparator c)
    let name := text.takeWhile inName
    if name.isEmpty then .error text else .ok (some name, text.dropWhile inName)

/-- Drops blanks and a comment up to the end of a line, and the line end. Fails when anything else
is left, and then tells where. -/
def endLine (text : List Char) : Except (List Char) (List Char) :=
  let blanks := dropBlanks text
  let text := match blanks with
    | '#' :: _ => blanks.dropWhile (· ≠ '\n')
    | _ => text
  match dropBlanks text with
  | [] => .ok []
  | '\n' :: rest => .ok rest
  | _ => .error text

/-- Reads one assignment, or a comment, after blanks and line ends. A line that is neither fails,
and the reader tells where it stood. -/
def readAssignment (text : List Char) : Except (List Char) (Option Assignment × List Char) := do
  let text := dropExport text
  let (name, text) ← readName text
  let text := dropBlanks text
  let (value, text) ← match text with
    | '=' :: rest =>
      let rest := dropBlanks rest
      match readValue rest with
      | some (value, rest) => pure (some value, rest)
      | none => throw rest
    | _ => pure (none, text)
  let text ← endLine text
  pure (name.map fun name => ⟨name, value⟩, text)

/-- Reads the assignments of a text; lines that are none are left out. The first argument bounds
the number of lines. -/
def readAll : Nat → List Char → List Assignment
  | 0, _ => []
  | lines + 1, text =>
    match text.dropWhile Text.isBlankOrSeparator with
    | [] => []
    | start =>
      match readAssignment start with
      | .ok (some assignment, rest) => assignment :: readAll lines rest
      | .ok (none, rest) => readAll lines rest
      | .error stopped => readAll lines (dropLine stopped)

/-- The assignments of a text. -/
def assignments (text : List Char) : List Assignment := readAll (text.length + 1) text

/-! ## Expansion -/

/-- The name, the default and the rest behind the opening of a reference, if it is closed. -/
def splitReference (text : List Char) : Option (List Char × List Char × List Char) :=
  let name := text.takeWhile fun c => c ≠ '\x7d' && c ≠ ':'
  match text.drop name.length with
  | '\x7d' :: rest => some (name, [], rest)
  | ':' :: '-' :: rest =>
    let default_ := rest.takeWhile (· ≠ '\x7d')
    match rest.dropWhile (· ≠ '\x7d') with
    | _ :: behind => some (name, default_, behind)
    | [] => none
  | _ => none

/-- A value in which references to variables are replaced. The first argument bounds the number of
steps. -/
def expandFrom (lookup : String → Option (Option String)) : Nat → List Char → List Char
  | 0, text => text
  | steps + 1, text =>
    match text with
    | [] => []
    | '$' :: '\x7b' :: rest =>
      match splitReference rest with
      | some (name, default_, behind) =>
        let value := match lookup (String.ofList name) with
          | some (some value) => value.toList
          | some none => []
          | none => default_
        value ++ expandFrom lookup steps behind
      | none => '$' :: expandFrom lookup steps ('\x7b' :: rest)
    | c :: rest => c :: expandFrom lookup steps rest

/-- A value in which references to variables are replaced. -/
def expand (lookup : String → Option (Option String)) (text : List Char) : List Char :=
  expandFrom lookup text.length text

/-- What a file gives to its names, in the order in which they first occur. A name without a value
is kept, with none. -/
abbrev Bindings := List (String × Option String)

/-- Puts a binding; a name that is there keeps its place. -/
def Bindings.put (bindings : Bindings) (name : String) (value : Option String) : Bindings :=
  if bindings.any (·.1 = name) then
    bindings.map fun (key, old) => if key = name then (key, value) else (key, old)
  else bindings ++ [(name, value)]

/-- What a reference finds: a variable of the environment, or what the file has given so far. -/
def lookupIn (environment : Environment) (bindings : Bindings) (name : String) :
    Option (Option String) :=
  match environment.get? name with
  | some value => some (some value)
  | none => bindings.lookup name

/-- The bindings of assignments in an environment. -/
def bind (environment : Environment) (assignments : List Assignment) : Bindings :=
  assignments.foldl (fun bindings assignment =>
    let value := assignment.value.map fun value =>
      String.ofList (expand (lookupIn environment bindings) value)
    bindings.put (String.ofList assignment.name) value) []

/-! ## Merging -/

/-- Why a file cannot be merged into an environment. -/
inductive Fault where
  /-- The file is not text. -/
  | encoding (fault : Text.Utf8Fault)
  /-- A name or a value has a null character. -/
  | nullCharacter
  /-- A name has an equals sign. -/
  | equalsSign
  deriving DecidableEq, Repr

/-- The wording of a fault. -/
def Fault.message : Fault → String
  | encoding fault => fault.message
  | nullCharacter => "embedded null byte"
  | equalsSign => "illegal environment variable name"

/-- Why no environment can hold a value under a name. -/
def fault? (name value : String) : Option Fault :=
  if name.toList.contains '\x00' || value.toList.contains '\x00' then some .nullCharacter
  else if name.toList.contains '=' then some .equalsSign
  else none

/-- What bindings add to an environment: the values of the names that it does not have. -/
def Environment.additions (environment : Environment) (bindings : Bindings) : Environment :=
  bindings.filterMap fun (name, value) =>
    if (environment.get? name).isSome then none else value.map fun value => (name, value)

/-- An environment after a file has been merged into it, and why merging broke off if it did. -/
structure Merge where
  environment : Environment
  fault : Option Fault
  deriving DecidableEq, Repr

/-- Adds bindings to an environment, up to the first one that it cannot hold. -/
def Environment.addMissing (environment : Environment) (bindings : Bindings) : Merge :=
  let additions := environment.additions bindings
  ⟨environment ++ additions.takeWhile fun (name, value) => (fault? name value).isNone,
    additions.findSome? fun (name, value) => fault? name value⟩

/-- Merges the assignments of a text, whose lines end in line feeds, into an environment. -/
def mergeText (environment : Environment) (text : List Char) : Merge :=
  environment.addMissing (bind environment (assignments text))

/-- Merges the content of a file into an environment. -/
def merge (environment : Environment) (content : Octets) : Merge :=
  match Text.ofFile content with
  | .ok text => mergeText environment text
  | .error fault => ⟨environment, some (.encoding fault)⟩

end DepositBridge.EnvFile
