import OpenStock.Foundations.Text
import OpenStock.Foundations.Validation

namespace OpenStock.Commands
open Text

/- Slash commands: the tokens of a command text and what is read from them. -/

inductive FilterOp where
  | notContains
  | contains
  | ne
  | ge
  | le
  | gt
  | lt
  | eq

def FilterOp.text : FilterOp → Text
  | .notContains => "not_contains".toList
  | .contains => "contains".toList
  | .ne => "!=".toList
  | .ge => ">=".toList
  | .le => "<=".toList
  | .gt => ">".toList
  | .lt => "<".toList
  | .eq => "=".toList

structure CommandFilter where
  key : Text
  op : FilterOp
  value : Text

inductive OptionValue where
  | flag
  | text (value : Text)

structure ParsedCommand where
  commandName : Text
  rawText : Text
  positional : List Text
  filters : List CommandFilter
  options : List (Text × OptionValue)

-- What the message of a CommandParseError quotes.
inductive CommandParseError where
  | noSlash (raw : Text)
  | unmatchedQuotes (raw : Text)
  | emptyCommand
  | invalidName (name : Text)
  | bareOption
  | malformedFilter (token : Text)

/- The patterns. -/

def nameStart (c : Char) : Bool := 'a' ≤ c && c ≤ 'z'
def nameChar (c : Char) : Bool := nameStart c || c.isDigit || c == '_' || c == '-'

-- NAME := [a-z][a-z0-9_-]*
def properName : Text → Bool
  | [] => false
  | c :: rest => nameStart c && rest.all nameChar

-- `COMMAND_NAME_RE.match`: its `$` also matches before a newline at the end.
def commandNameRe (name : Text) : Bool :=
  properName name || (name.getLast? == some '\n' && properName name.dropLast)

def keyStart (c : Char) : Bool := c.isAlpha || c == '_'
def keyChar (c : Char) : Bool := c.isAlphanum || c == '_'

-- `(.+)$`
def restOfLine (text : Text) : Option Text :=
  let line := if text.getLast? = some '\n' then text.dropLast else text
  if line ≠ [] ∧ '\n' ∉ line then some line else none

-- `\s*(.+)$`, the longest blank first.
def valueAfter (text : Text) : Option Text :=
  (List.range ((text.takeWhile isSpace).length + 1)).reverse.findSome? (fun blank => restOfLine (text.drop blank))

def opOrder : List FilterOp := [.notContains,.contains,.ne,.ge,.le,.gt,.lt,.eq]

-- `\s*(OP)\s*(.+)$`
def opAfter (text : Text) : Option (FilterOp × Text) :=
  let text := text.dropWhile isSpace
  opOrder.findSome? (fun op =>
    if op.text <+: text then (valueAfter (text.drop op.text.length)).map (fun value => (op,value)) else none)

-- `_FILTER_RE.match`, the longest key first.
def filterRe : Text → Option CommandFilter
  | [] => none
  | c :: rest =>
    if keyStart c then
      (List.range ((rest.takeWhile keyChar).length + 1)).reverse.findSome? (fun length =>
        (opAfter (rest.drop length)).map (fun found => ⟨c :: rest.take length,found.1,found.2⟩))
    else none

def isOption (token : Text) : Bool := ['-','-'].isPrefixOf token

def malformed (value : Text) : Bool := value.head?.any (fun c => c == '>' || c == '<' || c == '=' || c == '!')

/- Reading the arguments. -/

structure Arguments where
  positional : List Text
  filters : List CommandFilter
  options : List (Text × OptionValue)

-- `options[key] = value`
def setOption (options : List (Text × OptionValue)) (key : Text) (value : OptionValue) : List (Text × OptionValue) :=
  if key ∈ options.map Prod.fst then options.map (fun option => if option.1 = key then (key,value) else option)
  else options ++ [(key,value)]

def optionKey (token : Text) : Except CommandParseError Text :=
  if token.drop 2 = [] then .error .bareOption else .ok (token.drop 2)

-- A token that is no option: a filter or a positional.
def readToken (token : Text) (read : Arguments) : Except CommandParseError Arguments :=
  match filterRe token with
  | some found =>
    if malformed (strip found.value) then .error (.malformedFilter token)
    else .ok {read with filters := read.filters ++ [{found with value := strip found.value}]}
  | none => .ok {read with positional := read.positional ++ [token]}

def readOption (key : Text) (value : OptionValue) (read : Arguments) : Arguments :=
  {read with options := setOption read.options key value}

-- The `while` loop: an option takes the next token as its value unless that is
-- an option or looks like a filter.
def parseArguments : List Text → Arguments → Except CommandParseError Arguments
  | [],read => .ok read
  | [token],read =>
    if isOption token then do
      let key ← optionKey token
      .ok (readOption key .flag read)
    else readToken token read
  | token :: next :: rest,read =>
    if isOption token then do
      let key ← optionKey token
      if !isOption next && (filterRe next).isNone then parseArguments rest (readOption key (.text next) read)
      else parseArguments (next :: rest) (readOption key .flag read)
    else do
      let read ← readToken token read
      parseArguments (next :: rest) read

def contextAliases : List (Text × Text) :=
  [("clean".toList,"clean".toList),("compact".toList,"compact".toList),("new".toList,"new".toList),
    ("resume".toList,"resume".toList),("status".toList,"status".toList)]

def modelAliases : List (Text × Text) := [("models".toList,"profiles".toList)]

-- The command a name stands for, and the positional an alias adds.
def expandName (name : Text) : Text × List Text :=
  match contextAliases.lookup name,modelAliases.lookup name with
  | some subcommand,_ => ("context".toList,[subcommand])
  | none,some subcommand => ("model".toList,[subcommand])
  | none,none => (name,[])

-- `shlex` splits a text into tokens, or fails on unmatched quotes.
def parse (shlex : Text → Option (List Text)) (text : Text) : Except CommandParseError ParsedCommand :=
  let raw := strip text
  match raw with
  | '/' :: body =>
    match shlex body with
    | none => .error (.unmatchedQuotes raw)
    | some [] => .error .emptyCommand
    | some (first :: tokens) =>
      let name := lower first
      if commandNameRe name then do
        let (commandName,positional) := expandName name
        let read ← parseArguments tokens ⟨positional,[],[]⟩
        .ok ⟨commandName,raw,read.positional,read.filters,read.options⟩
      else .error (.invalidName name)
  | _ => .error (.noSlash raw)

/- The documented grammar. -/

def Plain (token : Text) : Prop := isOption token = false ∧ filterRe token = none

-- FILTER := KEY OP VALUE
def readFilter (token : Text) : Option CommandFilter :=
  match filterRe token with
  | some found => if malformed (strip found.value) then none else some {found with value := strip found.value}
  | none => none

-- OPTION := "--" KEY [VALUE]
def optionTokens (option : Text × OptionValue) : List Text :=
  match option.2 with
  | .flag => ['-' :: '-' :: option.1]
  | .text value => ['-' :: '-' :: option.1,value]

def ProperOption (option : Text × OptionValue) : Prop :=
  option.1 ≠ [] ∧ ∀ value, option.2 = .text value → isOption value = false

-- ARGUMENTS := POSITIONAL* FILTER* OPTION*
def ProperArguments (tokens : List Text) : Prop :=
  ∃ (positional filters : List Text) (options : List (Text × OptionValue)),
    tokens = positional ++ filters ++ options.flatMap optionTokens ∧ (∀ token ∈ positional, Plain token) ∧
    (∀ token ∈ filters, (readFilter token).isSome) ∧ ∀ option ∈ options, ProperOption option

-- COMMAND := "/" NAME [ARGUMENTS]
def Documented (shlex : Text → Option (List Text)) (text : Text) : Prop :=
  ∃ body first tokens, strip text = '/' :: body ∧ shlex body = some (first :: tokens) ∧ properName (lower first) = true ∧
    ProperArguments tokens

/- What is asked of an accepted command. -/

-- Every argument token is one positional, one filter, one option key or one option value.
def Keeps (tokens : List Text) (added : List Text) (command : ParsedCommand) : Prop :=
  ∃ positional filters, command.positional = added ++ positional ∧ filters.map readFilter = command.filters.map some ∧
    tokens.Perm (positional ++ filters ++ command.options.flatMap optionTokens)

-- A token after an option is that option's value unless it is an option itself.
def ValuesTaken (tokens : List Text) (command : ParsedCommand) : Prop :=
  ∀ before option value later, tokens = before ++ option :: value :: later → isOption option = true → isOption value = false →
    (option.drop 2,.text value) ∈ command.options

def Faithful (shlex : Text → Option (List Text)) (text : Text) : Prop :=
  match parse shlex text with
  | .error _ => ¬ Documented shlex text
  | .ok command => Documented shlex text ∧ ∃ body first tokens, strip text = '/' :: body ∧ shlex body = some (first :: tokens) ∧
      command.commandName = (expandName (lower first)).1 ∧ Keeps tokens (expandName (lower first)).2 command ∧ ValuesTaken tokens command

end OpenStock.Commands
