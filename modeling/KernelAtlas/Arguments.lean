import KernelAtlas.Number.Numeral
import KernelAtlas.Text.Quoted

/-! Command-line arguments, read by a grammar of flags and positional arguments.

A flag may be written by an unambiguous beginning of a long name, a value may follow a flag's name after
an equals sign, and flags of one letter without values may stand together. Everything behind a `--` is
positional. A negative number is never taken for a flag. A `--` in the place of a value stands for no
value. Arguments that the grammar has no use for are handed back. -/

set_option autoImplicit false

namespace KernelAtlas.Arguments

inductive Effect where
  | switch
  | text
  | integer
  | printHelp
  | printVersion
  deriving DecidableEq, Repr

def Effect.takesValue : Effect → Bool
  | text | integer => true
  | switch | printHelp | printVersion => false

structure Flag where
  names : List String
  effect : Effect
  required : Bool
  deriving DecidableEq, Repr

def Flag.title (flag : Flag) : String := "/".intercalate flag.names

structure Grammar where
  program : String
  usage : String
  help : String
  version : String
  flags : List Flag
  positionals : List String
  /-- The name of a last positional argument that takes all that follows it, and the words it may be. -/
  command : Option (String × List String)

inductive Cause where
  | ambiguous (argument : String) (names : List String)
  | unusedValue (flag : Flag) (value : String)
  | missingValue (flag : Flag)
  | notInteger (flag : Flag) (value : String)
  | unknownCommand (title : String) (word : String) (words : List String)
  | missing (names : List String)
  | unrecognized (arguments : List String)
  deriving DecidableEq, Repr

def Cause.message : Cause → String
  | ambiguous argument names => s!"ambiguous option: {argument} could match " ++ ", ".intercalate names
  | unusedValue flag value => s!"argument {flag.title}: ignored explicit argument {Text.quoted value}"
  | missingValue flag => s!"argument {flag.title}: expected one argument"
  | notInteger flag value => s!"argument {flag.title}: invalid int value: {Text.quoted value}"
  | unknownCommand title word words =>
    s!"argument {title}: invalid choice: {Text.quoted word} (choose from " ++ ", ".intercalate (words.map Text.quoted) ++ ")"
  | missing names => "the following arguments are required: " ++ ", ".intercalate names
  | unrecognized arguments => "unrecognized arguments: " ++ " ".intercalate arguments

inductive Stop where
  | printed (text : String)
  | refused (usage program : String) (cause : Cause)
  deriving DecidableEq, Repr

def dividerText : String := "--"

/-- An argument by its role. A value may be attached to the name of a flag. -/
inductive Token where
  | divider
  | plain (text : String)
  | flag (text : String) (flag : Flag) (name : List Char) (attached : Option (List Char))
  | unknown (text : String)
  deriving DecidableEq, Repr

def Token.text : Token → String
  | divider => dividerText
  | plain text => text
  | flag text _ _ _ => text
  | unknown text => text

def Token.isFlag : Token → Bool
  | divider | plain _ => false
  | flag _ _ _ _ | unknown _ => true

/-- A negative number, with or without places; a line feed may end it. -/
def isNegativeNumber : List Char → Bool
  | '-' :: rest =>
    let body := if rest.getLast? = some '\n' then rest.dropLast else rest
    let places := body.dropWhile Text.isDigit
    match places with
    | [] => !body.isEmpty
    | '.' :: digits => !digits.isEmpty && digits.all Text.isDigit
    | _ => false
  | _ => false

namespace Grammar

def names (grammar : Grammar) : List (List Char × Flag) :=
  grammar.flags.flatMap fun flag => flag.names.map fun name => (name.toList, flag)

def flagNamed? (grammar : Grammar) (name : List Char) : Option Flag :=
  (grammar.names.find? fun entry => entry.1 = name).map Prod.snd

def splitEquals (text : List Char) : List Char × Option (List Char) :=
  match text.dropWhile (· ≠ '=') with
  | [] => (text, none)
  | _ :: value => (text.takeWhile (· ≠ '='), some value)

def candidates (grammar : Grammar) (text : List Char) : List (List Char × Flag × Option (List Char)) :=
  match text with
  | '-' :: '-' :: _ =>
    let (start, attached) := splitEquals text
    grammar.names.filterMap fun entry => if start.isPrefixOf entry.1 then some (entry.1, entry.2, attached) else none
  | _ =>
    grammar.names.filterMap fun entry =>
      if entry.1 = text.take 2 then some (entry.1, entry.2, some (text.drop 2))
      else if text.isPrefixOf entry.1 then some (entry.1, entry.2, none)
      else none

/-- An argument that is no flag of the grammar, though it starts like one. -/
def leftover (argument : String) : Token :=
  if isNegativeNumber argument.toList || argument.toList.contains ' ' then .plain argument else .unknown argument

def classify (grammar : Grammar) (argument : String) : Except Cause Token :=
  let text := argument.toList
  if text.head? ≠ some '-' then .ok (.plain argument)
  else
    match grammar.flagNamed? text with
    | some flag => .ok (.flag argument flag text none)
    | none =>
      if text.length = 1 then .ok (.plain argument)
      else
        let (start, attached) := splitEquals text
        match attached, grammar.flagNamed? start with
        | some attached, some flag => .ok (.flag argument flag start (some attached))
        | _, _ =>
          match grammar.candidates text with
          | [] => .ok (leftover argument)
          | [(name, flag, attached)] => .ok (.flag argument flag name attached)
          | several => .error (.ambiguous argument (several.map fun entry => String.ofList entry.1))

def tokens (grammar : Grammar) : List String → Except Cause (List Token)
  | [] => .ok []
  | argument :: rest =>
    if argument = dividerText then .ok (.divider :: rest.map .plain)
    else do
      let token ← grammar.classify argument
      let later ← grammar.tokens rest
      return token :: later

end Grammar

/-- A flag to act on: bare, with its value, or with the argument that follows. -/
inductive Use where
  | bare (flag : Flag)
  | valued (flag : Flag) (value : String)
  | following (flag : Flag)
  deriving DecidableEq, Repr

/-- The flags that one argument stands for. Letters behind a flag of one letter that takes no value are flags
too. -/
def expand (grammar : Grammar) (flag : Flag) (name : List Char) (attached : Option (List Char)) : Except Cause (List Use) :=
  match attached with
  | none => .ok [if flag.effect.takesValue then .following flag else .bare flag]
  | some value =>
    if flag.effect.takesValue then .ok [.valued flag (String.ofList value)]
    else
      match value with
      | [] => .error (.unusedValue flag "")
      | letter :: rest =>
        if name[1]? = some '-' then .error (.unusedValue flag (String.ofList value))
        else
          match grammar.flagNamed? ['-', letter] with
          | none => .error (.unusedValue flag (String.ofList value))
          | some next =>
            (expand grammar next ['-', letter] (if rest = [] then none else some rest)).map (.bare flag :: ·)
termination_by (attached.map List.length).getD 0
decreasing_by
  simp only [Option.map_some, Option.getD_some, List.length_cons]
  split <;> simp

inductive Value where
  | on
  | text (value : String)
  | integer (value : Int)
  | nothing
  deriving DecidableEq, Repr

structure Reading where
  /-- Positional arguments that are still expected. -/
  expected : List String
  /-- Values by the first name of their flag or by the name of the positional argument, in order. -/
  values : List (String × Value)
  command : Option (String × List String)
  extras : List String
  deriving Repr

namespace Reading

def store (reading : Reading) (name : String) (value : Value) : Reading :=
  { reading with values := reading.values ++ [(name, value)] }

end Reading

namespace Grammar

def refuse {α : Type} (grammar : Grammar) (cause : Cause) : Except Stop α :=
  .error (.refused grammar.usage grammar.program cause)

def key (flag : Flag) : String := flag.names.getLastD ""

def act (grammar : Grammar) (flag : Flag) (value : String) (reading : Reading) : Except Stop Reading :=
  match flag.effect with
  | .switch => .ok (reading.store (key flag) .on)
  | .text => .ok (reading.store (key flag) (.text value))
  | .integer =>
    match Numeral.signed? value.toList with
    | none => grammar.refuse (.notInteger flag value)
    | some number => .ok (reading.store (key flag) (.integer number))
  | .printHelp => .error (.printed grammar.help)
  | .printVersion => .error (.printed grammar.version)

def actAll (grammar : Grammar) (rest : List Token) : List Use → Reading → Except Stop (Reading × List Token)
  | [], reading => .ok (reading, rest)
  | .bare flag :: uses, reading => do
    let reading ← grammar.act flag "" reading
    grammar.actAll rest uses reading
  | .valued flag value :: uses, reading => do
    let reading ←
      if value = dividerText then .ok (reading.store (key flag) .nothing) else grammar.act flag value reading
    grammar.actAll rest uses reading
  | .following flag :: _, reading =>
    match rest with
    | .plain value :: rest => do
      let reading ← grammar.act flag value reading
      return (reading, rest)
    | _ => grammar.refuse (.missingValue flag)

/-- A positional argument at the front, with dividers around it, and the rest. Beside a divider, a further
`--` is a text. -/
def positional? (tokens : List Token) : Option (Value × List Token) :=
  match tokens.dropWhile (· = .divider) with
  | .plain value :: rest =>
    let divided := tokens.head? = some .divider || rest.head? = some .divider
    some (if value = dividerText && !divided then .nothing else .text value, rest.dropWhile (· = .divider))
  | _ => none

def isCommand (grammar : Grammar) (name : String) : Bool := grammar.command.any fun command => command.1 = name

/-- Takes the command, which is given by all that is left. -/
def takeCommand (grammar : Grammar) (title : String) (tokens : List Token) (reading : Reading) :
    Except Stop (Reading × List Token) :=
  let words := (grammar.command.map Prod.snd).getD []
  match tokens.map Token.text with
  | [] => .ok (reading, [])
  | word :: rest =>
    if words.contains word then .ok ({ reading with expected := [], command := some (word, rest) }, [])
    else grammar.refuse (.unknownCommand title word words)

def takePositionals (grammar : Grammar) : List String → List Token → Reading → Except Stop (Reading × List Token)
  | [], tokens, reading => .ok ({ reading with expected := [] }, tokens)
  | name :: expected, tokens, reading =>
    match positional? tokens with
    | none => .ok ({ reading with expected := name :: expected }, tokens)
    | some (value, rest) =>
      if grammar.isCommand name then grammar.takeCommand name tokens reading
      else grammar.takePositionals expected rest (reading.store name value)

/-- Reads the tokens in order. Every step uses up a token, so their number is enough fuel. -/
def readTokens (grammar : Grammar) : Nat → List Token → Reading → Except Stop Reading
  | 0, tokens, reading => .ok { reading with extras := reading.extras ++ tokens.map Token.text }
  | fuel + 1, tokens, reading =>
    match tokens with
    | .flag _ flag name attached :: rest =>
      match expand grammar flag name attached with
      | .error cause => grammar.refuse cause
      | .ok uses => do
        let (reading, rest) ← grammar.actAll rest uses reading
        grammar.readTokens fuel rest reading
    | .unknown text :: rest => grammar.readTokens fuel rest { reading with extras := reading.extras ++ [text] }
    | tokens => do
      let (reading, rest) ← grammar.takePositionals reading.expected tokens reading
      if rest.length < tokens.length ∧ rest.any Token.isFlag = true then grammar.readTokens fuel rest reading
      else
        let unused := rest.takeWhile fun token => !token.isFlag
        let reading := { reading with extras := reading.extras ++ unused.map Token.text }
        match rest.dropWhile fun token => !token.isFlag with
        | [] => return reading
        | rest => grammar.readTokens fuel rest reading

def missingNames (grammar : Grammar) (reading : Reading) : List String :=
  reading.expected ++ (grammar.flags.filter fun flag =>
    flag.required && !(reading.values.any fun value => value.1 = key flag)).map Flag.title

/-- Reads arguments; what the grammar has no use for is left in the reading. -/
def read (grammar : Grammar) (arguments : List String) : Except Stop Reading :=
  match grammar.tokens arguments with
  | .error cause => grammar.refuse cause
  | .ok tokens => do
    let expected := grammar.positionals ++ (grammar.command.map Prod.fst).toList
    let reading ← grammar.readTokens (tokens.length + 1) tokens ⟨expected, [], none, []⟩
    match grammar.missingNames reading with
    | [] => return reading
    | names => grammar.refuse (.missing names)

end Grammar

namespace Reading

def has (reading : Reading) (name : String) : Bool := reading.values.any fun value => value.1 = name

def texts (reading : Reading) (name : String) : List (Option String) :=
  reading.values.filterMap fun
    | (key, .text value) => if key = name then some (some value) else none
    | (key, .nothing) => if key = name then some none else none
    | _ => none

def last? (reading : Reading) (name : String) : Option Value :=
  (reading.values.reverse.find? fun value => value.1 = name).map Prod.snd

def text (reading : Reading) (name : String) : Option String :=
  match reading.last? name with
  | some (.text value) => some value
  | _ => none

def integer (reading : Reading) (name : String) (default : Int) : Option Int :=
  match reading.last? name with
  | none => some default
  | some (.integer value) => some value
  | some _ => none

end Reading

end KernelAtlas.Arguments
