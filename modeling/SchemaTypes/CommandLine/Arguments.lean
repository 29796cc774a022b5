/-!
The arguments of the command line: a command, then its options. An option may stand behind `--name`
or, with others that take no value, behind a single dash; its value follows, or is attached to it.
Arguments are read from left to right, and the first mistake is reported. A value is looked at when
the next option starts or the arguments end, so an unknown argument behind it is reported first.
-/
namespace SchemaTypes.CommandLine

inductive Command where
  /-- The schema that describes them. -/
  | schema
  /-- The source text of a data model. -/
  | dataModel
  /-- Their own form as JSON. -/
  | ir
  deriving DecidableEq, Repr

def Command.ofName? : String → Option Command
  | "schema" => some .schema
  | "rust" => some .dataModel
  | "ir" => some .ir
  | _ => none

structure Arguments where
  command : Command
  inputs : List String
  pointer : Option String
  /-- In seconds. -/
  timeout : Nat
  rootName : String
  out : Option String
  verbose : Bool
  deriving Repr

/-! ## Options -/

inductive Flag where
  | input
  | pointer
  | timeout
  | rootName
  | out
  | verbose
  | help
  deriving DecidableEq, Repr

namespace Flag

def takesValue : Flag → Bool
  | .verbose => false
  | .help => false
  | _ => true

/-- The flag stands for an option of the command, or, without one, of the program. -/
def belongsTo (command : Option Command) : Flag → Bool
  | .verbose => true
  | .help => true
  | .rootName => command = some .dataModel
  | _ => command.isSome

def longName : Flag → String
  | .input => "input"
  | .pointer => "json-pointer"
  | .timeout => "timeout-secs"
  | .rootName => "root-type"
  | .out => "out"
  | .verbose => "verbose"
  | .help => "help"

def shortName? : Flag → Option Char
  | .input => some 'i'
  | .out => some 'o'
  | .verbose => some 'v'
  | .help => some 'h'
  | _ => none

def all : List Flag := [.input, .pointer, .timeout, .rootName, .out, .verbose, .help]

def ofLong? (command : Option Command) (name : String) : Option Flag :=
  all.find? fun flag => flag.longName == name && flag.belongsTo command

def ofShort? (command : Option Command) (name : Char) : Option Flag :=
  all.find? fun flag => flag.shortName? == some name && flag.belongsTo command

/-- Another value may follow those that are there. -/
def takesMore (flag : Flag) (values : List String) : Bool :=
  flag.takesValue && (flag = .input || values.isEmpty)

end Flag

/-! ## Mistakes -/

inductive UsageError where
  | helpWanted
  /-- There are no arguments at all. -/
  | nothingGiven
  | missingCommand
  | unknownCommand (text : String)
  | unknownArgument (text : String)
  | missingInput
  | missingValue (flag : Flag)
  | malformedValue (flag : Flag) (value : String)
  | unwantedValue (flag : Flag)
  | repeated (flag : Flag)
  deriving DecidableEq, Repr

def UsageError.message : UsageError → String
  | .helpWanted => "help was asked for"
  | .nothingGiven => "no command was given"
  | .missingCommand => "a command is required"
  | .unknownCommand text => "unrecognized command '" ++ text ++ "'"
  | .unknownArgument text => "unexpected argument '" ++ text ++ "'"
  | .missingInput => "'--input' is required"
  | .missingValue flag => "a value is required for '--" ++ flag.longName ++ "'"
  | .malformedValue flag value =>
    "invalid value '" ++ value ++ "' for '--" ++ flag.longName ++ "'"
  | .unwantedValue flag => "'--" ++ flag.longName ++ "' takes no value"
  | .repeated flag => "'--" ++ flag.longName ++ "' cannot be used more than once"

/-! ## Reading -/

/-- A count below 2^64; a plus may stand in front of its digits. -/
def seconds? (text : String) : Option Nat :=
  let digits := match text.toList with
    | '+' :: digits => digits
    | digits => digits
  if digits.isEmpty || !digits.all Char.isDigit then none
  else
    let value := digits.foldl (fun value digit => value * 10 + (digit.toNat - '0'.toNat)) 0
    if value < Nat.pow 2 64 then some value else none

/-- The options read so far, with their values, and the one whose values may still follow. -/
structure Reading where
  command : Option Command
  given : List (Flag × List String)
  waiting : Option (Flag × List String)

namespace Reading

def start (command : Option Command) : Reading := ⟨command, [], none⟩

def checkValue (flag : Flag) (value : String) : Except UsageError Unit :=
  if flag = .timeout && (seconds? value).isNone then .error (.malformedValue flag value)
  else if flag = .out && value.isEmpty then .error (.missingValue flag)
  else .ok ()

/-- Adds an option with all its values. Inputs alone may be given again. -/
def give (reading : Reading) (flag : Flag) (values : List String) : Except UsageError Reading := do
  if flag.takesValue && values.isEmpty then throw (.missingValue flag)
  if flag ≠ .input && reading.given.any (·.1 = flag) then throw (.repeated flag)
  values.forM (checkValue flag)
  return { reading with given := reading.given ++ [(flag, values)] }

/-- No more values follow. -/
def settle (reading : Reading) : Except UsageError Reading :=
  match reading.waiting with
  | none => .ok reading
  | some (flag, values) => { reading with waiting := none }.give flag values

def switch (reading : Reading) (flag : Flag) : Except UsageError Reading := do
  let reading ← reading.settle
  if flag = .help then throw .helpWanted
  reading.give flag []

/-- An option that takes a value, perhaps with the value attached. -/
def assign (reading : Reading) (flag : Flag) (attached : Option String) :
    Except UsageError Reading := do
  let reading ← reading.settle
  match attached with
  | some value => reading.give flag [value]
  | none => return { reading with waiting := some (flag, []) }

/-- An option behind two dashes, whose value may follow an equals sign. -/
def readLong (reading : Reading) (text : List Char) : Except UsageError Reading :=
  let name := String.ofList (text.takeWhile (· != '='))
  let attached := match text.dropWhile (· != '=') with
    | _ :: value => some (String.ofList value)
    | [] => none
  match Flag.ofLong? reading.command name with
  | none => .error (.unknownArgument ("--" ++ name))
  | some flag =>
    if flag.takesValue then reading.assign flag attached
    else if attached.isSome then .error (.unwantedValue flag)
    else reading.switch flag

/-- Options behind one dash. What follows one that takes a value is its value. -/
def readShort (reading : Reading) : List Char → Except UsageError Reading
  | [] => .ok reading
  | name :: rest =>
    match Flag.ofShort? reading.command name with
    | none => .error (.unknownArgument ("-" ++ String.singleton name))
    | some flag =>
      if flag.takesValue then
        match rest with
        | [] => reading.assign flag none
        | '=' :: value => reading.assign flag (some (String.ofList value))
        | value => reading.assign flag (some (String.ofList value))
      else do
        let reading ← reading.switch flag
        reading.readShort rest

def readValue (reading : Reading) (text : String) : Except UsageError Reading :=
  match reading.waiting with
  | none => .error (.unknownArgument text)
  | some (flag, values) =>
    if flag.takesMore values then
      .ok { reading with waiting := some (flag, values ++ [text]) }
    else .error (.unknownArgument text)

/-- An argument that starts with a dash and goes on names options. -/
def readArgument (reading : Reading) (text : String) : Except UsageError Reading :=
  match text.toList with
  | '-' :: '-' :: long => reading.readLong long
  | '-' :: c :: short => reading.readShort (c :: short)
  | _ => reading.readValue text

/-- Nothing may follow two dashes that stand alone. -/
def readAll (reading : Reading) : List String → Except UsageError Reading
  | [] => reading.settle
  | "--" :: text :: _ => .error (.unknownArgument text)
  | ["--"] => reading.settle
  | text :: rest => do
    let reading ← reading.readArgument text
    reading.readAll rest

def values (reading : Reading) (flag : Flag) : List String :=
  (reading.given.filter (·.1 = flag)).flatMap (·.2)

def has (reading : Reading) (flag : Flag) : Bool := reading.given.any (·.1 = flag)

def arguments (reading : Reading) (command : Command) (verbose : Bool) :
    Except UsageError Arguments :=
  if reading.has .input then
    .ok {
      command := command
      inputs := reading.values .input
      pointer := (reading.values .pointer).head?
      timeout := ((reading.values .timeout).head?.bind seconds?).getD 30
      rootName := (reading.values .rootName).headD "Root"
      out := (reading.values .out).head?
      verbose := verbose || reading.has .verbose }
  else .error .missingInput

end Reading

def isCommandName (text : String) : Bool := (Command.ofName? text).isSome || text == "help"

def helpOn : List String → UsageError
  | [] => .helpWanted
  | name :: rest =>
    if isCommandName name then
      match rest with
      | [] => .helpWanted
      | next :: _ => .unknownCommand next
    else .unknownCommand name

def readCommand (reading : Reading) : List String → Except UsageError Arguments
  | [] => .error (if reading.given.isEmpty then .nothingGiven else .missingCommand)
  | "--" :: text :: _ =>
    .error (if isCommandName text then .unknownArgument text else .unknownCommand text)
  | ["--"] => .error (if reading.given.isEmpty then .nothingGiven else .missingCommand)
  | text :: rest =>
    if text = "help" then .error (helpOn rest)
    else
      match Command.ofName? text with
      | some command => do
        let options ← (Reading.start (some command)).readAll rest
        options.arguments command (reading.has .verbose)
      | none =>
        match text.toList with
        | '-' :: _ :: _ => do
          let reading ← reading.readArgument text
          readCommand reading rest
        | _ => .error (.unknownCommand text)

def Arguments.read (arguments : List String) : Except UsageError Arguments :=
  readCommand (Reading.start none) arguments

end SchemaTypes.CommandLine
