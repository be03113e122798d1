import DebugConsole.Invocation.Basic
import DebugConsole.Text.Numeral

/-!
# Reading arguments

`Invocation.read` reads the arguments of the program. Each command has a grammar: its
options, which may stand anywhere, and its positions. Values are looked at only when
the next known argument begins or all have been read, so an unknown argument behind a
bad value is found first.
-/

namespace DebugConsole

/-- The kinds of values. -/
inductive ValueKind where
  | debugger
  | path
  | text
  | number
  deriving DecidableEq, Repr

/-- A value of an argument. -/
inductive ArgumentValue where
  | debugger (value : Debugger)
  | path (value : Path)
  | text (value : String)
  | number (value : Nat)
  deriving DecidableEq, Repr

/-- Reads a value. Paths may not be empty. -/
def ValueKind.read (kind : ValueKind) (text : String) : Except UsageFault ArgumentValue :=
  match kind with
  | .debugger =>
    match Debugger.ofName? text with
    | some found => .ok (.debugger found)
    | none => .error .badValue
  | .path => if text.isEmpty then .error .badValue else .ok (.path ⟨text⟩)
  | .text => .ok (.text text)
  | .number =>
    match Numeral.read Numeral.largest64 text.toList with
    | .ok value => .ok (.number value)
    | .error _ => .error .unreadableValue

/-- An argument that a command knows. -/
structure Argument where
  name : String
  /-- A letter that may stand for the name. -/
  letter : Option Char
  /-- The kind of its values; a switch has none. -/
  kind : Option ValueKind
  /-- Whether it may have more than one value. -/
  isList : Bool
  isRequired : Bool
  deriving DecidableEq, Repr

namespace Argument

/-- An option that may be left out. -/
def option (name : String) (kind : ValueKind) : Argument := ⟨name, none, some kind, false, false⟩

/-- A switch. -/
def switch (name : String) : Argument := ⟨name, none, none, false, false⟩

/-- An argument that must be given. -/
def required (name : String) (kind : ValueKind) : Argument := ⟨name, none, some kind, false, true⟩

/-- The option for the debugger. -/
def debugger : Argument := ⟨"backend", some 'b', some ValueKind.debugger, false, true⟩

end Argument

/-- The arguments of a command. -/
structure Grammar where
  options : List Argument
  positions : List Argument

/-- The values given to arguments, by name, in the order in which they stand. -/
abbrev GivenArguments := List (String × List ArgumentValue)

/-- Where reading has got to. -/
structure ArgumentReader where
  given : GivenArguments
  /-- The argument whose values have not been looked at. -/
  pending : Option (Argument × List String)
  /-- The number of positions that are filled. -/
  filled : Nat
  /-- Whether nothing that follows can be an option. -/
  isLiteral : Bool

namespace ArgumentReader

/-- Nothing has been read. -/
def start : ArgumentReader := ⟨[], none, 0, false⟩

/-- Looks at the values of an argument. -/
def take (reader : ArgumentReader) (argument : Argument) (values : List String) :
    Except UsageFault ArgumentReader :=
  if !argument.isList && (reader.given.lookup argument.name).isSome then .error .repeatedArgument
  else
    match argument.kind with
    | none => .ok { reader with given := reader.given ++ [(argument.name, [])] }
    | some kind => do
      let values ← values.mapM kind.read
      return { reader with given := reader.given ++ [(argument.name, values)] }

/-- Looks at the values of the last argument. -/
def settle (reader : ArgumentReader) : Except UsageFault ArgumentReader :=
  match reader.pending with
  | none => .ok reader
  | some (_, []) => .error .badValue
  | some (argument, values) => { reader with pending := none }.take argument values

/-- Reads an option and its value, if one is attached to it. -/
def option (argument : Argument) (attached : Option String) (reader : ArgumentReader) :
    Except UsageFault ArgumentReader :=
  match argument.kind, attached with
  | none, some _ => .error .needlessValue
  | none, none => do (← reader.settle).take argument []
  | some _, some value => do (← reader.settle).take argument [value]
  | some _, none => do return { ← reader.settle with pending := some (argument, []) }

/-- Asks for help. -/
def help (reader : ArgumentReader) : Except UsageFault ArgumentReader := do
  let _ ← reader.settle
  .error .help

/-- Reads what stands behind two hyphens: a name and perhaps a value. -/
def long (grammar : Grammar) (text : List Char) (reader : ArgumentReader) :
    Except UsageFault ArgumentReader :=
  let name := String.ofList (text.takeWhile (· != '='))
  let attached := (text.dropWhile (· != '=')).tail?.map String.ofList
  if name = "help" then
    if attached.isSome then .error .needlessValue else reader.help
  else
    match grammar.options.find? (·.name == name) with
    | some argument => reader.option argument attached
    | none => .error .unknownArgument

/-- Reads what stands behind one hyphen: a letter and perhaps a value, in front of
which there may be an equals sign. -/
def short (grammar : Grammar) (letter : Char) (rest : List Char) (reader : ArgumentReader) :
    Except UsageFault ArgumentReader :=
  if letter = 'h' then reader.help
  else
    match grammar.options.find? (·.letter == some letter) with
    | none => .error .unknownArgument
    | some argument =>
      reader.option argument <|
        match rest with
        | [] => none
        | '=' :: value => some (String.ofList value)
        | value => some (String.ofList value)

/-- Reads what stands in a position. -/
def position (grammar : Grammar) (text : String) (reader : ArgumentReader) :
    Except UsageFault ArgumentReader :=
  match grammar.positions[reader.filled]? with
  | none => .error .unknownArgument
  | some argument =>
    let filled := if argument.isList then reader.filled else reader.filled + 1
    match reader.pending with
    | some (current, values) =>
      if argument.isList && current.name = argument.name then
        .ok { reader with pending := some (argument, values ++ [text]) }
      else do
        return { ← reader.settle with pending := some (argument, [text]), filled := filled }
    | none => .ok { reader with pending := some (argument, [text]), filled := filled }

/-- Reads one argument. -/
def step (grammar : Grammar) (reader : ArgumentReader) (text : String) :
    Except UsageFault ArgumentReader :=
  if reader.isLiteral then reader.position grammar text
  else
    match text.toList with
    | ['-', '-'] => .ok { reader with isLiteral := true }
    | '-' :: '-' :: rest => reader.long grammar rest
    | '-' :: letter :: rest => reader.short grammar letter rest
    | _ =>
      match reader.pending with
      | some (argument, []) => .ok { reader with pending := some (argument, [text]) }
      | _ => reader.position grammar text

end ArgumentReader

namespace Grammar

/-- Reads the arguments of a command. -/
def read (grammar : Grammar) (arguments : List String) : Except UsageFault GivenArguments := do
  let reader ← arguments.foldlM (ArgumentReader.step grammar) .start
  let reader ← reader.settle
  let isMissing (argument : Argument) : Bool :=
    argument.isRequired && (reader.given.lookup argument.name).isNone
  if (grammar.options ++ grammar.positions).any isMissing then .error .missingArgument
  else .ok reader.given

end Grammar

namespace GivenArguments

/-- All values given to an argument. -/
def values (given : GivenArguments) (name : String) : List ArgumentValue :=
  (given.filter (·.1 == name)).flatMap (·.2)

/-- The debugger given. -/
def debugger? (given : GivenArguments) : Option Debugger :=
  (given.values "backend").findSome? fun
    | .debugger value => some value
    | _ => none

/-- The paths given to an argument. -/
def paths (given : GivenArguments) (name : String) : List Path :=
  (given.values name).filterMap fun
    | .path value => some value
    | _ => none

/-- The texts given to an argument. -/
def texts (given : GivenArguments) (name : String) : List String :=
  (given.values name).filterMap fun
    | .text value => some value
    | _ => none

/-- The number given to an argument. -/
def number? (given : GivenArguments) (name : String) : Option Nat :=
  (given.values name).findSome? fun
    | .number value => some value
    | _ => none

end GivenArguments

/-- The commands of the program. -/
inductive CommandName where
  | replay
  | translate
  | breakpoints
  | test
  deriving DecidableEq, Repr

namespace CommandName

/-- The command with a given name. -/
def ofName? : String → Option CommandName
  | "replay" => some replay
  | "translate" => some translate
  | "breakpoints" => some breakpoints
  | "test" => some test
  | _ => none

/-- The arguments that a command knows. -/
def grammar : CommandName → Grammar
  | replay =>
    { options :=
        [.debugger, .option "chunk-size" .number, .option "base-dir" .path,
          .option "addr-file" .path]
      positions := [.required "transcript" .path] }
  | translate =>
    { options := [.debugger]
      positions := [.required "command" .text, ⟨"args", none, some .text, true, false⟩] }
  | breakpoints =>
    { options := [.required "addr-file" .path, .option "timeout-ms" .number]
      positions := [.required "file" .path] }
  | test =>
    { options := [.switch "show-events"]
      positions := [⟨"files", none, some .path, true, true⟩] }

/-- The invocation that the arguments of a command amount to. -/
def invocation? (given : GivenArguments) : CommandName → Option Invocation
  | replay => do
    return .replay (← given.debugger?) (← (given.paths "transcript").head?)
      (given.number? "chunk-size") (given.paths "base-dir").head? (given.paths "addr-file").head?
  | translate => do
    return .translate (← given.debugger?) (← (given.texts "command").head?) (given.texts "args")
  | breakpoints => do
    return .breakpoints (← (given.paths "addr-file").head?) (← (given.paths "file").head?)
      (given.number? "timeout-ms")
  | test => some (.test (given.paths "files") (given.lookup "show-events").isSome)

end CommandName

namespace Invocation

/-- Whether a name is that of a command or asks for an explanation of one. -/
def isKnown (name : String) : Bool := name = "help" || (CommandName.ofName? name).isSome

/-- Explains a command. Commands have no commands of their own. -/
def explain : List String → UsageFault
  | [] => .help
  | [name] => if isKnown name then .help else .unknownCommand
  | _ => .unknownCommand

/-- Reads the arguments of the program. -/
def read : List String → Except UsageFault Invocation
  | [] | ["--"] => .error .nothingGiven
  | "--" :: name :: _ => .error (if isKnown name then .unknownArgument else .unknownCommand)
  | "help" :: names => .error (explain names)
  | name :: arguments =>
    match CommandName.ofName? name with
    | some command => do
      let given ← command.grammar.read arguments
      match command.invocation? given with
      | some invocation => .ok invocation
      | none => .error .missingArgument
    | none =>
      match name.toList with
      | '-' :: '-' :: rest => do
        let _ ← ArgumentReader.start.long ⟨[], []⟩ rest
        .error .unknownArgument
      | '-' :: letter :: rest => do
        let _ ← ArgumentReader.start.short ⟨[], []⟩ letter rest
        .error .unknownArgument
      | _ => .error .unknownCommand

end Invocation

end DebugConsole
