/-!
# Command lines

Arguments are read from left to right: first the options of the program, then a
command, then the options of the command. The directory of the configuration can
be given before and after the command, and the later one counts.
-/

namespace RequestFilter

inductive Request where
  | none
  | document (text : String)
  | queryString (text : String)
deriving DecidableEq

inductive Command where
  | start
  | printSchema
  | compile (request : Request) (pretty : Bool)
deriving DecidableEq

inductive Invocation where
  | version
  | run (directory : String) (command : Command)
deriving DecidableEq

inductive UsageError where
  | missingCommand
  | unknownCommand (name : String)
  | unknownOption (argument : String)
  | missingValue (option : String)
  | unexpectedValue (option : String)
  | repeatedOption (option : String)
  | emptyDirectory
  | conflict (option option' : String)
  | unexpectedArgument (argument : String)
deriving DecidableEq

namespace UsageError

def message : UsageError → String
  | missingCommand => "a command is required: initialize, print-schema or compile"
  | unknownCommand name => "unrecognized command '" ++ name ++ "'"
  | unknownOption argument => "unexpected argument '" ++ argument ++ "'"
  | missingValue option => "a value is required for '--" ++ option ++ "'"
  | unexpectedValue option => "no value is expected for '--" ++ option ++ "'"
  | repeatedOption option => "the option '--" ++ option ++ "' cannot be used more than once"
  | emptyDirectory => "the configuration directory must not be empty"
  | conflict option option' =>
      "the options '--" ++ option ++ "' and '--" ++ option' ++ "' exclude each other"
  | unexpectedArgument argument => "unexpected argument '" ++ argument ++ "'"

end UsageError

def versionText : String := "query-criteria 0.1.0"

def defaultDirectory : String := "."

def directoryVariable : String := "QUERY_CRITERIA_CONFIGURATION"

namespace CommandLine

/-- What an argument looks like. -/
inductive Shape where
  /-- A command, or a value that stands alone. -/
  | plain
  /-- Two dashes alone, which end the options. -/
  | ending
  /-- A name of one letter or more behind one dash. -/
  | short (first : Char)
  /-- A name behind two dashes, with the value behind its first equals sign. -/
  | long (name : String) (value : Option String)
deriving DecidableEq

def shape (argument : String) : Shape :=
  match argument.toList with
  | ['-', '-'] => .ending
  | '-' :: '-' :: cs =>
      let name := String.ofList (cs.takeWhile (· ≠ '='))
      match cs.dropWhile (· ≠ '=') with
      | _ :: value => .long name (some (String.ofList value))
      | [] => .long name none
  | '-' :: c :: _ => .short c
  | _ => .plain

/-- The names of the options that are known in some place. -/
structure Grammar where
  valued : List String
  flags : List String
  versioned : Bool

structure Options where
  values : List (String × String)
  flags : List String

namespace Options

def empty : Options := ⟨[], []⟩

def value? (options : Options) (name : String) : Option String :=
  options.values.lookup name

def has (options : Options) (name : String) : Bool :=
  options.flags.contains name

/-- Take the value of an option, which may be given once; a directory is not empty. -/
def setValue (options : Options) (name value : String) : Except UsageError Options :=
  if (options.value? name).isSome then .error (.repeatedOption name)
  else if name = "configuration" ∧ value = "" then .error .emptyDirectory
  else .ok { options with values := (name, value) :: options.values }

/-- Take a flag, which may be given once. -/
def setFlag (options : Options) (name : String) : Except UsageError Options :=
  if options.has name then .error (.repeatedOption name)
  else .ok { options with flags := name :: options.flags }

end Options

inductive Ending where
  /-- The version is asked for; nothing behind it counts. -/
  | version
  | arguments (options : Options) (rest : List String)

/-- Read the options in front of anything else. -/
def readOptions (grammar : Grammar) (options : Options) : List String → Except UsageError Ending
  | [] => .ok (.arguments options [])
  | argument :: rest =>
      match shape argument with
      | .plain => .ok (.arguments options (argument :: rest))
      | .ending =>
          match rest with
          | [] => .ok (.arguments options [])
          | surplus :: _ => .error (.unexpectedArgument surplus)
      | .short first =>
          if grammar.versioned && first == 'V' then .ok .version
          else .error (.unknownOption argument)
      | .long name none =>
          if grammar.versioned && name == "version" then .ok .version
          else if grammar.flags.contains name then
            match options.setFlag name with
            | .ok options => readOptions grammar options rest
            | .error error => .error error
          else if grammar.valued.contains name then
            match rest with
            | [] => .error (.missingValue name)
            | value :: rest =>
                if shape value = .plain then
                  match options.setValue name value with
                  | .ok options => readOptions grammar options rest
                  | .error error => .error error
                else .error (.missingValue name)
          else .error (.unknownOption argument)
      | .long name (some value) =>
          if grammar.valued.contains name then
            match options.setValue name value with
            | .ok options => readOptions grammar options rest
            | .error error => .error error
          else if grammar.flags.contains name then .error (.unexpectedValue name)
          else .error (.unknownOption argument)

def programGrammar : Grammar := ⟨["configuration"], [], true⟩

/-- The options of a command that has only those of the program. -/
def plainGrammar : Grammar := ⟨["configuration"], [], false⟩

def compileGrammar : Grammar := ⟨["configuration", "parameters", "query"], ["pretty"], false⟩

/-- The options of a command, behind which nothing may follow. -/
def commandOptions (grammar : Grammar) (arguments : List String) : Except UsageError Options :=
  match readOptions grammar .empty arguments with
  | .error error => .error error
  | .ok (.arguments options []) => .ok options
  | .ok (.arguments _ (surplus :: _)) => .error (.unexpectedArgument surplus)
  | .ok .version => .error (.unknownOption "--version")

def request (options : Options) : Except UsageError Request :=
  match options.value? "parameters", options.value? "query" with
  | none, none => .ok .none
  | some text, none => .ok (.document text)
  | none, some text => .ok (.queryString text)
  | some _, some _ => .error (.conflict "parameters" "query")

def command (name : String) (arguments : List String) : Except UsageError (Command × Options) :=
  if name = "initialize" then do
    return (.start, ← commandOptions plainGrammar arguments)
  else if name = "print-schema" then do
    return (.printSchema, ← commandOptions plainGrammar arguments)
  else if name = "compile" then do
    let options ← commandOptions compileGrammar arguments
    return (.compile (← request options) (options.has "pretty"), options)
  else .error (.unknownCommand name)

/--
The directory: the one behind the command, else the one before it, else that of
the environment. An empty one in the environment is refused wherever it would be
looked up.
-/
def directory (environment outer inner : Option String) : Except UsageError String :=
  if environment = some "" ∧ ¬ (outer.isSome ∧ inner.isSome) then .error .emptyDirectory
  else .ok ((inner.or (outer.or environment)).getD defaultDirectory)

/-- What arguments ask for, in an environment that may name a directory. -/
def parse (environment : Option String) (arguments : List String) :
    Except UsageError Invocation := do
  match ← readOptions programGrammar .empty arguments with
  | .version => return .version
  | .arguments _ [] => throw .missingCommand
  | .arguments outer (name :: rest) => do
      let (command, inner) ← command name rest
      return .run
        (← directory environment (outer.value? "configuration") (inner.value? "configuration"))
        command

end CommandLine

end RequestFilter
