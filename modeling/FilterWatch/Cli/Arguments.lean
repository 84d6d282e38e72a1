import FilterWatch.Config
import FilterWatch.Text.Number

/-!
# Command-line arguments

Options come first, then the command, then what belongs to the command. An option is given at most once, except for
resolvers. Its value is the rest of the argument, after an equals sign if there is one, or else the next argument;
a value that starts with a hyphen has to be attached. Short options can share one hyphen.
-/

namespace FilterWatch.Cli
open Text

inductive OptionName where
  | timeout
  | retries
  | concurrency
  | cacheTtl
  | payload
  | tcp
  | resolver
  | verbose
  | help
deriving DecidableEq, Repr

namespace OptionName

def all : List OptionName :=
  [timeout, retries, concurrency, cacheTtl, payload, tcp, resolver, verbose, help]

def long : OptionName → String
  | timeout => "timeout"
  | retries => "retries"
  | concurrency => "concurrency"
  | cacheTtl => "cache-ttl"
  | payload => "edns-size"
  | tcp => "tcp"
  | resolver => "resolver"
  | verbose => "verbose"
  | help => "help"

def short? : OptionName → Option Char
  | timeout => some 't'
  | retries => some 'r'
  | concurrency => some 'c'
  | verbose => some 'v'
  | help => some 'h'
  | _ => none

def takesValue : OptionName → Bool
  | tcp | verbose | help => false
  | _ => true

/-- Whether the option may be given more than once. -/
def repeats : OptionName → Bool
  | resolver => true
  | _ => false

def ofLong? (name : List Char) : Option OptionName := all.find? fun o => o.long.toList == name

def ofShort? (letter : Char) : Option OptionName := all.find? fun o => o.short? == some letter

end OptionName

/-- Why arguments cannot be understood. -/
inductive UsageError where
  | unknownOption (text : String)
  | missingValue (o : OptionName)
  | unexpectedValue (o : OptionName)
  | repeated (o : OptionName)
  | invalidNumber (o : OptionName) (text : String)
  | invalidResolver (e : ResolverError)
  | missingCommand
  | unknownCommand (text : String)
  | missingDomain
  | unexpectedArgument (text : String)
deriving Repr

def UsageError.message : UsageError → String
  | unknownOption text => "unknown option " ++ text
  | missingValue o => "option --" ++ o.long ++ " needs a value"
  | unexpectedValue o => "option --" ++ o.long ++ " takes no value"
  | repeated o => "option --" ++ o.long ++ " is given more than once"
  | invalidNumber o text => "option --" ++ o.long ++ " needs a number, not " ++ text
  | invalidResolver e => e.message
  | missingCommand => "a command is missing"
  | unknownCommand text => "unknown command " ++ text
  | missingDomain => "a domain is missing"
  | unexpectedArgument text => "unexpected argument " ++ text

/-- What to do. -/
inductive Command where
  | check (domains : List String)
  | status
  | help
deriving DecidableEq, Repr

structure Options where
  config : Config := .default
  verbose : Bool := false
  /-- The options given so far. -/
  seen : List OptionName := []
  /-- The resolvers given so far; without any, those of the configuration are used. -/
  resolvers : List Resolver := []
deriving Repr

/-- What a command line says. -/
structure Invocation where
  options : Options
  command : Command
deriving Repr

namespace Options

/-- A number below `bound` as the value of an option. -/
def number (o : OptionName) (bound : Nat) (value : List Char) : Except UsageError Nat :=
  match unsigned? bound value with
  | some n => .ok n
  | none => .error (.invalidNumber o (.ofList value))

/-- The options with one more, which has not been given before. -/
def set (s : Options) (o : OptionName) (value : List Char) : Except UsageError Options := do
  match o with
  | .timeout =>
    return { s with config := { s.config with timeout := .ofSeconds (← number o UInt64.size value) } }
  | .retries => return { s with config := { s.config with maxRetries := ← number o UInt64.size value } }
  | .concurrency => return { s with config := { s.config with concurrency := ← number o UInt64.size value } }
  | .cacheTtl =>
    return { s with config := { s.config with cacheTtl := .ofSeconds (← number o UInt64.size value) } }
  | .payload =>
    return { s with config := { s.config with payload := .ofNat (← number o UInt16.size value) } }
  | .tcp => return { s with config := { s.config with protocol := .tcp } }
  | .resolver =>
    match Resolver.parse (.ofList value) with
    | .ok r => return { s with resolvers := s.resolvers ++ [r] }
    | .error e => throw (.invalidResolver e)
  | .verbose => return { s with verbose := true }
  | .help => return s

/-- The options with one more. -/
def add (s : Options) (o : OptionName) (value : List Char) : Except UsageError Options :=
  if s.seen.contains o && !o.repeats then .error (.repeated o)
  else set { s with seen := o :: s.seen } o value

/-- The configuration that the options describe. -/
def toConfig (s : Options) : Config :=
  if s.resolvers.isEmpty then s.config else { s.config with resolvers := s.resolvers }

end Options

/-- Whether an argument can be the value of the option before it. -/
def isDetachedValue (arg : List Char) : Bool := arg.head? != some '-' || arg.length == 1

/-- The value of an option from the next argument, and the arguments after it. -/
def detachedValue (o : OptionName) : List (List Char) → Except UsageError (List Char × List (List Char))
  | value :: rest => if isDetachedValue value then .ok (value, rest) else .error (.missingValue o)
  | [] => .error (.missingValue o)

/-- The options behind one hyphen: flags, and at the end an option with its value. `none` stands for a value that
is the next argument. -/
def shortOptions : List Char → Except UsageError (List (OptionName × Option (List Char)))
  | [] => .ok []
  | letter :: rest =>
    match OptionName.ofShort? letter with
    | none => .error (.unknownOption (String.ofList ['-', letter]))
    | some o =>
      if o.takesValue then
        match rest with
        | [] => .ok [(o, none)]
        | '=' :: value => .ok [(o, some value)]
        | value => .ok [(o, some value)]
      else do return (o, some []) :: (← shortOptions rest)

def longOption (text : List Char) : Except UsageError (OptionName × Option (List Char)) :=
  match cut '=' text with
  | (name, value) =>
    match OptionName.ofLong? name with
    | none => .error (.unknownOption ("--" ++ .ofList text))
    | some o =>
      if o.takesValue then .ok (o, value)
      else if value.isSome then .error (.unexpectedValue o)
      else .ok (o, some [])

/-- Adds options in order; only the last one can take its value from the arguments that follow. -/
def addAll (s : Options) (rest : List (List Char)) :
    List (OptionName × Option (List Char)) → Except UsageError (Options × List (List Char))
  | [] => .ok (s, rest)
  | (o, some value) :: more => do addAll (← s.add o value) rest more
  | (o, none) :: _ => do
    let (value, rest) ← detachedValue o rest
    return (← s.add o value, rest)

/-- The arguments of the command that checks domains: everything after two hyphens, and before them whatever is no
option. -/
def domains : List (List Char) → Except UsageError (List String)
  | [] => .ok []
  | arg :: rest =>
    if arg = ['-', '-'] then .ok (rest.map .ofList)
    else if isDetachedValue arg then do return .ofList arg :: (← domains rest)
    else .error (.unknownOption (.ofList arg))

/-- The command and what belongs to it. -/
def command (name : List Char) (args : List (List Char)) : Except UsageError Command := do
  match String.ofList name with
  | "check" =>
    match ← domains args with
    | [] => throw .missingDomain
    | ds => return .check ds
  | "status" =>
    match ← domains args with
    | [] => return .status
    | arg :: _ => throw (.unexpectedArgument arg)
  | "help" => return .help
  | text => throw (.unknownCommand text)

/-- The invocation that arguments describe, behind options that were read already. -/
def parseFrom (s : Options) : (fuel : Nat) → List (List Char) → Except UsageError Invocation
  | 0, _ | _, [] => .error .missingCommand
  | fuel + 1, arg :: rest => do
    match arg with
    | ['-', '-'] => throw .missingCommand
    | '-' :: '-' :: text =>
      let (s, rest) ← addAll s rest [← longOption text]
      if s.seen.contains .help then return ⟨s, .help⟩
      parseFrom s fuel rest
    | '-' :: letter :: letters =>
      let (s, rest) ← addAll s rest (← shortOptions (letter :: letters))
      if s.seen.contains .help then return ⟨s, .help⟩
      parseFrom s fuel rest
    | name => return ⟨s, ← command name rest⟩

/-- The invocation that a command line describes. Every round takes at least one argument. -/
def parse (args : List String) : Except UsageError Invocation :=
  parseFrom {} (args.length + 1) (args.map String.toList)

end FilterWatch.Cli
