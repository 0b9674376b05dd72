import PackageVet.Text.Cut

/-! Reading the arguments of a command line.

An argument is the name of an option, the value of the option before it, the name of a command, or
a word. A value is looked at only when the next option or word comes (`Reading.settle`), so the
option before a command is settled after the arguments of the command. -/
namespace PackageVet.CommandLine

/-- Why arguments are refused. -/
inductive ArgumentError where
  | unknownOption (name : String)
  | unknownWord (word : String)
  | unknownCommand (name : String)
  | missingValue (name : String)
  | unwantedValue (name : String)
  | invalidValue (name value : String)
  | repeated (name : String)
  | missing (name : String)
  | missingCommand
  deriving DecidableEq, Repr

def ArgumentError.message : ArgumentError → String
  | .unknownOption name => "unexpected option '" ++ name ++ "'"
  | .unknownWord word => "unexpected argument '" ++ word ++ "'"
  | .unknownCommand name => "unknown command '" ++ name ++ "'"
  | .missingValue name => "a value is required for '--" ++ name ++ "'"
  | .unwantedValue name => "'--" ++ name ++ "' takes no value"
  | .invalidValue name value => "invalid value '" ++ value ++ "' for '--" ++ name ++ "'"
  | .repeated name => "'--" ++ name ++ "' cannot be used more than once"
  | .missing name => "'" ++ name ++ "' was not provided"
  | .missingCommand => "a command is required"

/-- Why reading ends without a command to run. -/
inductive Stop where
  | refused (cause : ArgumentError)
  | help
  | version
  deriving DecidableEq, Repr

/-- An option with a value. -/
structure ValueOption where
  name : String
  short : Option Char := none
  allows : String → Bool := fun _ => true

/-- What may stand among the arguments; help can always be asked for. -/
structure Grammar where
  values : List ValueOption := []
  flags : List String := []
  commands : List String := []
  takesWords : Bool := false
  tellsVersion : Bool := false

/-- What was read so far. -/
structure Reading where
  values : List (String × String) := []
  flags : List String := []
  words : List String := []
  /-- The option given last, and its value once that is there. -/
  pending : Option (ValueOption × Option String) := none

namespace Reading

/-- Whether an option waits for its value. -/
def isWaiting (r : Reading) : Bool :=
  match r.pending with
  | some (_, none) => true
  | _ => false

def value? (r : Reading) (name : String) : Option String := r.values.lookup name

/-- Checks the option given last; an option may be given once. -/
def settle (r : Reading) : Except Stop Reading :=
  match r.pending with
  | none => .ok r
  | some (option, none) => .error (.refused (.missingValue option.name))
  | some (option, some value) =>
    if (r.value? option.name).isSome then .error (.refused (.repeated option.name))
    else if option.allows value then
      .ok { r with values := r.values ++ [(option.name, value)], pending := none }
    else .error (.refused (.invalidValue option.name value))

/-- An option with a value that may be attached to it. -/
def addOption (r : Reading) (option : ValueOption) (attached : Option String) :
    Except Stop Reading := do
  let r ← r.settle
  let r := { r with pending := some (option, attached) }
  if attached.isSome then r.settle else return r

def flag (r : Reading) (name : String) : Except Stop Reading := do
  let r ← r.settle
  if r.flags.contains name then throw (.refused (.repeated name))
  return { r with flags := r.flags ++ [name] }

def word (r : Reading) (w : String) : Except Stop Reading := do
  let r ← r.settle
  return { r with words := r.words ++ [w] }

/-- Ends the reading, once the last option is settled. -/
def stop (r : Reading) (reason : Stop) : Except Stop Reading := do
  let _ ← r.settle
  throw reason

end Reading

namespace Grammar

/-- The name of a long option, and the value attached with `=`. -/
def long? (arg : String) : Option (String × Option String) :=
  match arg.toList with
  | '-' :: '-' :: c :: rest =>
    match Text.splitFirst? '=' (c :: rest) with
    | some (name, value) => some (String.ofList name, some (String.ofList value))
    | none => some (String.ofList (c :: rest), none)
  | _ => none

/-- The letter of a short option, and what follows it. -/
def short? (arg : String) : Option (Char × List Char) :=
  match arg.toList with
  | '-' :: c :: rest => if c = '-' then none else some (c, rest)
  | _ => none

def readLong (g : Grammar) (r : Reading) (name : String) (attached : Option String) :
    Except Stop Reading :=
  match g.values.find? fun option => option.name = name with
  | some option => r.addOption option attached
  | none =>
    let isFlag := g.flags.contains name
    if !isFlag && name ≠ "help" && !(g.tellsVersion && name = "version") then
      .error (.refused (.unknownOption ("--" ++ name)))
    else if attached.isSome then .error (.refused (.unwantedValue name))
    else if isFlag then r.flag name
    else r.stop (if name = "help" then .help else .version)

/-- The value of a short option may follow it at once, or after `=`. -/
def readShort (g : Grammar) (r : Reading) (letter : Char) (rest : List Char) :
    Except Stop Reading :=
  match g.values.find? fun option => option.short = some letter with
  | some option =>
    let attached := match rest with
      | [] => none
      | '=' :: value => some (String.ofList value)
      | value => some (String.ofList value)
    r.addOption option attached
  | none =>
    if letter = 'h' then r.stop .help
    else if letter = 'V' && g.tellsVersion then r.stop .version
    else .error (.refused (.unknownOption (String.ofList ['-', letter])))

/-- An argument that names no option: a value that is waited for, or a word. -/
def readPlain (g : Grammar) (r : Reading) (arg : String) : Except Stop Reading :=
  match r.pending with
  | some (option, none) => .ok { r with pending := some (option, some arg) }
  | _ => if g.takesWords then r.word arg else .error (.refused (.unknownWord arg))

/-- Reads arguments up to a command, which is given back with the arguments after it. After two
hyphens alone, only words follow. -/
def read (g : Grammar) (r : Reading) :
    List String → Except Stop (Reading × Option (String × List String))
  | [] => .ok (r, none)
  | arg :: rest => do
    if !r.isWaiting && g.commands.contains arg then return (r, some (arg, rest))
    if arg = "--" then
      if rest.isEmpty || g.takesWords then return (← rest.foldlM Reading.word r, none)
      throw (.refused (.unknownWord (rest.headD "")))
    let r ← match long? arg, short? arg with
      | some (name, attached), _ => g.readLong r name attached
      | none, some (letter, rest) => g.readShort r letter rest
      | none, none => g.readPlain r arg
    g.read r rest

end Grammar

end PackageVet.CommandLine
