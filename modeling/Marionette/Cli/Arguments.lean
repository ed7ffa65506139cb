/-!
# Command-line arguments

Arguments are taken from left to right.  An option has its value after `=` or in the next argument, may be
given once, and must be one that the command knows.

## Main definitions

* `Command` — what is to be done; `ProjectOptions`, `PlayOptions`.
* `Command.parse` — the command of a list of arguments, or `none` if they are rejected.
-/

namespace Marionette

namespace Cli

/-- Where the project is, and how it is to be played. -/
structure ProjectOptions where
  input : String
  flow : Option String := none
  config : Option String := none
  seed : Option Nat := none
  deriving DecidableEq, Repr

/-- How a play ends. -/
structure PlayOptions where
  instant : Bool := false
  maxWakeups : Nat := 10000
  deriving DecidableEq, Repr

/-- What is to be done. -/
inductive Command where
  | help
  | version
  | actions
  | compile (project : ProjectOptions) (out : Option String)
  | play (project : ProjectOptions) (options : PlayOptions)
  deriving DecidableEq, Repr

/-! ### Options -/

/-- A natural number below 2^64, perhaps with a plus sign in front. -/
def parseWord (s : String) : Option Nat :=
  let digits := match s.toList with
    | '+' :: cs => cs
    | cs => cs
  if digits.isEmpty || !digits.all (fun c => '0' ≤ c && c ≤ '9') then none
  else
    let n := digits.foldl (fun n c => 10 * n + (c.toNat - 48)) 0
    if n < UInt64.size then some n else none

/-- The options of the commands. -/
inductive OptionName
  | input
  | flow
  | config
  | seed
  | out
  | instant
  | maxWakeups
  deriving DecidableEq, Repr

namespace OptionName

/-- The option that is spelled so. -/
def ofSpelling? (s : String) : Option OptionName :=
  match s with
  | "--in" => some input
  | "--flow" => some flow
  | "--config" => some config
  | "--seed" => some seed
  | "--out" => some out
  | "--instant" => some instant
  | "--max-wakeups" => some maxWakeups
  | _ => none

/-- Whether the option has a value. -/
def takesValue : OptionName → Bool
  | instant => false
  | _ => true

/-- Whether the option's value can be read. -/
def accepts (o : OptionName) (value : String) : Bool :=
  match o with
  | input => value != ""
  | config => value != ""
  | out => value != ""
  | seed => (parseWord value).isSome
  | maxWakeups => (parseWord value).isSome
  | _ => true

end OptionName

/-- The options that were given, each with its value; the value of a flag is empty. -/
abbrev Given := List (OptionName × String)

/-- The value of an option. -/
def Given.value? (g : Given) (o : OptionName) : Option String := g.lookup o

/-- The options that a command knows. -/
def compileOptions : List OptionName := [.input, .flow, .config, .seed, .out]

/-- The options that a command knows. -/
def playOptions : List OptionName := [.input, .flow, .config, .seed, .instant, .maxWakeups]

/-- What a command's arguments ask for. -/
inductive Asked where
  | help
  | options (given : Given)

/-- Whether an argument can be the value of the option before it. -/
def isValueArgument (s : String) : Bool :=
  match s.toList with
  | '-' :: _ :: _ => false
  | _ => true

/-- Split an argument at its first `=`. -/
def splitAssignment (s : String) : String × Option String :=
  let (name, rest) := s.toList.span (· != '=')
  match rest with
  | [] => (s, none)
  | _ :: value => (String.ofList name, some (String.ofList value))

/-- Take a command's arguments, `given` before them. -/
def takeOptions (known : List OptionName) (given : Given) : List String → Option Asked
  | [] => some (.options given)
  | "--" :: rest => if rest.isEmpty then some (.options given) else none
  | arg :: rest =>
    let (spelling, assigned) := splitAssignment arg
    if arg = "--help" || (arg.toList.take 2 == ['-', 'h']) then some .help
    else
      match OptionName.ofSpelling? spelling with
      | none => none
      | some o =>
        if o ∉ known || (given.value? o).isSome then none
        else if !o.takesValue then
          if assigned.isSome then none else takeOptions known (given ++ [(o, "")]) rest
        else
          match assigned, rest with
          | some value, rest =>
            if o.accepts value then takeOptions known (given ++ [(o, value)]) rest else none
          | none, value :: rest =>
            if isValueArgument value && o.accepts value then takeOptions known (given ++ [(o, value)]) rest
            else none
          | none, [] => none

/-! ### Commands -/

/-- The project options among those given, if the input is. -/
def Given.project? (g : Given) : Option ProjectOptions :=
  (g.value? .input).map fun input =>
    { input
      flow := g.value? .flow
      config := g.value? .config
      seed := (g.value? .seed).bind parseWord }

namespace Command

/-- The names of the commands, for the help on one of them. -/
def names : List String := ["actions", "compile", "play", "help"]

/-- Take the arguments of a command and make the command of them. -/
def ofOptions (known : List OptionName) (args : List String) (make : Given → Option Command) : Option Command := do
  match ← takeOptions known [] args with
  | .help => pure help
  | .options given => make given

/-- The command of a list of arguments. -/
def parse : List String → Option Command
  | "actions" :: args => ofOptions [] args fun _ => some actions
  | "compile" :: args => ofOptions compileOptions args fun given => do
    pure (compile (← given.project?) (given.value? .out))
  | "play" :: args => ofOptions playOptions args fun given => do
    pure (play (← given.project?)
      { instant := (given.value? .instant).isSome
        maxWakeups := ((given.value? .maxWakeups).bind parseWord).getD 10000 })
  | "help" :: args => if args.length ≤ 1 && args.all names.contains then some help else none
  | arg :: _ =>
    if arg = "--help" || (arg.toList.take 2 == ['-', 'h']) then some help
    else if arg = "--version" || (arg.toList.take 2 == ['-', 'V']) then some version
    else none
  | [] => none

end Command

end Cli

end Marionette
