import Turtle.Path

/-!
# The command line

The arguments of the program. Options may stand before the command and behind it; one that is
given in both places counts as it stands behind the command. An option is given at most once in
each place, except `-v`, which is counted. The arguments are read one after the other, and the
first one that is not in order, or asks for help, decides.

* `Invocation.read` says what the arguments ask for.
-/

namespace Turtle

/-- What the program is to do. -/
inductive Job where
  | shell
  | run (script : Path) (image : Option Path)
  | check (script : Path)
  deriving DecidableEq, Repr

/-- The options of every command. -/
structure Options where
  config : Option Path := none
  logFile : Option Path := none
  verbosity : Nat := 0
  deriving DecidableEq, Repr

/-- What the arguments ask for. -/
inductive Invocation where
  | job (options : Options) (job : Job)
  | help
  | version
  /-- The arguments are not in order. -/
  | misused
  deriving DecidableEq, Repr

namespace CommandLine

/-- The commands that do a job. -/
inductive Name where
  | shell
  | run
  | check
  deriving DecidableEq, Repr

/-- The command with a given name. -/
def Name.ofText? : String → Option Name
  | "shell" => some .shell
  | "run" => some .run
  | "check" => some .check
  | _ => none

/-- How many words stand behind a command. -/
def Name.wordCount : Name → Nat
  | .shell => 0
  | .run | .check => 1

/-- The options that take a value. -/
inductive Setting where
  | config
  | logFile
  | image
  deriving DecidableEq, Repr

/-- What has been read of a list of arguments: values of options, a count, other words. -/
structure Seen where
  settings : List (Setting × Path) := []
  verbose : Nat := 0
  words : List String := []

/-- The value of an option. -/
def Seen.get? (s : Seen) (setting : Setting) : Option Path :=
  (s.settings.find? fun entry => entry.1 == setting).map Prod.snd

/-- Adds the value of an option. Values are not empty, and there is one for an option. -/
def Seen.add? (s : Seen) (setting : Setting) (value : String) : Option Seen :=
  if value.isEmpty || (s.get? setting).isSome then none
  else some { s with settings := (setting, Path.ofText value) :: s.settings }

/-- The places where arguments stand: before the command, or behind it. -/
inductive Place where
  | before
  | behind (command : Name)
  deriving DecidableEq, Repr

/-- The option with a given name. -/
def setting? (place : Place) (name : String) : Option Setting :=
  match name with
  | "config" => some .config
  | "log-file" => some .logFile
  | "image" => if place = .behind .run then some .image else none
  | _ => none

/-- An argument that has the form of an option. A single hyphen has not. -/
def isOption (arg : List Char) : Bool :=
  arg.head? == some '-' && arg ≠ ['-']

/-- How reading arguments ends. -/
inductive Reading where
  | done (seen : Seen)
  /-- A command was found before the command line's end; these arguments follow it. -/
  | command (seen : Seen) (name : String) (rest : List String)
  | help
  | version
  | misused

/-- Adds a word behind a command. Words are not empty, and there are no more than the command
takes. -/
def Seen.addWord? (s : Seen) (command : Name) (word : String) : Option Seen :=
  if word.isEmpty || command.wordCount ≤ s.words.length then none
  else some { s with words := s.words ++ [word] }

/-- Reads the letters of an argument like `-vv`. A `V` may stand before the command only. -/
def readLetters (place : Place) (seen : Seen) : List Char → Reading
  | [] => .done seen
  | c :: cs =>
    if c = 'v' then readLetters place { seen with verbose := seen.verbose + 1 } cs
    else if c = 'h' then .help
    else if c = 'V' ∧ place = .before then .version
    else .misused

/-- What an argument that begins with two hyphens says: its name, and a value behind `=`. -/
def splitLong (long : List Char) : String × Option String :=
  (String.ofList (long.takeWhile (· ≠ '=')),
    ((long.dropWhile (· ≠ '=')).tail?).map String.ofList)

/-- Reads arguments one after the other; `awaited` is an option whose value is to come. -/
def read (place : Place) (seen : Seen) (awaited : Option Setting) : List String → Reading
  | [] => if awaited.isSome then .misused else .done seen
  | arg :: args =>
    match awaited, arg.toList with
    | some setting, chars =>
      if isOption chars then .misused
      else
        match seen.add? setting arg with
        | some seen => read place seen none args
        | none => .misused
    | none, ['-', '-'] =>
      match place with
      | .before => if args.isEmpty then .done seen else .misused
      | .behind command =>
        match args.foldlM (fun seen word => seen.addWord? command word) seen with
        | some seen => .done seen
        | none => .misused
    | none, '-' :: '-' :: long =>
      let (name, value?) := splitLong long
      match setting? place name, value? with
      | some setting, none => read place seen (some setting) args
      | some setting, some value =>
        match seen.add? setting value with
        | some seen => read place seen none args
        | none => .misused
      | none, some _ => .misused
      | none, none =>
        if name = "verbose" then
          read place { seen with verbose := seen.verbose + 1 } none args
        else if name = "help" then .help
        else if name = "version" ∧ place = .before then .version
        else .misused
    | none, '-' :: letter :: letters =>
      match readLetters place seen (letter :: letters) with
      | .done seen => read place seen none args
      | ended => ended
    | none, _ =>
      match place with
      | .before => .command seen arg args
      | .behind command =>
        match seen.addWord? command arg with
        | some seen => read place seen none args
        | none => .misused

/-- The options as they are given in the two places. -/
def options (before behind : Seen) : Options where
  config := (behind.get? .config).or (before.get? .config)
  logFile := (behind.get? .logFile).or (before.get? .logFile)
  verbosity := if behind.verbose = 0 then before.verbose else behind.verbose

/-- The one word behind a command, as a path. -/
def script? (seen : Seen) : Option Path :=
  seen.words.head?.map Path.ofText

/-- The job of a command with what stands behind it. -/
def job? (command : Name) (seen : Seen) : Option Job :=
  match command with
  | .shell => some .shell
  | .run => (script? seen).map fun script => .run script (seen.get? .image)
  | .check => (script? seen).map .check

/-- What stands behind the command `help` are the names of commands, one at most. -/
def asksHelp (names : List String) : Bool :=
  names.length ≤ 1 && names.all fun name => name ∈ ["shell", "run", "check", "help"]

end CommandLine

open CommandLine in
/-- What the arguments ask for. -/
def Invocation.read (args : List String) : Invocation :=
  match CommandLine.read .before {} none args with
  | .version => .version
  | .help => .help
  | .done _ | .misused => .misused
  | .command before name rest =>
    match Name.ofText? name with
    | none => if name = "help" && asksHelp rest then .help else .misused
    | some command =>
      match CommandLine.read (.behind command) {} none rest with
      | .done behind =>
        match job? command behind with
        | some j => .job (options before behind) j
        | none => .misused
      | .help => .help
      | .command _ _ _ | .version | .misused => .misused

end Turtle
