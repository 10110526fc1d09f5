import Headroom.Text.Count

/-!
# Command lines

`CommandLine.parse` turns the words after the program's name into a command. Options have long
names; a value follows as the next word or after an equals sign. Every option may be given once at
each level, and the option for the log format at both. A word that does not fit ends the reading
with a usage error, and a request for help ends it with the page asked for, whatever follows.
-/

namespace Headroom

/-- What the program is asked to do. -/
inductive Command where
  | status (secs : Nat) (config : Option String)
  | simulate (tasks taskMillis : Nat) (config : Option String)
  | config (config : Option String)
  deriving DecidableEq, Repr

/-- The commands by name, and the whole program. -/
inductive HelpPage where
  | program
  | status
  | simulate
  | config
  | help
  deriving DecidableEq, Repr

/-- Why no command is run. -/
inductive CommandStop where
  | usage
  | help (page : HelpPage)
  deriving DecidableEq, Repr

/-- A command with the format of its logs. -/
structure CommandLine where
  command : Command
  jsonLogs : Bool
  deriving DecidableEq, Repr

/-- The file that a command takes its configuration from. -/
def Command.configPath? : Command → Option String
  | status _ path => path
  | simulate _ _ path => path
  | config path => path

namespace CommandLine

/-- What the words of one level set: flags that were given, and options with their values. -/
structure Settings where
  flags : List String := []
  values : List (String × String) := []

/-- The options of one level. -/
structure Level where
  page : HelpPage
  /-- Options with a value, each with the test that its values have to pass. -/
  valued : List (String × (String → Bool))

/-- The flag for the log format. -/
def jsonLogsFlag : String := "json-logs"

/-- A 64-bit count. -/
def count? (s : String) : Option Nat := Text.count? (Nat.pow 2 64) s.toList

/-- A word that is a count. -/
def isCount (s : String) : Bool := (count? s).isSome

/-- A path, which has at least one character. -/
def isPath (s : String) : Bool := !s.isEmpty

/-- A word as an option: its name and the value after an equals sign. -/
def splitOption (word : List Char) : String × Option String :=
  let name := word.takeWhile (· != '=')
  match word.drop name.length with
  | [] => (String.ofList name, none)
  | _ :: value => (String.ofList name, some (String.ofList value))

/-- Sets a flag once. -/
def setFlag (s : Settings) (name : String) : Except CommandStop Settings :=
  if s.flags.contains name then .error .usage else .ok { s with flags := name :: s.flags }

/-- Sets an option once, to a value that passes its test. -/
def setValue (s : Settings) (name value : String) (test : String → Bool) :
    Except CommandStop Settings :=
  if s.values.any (·.1 == name) || !test value then .error .usage
  else .ok { s with values := (name, value) :: s.values }

/-- A word that cannot be the value of the option before it. -/
def looksLikeOption (word : String) : Bool :=
  match word.toList with
  | '-' :: _ :: _ => true
  | _ => false

/-- An option at some level, with the value after its equals sign and the next word. Tells whether
the next word was taken as the value. -/
def readOption (level : Level) (s : Settings) (name : String) (value? next? : Option String) :
    Except CommandStop (Settings × Bool) :=
  if name = "help" then .error (if value?.isSome then .usage else .help level.page)
  else if name = jsonLogsFlag then
    if value?.isSome then .error .usage else (setFlag s name).map (·, false)
  else
    match level.valued.find? (·.1 == name) with
    | none => .error .usage
    | some (_, test) =>
      match value? with
      | some value => (setValue s name value test).map (·, false)
      | none =>
        match next? with
        | some value =>
          if looksLikeOption value then .error .usage
          else (setValue s name value test).map (·, true)
        | none => .error .usage

/-- The short options, of which there is one. -/
def readShort (level : Level) : List Char → CommandStop
  | 'h' :: _ => .help level.page
  | _ => .usage

/-- Reads the words of a command that takes only options. -/
def readLevel (level : Level) : List String → Settings → Except CommandStop Settings
  | [], s => .ok s
  | word :: rest, s =>
    match word.toList with
    | ['-', '-'] => if rest.isEmpty then .ok s else .error .usage
    | '-' :: '-' :: body =>
      let (name, value?) := splitOption body
      match rest with
      | [] => (readOption level s name value? none).map (·.1)
      | next :: rest' =>
        match readOption level s name value? (some next) with
        | .error stop => .error stop
        | .ok (s, true) => readLevel level rest' s
        | .ok (s, false) => readLevel level (next :: rest') s
    | '-' :: c :: cs => .error (readShort level (c :: cs))
    | _ => .error .usage

/-- The value of an option that was given. -/
def Settings.value? (s : Settings) (name : String) : Option String :=
  (s.values.find? (·.1 == name)).map (·.2)

/-- The count of an option, or its default. -/
def Settings.countD (s : Settings) (name : String) (default : Nat) : Nat :=
  ((s.value? name).bind count?).getD default

/-- The options of the status command. -/
def statusLevel : Level := ⟨.status, [("secs", isCount), ("config", isPath)]⟩

/-- The options of the simulate command. -/
def simulateLevel : Level :=
  ⟨.simulate, [("tasks", isCount), ("task-millis", isCount), ("config", isPath)]⟩

/-- The options of the config command. -/
def configLevel : Level := ⟨.config, [("config", isPath)]⟩

/-- The pages that help can be asked for by name. -/
def helpPage? : List String → Except CommandStop CommandLine
  | [] => .error (.help .program)
  | ["status"] => .error (.help .status)
  | ["simulate"] => .error (.help .simulate)
  | ["config"] => .error (.help .config)
  | ["help"] => .error (.help .help)
  | _ => .error .usage

/-- Reads the words after the name of a command. -/
def readCommand (name : String) (jsonLogs : Bool) (words : List String) :
    Except CommandStop CommandLine :=
  let finish (s : Settings) (command : Command) : CommandLine :=
    ⟨command, jsonLogs || s.flags.contains jsonLogsFlag⟩
  if name = "status" then
    (readLevel statusLevel words {}).map fun s =>
      finish s (.status (s.countD "secs" 5) (s.value? "config"))
  else if name = "simulate" then
    (readLevel simulateLevel words {}).map fun s =>
      finish s (.simulate (s.countD "tasks" 100) (s.countD "task-millis" 500) (s.value? "config"))
  else if name = "config" then
    (readLevel configLevel words {}).map fun s => finish s (.config (s.value? "config"))
  else if name = "help" then helpPage? words
  else .error .usage

/-- The options before the name of a command. -/
def programLevel : Level := ⟨.program, []⟩

/-- Reads the words up to the name of a command. -/
def readProgram : List String → Settings → Except CommandStop CommandLine
  | [], _ => .error .usage
  | word :: rest, s =>
    match word.toList with
    | '-' :: '-' :: c :: cs =>
      let (name, value?) := splitOption (c :: cs)
      match readOption programLevel s name value? none with
      | .error stop => .error stop
      | .ok (s, _) => readProgram rest s
    | ['-', '-'] => .error .usage
    | '-' :: c :: cs => .error (readShort programLevel (c :: cs))
    | _ => readCommand word (s.flags.contains jsonLogsFlag) rest

/-- Reads the words after the program's name. -/
def parse (words : List String) : Except CommandStop CommandLine := readProgram words {}

end CommandLine

end Headroom
