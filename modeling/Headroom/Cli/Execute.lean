import Headroom.Cli.Arguments
import Headroom.Config.Toml
import Headroom.Load.Report
import Headroom.Scenario.Run

/-!
# Executing commands

What every command does with a loaded configuration. Sampling and simulated runs take place on the
virtual clock, on a machine with the readings of a fresh `FixedProbe`.
-/

namespace Headroom

/-- The text of a failure to load or write a configuration. -/
def ConfigError.message : ConfigError → String
  | unreadable detail => "failed to read config file: " ++ detail
  | malformed => "failed to parse config"
  | unwritable => "failed to serialize config"
  | invalid fault => fault.message

/-- The end of a simulated run. -/
structure SimulationReport where
  tasks : Nat
  completed : Nat
  elapsed : Duration
  finalDesired : Nat
  phase : Phase
  historical : SystemInfo
  deriving Repr

/-- What a command prints. -/
inductive CommandOutput where
  | text (s : String)
  | simulation (r : SimulationReport)
  | status (current historical : SystemInfo)

namespace Command

/-- A world with some pools on a quiet machine. -/
def quietWorld (c : Config) (pools : List PoolPlan) : Except PoolError World :=
  let s : Scenario := ⟨c.snapshotter, c.status, .fixed {}, .none, pools, []⟩
  s.buildPools.map s.world

/-- Tasks that work for a while, handed out one by one until all are taken; the run is finished when
all are completed. -/
def sleepingTasks (tasks : Nat) (work : Duration) : Workload where
  total := some tasks
  default := { works := some work }
  ready := [{ verdict := .takeTask }]
  finish := [{ verdict := .allCompleted }]

/-- A time that no run reaches. -/
def endOfTime : Instant := Nat.pow 2 64 * Duration.second

/-- Runs tasks through one pool until the run resolves. -/
def simulation (c : Config) (tasks : Nat) (work : Duration) : Except PoolError SimulationReport :=
  (quietWorld c [⟨c.pool, sleepingTasks tasks work⟩]).bind fun w =>
    let final := (w.spawnRun 0).letPass endOfTime
    match final.pools[0]? with
    | none => .error (.notIdle .idle)
    | some site =>
      let resolved := site.runs[0]?.bind (·.2)
      .ok {
        tasks := tasks
        completed := site.work.completed
        elapsed := (resolved.map (·.instant)).getD final.now
        finalDesired := site.pool.state.desired
        phase := site.pool.phase
        historical := final.historical }

/-- Samples for a while and evaluates the histories. -/
def sampled (c : Config) (span : Duration) : Except PoolError (SystemInfo × SystemInfo) :=
  (quietWorld c []).map fun w =>
    let final := (w.switch Snapshotter.start).letPass span
    (final.current, final.historical)

/-- Executes a command with its configuration; a failure is the text of the error. -/
def execute (c : Config) : Command → Except String CommandOutput
  | status secs _ =>
    match sampled c (secs * Duration.second) with
    | .ok (current, historical) => .ok (.status current historical)
    | .error e => .error e.message
  | simulate tasks taskMillis _ =>
    match simulation c tasks (taskMillis * Duration.millisecond) with
    | .ok report => .ok (.simulation report)
    | .error e => .error e.message
  | config _ =>
    match c.toToml with
    | .ok text => .ok (.text text)
    | .error e => .error e.message

/-- The configuration of a command, given what its file, if it names one, is read as. -/
def effectiveConfig (command : Command) (file : Except ConfigError Config) :
    Except ConfigError Config :=
  if command.configPath?.isSome then file else .ok {}

/-- Executes a command, loading its configuration first. -/
def run (command : Command) (file : Except ConfigError Config) : Except String CommandOutput :=
  match command.effectiveConfig file with
  | .ok c => command.execute c
  | .error e => .error e.message

end Command

/-- A duration in seconds. -/
def Duration.seconds (d : Duration) : Binary64 :=
  Binary64.ofNat (d / second) + Binary64.ofNat (d % second) / Binary64.ofNat second

namespace CommandOutput

/-- The verdict on one resource, members sorted by name. -/
def loadMembers (l : LoadInfo) : Json :=
  .ofMembers
    [("actual_ratio", .ofBinary64 l.actualRatio), ("is_overloaded", .boolean l.overloaded),
     ("limit_ratio", .ofBinary64 l.limitRatio), ("sample_size", .ofCount l.sampleSize)]

/-- The load of the system, members sorted by name. -/
def infoMembers (s : SystemInfo) : Json :=
  .ofMembers
    [("client_info", loadMembers s.client), ("cpu_info", loadMembers s.cpu),
     ("event_loop_info", loadMembers s.eventLoop), ("is_system_idle", .boolean s.idle),
     ("mem_info", loadMembers s.memory)]

/-- The printed form. Reports have the members of every object sorted by name. -/
def render : CommandOutput → String
  | text s => s
  | simulation r =>
    let report := Json.ofMembers
      [("completed", .ofCount r.completed),
       ("elapsed_secs", .ofBinary64 (Duration.seconds r.elapsed)),
       ("final_desired_concurrency", .ofCount r.finalDesired),
       ("historical", infoMembers r.historical),
       ("phase", .ofString r.phase.name),
       ("tasks", .ofCount r.tasks)]
    report.pretty ++ "\n"
  | status current historical =>
    let report := Json.ofMembers
      [("current", infoMembers current), ("historical", infoMembers historical)]
    report.pretty ++ "\n"

end CommandOutput

end Headroom
