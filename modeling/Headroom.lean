import Headroom.Main
import Headroom.Json.Reader
import Headroom.Sampling.EventJson
import Headroom.Sampling.ProcStat
import Headroom.Proofs.Sampling.Retaining
import Headroom.Proofs.Sampling.Recording
import Headroom.Proofs.Load.Windows
import Headroom.Proofs.Pool.Bounds
import Headroom.Proofs.Pool.Run
import Headroom.Proofs.Pool.Reaction
import Headroom.Proofs.Pool.Moment
import Headroom.Proofs.Pool.Accounting
import Headroom.Proofs.Pool.Starting
import Headroom.Proofs.Pool.Outcome
import Headroom.Proofs.Pool.Granting
import Headroom.Proofs.Pool.Finishing
import Headroom.Proofs.Pool.Pausing
import Headroom.Proofs.Pool.Holding
import Headroom.Proofs.Pool.Capping
import Headroom.Proofs.Pool.Closing
import Headroom.Proofs.Pool.Tenancy
import Headroom.Proofs.Pool.Phases
import Headroom.Proofs.Pool.Consulting
import Headroom.Proofs.Num.Nearest
import Headroom.Proofs.Num.Order
import Headroom.Proofs.Num.Shortest
import Headroom.Proofs.Num.Numeral
import Headroom.Proofs.Toml.Number
import Headroom.Proofs.Toml.Line
import Headroom.Proofs.Toml.Integers
import Headroom.Proofs.Config.Rules
import Headroom.Proofs.Sampling.Halting
import Headroom.Proofs.Sampling.ClientErrors
import Headroom.Proofs.Config.Sections
import Headroom.Proofs.Config.Limits
import Headroom.Proofs.Config.Roundtrip
import Headroom.Proofs.Pool.Greedy
import Headroom.Proofs.Scenario.Simulation
import Headroom.Proofs.Num.Ratio
import Headroom.Proofs.Sampling.Baselines
import Headroom.Proofs.Sampling.Hearing
import Headroom.Proofs.Clock.Jobs
import Headroom.Proofs.Scenario.Executed
import Headroom.Proofs.Num.Part
import Headroom.Proofs.Pool.Scaling
import Headroom.Proofs.Pool.Sums
import Headroom.Proofs.Sampling.CpuLine
import Headroom.Proofs.Num.Closest
import Headroom.Proofs.Pool.Setting
import Headroom.Proofs.Load.Verdict
import Headroom.Proofs.Sampling.Warning
import Headroom.Proofs.Config.Intervals
import Headroom.Proofs.Sampling.Attempts
import Headroom.Proofs.Num.Error
import Headroom.Proofs.Sampling.ProbeHandles
import Headroom.Proofs.Sampling.IdleTicks
import Headroom.Proofs.Sampling.SharedProbe
import Headroom.Proofs.Scenario.Later
import Headroom.Proofs.Scenario.Waking
