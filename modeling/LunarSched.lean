import LunarSched.Machine
import LunarSched.Runs
import LunarSched.Timeline
import LunarSched.Ring
import LunarSched.Kernel
import LunarSched.UtilTrack
import LunarSched.Dsq
import LunarSched.ShadowTick
import LunarSched.Hooks
import LunarSched.Rollover
import LunarSched.Accounts
import LunarSched.Occupancy
import LunarSched.BusyTime
import LunarSched.TaskHistory
import LunarSched.DsqDepth
import LunarSched.Governor
import LunarSched.GovernorCache
import LunarSched.RolloverPolicies
import LunarSched.ClusterLoad
import LunarSched.TargetLoad
import LunarSched.WindowChange
import LunarSched.TokenHolder
import LunarSched.DemandScale
import LunarSched.FullLoad
import LunarSched.WindowShare
import LunarSched.ClockSafety
import LunarSched.Toggling
import LunarSched.FreedTasks
import LunarSched.IdleLoad
import LunarSched.RolloverReach
import LunarSched.ShadowTimers
import LunarSched.QueueOrder
import LunarSched.Starvation
import LunarSched.FrameRate
import LunarSched.QueueDrain
import LunarSched.UtilCache
import LunarSched.Urgency
import LunarSched.TickLimit
import LunarSched.ListHead
import LunarSched.SchedCluster
import LunarSched.ClusterTopology
import LunarSched.CpufreqNotifier
import LunarSched.FreqDomain
import LunarSched.QosBlocks
import LunarSched.GovernorLifetime
import LunarSched.SoftLimits
import LunarSched.WindowAdvance
import LunarSched.FreqClamp
import LunarSched.PowerPressure
import LunarSched.TopTwo
import LunarSched.LoadResponse
import LunarSched.TargetTunable
import LunarSched.GovernorLimits
import LunarSched.FlagBounds
import LunarSched.TopTwoUtil
import LunarSched.UtilConversion
import LunarSched.Boost
import LunarSched.Narrowing
import LunarSched.DemandBounds
import LunarSched.Balance
import LunarSched.Demand
import LunarSched.Monitor
import LunarSched.MonitoredHooks
import LunarSched.Watchdog
import LunarSched.Heartbeat
import LunarSched.Statistics
import LunarSched.PolicyPointers
import LunarSched.EmptyQueues
import LunarSched.ClosedLoop
import LunarSched.OwnedCells
import LunarSched.TaskRecords
import LunarSched.DecimalText
import LunarSched.Sysfs
import LunarSched.QueueLevels
import LunarSched.FreqLimits
