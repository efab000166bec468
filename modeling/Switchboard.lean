import Switchboard.Rehearsal.Stage
import Switchboard.Proofs.ModelWrites
import Switchboard.Proofs.Advance
import Switchboard.Proofs.StepWrites
import Switchboard.Proofs.CurrentProfile
import Switchboard.Proofs.OrderLog
import Switchboard.Proofs.OrderQueueSafety
import Switchboard.Proofs.DisplayOrder
import Switchboard.Proofs.JsonReading
import Switchboard.Proofs.LatePolls
import Switchboard.Proofs.ModeOfCalls
import Switchboard.Proofs.GateHolders
import Switchboard.Proofs.Shutdown
import Switchboard.Proofs.SingleFlight
import Switchboard.Proofs.GatedCalls
import Switchboard.Proofs.WireFormat
import Switchboard.Proofs.ErrorBanner
import Switchboard.Proofs.HookVersion
import Switchboard.Proofs.StoredSettings
import Switchboard.Proofs.PostSwitchPolicy
import Switchboard.Proofs.SwitchHistory
import Switchboard.Proofs.RememberedProfile
import Switchboard.Proofs.OptimisticOrder
import Switchboard.Proofs.LateCalls
import Switchboard.Proofs.ClosedScopes
import Switchboard.Proofs.AutoSwitchReset
import Switchboard.Proofs.StoreLedger
import Switchboard.Proofs.StoreFailures
import Switchboard.Proofs.FailedCommands
import Switchboard.Proofs.RunningFlags
import Switchboard.Proofs.ReconcileFrame
import Switchboard.Proofs.ValueSources
import Switchboard.Proofs.ReconcileTwice
import Switchboard.Proofs.IdentityRules
import Switchboard.Proofs.ExactArithmetic
import Switchboard.Proofs.KeepalivePlan
import Switchboard.Proofs.PollFindings
import Switchboard.Proofs.PollTimes
import Switchboard.Proofs.KeepaliveSchedule
import Switchboard.Proofs.KeepaliveDelays
import Switchboard.Proofs.RoomForTimes
import Switchboard.Proofs.PollSpacing
import Switchboard.Proofs.StableErrors
import Switchboard.Proofs.MarkupOnly
import Switchboard.Proofs.Arrangement
import Switchboard.Proofs.BoundsInForce
