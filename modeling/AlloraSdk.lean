import AlloraSdk.Logic.Coroutine
import AlloraSdk.Logic.SequencedLedger
import AlloraSdk.Logic.Tasks
import AlloraSdk.Source.Worker.Concurrency
import AlloraSdk.Guarantees.HintRecovery
import AlloraSdk.Guarantees.SequentialNonces
import AlloraSdk.Guarantees.AutoStakeOnce
import AlloraSdk.Guarantees.SubmitLock
import AlloraSdk.Guarantees.Delivery
import AlloraSdk.Chain.Simulation
import AlloraSdk.Guarantees.AtMostOnce
import AlloraSdk.Guarantees.FailureSoundness
import AlloraSdk.Guarantees.SequenceDiscipline
import AlloraSdk.Guarantees.OutcomeSoundness
import AlloraSdk.Guarantees.FeeEscalation
import AlloraSdk.Guarantees.GasLadder
import AlloraSdk.Guarantees.NoResubmission
import AlloraSdk.Guarantees.CanonicalDecimals
import AlloraSdk.Guarantees.CloseKnowsAll
import AlloraSdk.Guarantees.MarshalInverse
import AlloraSdk.Guarantees.NonceRecording
import AlloraSdk.Guarantees.StartupMachine
import AlloraSdk.Guarantees.SubscriptionCoherence
import AlloraSdk.Guarantees.PollingBudget
import AlloraSdk.Guarantees.DeadlineBound
import AlloraSdk.Guarantees.MinimumPrice
import AlloraSdk.Guarantees.LossBundle
import AlloraSdk.Guarantees.ExactConversion
import AlloraSdk.Guarantees.SilenceWatchdog
import AlloraSdk.Guarantees.ConfirmedDispatch
import AlloraSdk.Guarantees.DedupeScope
import AlloraSdk.Guarantees.MatcherAgreement
import AlloraSdk.Guarantees.HttpBinding
import AlloraSdk.Guarantees.SimulationLoop
import AlloraSdk.Guarantees.LifecycleVisualizer
import AlloraSdk.Guarantees.TransactionExport
import AlloraSdk.Guarantees.RunLoop
import AlloraSdk.Guarantees.RunShutdown
import AlloraSdk.Guarantees.DedupeKey
import AlloraSdk.Guarantees.FaucetLoop
import AlloraSdk.Guarantees.GroundTruth
import AlloraSdk.Guarantees.TimestampHistory
import AlloraSdk.Guarantees.PriceCache
import AlloraSdk.Guarantees.SanityThrottle
import AlloraSdk.Guarantees.StakeTopUp
import AlloraSdk.Guarantees.PlotLanes
