import MapGate.Access.Decode
import MapGate.Access.Document
import MapGate.Access.Intersection
import MapGate.Auth.Decode
import MapGate.Catalog.AccessManager
import MapGate.Catalog.Declared
import MapGate.Catalog.Decode
import MapGate.Catalog.RegistryManager
import MapGate.Config.LogFilter
import MapGate.Config.Source
import MapGate.Gate.Listener
import MapGate.Json.Printer
import MapGate.Region.Grid
import MapGate.Proofs.Access.Intersection
import MapGate.Proofs.Access.Restrictiveness
import MapGate.Proofs.Auth.Capacity
import MapGate.Proofs.Auth.Refusal
import MapGate.Proofs.Catalog.FilterStack
import MapGate.Proofs.Pipeline.PatternMeaning
import MapGate.Proofs.Pipeline.StageLifetime
import MapGate.Proofs.Catalog.Veto
import MapGate.Proofs.Pipeline.ChainSelection
import MapGate.Proofs.Pipeline.BuiltinStages
import MapGate.Proofs.Auth.WhitelistEntries
import MapGate.Proofs.Gate.GateRun
import MapGate.Proofs.Gate.Reload
import MapGate.Proofs.Gate.ListenerRun
import MapGate.Proofs.Config.Layering
import MapGate.Proofs.Config.SourceOrder
import MapGate.Proofs.Pipeline.CacheRun
import MapGate.Proofs.Pipeline.CacheHistory
import MapGate.Proofs.Auth.LoginRun
import MapGate.Proofs.Auth.Alone
import MapGate.Proofs.Auth.Isolation
import MapGate.Proofs.Catalog.RegistryRun
import MapGate.Proofs.Access.Enforcement
import MapGate.Proofs.Catalog.ExtraFilters
import MapGate.Proofs.Catalog.HiddenStack
import MapGate.Proofs.Access.NormalForm
import MapGate.Proofs.Access.Regrouping
import MapGate.Proofs.Auth.Shutdown
import MapGate.Proofs.Pipeline.Descendants
import MapGate.Proofs.Pipeline.LeadingStars
import MapGate.Proofs.Auth.MappedEntries
import MapGate.Proofs.Config.AcceptedChains
import MapGate.Proofs.Pipeline.RepeatedRebuild
import MapGate.Proofs.Auth.DelayEnds
import MapGate.Proofs.Config.FirstViolation
import MapGate.Proofs.Access.KindMismatch
import MapGate.Proofs.Access.PredicateDocuments
import MapGate.Proofs.Auth.IdleAttempts
import MapGate.Proofs.Access.FirstTightest
import MapGate.Proofs.Access.ConjunctionText
import MapGate.Proofs.Config.Variables
import MapGate.Proofs.Text.WrittenDigits
import MapGate.Proofs.Auth.WrittenAddress
import MapGate.Proofs.Json.WrittenText
import MapGate.Proofs.Document.Written
import MapGate.Proofs.Document.ReadBack
import MapGate.Proofs.Pipeline.FirstUse
