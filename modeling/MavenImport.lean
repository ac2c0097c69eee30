import MavenImport.Main
import MavenImport.Proofs.ModelMemo
import MavenImport.Proofs.ReferentialClosure
import MavenImport.Proofs.ScheduleIndependence
import MavenImport.Proofs.FetchIntegrity
import MavenImport.Proofs.MissingArtifacts
import MavenImport.Proofs.PlainWrites
import MavenImport.Proofs.ArtifactIsolation
import MavenImport.Proofs.CacheGrowth
import MavenImport.Proofs.ExclusionAdvice
import MavenImport.Proofs.ModelReplay
import MavenImport.Proofs.OfflineReplay
import MavenImport.Proofs.RunReplay
import MavenImport.Proofs.Unpacking
import MavenImport.Proofs.WritePlaces
import MavenImport.Proofs.CheckAnswers
import MavenImport.Proofs.Regeneration
import MavenImport.Proofs.ResolutionHistory
import MavenImport.Proofs.ExitStatus
import MavenImport.Proofs.RunCompletion
import MavenImport.Proofs.RuleNames
import MavenImport.Proofs.LabelTargets
import MavenImport.Proofs.Inheritance
import MavenImport.Proofs.RaisedFaults
import MavenImport.Proofs.ImportedManagement
import MavenImport.Proofs.BuildDependencies
import MavenImport.Proofs.EntryReading
import MavenImport.Proofs.UnknownReferences
import MavenImport.Proofs.Confinement
import MavenImport.Proofs.DigestGate
import MavenImport.Proofs.GlobMeaning
import MavenImport.Proofs.FailedFetches
import MavenImport.Proofs.SpecificationVerdict
import MavenImport.Proofs.ConfigurationStart
import MavenImport.Proofs.BuildFileAssembly
import MavenImport.Proofs.PomNamespaces
import MavenImport.Proofs.SharedLedger
import MavenImport.Proofs.KeptCache
