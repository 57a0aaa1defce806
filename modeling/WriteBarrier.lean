import WriteBarrier.Barrier.Cast
import WriteBarrier.Session
import WriteBarrier.Proofs.NarrowReferences
import WriteBarrier.Proofs.Mutators
import WriteBarrier.Proofs.SnapshotPreservation
import WriteBarrier.Proofs.CardLogging
import WriteBarrier.Proofs.StepRules
import WriteBarrier.Proofs.CellInvariants
import WriteBarrier.Proofs.Installation
import WriteBarrier.Proofs.CoveringRegions
import WriteBarrier.Proofs.Resizes
import WriteBarrier.Proofs.CoveredRegions
import WriteBarrier.Proofs.CoveredStores
import WriteBarrier.Proofs.NarrowHeap
import WriteBarrier.Machine.Access
import WriteBarrier.Proofs.AdmissibleOptions
import WriteBarrier.Proofs.CoverReplacement
import WriteBarrier.Proofs.ServedRequests
import WriteBarrier.Proofs.PermanentInstallation
import WriteBarrier.Proofs.StaticCalls
import WriteBarrier.Proofs.BulkOptions
import WriteBarrier.Proofs.Casts
import WriteBarrier.Proofs.ConcurrentCalls
import WriteBarrier.Proofs.EnvironmentOrder
import WriteBarrier.Proofs.PostWrites
import WriteBarrier.Proofs.SliceWalks
import WriteBarrier.Proofs.NarrowValues
import WriteBarrier.Proofs.BulkPreWrites
import WriteBarrier.Proofs.DerivedVariants
import WriteBarrier.Proofs.RegionGrowth
import WriteBarrier.Proofs.SlotStores
import WriteBarrier.Proofs.OutwardAlignment
import WriteBarrier.Proofs.TagSets
import WriteBarrier.Proofs.CamelCaseNames
import WriteBarrier.Proofs.WriteOnceCells
import WriteBarrier.Proofs.EmptyCovers
import WriteBarrier.Proofs.OversizedCalls
