import Columnar.Main
import Columnar.Proofs.AdjacentRanges
import Columnar.Proofs.ContainerFormat
import Columnar.Proofs.DeepRows
import Columnar.Proofs.ExcludedColumns
import Columnar.Proofs.FailedReads
import Columnar.Proofs.FileContents
import Columnar.Proofs.ProjectedScan
import Columnar.Proofs.ReaderLife
import Columnar.Proofs.ReaderProgress
import Columnar.Proofs.StripeMeaning
import Columnar.Proofs.WrittenFile
import Columnar.Proofs.TypeTree.Walk
import Columnar.Proofs.TypeTree.WellShaped
import Columnar.Proofs.IncludedNodes
import Columnar.Proofs.SplitTiles
import Columnar.Proofs.SplitWorkers
import Columnar.Proofs.CountedRows
import Columnar.Proofs.TypeTree.FaithfulTrees
import Columnar.Proofs.StreamRoundTrip
import Columnar.Proofs.FooterGeometry
import Columnar.Proofs.FooterRoundTrip
import Columnar.Proofs.RefusedRows
import Columnar.Proofs.ExactSlop
import Columnar.Proofs.PostscriptTails
import Columnar.Proofs.OrdinalStrings
import Columnar.Proofs.ReachedSettings
import Columnar.Proofs.RowSlots
import Columnar.Proofs.GeneratedFiles
import Columnar.Proofs.LineReading
import Columnar.Proofs.AgreeingCommands
import Columnar.Proofs.VisibleFiles
