import SegmentPaths.Database.Run
import SegmentPaths.Database.Schema
import SegmentPaths.Host.Folder
import SegmentPaths.Main
import SegmentPaths.Report
import SegmentPaths.Segment.Attach
import SegmentPaths.Proofs.EvaluatorAgreement
import SegmentPaths.Proofs.ReadBack
import SegmentPaths.Proofs.BoundPlaceholders
import SegmentPaths.Proofs.DistinctNames
import SegmentPaths.Proofs.NoFaults
import SegmentPaths.Proofs.ValueIndependence
import SegmentPaths.Proofs.LiteralPatterns
import SegmentPaths.Proofs.SkippedFilters
import SegmentPaths.Proofs.AttachedConditions
import SegmentPaths.Proofs.Acceptance
import SegmentPaths.Proofs.ConditionBindings
import SegmentPaths.Proofs.EvaluatorCalls
import SegmentPaths.Proofs.ValueSpellings
import SegmentPaths.Proofs.Complements
import SegmentPaths.Proofs.WellFormedCatalogs
import SegmentPaths.Proofs.FragmentText
import SegmentPaths.Proofs.TokenReading
import SegmentPaths.Proofs.ReportColumns
import SegmentPaths.Proofs.ReportValues
import SegmentPaths.Proofs.VerboseOutput
import SegmentPaths.Proofs.UsableFields
import SegmentPaths.Proofs.RoundTrips
import SegmentPaths.Proofs.ValueReaders
import SegmentPaths.Proofs.Expansion
import SegmentPaths.Proofs.Quoting
