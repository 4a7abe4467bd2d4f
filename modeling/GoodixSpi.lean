import GoodixSpi.Lib.SearchForest
import GoodixSpi.Lib.ParentForest
import GoodixSpi.Lib.Bridges
import GoodixSpi.Lib.ByteReader
import GoodixSpi.Lib.Buffer
import GoodixSpi.Lib.LittleEndian
import GoodixSpi.Lib.CArithmetic
import GoodixSpi.Lib.RunningAverage
import GoodixSpi.Lib.Collect
import GoodixSpi.Lib.EarlyExit
import GoodixSpi.Lib.DropOldest
import GoodixSpi.Chicago.Feature.SpatialSelection
import GoodixSpi.Chicago.Feature.SpatialUniqueness
import GoodixSpi.Chicago.Calibration
import GoodixSpi.Chicago.Preprocess.Adaptive
import GoodixSpi.Chicago.Preprocess.Temporal
import GoodixSpi.Chicago.Preprocess.Narrowing
import GoodixSpi.Chicago.Enrollment.RelationMask
import GoodixSpi.Chicago.Enrollment.Metrics
import GoodixSpi.Chicago.Enrollment.Insert
import GoodixSpi.Chicago.Enrollment.Study
import GoodixSpi.Chicago.Enrollment.Rollback
import GoodixSpi.Chicago.Enrollment.Policy
import GoodixSpi.Chicago.Enrollment.Connectivity
import GoodixSpi.Chicago.Enrollment.GroupSerialization
import GoodixSpi.Chicago.Packed.Cursor
import GoodixSpi.Chicago.Packed.Record
import GoodixSpi.Chicago.Packed.Template
import GoodixSpi.Chicago.Packed.RoundTrip
import GoodixSpi.Chicago.Packed.Lifecycle
import GoodixSpi.Chicago.Enrollment.CapacitySafety
import GoodixSpi.Chicago.LateRejection.Equivalence
import GoodixSpi.Chicago.Match.Serialization
import GoodixSpi.Chicago.Match.Study
import GoodixSpi.Driver.Enroll
import GoodixSpi.Driver.Verdict
import GoodixSpi.Driver.Attribution
import GoodixSpi.Driver.RecordSequence
import GoodixSpi.Driver.RepairPolicy
import GoodixSpi.Driver.OwnPress
import GoodixSpi.Chicago.Enrollment.CapacityRelation
import GoodixSpi.Chicago.Enrollment.Propagation
import GoodixSpi.Chicago.Enrollment.Closure
import GoodixSpi.Chicago.Enrollment.MatcherGroup
import GoodixSpi.Chicago.Enrollment.Lineage
import GoodixSpi.Chicago.Match.UniquePairs
import GoodixSpi.Chicago.Match.CapacityFallback
import GoodixSpi.Lib.CubeMoments
import GoodixSpi.Lib.SignedRange
import GoodixSpi.Chicago.Match.RefineMoments
import GoodixSpi.Chicago.Match.RefineRange
import GoodixSpi.Chicago.Match.TransformRange
import GoodixSpi.Chicago.Match.MatchingRange
import GoodixSpi.Lib.FirstBest
import GoodixSpi.Chicago.Enrollment.TransformSearch
import GoodixSpi.Chicago.Match.CandidateSearch
import GoodixSpi.Lib.MonotoneBool
import GoodixSpi.Chicago.LateRejection.Monotone
import GoodixSpi.Lib.SwapDelete
import GoodixSpi.Lib.Described
import GoodixSpi.Chicago.Feature.Mask
import GoodixSpi.Chicago.Feature.ColumnImage
import GoodixSpi.Chicago.Feature.Subtemplate
import GoodixSpi.Chicago.Feature.Orientation
import GoodixSpi.Chicago.Feature.OrientationPeak
import GoodixSpi.Lib.Envelope
import GoodixSpi.Chicago.Preprocess.Envelope
import GoodixSpi.Lib.QueueFill
import GoodixSpi.Chicago.Preprocess.PromotionMask
import GoodixSpi.Lib.Trail
import GoodixSpi.Chicago.Preprocess.ResolutionGradient
import GoodixSpi.Chicago.Preprocess.RidgeWalk
import GoodixSpi.Lib.Checked
import GoodixSpi.Chicago.Preprocess.ResolutionHistogram
import GoodixSpi.Chicago.Preprocess.ResolutionPeaks
import GoodixSpi.Chicago.Preprocess.SecondaryAnalysis
import GoodixSpi.Chicago.PreparedFrame
import GoodixSpi.Chicago.CalibrationRebase
import GoodixSpi.Lib.Unsigned
import GoodixSpi.Lib.DigitRoot
import GoodixSpi.Lib.Signed
import GoodixSpi.Lib.Aead
import GoodixSpi.Common.Wire
import GoodixSpi.Common.Image
import GoodixSpi.Driver.Proto
import GoodixSpi.Driver.PskText
import GoodixSpi.Driver.WhiteBox
import GoodixSpi.Chicago.SystemTemplate
import GoodixSpi.Chicago.SquareRoots
import GoodixSpi.Chicago.Feature.Partition
import GoodixSpi.Chicago.Feature.RefinementOffset
import GoodixSpi.Chicago.Enrollment.MaskCells
import GoodixSpi.Chicago.Enrollment.MaskReading
import GoodixSpi.Chicago.PrintMemory
import GoodixSpi.Driver.PrintStore
import GoodixSpi.Driver.EnrolledPrint
import GoodixSpi.Lib.Reinterpret
import GoodixSpi.Lib.SummedArea
import GoodixSpi.Lib.InsertionSort
import GoodixSpi.Lib.Taps
import GoodixSpi.Lib.Deposits
import GoodixSpi.Lib.Walsh
import GoodixSpi.Chicago.Feature.Filter
import GoodixSpi.Chicago.Feature.Cordic
import GoodixSpi.Chicago.Feature.OrientationMap
import GoodixSpi.Chicago.Feature.Gradients
import GoodixSpi.Chicago.Feature.Extrema
import GoodixSpi.Chicago.Feature.Candidates
import GoodixSpi.Chicago.Feature.Descriptor
import GoodixSpi.Chicago.Feature.Survivors
import GoodixSpi.Chicago.Feature.Extraction
import GoodixSpi.Chicago.Feature.DescriptorSamples
import GoodixSpi.Chicago.Feature.DescriptorBits
import GoodixSpi.Chicago.Feature.Contrast
import GoodixSpi.Chicago.Preprocess.CandidateScores
import GoodixSpi.Chicago.Preprocess.PoorCapture
import GoodixSpi.Chicago.Preprocess.Quality
import GoodixSpi.Chicago.Preprocess.CheckedCapture
import GoodixSpi.Chicago.Preprocess.ResolutionMap
import GoodixSpi.Chicago.Enrollment.MetricMaps
import GoodixSpi.Driver.LiveProbe
import GoodixSpi.Driver.LivePrint
