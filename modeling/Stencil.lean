import Stencil.Config.Reader
import Stencil.Expr.Parser
import Stencil.Library.Builtin
import Stencil.Render.Engine
import Stencil.Proofs.Interpolation
import Stencil.Proofs.Replacing
import Stencil.Proofs.Template
import Stencil.Proofs.Totality
import Stencil.Proofs.Meaning
import Stencil.Proofs.Settling
import Stencil.Proofs.Output
import Stencil.Proofs.Passes
import Stencil.Proofs.StructuralRendering
import Stencil.Proofs.StartedRenderings
import Stencil.Proofs.RenderingLimits
import Stencil.Proofs.Undirected
import Stencil.Proofs.SingleElement
import Stencil.Proofs.BoundAttribute
import Stencil.Proofs.Locality
import Stencil.Proofs.Pairing
import Stencil.Proofs.FailingGuard
import Stencil.Proofs.ScannedTag
import Stencil.Proofs.UnclosedElement
import Stencil.Proofs.Constants
import Stencil.Proofs.NestingLimit
import Stencil.Proofs.TagParts
import Stencil.Proofs.TagEditing
import Stencil.Proofs.CompleteMarkup
import Stencil.Proofs.SpacedTag
import Stencil.Proofs.SettledText
import Stencil.Proofs.Grammar
import Stencil.Proofs.TokenReading
import Stencil.Proofs.PhraseReading
import Stencil.Proofs.GrammarReading
import Stencil.Proofs.AcceptedGrammar
import Stencil.Proofs.Positions
import Stencil.Proofs.DottedPath
import Stencil.Proofs.InterpolatedExpression
import Stencil.Proofs.SealedText
import Stencil.Proofs.WholeFloats
import Stencil.Proofs.ValueOrder
import Stencil.Proofs.WrittenData
import Stencil.Proofs.ReadBack
import Stencil.Proofs.DataRoundTrip
import Stencil.Proofs.FailureComment
import Stencil.Proofs.Mentions
import Stencil.Proofs.SegmentBoundaries
import Stencil.Proofs.LocatedTags
import Stencil.Proofs.OutermostElements
import Stencil.Proofs.LoopHeaders
import Stencil.Proofs.LayeredScopes
import Stencil.Proofs.LoopVariables
import Stencil.Proofs.WholeArithmetic
import Stencil.Proofs.IntegerSums
import Stencil.Proofs.AssignedPaths
import Stencil.Proofs.NearestFloats
import Stencil.Proofs.NearestArithmetic
import Stencil.Proofs.NearestNumbers
import Stencil.Proofs.ShortestDigits
import Stencil.Proofs.IntegerConversion
import Stencil.Proofs.NamedArithmetic
import Stencil.Proofs.AssignedValues
import Stencil.Proofs.Progressions
import Stencil.Proofs.TextParts
import Stencil.Proofs.StableSorting
import Stencil.Proofs.MergedRuns
import Stencil.Proofs.SortedRuns
import Stencil.Proofs.PartedLists
import Stencil.Proofs.SortedSequence
import Stencil.Proofs.ItemGroups
import Stencil.Proofs.SeparatedPieces
import Stencil.Proofs.ValueEquality
import Stencil.Proofs.MergedMaps
import Stencil.Proofs.Slugs
import Stencil.Proofs.Extremes
import Stencil.Proofs.FilledDigits
import Stencil.Proofs.FixedPlaces
import Stencil.Proofs.DayNumbers
import Stencil.Proofs.MomentReading
import Stencil.Proofs.DayShifts
import Stencil.Proofs.FiniteFloats
import Stencil.Proofs.NumericTexts
import Stencil.Proofs.BoundedTrees
import Stencil.Proofs.Places
import Stencil.Proofs.TiledText
import Stencil.Proofs.ErrorPlaces
import Stencil.Proofs.ScannedPlaces
