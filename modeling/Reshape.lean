import Reshape.Main
import Reshape.Proofs.LiteralDocument
import Reshape.Proofs.KeySuffix
import Reshape.Proofs.WritingPaths
import Reshape.Proofs.Composing
import Reshape.Proofs.Interpolation
import Reshape.Proofs.UnknownFilter
import Reshape.Proofs.EntryUpdate
import Reshape.Proofs.Merging
import Reshape.Proofs.Pruning
import Reshape.Proofs.IndependentKeys
import Reshape.Proofs.JsonRoundTrip
import Reshape.Proofs.Comparing
import Reshape.Proofs.LiteralKey
import Reshape.Proofs.EnvironmentUse
import Reshape.Proofs.Selecting
import Reshape.Proofs.Appending
import Reshape.Proofs.Predicates
import Reshape.Proofs.WholeNumbers
import Reshape.Proofs.VariadicFilters
import Reshape.Proofs.Reducing
import Reshape.Proofs.ScopeSwitches
import Reshape.Proofs.DecimalForms
import Reshape.Proofs.IntegerArithmetic
import Reshape.Proofs.RoundingOrder
import Reshape.Proofs.IntegerOrder
import Reshape.Proofs.NeutralOperands
import Reshape.Proofs.CalendarDays
import Reshape.Proofs.WrittenDates
import Reshape.Proofs.DateSpellings
import Reshape.Proofs.DateRoundTrip
import Reshape.Proofs.SplitAndJoin
import Reshape.Proofs.Slicing
import Reshape.Proofs.Setting
import Reshape.Proofs.Truth
import Reshape.Proofs.Fingerprints
import Reshape.Proofs.LeadingIntegers
import Reshape.Proofs.BareExpressions
import Reshape.Proofs.Replacing
import Reshape.Proofs.Shrinking
