import ScalarWire.Construct
import ScalarWire.Registry
import ScalarWire.Proofs.Codec.Temporal
import ScalarWire.Proofs.Decimal.Closure
import ScalarWire.Proofs.Registry
import ScalarWire.Proofs.Decimal.Admission
import ScalarWire.Proofs.Calendar.Count
import ScalarWire.Proofs.Codec.TemporalBinary
import ScalarWire.Proofs.Codec.TemporalFormats
import ScalarWire.Proofs.Codec.TemporalStable
import ScalarWire.Proofs.Zone.WallClock
import ScalarWire.Proofs.Zone.Token
import ScalarWire.Proofs.Literal.ZonedShift
import ScalarWire.Proofs.Zone.Table
import ScalarWire.Proofs.Zone.History
import ScalarWire.Proofs.Codec.Typing
import ScalarWire.Proofs.Literal.TimeSuffix
import ScalarWire.Proofs.Literal.Joint
import ScalarWire.Proofs.Number.LetterCase
import ScalarWire.Proofs.Text.Fold
import ScalarWire.Proofs.Literal.LetterCase
import ScalarWire.Proofs.Literal.WholeText
import ScalarWire.Proofs.Codec.LetterCase
import ScalarWire.Proofs.Zone.LoadOrder
import ScalarWire.Proofs.Codec.ZonedTime
import ScalarWire.Proofs.Decimal.Meaning
import ScalarWire.Proofs.Decimal.WordOverflow
import ScalarWire.Proofs.Decimal.Refusal
import ScalarWire.Proofs.Literal.TimeValue
import ScalarWire.Proofs.Codec.ForeignDigit
import ScalarWire.Proofs.Literal.DateSpelling
import ScalarWire.Proofs.Calendar.Order
import ScalarWire.Proofs.Codec.TemporalBytes
import ScalarWire.Proofs.Codec.Integer
import ScalarWire.Proofs.Codec.DateOrder
import ScalarWire.Proofs.Codec.Float
import ScalarWire.Proofs.Codec.FloatRoundTrip
import ScalarWire.Proofs.Codec.SingleRange
import ScalarWire.Proofs.Construct.Ticks
import ScalarWire.Proofs.Construct.LocalTime
import ScalarWire.Proofs.Construct.Fraction
import ScalarWire.Proofs.Zone.NumericOffset
import ScalarWire.Proofs.Text.Words
import ScalarWire.Proofs.TypeName
import ScalarWire.Proofs.HexText
