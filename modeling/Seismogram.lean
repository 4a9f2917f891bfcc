import Seismogram.Decimal.Fixed
import Seismogram.Recording.Basic
import Seismogram.Trace.Operation
import Seismogram.Proofs.Number.Rounding
import Seismogram.Proofs.Number.Scale
import Seismogram.Proofs.Number.Floating
import Seismogram.Proofs.Number.Exact
import Seismogram.Proofs.Number.Near
import Seismogram.Proofs.Number.Order
import Seismogram.Proofs.Decimal.Significant
import Seismogram.Proofs.Decimal.Numeral
import Seismogram.Proofs.Decimal.Shape
import Seismogram.Proofs.Decimal.General
import Seismogram.Proofs.Decimal.Resaved
import Seismogram.Proofs.Header.Cells
import Seismogram.Proofs.Header.Content
import Seismogram.Proofs.Header.Distances
import Seismogram.Proofs.Header.Domain
import Seismogram.Proofs.Header.ReferenceTime
import Seismogram.Proofs.Header.Sentinel
import Seismogram.Proofs.Header.Fields
import Seismogram.Proofs.Header.Stored
import Seismogram.Proofs.Header.TextField
import Seismogram.Proofs.Header.Padding
import Seismogram.Proofs.Text.Trim
import Seismogram.Proofs.Text.Words
import Seismogram.Proofs.Text.Lossy
import Seismogram.Proofs.Layout.Binary
import Seismogram.Proofs.Layout.Lines
import Seismogram.Proofs.Layout.Reading
import Seismogram.Proofs.Layout.Columns
import Seismogram.Proofs.Layout.Alphanumeric
import Seismogram.Proofs.Layout.Saving
import Seismogram.Proofs.Layout.Grammar
import Seismogram.Proofs.Layout.Relined
import Seismogram.Proofs.Layout.RealColumns
import Seismogram.Proofs.Time.Rounding
import Seismogram.Proofs.Time.Reference
import Seismogram.Proofs.Time.Composition
import Seismogram.Proofs.Time.NormalForm
import Seismogram.Proofs.Time.Seconds
import Seismogram.Proofs.Trace.Encoding
import Seismogram.Proofs.Trace.Folder
import Seismogram.Proofs.Trace.Patch
import Seismogram.Proofs.Trace.RoundTrip
import Seismogram.Proofs.Trace.Storing
import Seismogram.Proofs.Trace.Access
import Seismogram.Proofs.Trace.Independence
import Seismogram.Proofs.Trace.Effect
import Seismogram.Proofs.Trace.Counting
import Seismogram.Proofs.Trace.Distances
import Seismogram.Proofs.Trace.RelativeTimes
import Seismogram.Proofs.Trace.ReferenceTime
import Seismogram.Proofs.Trace.Values
import Seismogram.Proofs.Recording.HeaderMap
import Seismogram.Proofs.Recording.Stages
import Seismogram.Proofs.Recording.AbsoluteTimes
import Seismogram.Proofs.Recording.Conversion
import Seismogram.Proofs.Recording.Alignment
import Seismogram.Proofs.Trace.Permuted
import Seismogram.Proofs.Trace.Domain
import Seismogram.Proofs.Trace.BinaryFormat
import Seismogram.Proofs.Trace.HeaderOnly
import Seismogram.Proofs.Trace.Writing
import Seismogram.Proofs.Trace.Description
