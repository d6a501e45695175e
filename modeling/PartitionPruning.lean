import PartitionPruning.Text.CodeRange
import PartitionPruning.Text.Alphabetic
import PartitionPruning.Text.Numeric
import PartitionPruning.Text.Concealed
import PartitionPruning.Text.CharClass
import PartitionPruning.Text.Utf8
import PartitionPruning.Text.Quoted
import PartitionPruning.Text.Numeral
import PartitionPruning.Bytes.LittleEndian
import PartitionPruning.Integer
import PartitionPruning.Collation
import PartitionPruning.Value
import PartitionPruning.Value.Stored
import PartitionPruning.NameTable
import PartitionPruning.Dialect
import PartitionPruning.Expr.Func
import PartitionPruning.Expr.Basic
import PartitionPruning.Expr.Lexeme
import PartitionPruning.Expr.Error
import PartitionPruning.Expr.Scan
import PartitionPruning.Expr.Reading
import PartitionPruning.Expr.Eval
import PartitionPruning.Expr.OfOperand
import PartitionPruning.Wire.FieldType
import PartitionPruning.Wire.Error
import PartitionPruning.Wire.Value
import PartitionPruning.Wire.Block
import PartitionPruning.Wire.Packet
import PartitionPruning.Failure
import PartitionPruning.Predicate
import PartitionPruning.Schema.Basic
import PartitionPruning.Schema.Derivation
import PartitionPruning.Session
import PartitionPruning.Request
import PartitionPruning.Range.KeyRange
import PartitionPruning.Range.Draft
import PartitionPruning.Statement.Basic
import PartitionPruning.Statement.Binding
import PartitionPruning.Statement.PredicateValue
import PartitionPruning.Statement.Default
import PartitionPruning.Statement.Notice
import PartitionPruning.Statement.Resolution
import PartitionPruning.Capture.Codec
import PartitionPruning.Capture.Layout
import PartitionPruning.Capture.Outline
import PartitionPruning.Capture.Listing
import PartitionPruning.Replay
import PartitionPruning.Main
import PartitionPruning.Proofs.Steps
import PartitionPruning.Proofs.Statement.Drafting
import PartitionPruning.Proofs.Range.Admission
import PartitionPruning.Proofs.Range.Normalisation
import PartitionPruning.Proofs.Statement.Coverage
import PartitionPruning.Proofs.Statement.Failing
import PartitionPruning.Proofs.Bytes.Prefix
import PartitionPruning.Proofs.Schema.Carrying
import PartitionPruning.Proofs.Statement.SourceBounds
import PartitionPruning.Proofs.Wire.Encoding
import PartitionPruning.Proofs.Wire.Needs
import PartitionPruning.Proofs.Wire.RoundTrip
import PartitionPruning.Proofs.Wire.Cutting
import PartitionPruning.Proofs.Wire.Indexes
import PartitionPruning.Proofs.Range.History
import PartitionPruning.Proofs.Statement.Writes
import PartitionPruning.Proofs.Statement.Histories
import PartitionPruning.Proofs.Statement.Literals
import PartitionPruning.Proofs.Text.CharClass
import PartitionPruning.Proofs.Text.Digits
import PartitionPruning.Proofs.Expr.Spelling
import PartitionPruning.Proofs.Value.Stored
import PartitionPruning.Proofs.Statement.DefaultTexts
import PartitionPruning.Proofs.Statement.DefaultValues
import PartitionPruning.Proofs.Statement.DefaultLiterals
import PartitionPruning.Proofs.Statement.Reordering
import PartitionPruning.Proofs.Capture.Codec
import PartitionPruning.Proofs.Capture.Layout
import PartitionPruning.Proofs.Statement.DefaultPins
import PartitionPruning.Proofs.Capture.RoundTrip
import PartitionPruning.Proofs.Expr.Lexing
import PartitionPruning.Proofs.Expr.Grammar
import PartitionPruning.Proofs.Expr.Parsing
import PartitionPruning.Proofs.Expr.Writing
import PartitionPruning.Proofs.Expr.Tags
import PartitionPruning.Proofs.Statement.Tags
import PartitionPruning.Proofs.Statement.Obstacles
import PartitionPruning.Proofs.Statement.Collations
import PartitionPruning.Proofs.Expr.Arithmetic
import PartitionPruning.Proofs.Expr.OfOperand
import PartitionPruning.Proofs.Statement.Binding
import PartitionPruning.Proofs.Statement.DefaultColumns
import PartitionPruning.Proofs.Statement.OutOfRange
import PartitionPruning.Proofs.Guarded
import PartitionPruning.Proofs.Expr.Substring
import PartitionPruning.Proofs.Schema.Derivation
import PartitionPruning.Proofs.Wire.Access
import PartitionPruning.Proofs.Wire.BlockAccess
import PartitionPruning.Proofs.Statement.PacketAccess
import PartitionPruning.Proofs.Schema.Links
import PartitionPruning.Proofs.Statement.Links
import PartitionPruning.Proofs.Statement.Derivations
import PartitionPruning.Proofs.Wire.Skipping
import PartitionPruning.Proofs.Expr.Cursor
import PartitionPruning.Proofs.Expr.Lossless
