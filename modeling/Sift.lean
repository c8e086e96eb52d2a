import Sift.Calendar.Reader
import Sift.Json.Reader
import Sift.Query.Digest
import Sift.Value.FieldType
import Sift.Value.OfJson
import Sift.Declaration.Derived
import Sift.Value
import Sift.Value.Shown
import Sift.NamedValues
import Sift.Schema
import Sift.Restriction.Evaluation
import Sift.Filter.Document
import Sift.Pagination.Document
import Sift.Query.Range
import Sift.Query.Shown
import Sift.Dialect.MissingTable
import Sift.Event
import Sift.Sql.Binding
import Sift.Restriction.Condition
import Sift.Statement.Table
import Sift.Join.Build
import Sift.Statement.Draft
import Sift.JoinedRow
import Sift.RecordLayout
import Sift.Proofs.Binding
import Sift.Proofs.Sql.Slots
import Sift.Proofs.Sql.Rendering
import Sift.Proofs.Statement.Parameters
import Sift.Proofs.Double.Rounding
import Sift.Proofs.Value.Order
import Sift.Proofs.Query.Prediction
import Sift.Proofs.Statement.ShortCircuit
import Sift.Proofs.Sql.Meaning
import Sift.Proofs.Sql.Reading
import Sift.Proofs.Sql.Printing
import Sift.Proofs.Sql.Parsing
import Sift.Proofs.Sql.RoundTrip
import Sift.Proofs.Like
import Sift.Proofs.Restriction.Agreement
import Sift.Proofs.RowType
import Sift.Proofs.Join.Meaning
import Sift.Proofs.Join.JoinedRows
import Sift.Proofs.Join.Placement
import Sift.Proofs.Join.Layers
import Sift.Proofs.Join.Selection
import Sift.Proofs.Join.Subqueries
import Sift.Proofs.Join.Build
import Sift.Proofs.Join.Scope
import Sift.Proofs.Join.Walk
import Sift.Proofs.Join.WellFormed
import Sift.Proofs.Join.Numbering
import Sift.Proofs.Join.Recorded
import Sift.Proofs.Restriction.Form
import Sift.Proofs.Join.Form
import Sift.Proofs.Statement.Form
import Sift.Proofs.Join.Names
import Sift.Proofs.Statement.Names
import Sift.Proofs.Statement.Deletion
import Sift.Proofs.Statement.Counting
import Sift.Proofs.JoinedRow
import Sift.Proofs.Join.DeclarationOrder
import Sift.Proofs.Sql.Sites
import Sift.Proofs.Join.Scoping
import Sift.Proofs.Join.Sites
import Sift.Proofs.Sql.Interpretation
import Sift.Proofs.Restriction.Constructors
import Sift.Proofs.Restriction.Complement
import Sift.Proofs.Pagination
import Sift.Proofs.Statement.Paging
import Sift.Proofs.Json.Equality
import Sift.Proofs.Value.Hashing
import Sift.Proofs.Query.Fields
import Sift.Proofs.Json.Reader
import Sift.Proofs.Query.Hashing
import Sift.Proofs.Filter
import Sift.Proofs.Query.Filters
import Sift.Proofs.Like.Literal
import Sift.Proofs.Value.Wire
import Sift.Proofs.Declaration
import Sift.Proofs.Value.Consistency
import Sift.Proofs.Query.Contradiction
import Sift.Proofs.Sql.SortKey
import Sift.Proofs.OrderBy
import Sift.Proofs.Statement.Ordering
import Sift.Proofs.Sql.Placeholders
import Sift.Proofs.Query.Steps
import Sift.Proofs.MissingTable
import Sift.Proofs.Restriction.Escaping
import Sift.Proofs.Restriction.Payload
import Sift.Proofs.Pagination.Pages
import Sift.Proofs.Schema
import Sift.Proofs.Statement.OrderColumns
import Sift.Proofs.Sql.Fragments
import Sift.Proofs.Truncation
import Sift.Proofs.NamedValues
