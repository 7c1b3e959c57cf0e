import WhereClause.EnumType.Declaration
import WhereClause.Expr.Builder
import WhereClause.Binary64.Bits
import WhereClause.Session
import WhereClause.Proofs.Closed
import WhereClause.Proofs.Template
import WhereClause.Proofs.Preservation
import WhereClause.Proofs.Folding
import WhereClause.Proofs.Columns
import WhereClause.Proofs.Columns.Renaming
import WhereClause.Proofs.Context
import WhereClause.Proofs.EnumColumn
import WhereClause.Proofs.EnumColumn.Ordinal
import WhereClause.Proofs.EnumColumn.Order
import WhereClause.Proofs.Declaration
import WhereClause.Proofs.Page
import WhereClause.Proofs.Query
import WhereClause.Proofs.Session
import WhereClause.Proofs.Arithmetic
import WhereClause.Proofs.TextMethod
import WhereClause.Proofs.NullTest
import WhereClause.Proofs.Declaration.Validity
import WhereClause.Proofs.Declaration.Source
import WhereClause.Proofs.Page.Edges
import WhereClause.Proofs.Binary64.Nearest
import WhereClause.Proofs.Comparison
import WhereClause.Proofs.Number.Order
import WhereClause.Proofs.Quoting
import WhereClause.Proofs.Timestamp
import WhereClause.Proofs.Binary64.Shortest
import WhereClause.Proofs.Binary64.Exact
import WhereClause.Proofs.Number.Literal
