import ParamSql.Builder.Run
import ParamSql.Proofs.Condition.Truth
import ParamSql.Proofs.Identifier.Resolve
import ParamSql.Proofs.Param.Issued
import ParamSql.Settings.Toml
import ParamSql.Value.Conversion
import ParamSql.Value.Json
import ParamSql.Proofs.Condition.Reader
import ParamSql.Proofs.Condition.Composition
import ParamSql.Proofs.Filter.Meaning
import ParamSql.Proofs.Filter.Reading
import ParamSql.Proofs.Builder.Blank
import ParamSql.Proofs.Builder.Noninterference
import ParamSql.Proofs.Builder.Frozen
import ParamSql.Proofs.Builder.FoundRows
import ParamSql.Proofs.Builder.Said
import ParamSql.Proofs.Statement.Rows
import ParamSql.Proofs.Statement.Grammar
import ParamSql.Proofs.Filter.Template
import ParamSql.Proofs.Builder.Template
import ParamSql.Proofs.Builder.Closed
import ParamSql.Proofs.Param.Clean
import ParamSql.Proofs.Param.Inlined
import ParamSql.Proofs.Builder.Inlined
import ParamSql.Proofs.Builder.Check
import ParamSql.Proofs.Builder.Condition
import ParamSql.Proofs.Builder.Failure
import ParamSql.Proofs.Builder.Watched
import ParamSql.Proofs.Builder.Topics
import ParamSql.Proofs.Builder.Upsert
import ParamSql.Proofs.Statement.Page
import ParamSql.Proofs.Builder.Page
import ParamSql.Proofs.Builder.Legal
import ParamSql.Proofs.Literal
import ParamSql.Proofs.Param.Substituted
import ParamSql.Proofs.Filter.Placeholders
import ParamSql.Proofs.Builder.Assigned
import ParamSql.Proofs.Builder.Counted
import ParamSql.Proofs.Text.Cut
import ParamSql.Proofs.Builder.Resolved
import ParamSql.Proofs.Double.Value
import ParamSql.Proofs.Value.Json
import ParamSql.Proofs.Identifier.Lookup
import ParamSql.Proofs.Identifier.Wording
import ParamSql.Proofs.Statement.Wording
import ParamSql.Proofs.Builder.Quoted
import ParamSql.Proofs.Text.ByteOrder
import ParamSql.Proofs.Identifier.LetterCase
import ParamSql.Proofs.Statement.Merging
import ParamSql.Proofs.Text.Numeral
import ParamSql.Proofs.Calendar.DayNumber
import ParamSql.Proofs.Calendar.Instant
import ParamSql.Proofs.Calendar.Text
import ParamSql.Proofs.Double.Quotient
import ParamSql.Proofs.Double.Decimal
import ParamSql.Proofs.Json.Numeral
import ParamSql.Proofs.Json.Reader
import ParamSql.Proofs.Json.Library
import ParamSql.Proofs.Value.RoundTrip
import ParamSql.Proofs.Statement.Modifiers
import ParamSql.Proofs.Builder.Modifiers
