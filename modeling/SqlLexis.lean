import SqlLexis.Main
import SqlLexis.Proofs.Gap
import SqlLexis.Proofs.Lexeme.Quoted
import SqlLexis.Proofs.Visible
import SqlLexis.Proofs.Lexeme.Scan
import SqlLexis.Proofs.Lexeme.Settled
import SqlLexis.Proofs.Lexeme.Front
import SqlLexis.Proofs.Position
import SqlLexis.Proofs.Answers
import SqlLexis.Proofs.Reading
import SqlLexis.Proofs.Tiling
import SqlLexis.Proofs.Lexeme.BeforeBy
import SqlLexis.Proofs.Relexing
import SqlLexis.Proofs.Concatenation
import SqlLexis.Proofs.Embedding
import SqlLexis.Proofs.Gap.Longest
import SqlLexis.Proofs.Lexeme.Unreadable
import SqlLexis.Proofs.Calls
import SqlLexis.Proofs.Outcome
import SqlLexis.Proofs.Verdict
import SqlLexis.Proofs.Failure
import SqlLexis.Proofs.DialectIndependence
import SqlLexis.Proofs.Bounds
import SqlLexis.Proofs.Restart
import SqlLexis.Proofs.SideBySide
import SqlLexis.Proofs.KeywordIndependence
import SqlLexis.Proofs.Lexeme.Caseless
import SqlLexis.Proofs.CaseInsensitivity
import SqlLexis.Proofs.Lexeme.Shape
import SqlLexis.Proofs.HiddenComments
import SqlLexis.Proofs.Iteration
import SqlLexis.Proofs.Lexeme.Enclosed
import SqlLexis.Proofs.Gap.Extent
import SqlLexis.Proofs.Lexeme.Pattern
import SqlLexis.Proofs.Lexeme.Regular
import SqlLexis.Proofs.Lexeme.Operators
import SqlLexis.Proofs.Lexeme.Words
import SqlLexis.Proofs.OrderBy
import SqlLexis.Proofs.QualifiedNames
import SqlLexis.Proofs.KeywordLookup
import SqlLexis.Proofs.Lines
import SqlLexis.Proofs.AllOrNothing
import SqlLexis.Proofs.Files
import SqlLexis.Proofs.Toml.Document
import SqlLexis.Proofs.StoredConfig
import SqlLexis.Proofs.Formats.Standard
import SqlLexis.Proofs.Precedence
import SqlLexis.Proofs.Indexed
import SqlLexis.Proofs.Translation
