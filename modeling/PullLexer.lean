import PullLexer.Text.Alphabetic
import PullLexer.Text.Printable
import PullLexer.CharClass
import PullLexer.Position
import PullLexer.Token
import PullLexer.Phase
import PullLexer.Vocabulary
import PullLexer.Source.Cursor
import PullLexer.Source.Script
import PullLexer.Scan.Lexeme
import PullLexer.LexemeStream.Session
import PullLexer.LexemeStream.Reshape
import PullLexer.Proofs.Gaps
import PullLexer.Proofs.Literals
import PullLexer.Proofs.Spelling
import PullLexer.Proofs.Reads
import PullLexer.Proofs.Deliveries
import PullLexer.Proofs.Grammar
import PullLexer.Proofs.Shaping
import PullLexer.Proofs.Pulling
import PullLexer.Proofs.Faults
import PullLexer.Proofs.Joining
import PullLexer.Proofs.Modes
import PullLexer.Proofs.OpenStrings
import PullLexer.Proofs.Peeking
import PullLexer.Proofs.Places
import PullLexer.Proofs.Lines
import PullLexer.Proofs.GapExchange
import PullLexer.Proofs.Printing
import PullLexer.Proofs.Kept
import PullLexer.Proofs.InStep
import PullLexer.Proofs.Scripted
import PullLexer.Proofs.Locality
import PullLexer.Proofs.Limited
import PullLexer.Proofs.Progress
import PullLexer.Proofs.Beginnings
import PullLexer.Proofs.Stopping
import PullLexer.Proofs.Reports
import PullLexer.Proofs.Logs
import PullLexer.Proofs.ReadsInTurn
import PullLexer.Proofs.Encoding
import PullLexer.Proofs.Coordinates
import PullLexer.Proofs.OutputVocabulary
import PullLexer.Proofs.StringLiterals
import PullLexer.Proofs.Lookahead
import PullLexer.Proofs.Cursors
import PullLexer.Proofs.Numerals
import PullLexer.Proofs.WrittenNumbers
