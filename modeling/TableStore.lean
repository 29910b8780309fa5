import TableStore.Unicode.Alphabetic
import TableStore.Unicode.Numeric
import TableStore.Unicode.Unprinted
import TableStore.Text
import TableStore.Text.Decimal
import TableStore.OrdMap
import TableStore.Token
import TableStore.Token.Quoted
import TableStore.Token.Escape
import TableStore.Token.Lexeme
import TableStore.Token.Rest
import TableStore.Token.Stream
import TableStore.Error
import TableStore.Statement.Parser
import TableStore.Table
import TableStore.Answer.Layout
import TableStore.Database.Execute
import TableStore.Database.Seed
import TableStore.Database.Shared
import TableStore.Shell
import TableStore.CommandLine
import TableStore.Main
import TableStore.Proofs.Map
import TableStore.Proofs.Row
import TableStore.Proofs.Table
import TableStore.Proofs.Database
import TableStore.Proofs.Reading
import TableStore.Proofs.Run
import TableStore.Proofs.History
import TableStore.Proofs.Tracking
import TableStore.Proofs.Faults
import TableStore.Proofs.Interchange
import TableStore.Proofs.Calls
import TableStore.Proofs.Layout
import TableStore.Proofs.Takes
import TableStore.Proofs.Rendering
import TableStore.Proofs.RoundTrip
import TableStore.Proofs.Accounting
import TableStore.Proofs.Refusal
import TableStore.Proofs.Sharing
import TableStore.Proofs.Json
import TableStore.Proofs.Modes
import TableStore.Proofs.Grammar
import TableStore.Proofs.Insertion
import TableStore.Proofs.Creation
import TableStore.Proofs.Keyed
import TableStore.Proofs.Selection
import TableStore.Proofs.Recognition
import TableStore.Proofs.Pointed
import TableStore.Proofs.Dispatch
import TableStore.Proofs.KeyLiteral
import TableStore.Proofs.Coercion
import TableStore.Proofs.Scan
import TableStore.Proofs.Joining
import TableStore.Proofs.Bodies
import TableStore.Proofs.Spelling
import TableStore.Proofs.Excerpt
import TableStore.Proofs.Assignment
import TableStore.Proofs.Replay
import TableStore.Proofs.Seeding
import TableStore.Proofs.Declaration
import TableStore.Proofs.Rectangle
import TableStore.Proofs.Exactness
import TableStore.Proofs.Semicolon
