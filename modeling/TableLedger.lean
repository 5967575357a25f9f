import TableLedger.IndexRename
import TableLedger.Main
import TableLedger.Proofs.Registry
import TableLedger.Proofs.Registry.Refinement
import TableLedger.Proofs.Script.Mention
import TableLedger.Proofs.Script.Relexing
import TableLedger.Proofs.Session.Bookkeeping
import TableLedger.Rehearsal
import TableLedger.Report
import TableLedger.Session.Basic
import TableLedger.Proofs.Session.Run
import TableLedger.Proofs.Session.Cleanup
import TableLedger.Proofs.Identifier
import TableLedger.Proofs.Session.DefaultSchema
import TableLedger.Proofs.Pattern
import TableLedger.Proofs.Script.Glyph
import TableLedger.Proofs.Script.LiveCode
import TableLedger.Proofs.Session.Outcome
import TableLedger.Proofs.Session.History
import TableLedger.Proofs.Session.RenameElsewhere
import TableLedger.Proofs.Journal.LogSql
import TableLedger.Proofs.Session.LogRows
import TableLedger.Proofs.Session.LogDatabase
import TableLedger.Proofs.Transcript
import TableLedger.Proofs.Journal.Housekeeping
import TableLedger.Proofs.Session.KeptTables
import TableLedger.Proofs.Journal.ServedLogs
import TableLedger.Proofs.Session.LedgerDatabase
import TableLedger.Proofs.Session.RowOrigin
import TableLedger.Proofs.Session.RenamedRow
import TableLedger.Proofs.Session.PermanentTable
import TableLedger.Proofs.Registry.Upkeep
import TableLedger.Proofs.TableRef.RoundTrip
import TableLedger.Proofs.Journal.Rules
import TableLedger.Proofs.Journal.LogText
import TableLedger.Proofs.Session.LogStatements
import TableLedger.Proofs.Pattern.Places
import TableLedger.Proofs.Pattern.Context
import TableLedger.Proofs.Script.Vocabulary
import TableLedger.Proofs.Script.Semicolon
import TableLedger.Proofs.Script.Joined
import TableLedger.Proofs.Script.Sequence
import TableLedger.Proofs.Pattern.Tail
import TableLedger.Proofs.Script.BlankedLiteral
import TableLedger.Proofs.Pattern.Preferred
import TableLedger.Proofs.Pattern.Captures
import TableLedger.Proofs.Script.RenameCall
import TableLedger.Proofs.Script.ByteScan
import TableLedger.Proofs.Script.Blanked
import TableLedger.Proofs.Script.Positions
import TableLedger.Proofs.Script.Reference
import TableLedger.Proofs.Script.Spacing
import TableLedger.Proofs.Script.Announcement
import TableLedger.Proofs.Identifier.Requoting
import TableLedger.Proofs.Script.RequotedName
import TableLedger.Proofs.Script.Words
import TableLedger.Proofs.Script.BlockWords
import TableLedger.Proofs.Script.RoutineBlock
import TableLedger.Proofs.Script.SingleStatement
import TableLedger.Proofs.Script.TableList
import TableLedger.Proofs.Script.TableStatement
import TableLedger.Proofs.Script.SpacedReference
import TableLedger.Proofs.Script.SessionTables
import TableLedger.Proofs.Script.DropList
import TableLedger.Proofs.Script.RenameScript
import TableLedger.Proofs.Script.CapturedReference
import TableLedger.Proofs.Session.RefusedScript
import TableLedger.Proofs.Session.RecordedScript
import TableLedger.Proofs.Session.CleanedTables
import TableLedger.Proofs.Journal.Rounds
import TableLedger.Proofs.Journal.CarefulPurge
import TableLedger.Proofs.Journal.HealedLog
import TableLedger.Proofs.Script.Remasking
import TableLedger.Proofs.TableRef.Splitting
import TableLedger.Proofs.Text.Replaced
import TableLedger.Proofs.IndexRename
import TableLedger.Proofs.Session.Expiry
import TableLedger.Proofs.Script.RoutineSpans
import TableLedger.Proofs.Journal.LogName
