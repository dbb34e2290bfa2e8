import TestRollup.Summary.Ledger
import TestRollup.Xml.Order
import TestRollup.Files.Tree
import TestRollup.Main
import TestRollup.Proofs.LedgerRun
import TestRollup.Proofs.Sharding
import TestRollup.Proofs.LegacyCount
import TestRollup.Proofs.ModernCount
import TestRollup.Proofs.Inspection
import TestRollup.Proofs.EventAudit
import TestRollup.Proofs.IntakeRun
import TestRollup.Proofs.DocumentText
import TestRollup.Proofs.ProperDocument
import TestRollup.Proofs.Spreading
import TestRollup.Proofs.DecimalValue
import TestRollup.Proofs.Footprint
import TestRollup.Proofs.SessionAnswer
import TestRollup.Proofs.Spelling
import TestRollup.Proofs.ClockTime
import TestRollup.Proofs.DecimalMark
import TestRollup.Proofs.RoundingError
import TestRollup.Proofs.RunTotals
import TestRollup.Proofs.WholeNumber
import TestRollup.Proofs.AbsolutePath
import TestRollup.Proofs.PassedTests
import TestRollup.Proofs.TerminalStyles
import TestRollup.Proofs.ReadBack
import TestRollup.Proofs.Growth
import TestRollup.Proofs.Diagnosis
import TestRollup.Proofs.FileArguments
import TestRollup.Proofs.ElementNumbers
import TestRollup.Proofs.ByteSteps
