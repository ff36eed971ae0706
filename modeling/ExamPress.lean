import ExamPress.Document.Stored
import ExamPress.Main
import ExamPress.Service.Handler
import ExamPress.Proofs.CommandLine.SameDocument
import ExamPress.Proofs.Document.Splitting
import ExamPress.Proofs.Document.Storing
import ExamPress.Proofs.Extraction.Stopping
import ExamPress.Proofs.Math.Bracing
import ExamPress.Proofs.Math.Nesting
import ExamPress.Proofs.Math.Tokens
import ExamPress.Proofs.Math.Printing
import ExamPress.Proofs.Math.Spaces
import ExamPress.Proofs.Table.Fences
import ExamPress.Proofs.Table.Integers
import ExamPress.Proofs.Table.Nested
import ExamPress.Proofs.Word.Offenders
import ExamPress.Proofs.Word.Zones
