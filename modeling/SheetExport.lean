import SheetExport.Extras
import SheetExport.Frame
import SheetExport.Main
import SheetExport.Proofs.Condition.RoundTrip
import SheetExport.Proofs.Workbook.Paging
import SheetExport.Workbook.Write
import SheetExport.Proofs.Workbook.Refusal
import SheetExport.Proofs.Sheet.LabelRuns
import SheetExport.Proofs.Upholding
import SheetExport.Proofs.Sheet.Labels
import SheetExport.Proofs.Catalog.Keeping
import SheetExport.Proofs.Catalog.Requests
import SheetExport.Proofs.Organize.Labels
import SheetExport.Proofs.Catalog.Program
import SheetExport.Proofs.Catalog.Sameness
import SheetExport.Proofs.Catalog.Alike
import SheetExport.Proofs.Catalog.Answers
import SheetExport.Proofs.Condition.Position
import SheetExport.Proofs.Condition.Cursor
import SheetExport.Proofs.Condition.Following
import SheetExport.Proofs.Condition.Safety
import SheetExport.Proofs.Workbook.Naming
import SheetExport.Proofs.Organize.EntryOrder
import SheetExport.Proofs.Sheet.HeaderGrid
import SheetExport.Proofs.Condition.Respelling
import SheetExport.Proofs.Condition.CorrectPrefix
import SheetExport.Proofs.Condition.Evaluation
import SheetExport.Proofs.Style.Selection
import SheetExport.Proofs.Organize.Arrangement
import SheetExport.Proofs.Organize.Conflict
import SheetExport.Organize.Iterator
import SheetExport.Proofs.Organize.LookAhead
import SheetExport.Proofs.Catalog.Description
import SheetExport.Proofs.Organize.FirstCome
import SheetExport.Proofs.Organize.Shares
import SheetExport.Proofs.Organize.SheetOrder
import SheetExport.Proofs.Organize.InTurn
import SheetExport.Proofs.Organize.ReadAhead
import SheetExport.Proofs.Sheet.Splitting
import SheetExport.Proofs.Catalog.Extraction
import SheetExport.Proofs.Masking.Disclosure
import SheetExport.Proofs.Record.Access
import SheetExport.Proofs.Masking.Covering
import SheetExport.Proofs.Value.Agreement
import SheetExport.Proofs.Condition.Literal
import SheetExport.Proofs.Workbook.CleanName
import SheetExport.Proofs.Organize.OneEntry
import SheetExport.Proofs.Workbook.Widths
import SheetExport.Proofs.Workbook.FormatUse
import SheetExport.Proofs.FieldType
