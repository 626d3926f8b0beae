import RuleSheet.CommandLine.Logging
import RuleSheet.Main
import RuleSheet.Proofs.CatalogHistory
import RuleSheet.Proofs.Guard.Idempotence
import RuleSheet.Proofs.Guard.Skeleton
import RuleSheet.Proofs.Guard.ReadBack
import RuleSheet.Proofs.Segmentation
import RuleSheet.Regression.Check
import RuleSheet.Proofs.CatalogMemory
import RuleSheet.Proofs.Conversion.Reading
import RuleSheet.Proofs.Steady
import RuleSheet.Proofs.Conversion.LineMode
import RuleSheet.Proofs.Conversion.Composition
import RuleSheet.Proofs.NormalForm
import RuleSheet.Proofs.Conversion.Account
import RuleSheet.Proofs.Conversion.TodoItems
import RuleSheet.Proofs.Guard.Flagging
import RuleSheet.Proofs.Conversion.Untranslated
import RuleSheet.Proofs.Conversion.Comments
import RuleSheet.Proofs.TypeIndex
import RuleSheet.Proofs.EntitySource
import RuleSheet.Proofs.Conversion.Sources
import RuleSheet.Proofs.Regression.Update
import RuleSheet.Proofs.Sentence.Outcome
import RuleSheet.Proofs.Java.Integer
import RuleSheet.Proofs.Sentence.Numbers
import RuleSheet.Proofs.Conversion.ErrorMarker
import RuleSheet.Proofs.Conversion.Availability
import RuleSheet.Proofs.CommandLine.Validation
import RuleSheet.Proofs.CommandLine.Delivery
import RuleSheet.Proofs.Text.Matching
import RuleSheet.Proofs.Line.Places
import RuleSheet.Proofs.Conversion.Wrapping
import RuleSheet.Proofs.Sentence.Recognition
import RuleSheet.Proofs.Sentence.Surroundings
import RuleSheet.Proofs.Sentence.Literals
import RuleSheet.Proofs.Sentence.Trailing
import RuleSheet.Proofs.Sentence.FullStop
import RuleSheet.Proofs.Conversion.OptionalStop
import RuleSheet.Proofs.Guard.Confinement
import RuleSheet.Proofs.Text.Marks
import RuleSheet.Proofs.Reference
import RuleSheet.Proofs.Sentence.Conditions
import RuleSheet.Proofs.Sentence.Copies
import RuleSheet.Proofs.EntityScan
import RuleSheet.Proofs.EntityComments
import RuleSheet.Proofs.Sentence.Spellings
import RuleSheet.Proofs.Text.Compatibility
import RuleSheet.Proofs.Separators
import RuleSheet.Proofs.Java.Literal
import RuleSheet.Proofs.Regression.Canonical
import RuleSheet.Proofs.LineDiff.Method
import RuleSheet.Proofs.LineDiff.Truncation
import RuleSheet.Proofs.Console.Alignment
