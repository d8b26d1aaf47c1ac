import PipeQuery.Main
import PipeQuery.Manual.Tutorial
import PipeQuery.Proofs.Grammar.ErrorPlace
import PipeQuery.Proofs.Grammar.Resuming
import PipeQuery.Proofs.Grammar.Spelling
import PipeQuery.Proofs.Lexer.Placement
import PipeQuery.Proofs.Lexer.Stopping
import PipeQuery.Proofs.Query.Canonical
import PipeQuery.Proofs.Query.Detection
import PipeQuery.Proofs.Query.Literals
import PipeQuery.Proofs.Query.RepeatedParameters
import PipeQuery.Proofs.Query.Respacing
import PipeQuery.Proofs.Table.Appending
import PipeQuery.Proofs.Table.Comparisons
import PipeQuery.Proofs.Table.Composition
import PipeQuery.Proofs.Table.FilterProject
import PipeQuery.Proofs.Table.FilterSort
import PipeQuery.Proofs.Table.GridLayout
import PipeQuery.Proofs.Table.LetterCase
import PipeQuery.Proofs.Table.NumericCells
import PipeQuery.Proofs.Table.NumericConditions
import PipeQuery.Proofs.Table.Provenance
import PipeQuery.Proofs.Table.Records
import PipeQuery.Proofs.Table.RepeatedExtension
import PipeQuery.Proofs.Table.RepeatedProjection
import PipeQuery.Proofs.Table.StableSort
import PipeQuery.Proofs.Table.TextConditions
import PipeQuery.Query.Printer
import PipeQuery.Query.ToJson
import PipeQuery.Query.Validation
import PipeQuery.Table.Grid
import PipeQuery.Table.Pipeline
