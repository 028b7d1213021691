import ScanCodes.Artifact.Header
import ScanCodes.Artifact.Source
import ScanCodes.CommandLine
import ScanCodes.Commit
import ScanCodes.Config
import ScanCodes.Csv.Record
import ScanCodes.Disk
import ScanCodes.Files
import ScanCodes.Generation
import ScanCodes.Identifier
import ScanCodes.Json
import ScanCodes.KeyName
import ScanCodes.Keymap
import ScanCodes.Main
import ScanCodes.Numeral
import ScanCodes.Path
import ScanCodes.Proofs.Artifact.Constant
import ScanCodes.Proofs.Artifact.Reading
import ScanCodes.Proofs.Commit.AllOrNothing
import ScanCodes.Proofs.Commit.Elsewhere
import ScanCodes.Proofs.Commit.Listing
import ScanCodes.Proofs.Commit.Outcome
import ScanCodes.Proofs.Commit.Safety
import ScanCodes.Proofs.Commit.Success
import ScanCodes.Proofs.Csv.Division
import ScanCodes.Proofs.Csv.Scan
import ScanCodes.Proofs.Disk.Perform
import ScanCodes.Proofs.Disk.Sibling
import ScanCodes.Proofs.Disk.Slot
import ScanCodes.Proofs.Generation.Balance
import ScanCodes.Proofs.Generation.Defects
import ScanCodes.Proofs.Generation.Fidelity
import ScanCodes.Proofs.Generation.Legible
import ScanCodes.Proofs.Generation.Link
import ScanCodes.Proofs.Generation.Rearrangement
import ScanCodes.Proofs.Json.Reading
import ScanCodes.Proofs.KeyName.Alphabet
import ScanCodes.Proofs.KeyName.Ends
import ScanCodes.Proofs.KeyName.Numbers
import ScanCodes.Proofs.KeyName.Positions
import ScanCodes.Proofs.KeyName.Presentation
import ScanCodes.Proofs.KeyName.Shape
import ScanCodes.Proofs.KeyName.Validity
import ScanCodes.Proofs.Keymap.Distinct
import ScanCodes.Proofs.Keymap.History
import ScanCodes.Proofs.Keymap.Insertions
import ScanCodes.Proofs.Keymap.LastWord
import ScanCodes.Proofs.Keymap.Losses
import ScanCodes.Proofs.Keymap.Warnings
import ScanCodes.Proofs.Numeral.Grammar
import ScanCodes.Proofs.Numeral.LeadingZeros
import ScanCodes.Proofs.Numeral.Lookup
import ScanCodes.Proofs.Numeral.Reading
import ScanCodes.Proofs.Path.Names
import ScanCodes.Proofs.Run.Again
import ScanCodes.Proofs.Run.Aliases
import ScanCodes.Proofs.Run.Ending
import ScanCodes.Proofs.Run.Rejection
import ScanCodes.Proofs.Run.Session
import ScanCodes.Proofs.Run.Views
import ScanCodes.Proofs.SortedMap.Entries
import ScanCodes.Proofs.Summary.Reading
import ScanCodes.Proofs.Table.Judgement
import ScanCodes.Proofs.Table.Lines
import ScanCodes.Proofs.Table.Mark
import ScanCodes.Proofs.Table.Writing
import ScanCodes.Proofs.Text.Alphabet
import ScanCodes.Proofs.Text.Trim
import ScanCodes.Proofs.Text.Utf8
import ScanCodes.Proofs.Text.Words
import ScanCodes.Row
import ScanCodes.Run
import ScanCodes.SortedMap
import ScanCodes.Summary
import ScanCodes.Symbol
import ScanCodes.Table
import ScanCodes.Text.Blank
import ScanCodes.Text.Quoted
import ScanCodes.Text.Upper
import ScanCodes.Text.Upper.Table
import ScanCodes.Text.Utf8
import ScanCodes.Text.Visible.Table
import ScanCodes.Toml.Document
import ScanCodes.Toml.Scalar
import ScanCodes.Toml.Statement
import ScanCodes.Toml.Text
import ScanCodes.Toml.Tree
import ScanCodes.Toml.Value
import ScanCodes.Warning
