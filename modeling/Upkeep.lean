import Upkeep.Main
import Upkeep.Measure.Summary
import Upkeep.Proofs.CipherList.Blocks
import Upkeep.Proofs.CipherList.Load
import Upkeep.Proofs.PrefTable.Parse
import Upkeep.Proofs.CipherList.Selection
import Upkeep.Proofs.PrefTable.Printed
import Upkeep.Proofs.PrefTable.Spacing
import Upkeep.Proofs.PrefTable.RoundTrip
import Upkeep.Proofs.Measure.Scanner
import Upkeep.Proofs.Measure.Agreement
import Upkeep.Proofs.PrefTable.Malformed
import Upkeep.Proofs.CipherList.FirstFault
import Upkeep.Proofs.Files.Writing
import Upkeep.Proofs.Command.Runs
import Upkeep.Proofs.CipherList.Rendering
import Upkeep.Proofs.CipherList.Unambiguous
import Upkeep.Proofs.OpenSsl.Lookups
import Upkeep.Proofs.CipherList.LineEndings
import Upkeep.Proofs.PrefTable.ClosedEntries
import Upkeep.Proofs.Text.Lowercase
import Upkeep.Proofs.CipherList.Unnamed
import Upkeep.Proofs.Text.Insertion
import Upkeep.Proofs.Text.TrailingWhite
import Upkeep.Proofs.PrefTable.Insertion
import Upkeep.Proofs.CipherList.Unrelated
import Upkeep.Proofs.Firefox.Terminators
import Upkeep.Proofs.Firefox.TrailingText
import Upkeep.Proofs.OpenSsl.Scanning
import Upkeep.Proofs.OpenSsl.Numbers
import Upkeep.Proofs.PrefTable.Consistency
import Upkeep.Proofs.PrefTable.Warnings
import Upkeep.Proofs.Text.BadLines
import Upkeep.Proofs.Measure.Streaming
import Upkeep.Proofs.Measure.BadLines
import Upkeep.Proofs.Measure.Extent
import Upkeep.Proofs.Text.Tokens
import Upkeep.Proofs.OpenSsl.Definitions
import Upkeep.Proofs.PrefTable.LineForms
import Upkeep.Proofs.Toml.Strings
import Upkeep.Proofs.Toml.Settings
import Upkeep.Proofs.Layout.Overrides
import Upkeep.Proofs.CipherList.LetterCase
