import Rv32Image.Main
import Rv32Image.Proofs.Bytes.Window
import Rv32Image.Proofs.Bytes.Agreement
import Rv32Image.Proofs.Image.Layout
import Rv32Image.Proofs.Image.HeaderField
import Rv32Image.Proofs.Image.Acceptance
import Rv32Image.Proofs.Image.RoundTrip
import Rv32Image.Proofs.Storage.Directories
import Rv32Image.Proofs.Storage.Location
import Rv32Image.Proofs.Image.WritePhase
import Rv32Image.Proofs.Storage.TemporaryPath
import Rv32Image.Proofs.Image.AllOrNothing
import Rv32Image.Proofs.Image.ConcurrentWriters
import Rv32Image.Proofs.Storage.FileReplacement
import Rv32Image.Proofs.Assembly.WordList
import Rv32Image.Proofs.Assembly.Distance
import Rv32Image.Proofs.Instruction.Field
import Rv32Image.Proofs.Instruction.Decoder
import Rv32Image.Proofs.Instruction.RegisterName
import Rv32Image.Proofs.Assembly.LineMeaning
import Rv32Image.Proofs.Assembly.Label
import Rv32Image.Proofs.Assembly.Resolution
import Rv32Image.Proofs.Machine.Basic
import Rv32Image.Proofs.Machine.Program
import Rv32Image.Proofs.Machine.Fixtures
import Rv32Image.Proofs.Image.WriteOutcome
import Rv32Image.Proofs.Image.StoredImages
import Rv32Image.Proofs.Storage.MakeDirectories
import Rv32Image.Proofs.CommandLine.Tasks
import Rv32Image.Proofs.CommandLine.PartialRuns
import Rv32Image.Proofs.CommandLine.ListingText
import Rv32Image.Proofs.CommandLine.ListingLines
import Rv32Image.Proofs.CommandLine.Lossless
import Rv32Image.Proofs.Assembly.Overwriting
import Rv32Image.Proofs.Image.Rejections
import Rv32Image.Proofs.Image.Accesses
import Rv32Image.Proofs.Instruction.Operands
import Rv32Image.Proofs.Instruction.WideRegisters
import Rv32Image.Proofs.Image.Locality
import Rv32Image.Proofs.Image.Truncation
import Rv32Image.Proofs.Image.FixedField
import Rv32Image.Proofs.Image.Corruption
import Rv32Image.Proofs.Image.InputBytes
import Rv32Image.Proofs.Text.NumeralGrammar
import Rv32Image.Proofs.Text.Digits
import Rv32Image.Proofs.Text.AddressText
