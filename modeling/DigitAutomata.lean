import DigitAutomata.Main
import DigitAutomata.Proofs.Layout
import DigitAutomata.Proofs.Numeral
import DigitAutomata.Proofs.Run
import DigitAutomata.Proofs.Construction
import DigitAutomata.Proofs.Grammar
import DigitAutomata.Proofs.Representation
import DigitAutomata.Proofs.Walk
import DigitAutomata.Proofs.Written
import DigitAutomata.Proofs.Completion
import DigitAutomata.Proofs.Spacing
import DigitAutomata.Proofs.Stage
import DigitAutomata.Proofs.Extension
import DigitAutomata.Proofs.Encoding
import DigitAutomata.Proofs.Settlement
import DigitAutomata.Proofs.Fault
import DigitAutomata.Proofs.Diagnosis
import DigitAutomata.Proofs.Ending
import DigitAutomata.Proofs.Prefix
import DigitAutomata.Proofs.Locality
import DigitAutomata.Proofs.Session
import DigitAutomata.Proofs.Prompting
import DigitAutomata.Proofs.JsonText
import DigitAutomata.Proofs.Transcript
import DigitAutomata.Proofs.Output
import DigitAutomata.Proofs.Persistence
import DigitAutomata.Proofs.Columns
import DigitAutomata.Proofs.Integer
import DigitAutomata.Proofs.Steps
import DigitAutomata.Proofs.Colour
import DigitAutomata.Proofs.Views
import DigitAutomata.Proofs.Asking
import DigitAutomata.Proofs.Validation
import DigitAutomata.Proofs.Records
