import ChipEight.CallStack
import ChipEight.CommandLine.Options
import ChipEight.Device
import ChipEight.Instruction.Assembly
import ChipEight.Machine.Cycle
import ChipEight.Machine.Load
import ChipEight.Main
import ChipEight.Memory.Basic
import ChipEight.Memory.Open
import ChipEight.Numeral.Binary64
import ChipEight.Program.Storage
import ChipEight.Proofs.Instruction.Spelling
import ChipEight.Register.File
import ChipEight.Screen.Bitmap
import ChipEight.Screen.Recorder
import ChipEight.Terminal.Basic
import ChipEight.Terminal.Keyboard
import ChipEight.Text.Blank
import ChipEight.Text.Quoted
import ChipEight.Proofs.Memory.Cells
import ChipEight.Proofs.Machine.Execution
import ChipEight.Proofs.Machine.Step
import ChipEight.Proofs.Machine.Effect
import ChipEight.Proofs.Machine.Loading
import ChipEight.Proofs.Machine.Exhaustion
import ChipEight.Proofs.Session
import ChipEight.Proofs.Session.Frames
import ChipEight.Proofs.Session.Screen
import ChipEight.Proofs.Machine.Commands
import ChipEight.Proofs.Machine.Program
import ChipEight.Proofs.Machine.Calls
import ChipEight.Proofs.Machine.Counter
import ChipEight.Proofs.Machine.Depth
import ChipEight.Proofs.Machine.Extension
import ChipEight.Proofs.Machine.Reference
import ChipEight.Proofs.Machine.Simulation
import ChipEight.Proofs.Program.Capacity
import ChipEight.Proofs.Memory.History
import ChipEight.Proofs.Screen.History
import ChipEight.Proofs.Terminal.Canvas
import ChipEight.Proofs.Screen.Drawing
import ChipEight.Proofs.Machine.Fetching
import ChipEight.Proofs.Session.Policy
import ChipEight.Proofs.Checked.Requests
import ChipEight.Proofs.Screen.Calls
import ChipEight.Proofs.Machine.Refusal
import ChipEight.Proofs.Machine.Drawing
import ChipEight.Proofs.Program.Listing
import ChipEight.Proofs.Memory.Refusal
import ChipEight.Proofs.Checked.Bitmap
import ChipEight.Proofs.Session.Budget
import ChipEight.Proofs.Machine.Reports
import ChipEight.Proofs.Register.History
import ChipEight.Proofs.Screen.Region
import ChipEight.Proofs.Machine.Inert
import ChipEight.Proofs.Instruction.Reading
import ChipEight.Proofs.Machine.Forward
import ChipEight.Proofs.Machine.Slots
import ChipEight.Proofs.Session.Live
