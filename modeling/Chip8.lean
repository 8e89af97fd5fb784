import Chip8.Folder
import Chip8.Main
import Chip8.Proofs.Bank.Calls
import Chip8.Proofs.Calls
import Chip8.Proofs.Display.Palette
import Chip8.Proofs.Display.Terminal
import Chip8.Proofs.Display.Window
import Chip8.Proofs.IndexBits
import Chip8.Proofs.Instruction.Decoding
import Chip8.Proofs.KeyWait
import Chip8.Proofs.Keyboard.Events
import Chip8.Proofs.Keyboard.Holding
import Chip8.Proofs.Keyboard.Order
import Chip8.Proofs.Launch.Outcome
import Chip8.Proofs.Launch.Release
import Chip8.Proofs.Loading
import Chip8.Proofs.Memory.InterpreterArea
import Chip8.Proofs.Memory.Transfers
import Chip8.Proofs.Noninterference
import Chip8.Proofs.Ranges
import Chip8.Proofs.Refusals
import Chip8.Proofs.Run.Alternation
import Chip8.Proofs.Run.Punctuality
import Chip8.Proofs.Run.Reports
import Chip8.Proofs.Screen.Sprites
import Chip8.Proofs.Screen.Strokes
import Chip8.Proofs.Table.Refinement
import Chip8.Proofs.Tones
import Chip8.Proofs.Trace.Journal
