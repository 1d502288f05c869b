import Chip8.Console
import Chip8.Instruction.Encode
import Chip8.Main
import Chip8.Proofs.Execution
import Chip8.Proofs.Bounds
import Chip8.Proofs.Guarded
import Chip8.Proofs.CallReturn
import Chip8.Proofs.Replay
import Chip8.Proofs.Faults
import Chip8.Proofs.Fetches
import Chip8.Proofs.Loads
import Chip8.Proofs.Signals
import Chip8.Proofs.StopOnLoop
import Chip8.Proofs.EndingRecords
import Chip8.Proofs.Endings
import Chip8.Proofs.Encoding
import Chip8.Proofs.Decoding
import Chip8.Proofs.StraightLine
import Chip8.Proofs.HexReading
import Chip8.Proofs.Readers
import Chip8.Proofs.DumpReading
import Chip8.Proofs.StackLog
import Chip8.Proofs.ListStack
import Chip8.Proofs.Wired
import Chip8.Proofs.Alignment
import Chip8.Proofs.Arithmetic
import Chip8.Proofs.Successors
import Chip8.Proofs.Footprints
import Chip8.Proofs.UnreadRegisters
import Chip8.Proofs.CallWalks
import Chip8.Proofs.CanonicalOperands
import Chip8.Proofs.StepsInPlace
import Chip8.Proofs.LoadOrder
import Chip8.Proofs.ReservedArea
