import Chip8.Datum.Forms
import Chip8.Listing
import Chip8.Machine.Replay
import Chip8.Machine.Script
import Chip8.Pattern
import Chip8.Proofs.Datum.Overlays
import Chip8.Proofs.Datum.Records
import Chip8.Proofs.Datum.RoundTrip
import Chip8.Proofs.Instruction.Lines
import Chip8.Proofs.Listing.Images
import Chip8.Proofs.Pacer.Accounting
import Chip8.Proofs.Pacer.Capture
import Chip8.Proofs.Pacer.Containment
import Chip8.Proofs.Pacer.Log
import Chip8.Proofs.Pacer.Noninterference
import Chip8.Proofs.Pacer.Pacing
import Chip8.Proofs.Pacer.Replaying
import Chip8.Proofs.Pacer.SingleStepping
import Chip8.Proofs.PulseClock.Faults
import Chip8.Proofs.PulseClock.Rate
import Chip8.Proofs.PulseClock.Remaining
import Chip8.Proofs.PulseClock.Slicing
import Chip8.Proofs.Session.Judging
import Chip8.Proofs.Session.Ownership
import Chip8.Proofs.Session.Speeds
import Chip8.Proofs.Speed.Canonical
import Chip8.Proofs.Speed.Cycles
import Chip8.Proofs.Speed.Division
import Chip8.Proofs.Speed.RoundTrip
import Chip8.Proofs.Speed.Shown
import Chip8.Proofs.Speed.Thousandths
import Chip8.Proofs.Text.Base
import Chip8.Proofs.Window.Edits
import Chip8.Session
import Chip8.Survey
