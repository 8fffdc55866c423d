import TapeLang.Main
import TapeLang.Node.Text
import TapeLang.Session
import TapeLang.Proofs.Parsing
import TapeLang.Proofs.Matching
import TapeLang.Proofs.Statistics
import TapeLang.Proofs.Faults
import TapeLang.Proofs.Sweeps
import TapeLang.Proofs.Calls
import TapeLang.Proofs.BigStep
import TapeLang.Proofs.JumpMachine.Basic
import TapeLang.Proofs.JumpMachine.Simulation
import TapeLang.Proofs.Scans
import TapeLang.Proofs.Locations
import TapeLang.Proofs.Points
import TapeLang.Proofs.Streams
import TapeLang.Proofs.Lockstep
import TapeLang.Proofs.Causality
import TapeLang.Proofs.Extension
import TapeLang.Proofs.UncheckedTape
import TapeLang.Proofs.SessionSteps
import TapeLang.Proofs.Endings
import TapeLang.Proofs.Histories
import TapeLang.Proofs.Ledger
import TapeLang.Proofs.Relocation
import TapeLang.Proofs.Comments
import TapeLang.Proofs.Concatenation
import TapeLang.Proofs.Performed
import TapeLang.Proofs.Exchanges
import TapeLang.Proofs.OutputText
import TapeLang.Proofs.LoopStack
import TapeLang.Proofs.StraightLoops
import TapeLang.Proofs.Reports
import TapeLang.Proofs.Tasks
import TapeLang.Proofs.Diagnostics
import TapeLang.Proofs.Entries
import TapeLang.Proofs.Stages
import TapeLang.Proofs.StageReports
import TapeLang.Proofs.Mirror
import TapeLang.Proofs.Contexts
import TapeLang.Proofs.Adjustments
import TapeLang.Proofs.ErrorOrigins
import TapeLang.Proofs.Digits
import TapeLang.Proofs.Numerals
import TapeLang.Proofs.Outlines
import TapeLang.Proofs.Readback
import TapeLang.Proofs.Listings
import TapeLang.Proofs.NodeTexts
import TapeLang.Proofs.WellFormed
import TapeLang.Proofs.DecodingFaults
import TapeLang.Proofs.LineEnds
import TapeLang.Proofs.ProgramFiles
import TapeLang.Proofs.RunRecords
import TapeLang.Proofs.Dumps
