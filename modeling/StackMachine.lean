import StackMachine.Main
import StackMachine.Proofs.Assembling
import StackMachine.Proofs.Concatenation
import StackMachine.Proofs.Iteration
import StackMachine.Proofs.LineNumbers
import StackMachine.Proofs.OpcodeTable
import StackMachine.Session
import StackMachine.Proofs.Failures
import StackMachine.Proofs.StandardFaults
import StackMachine.Proofs.ListingRoundTrip
import StackMachine.Proofs.Reports
import StackMachine.Proofs.AssembledFaults
import StackMachine.Proofs.Courses
import StackMachine.Proofs.DeeperStacks
import StackMachine.Proofs.ExplorerModes
import StackMachine.Proofs.Isolation
import StackMachine.Proofs.ReachableFaults
import StackMachine.Proofs.Reset
import StackMachine.Proofs.Addresses
import StackMachine.Proofs.ForwardJumps
import StackMachine.Proofs.ImmediateArguments
import StackMachine.Proofs.Quotation
import StackMachine.Proofs.Display
import StackMachine.Proofs.LongerPrograms
import StackMachine.Proofs.AssemblyErrors
import StackMachine.Proofs.DebuggerInput
import StackMachine.Proofs.LineEndings
import StackMachine.Proofs.Blocks
import StackMachine.Proofs.Statements
import StackMachine.Proofs.WrittenTexts
import StackMachine.Proofs.Countdown
