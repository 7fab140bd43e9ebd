import LoopScript.FileSystem
import LoopScript.Main
import LoopScript.Proofs.Grammar.Lookahead
import LoopScript.Proofs.Grammar.Demand
import LoopScript.Proofs.Grammar.Answer
import LoopScript.Proofs.Grammar.Decision
import LoopScript.Proofs.Grammar.Order
import LoopScript.Proofs.Grammar.Acceptance
import LoopScript.Proofs.Grammar.Completion
import LoopScript.Proofs.Grammar.Failure
import LoopScript.Proofs.Grammar.Nesting
import LoopScript.Proofs.Grammar.Limit
import LoopScript.Proofs.Grammar.Refusal
import LoopScript.Proofs.Grammar.Calls
import LoopScript.Proofs.Grammar.Progress
import LoopScript.Proofs.Grammar.Descent
import LoopScript.Proofs.Lexical.Layout
import LoopScript.Proofs.Lexical.Extent
import LoopScript.Proofs.Lexical.FirstToken
import LoopScript.Proofs.Lexical.Pending
import LoopScript.Proofs.Lexical.Account
import LoopScript.Proofs.Lexical.Acceptance
import LoopScript.Proofs.Lexical.Letters
import LoopScript.Proofs.Lexical.Name
import LoopScript.Proofs.Lexical.Boundary
import LoopScript.Proofs.Lexical.Obstacle
import LoopScript.Proofs.Lexical.Closing
import LoopScript.Proofs.Lexical.Conservation
import LoopScript.Proofs.Lexical.Reachable
import LoopScript.Proofs.Lexical.LineEnding
import LoopScript.Proofs.Validation
import LoopScript.Proofs.Grammar.LineBreak
import LoopScript.Proofs.Lexical.Trailing
import LoopScript.Proofs.Report.Decoder
import LoopScript.Proofs.Report.RoundTrip
import LoopScript.Proofs.Report.Message
import LoopScript.Proofs.Report.Listing
import LoopScript.Proofs.Report.Lines
import LoopScript.Proofs.Files.Path
import LoopScript.Proofs.Files.Scripts
import LoopScript.Proofs.Files.Reading
import LoopScript.Proofs.Batch
import LoopScript.Proofs.CommandLine.Inputs
