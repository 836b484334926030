import Lockstep.Main
import Lockstep.Proofs.Checker.Amount
import Lockstep.Proofs.Checker.Conduct
import Lockstep.Proofs.Checker.Independence
import Lockstep.Proofs.Checker.Locality
import Lockstep.Proofs.Checker.Retry
import Lockstep.Proofs.Checker.Verdict
import Lockstep.Proofs.Command.Conclusion
import Lockstep.Proofs.Command.Validation
import Lockstep.Proofs.Register.History
import Lockstep.Proofs.Register.Relevance
import Lockstep.Proofs.Remote.Attachment
import Lockstep.Proofs.Remote.Breakpoints
import Lockstep.Proofs.Remote.Corruption
import Lockstep.Proofs.Remote.Outgoing
import Lockstep.Proofs.Remote.Passing
import Lockstep.Proofs.Remote.Removals
import Lockstep.Proofs.Remote.Resumption
import Lockstep.Proofs.Remote.Sampling
import Lockstep.Proofs.Remote.Spelling
import Lockstep.Proofs.Remote.Stops
import Lockstep.Proofs.Telemetry.Accounts
import Lockstep.Proofs.Trace.Display
