import JumpLint.Main
import JumpLint.Workbench
import JumpLint.Proofs.CommandLine.Lapse
import JumpLint.Proofs.Dump.RoundTrip
import JumpLint.Proofs.Critic.Limit
import JumpLint.Proofs.Policy.Protocol
import JumpLint.Proofs.Profile.Filtering
import JumpLint.Proofs.Goto.Assembly
import JumpLint.Proofs.Goto.Index
import JumpLint.Proofs.Goto.Respacing
import JumpLint.Proofs.Report.Parts
import JumpLint.Proofs.Yaml.Errors
import JumpLint.Proofs.CommandLine.Printing
import JumpLint.Proofs.Report.Summary
import JumpLint.Proofs.Critic.Failure
import JumpLint.Proofs.Profile.Choice
import JumpLint.Proofs.CommandLine.Overrides
import JumpLint.Proofs.Dump.Spelling
import JumpLint.Proofs.Profile.Configuration
import JumpLint.Proofs.Profile.Shorthand
import JumpLint.Proofs.Critic.Passage
import JumpLint.Proofs.Severity.Spelling
import JumpLint.Proofs.Workbench.Links
import JumpLint.Proofs.Workbench.Ownership
import JumpLint.Proofs.Workbench.Construction
import JumpLint.Proofs.Workbench.Walking
import JumpLint.Proofs.Text.Pieces
import JumpLint.Proofs.Yaml.Typed
import JumpLint.Proofs.Loading.Profiles
import JumpLint.Proofs.Profile.Unwritable
