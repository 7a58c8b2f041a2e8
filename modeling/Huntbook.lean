import Huntbook.Main
import Huntbook.Proofs.Added
import Huntbook.Proofs.Astray
import Huntbook.Proofs.Coverage
import Huntbook.Proofs.Cutoff
import Huntbook.Proofs.Escapes
import Huntbook.Proofs.Fences
import Huntbook.Proofs.Gaps
import Huntbook.Proofs.Headers
import Huntbook.Proofs.Identity
import Huntbook.Proofs.Imported
import Huntbook.Proofs.Listed
import Huntbook.Proofs.Overview
import Huntbook.Proofs.Packed
import Huntbook.Proofs.Pipeline
import Huntbook.Proofs.Questions
import Huntbook.Proofs.References
import Huntbook.Proofs.Resolved
import Huntbook.Proofs.Settings
import Huntbook.Proofs.Spelling
import Huntbook.Proofs.Tested
import Huntbook.Proofs.Traces
import Huntbook.Proofs.Updated
import Huntbook.Proofs.Wildcards
import Huntbook.Starter.Writer
