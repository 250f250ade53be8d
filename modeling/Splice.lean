import Splice.Main
import Splice.Session
import Splice.Proofs.Accounting
import Splice.Proofs.Comments
import Splice.Proofs.Faults
import Splice.Proofs.Flattening
import Splice.Proofs.Loops
import Splice.Proofs.Origin
import Splice.Proofs.Reuse
import Splice.Proofs.Composition
import Splice.Proofs.Path.Joined
import Splice.Proofs.Rebasing
import Splice.Proofs.Tracing
import Splice.Proofs.Flags
import Splice.Proofs.Endings
import Splice.Proofs.Exclusion
import Splice.Proofs.Decoding
import Splice.Proofs.Blanks
import Splice.Proofs.Directives
import Splice.Proofs.Path.Walked
import Splice.Proofs.RootNames
import Splice.Proofs.Levels
import Splice.Proofs.Discovered
import Splice.Proofs.Spelling
import Splice.Proofs.Presets
import Splice.Proofs.Context
import Splice.Proofs.Reporting
import Splice.Proofs.Sinks
import Splice.Proofs.Relocation
import Splice.Proofs.AccountList
import Splice.Proofs.Stripped
