import NativeLinkage.Proofs.Command.FileTree
import NativeLinkage.Proofs.Manifest.SingleLine
import NativeLinkage.Proofs.Session.Batch

set_option autoImplicit false

namespace NativeLinkage.Command
open Manifest Unicode

section
variable {t : ExportTable} {e : Entry} {es : List Entry} {r : Request}

end

end NativeLinkage.Command
