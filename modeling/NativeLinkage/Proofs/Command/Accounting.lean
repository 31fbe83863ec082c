import NativeLinkage.Proofs.Command.Delivery
import NativeLinkage.Proofs.Session.Order
import NativeLinkage.Proofs.Source.Agreement

set_option autoImplicit false

namespace NativeLinkage

namespace ExportTable

end ExportTable

namespace Command
open Manifest Unicode

namespace Production

end Production

end Command

namespace Source

end Source

namespace Command
open Manifest Unicode

namespace Job

end Job

end Command

end NativeLinkage
