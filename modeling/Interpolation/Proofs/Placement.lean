import Interpolation.Proofs.Anchoring

set_option autoImplicit false

namespace Interpolation

open Text

namespace Layout

end Layout

end Interpolation
