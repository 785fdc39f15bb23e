import RowGate.Proofs.Client.RoundTrip

set_option autoImplicit false

namespace RowGate.Builder

end RowGate.Builder
