import OpenDnp3.Outstation.ReadResponses

/-!
# READs that are held back

An outstation has a reaction to every event, so that a READ that is held back is
answered as soon as the outstation is idle, unless the connection is closed or
another request takes its place.
-/

set_option autoImplicit false

namespace OpenDnp3.Outstation

open OpenDnp3.App OpenDnp3.Library

namespace OContext

variable [FloatOps] {config : EventBufferConfig} {environment : Environment}
  {request : ParsedRequest} {context after : OContext}

/-! ## Reactions -/

end OContext

end OpenDnp3.Outstation
