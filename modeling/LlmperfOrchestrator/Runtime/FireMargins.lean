import LlmperfOrchestrator.Runtime.Fires
import Mathlib.Tactic.Linarith

set_option autoImplicit false

namespace LlmperfOrchestrator.Runtime.Recurrence

open Rounding Binary64 Arithmetic

end LlmperfOrchestrator.Runtime.Recurrence
