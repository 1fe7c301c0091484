import LlmperfOrchestrator.Runtime.FireMargins
import LlmperfOrchestrator.Storage.PlanRuns

set_option autoImplicit false

namespace LlmperfOrchestrator.Storage.Plans

open Tables Runs Runtime.Recurrence

section Previewed
variable (zones : Zones) (zone : Zone) (rows : PlanRows) (accounted : Accounted zones zone rows)
include accounted

end Previewed

theorem run_sound (zones : Zones) (transactions : List Transaction) (last : PlanTable)
    (reached : run (step zones) [] transactions = some last) : Sound zones last := by
  refine run_invariant (step zones) (Sound zones) (fun plans transaction next sound taken =>
    (step_follows zones plans next transaction sound taken).1) transactions [] last ⟨?_, List.nodup_nil⟩ reached
  intro id rows held
  cases held

end LlmperfOrchestrator.Storage.Plans
