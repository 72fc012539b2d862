import Curator.Model.Perform
/-!
# Services

A service keeps one model for every resource that was asked for, with its state from one step to the
next.
-/

set_option autoImplicit false

namespace Curator

structure Service where
  engine : Engine
  database : Database
  bus : EventBus
  /-- The states of the models in use. -/
  models : Mapping ModelState

namespace Service

/-- The state of the model of a resource; a model that is not in use, or is to be a fresh one, is
idle. -/
def modelState (service : Service) (name : String) (fresh : Bool) : ModelState :=
  if fresh then .idle else (service.models.value? name).getD .idle

/-- Performs a step on the model of a resource, and gives the service as it is afterwards, the outcome
and the journal. -/
def perform (service : Service) (name : String) (fresh : Bool) (call : Call)
    (questions : List CollectionCall) : Service × Except Failure Answer × List Entry :=
  match service.engine.modelOf name with
  | .error failure => (service, .error failure, [])
  | .ok model =>
    let start : SessionState := ⟨service.database, service.bus, service.modelState name fresh⟩
    let ran := model.call questions call start
    ({ service with
        database := ran.state.database
        bus := ran.state.bus
        models := service.models.put name ran.state.model },
      ran.outcome, ran.entries)

end Service

end Curator
