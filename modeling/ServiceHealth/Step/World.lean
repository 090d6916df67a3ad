import ServiceHealth.Http.Client
import ServiceHealth.Step.Context

/-!
# The world of a scenario

A step works on the world of its scenario: the session, which all scenarios of a
run have in common, and a context that is the scenario's own.  Every scenario
starts from the session of the run and an empty context.
-/

namespace ServiceHealth.Step

open Http (Client)

/-- What a run knows while its scenarios are executed. -/
structure Session where
  settings : Settings

/-- The client of a session. -/
def Session.client (session : Session) : Client :=
  Client.ofSettings session.settings

/-- What the steps of a scenario work on. -/
structure World where
  session : Session
  context : Context

namespace World

/-- The world of a scenario that has not started. -/
def fresh (session : Session) : World :=
  ⟨session, Context.empty⟩

/-- The world where something is recorded under a key, in place of what was there. -/
def recording (world : World) (key : String) (record : Record) : World :=
  ⟨world.session, world.context.set key record⟩

end World

/-- What a step comes to: whether it succeeds, and the world as it leaves it. -/
structure Conclusion where
  verdict : Except Error Unit
  world : World

end ServiceHealth.Step
