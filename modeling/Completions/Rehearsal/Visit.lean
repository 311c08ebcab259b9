import Completions.Http.Server
import Completions.Rehearsal.Session

/-!
Visits to a server in rehearsal: each is a demand, and may have other visits made while its answer is
on its way.
-/

namespace Completions.Rehearsal

mutual

inductive Visit where
  | visit (demand : Http.Demand) (clock : List Float) (during : Visits)

inductive Visits where
  | none
  | cons (first : Visit) (rest : Visits)

end

inductive Report where
  | report (response : Http.Response) (during : List Report)

abbrev Hall := Http.House World

mutual

def Visit.perform (sv : Http.Server World) : Visit → Hall → Report × Hall
  | .visit demand clock during, h =>
    let h := { h with station := h.station.mapWorld fun w => w.beginRun none clock }
    let ((response, inner), h) := sv.handle stamp demand (during.perform sv) h
    (.report response inner, h)

def Visits.perform (sv : Http.Server World) : Visits → Hall → List Report × Hall
  | .none, h => ([], h)
  | .cons first rest, h =>
    let (report, h) := first.perform sv h
    let (reports, h) := rest.perform sv h
    (report :: reports, h)

end

end Completions.Rehearsal
