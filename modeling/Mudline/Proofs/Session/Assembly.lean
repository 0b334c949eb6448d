import Mudline.Proofs.Session.Turn
import Mudline.Proofs.Text.Pieces
import Mathlib.Data.List.Forall2

/-!
# Lines out of chunks

What a session shows in its main window comes in parts that need not end where lines end. The part
of a line that is not complete is carried from chunk to chunk. So the lines that the scripts are
offered are those of all that was shown, however it was divided.
-/

namespace Mudline.Session

/-- What a happening shows in the main window. -/
def shownBy (s : Session) : Happening → Text
  | .ingest chunk =>
    match (s.read chunk).2 with
    | .ok commands => mainText commands
    | .error _ => []
  | _ => []

/-- What a course shows in the main window. -/
def shown (s : Session) : List Happening → Text
  | [] => []
  | e :: rest => s.shownBy e ++ (s.happen e).shown rest

/-- The lines that a happening offers to the scripts. -/
def offeredBy (s : Session) : Happening → List Text
  | .ingest chunk =>
    match (s.read chunk).2 with
    | .ok _ => s.linesOf chunk
    | .error _ => []
  | _ => []

/-- The lines that a course offers to the scripts. -/
def offered (s : Session) : List Happening → List Text
  | [] => []
  | e :: rest => s.offeredBy e ++ (s.happen e).offered rest

end Mudline.Session
