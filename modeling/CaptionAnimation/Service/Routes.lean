import CaptionAnimation.Selection.Output
import CaptionAnimation.Service.Address
import CaptionAnimation.Service.Body
import CaptionAnimation.Service.Transport

/-! # Routes

The service answers requests against one session: the state of the service, validation, application, statistics and
clearing. The session is opened by the first request that needs it. A body that does not have the required shape is
answered with the places that do not fit. -/
namespace CaptionAnimation.Service

structure Request where
  method : String
  address : String
  body : Option Value := none

inductive Response where
  /-- Done. -/
  | ok (body : Value)
  /-- Refused with a reason. -/
  | refused (status : Nat) (detail : String)
  /-- The body does not have the required shape. -/
  | misfit (places : List Misfit)

def Response.status : Response → Nat
  | ok _ => 200
  | refused status _ => status
  | misfit _ => 422

inductive Route where
  | health
  | validate
  | apply
  | clear
  | stats
deriving DecidableEq, Repr

namespace Route

def path : Route → String
  | health => "/health"
  | validate => "/api/v1/templates/validate"
  | apply => "/api/v1/templates/apply"
  | clear => "/api/v1/cache"
  | stats => "/api/v1/stats"

def method : Route → String
  | health | stats => "GET"
  | validate | apply => "POST"
  | clear => "DELETE"

def all : List Route := [health, validate, apply, clear, stats]

/-- The route of an address. -/
def ofAddress? (address : String) : Option Route :=
  let path := Address.path address
  all.find? fun r => r.path == path

end Route

/-- A body of a given shape. -/
def readBody (shape : Shape) (body : Option Value) : Reading :=
  match body with
  | none | some .null => .error [⟨["body"], .missing⟩]
  | some v => shape.read ["body"] v

/-- What the service says about itself. -/
def health : Value := .record [("status", .text "healthy"), ("version", .text version)]

/-- Applies the template of a body of the right shape. -/
def applyBody (s : Session) (body : Value) : Except Fault (Session × Response) := do
  let part (name : String) : Value := body.entries?.elim .null fun entries => Value.getOrNull entries name
  match Options.ofValue s.settings (part "options") with
  | .error f => if f.category = .value then return (s, .refused 400 f.message) else throw f
  | .ok options =>
    let template ← Template.ofValue (part "template")
    let transcript ← Transcript.ofValue (part "audioData")
    let (s, result) := s.apply (.finished template) (.transcript transcript) (.finished options)
    return (s, .ok (← result.toMap))

/-- Answers on a route that needs the session. -/
def answerOn (s : Session) (route : Route) (body : Option Value) : Except Fault (Session × Response) :=
  match route with
  | .health => .ok (s, .ok health)
  | .stats => .ok (s, .ok s.toMap)
  | .clear => .ok (s.clear, .ok (.record [("cleared", .bool true)]))
  | .validate =>
    match readBody Body.template body with
    | .error places => .ok (s, .misfit places)
    | .ok v => .ok (s, .ok (s.validate (.plain v)).toMap)
  | .apply =>
    match readBody Body.applyRequest body with
    | .error places => .ok (s, .misfit places)
    | .ok v => applyBody s v

/-- A service with its session, once that is open. -/
structure Host where
  /-- The session to begin with, or why there is none. -/
  opening : Except Fault Session
  session : Option Session := none

/-- Answers a request. A fault is an answer that the service does not give. -/
def Host.answer (h : Host) (r : Request) : Except Fault (Host × Response) := do
  let body ← r.body.mapM Transport.arrived
  match Route.ofAddress? r.address with
  | none => return (h, .refused 404 "Not Found")
  | some route =>
    if route.method != Address.method r.method then return (h, .refused 405 "Method Not Allowed")
    else if route = .health then return (h, .ok health)
    else
      let s ← h.session.elim h.opening .ok
      let (s, response) ← answerOn s route body
      return ({ h with session := some s }, response)

end CaptionAnimation.Service
