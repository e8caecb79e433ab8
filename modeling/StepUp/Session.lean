import StepUp.Audit.Sink
import StepUp.Config.Basic

/-!
# Sessions

A session is a run of requests against one chain: named request contexts and targets that live
across steps, a store of authentications that may grow, and the audit sink. Each step answers,
writes records and audit events, and changes at most the context and the target it names.
-/

namespace StepUp

/-- The host's authentication store, as far as a session knows it. -/
inductive SessionStore where
  | absent
  | entries (list : List (Text × Authentication))
  | failing (f : HostFailure)

namespace SessionStore

def store? : SessionStore → Option AuthenticationStore
  | .absent => none
  | .entries list => some (.ofList list)
  | .failing f => some (.failing f)

/-- A later authentication replaces the one behind the same ticket. -/
def add (s : SessionStore) (ticket : Text) (a : Authentication) : SessionStore :=
  match s with
  | .entries list => .entries ((ticket, a) :: list)
  | other => other

end SessionStore

structure Session where
  /-- The chain over a store. -/
  assemble : Option AuthenticationStore → Chain
  services : ServiceDirectory
  store : SessionStore
  sink : Option AuditSink
  attempts : Nat := 0
  contexts : List (Text × RequestContext) := []
  targets : List (Text × Option TargetService) := []

inductive SessionStep where
  | request (context : Text) (c : RequestContext)
  | target (target : Text) (t : TargetService)
  | extract (context target : Text) (protocols : List ProtocolArguments)
  | resolve (context target : Text) (principal : Option Principal)
  | verify (method : Option Text) (context target : Text)
  | attach (target : Text) (r : Requirement)
  | showTarget (target : Text)
  | chain
  | addAuthentication (ticket : Text) (a : Authentication)
  | getAuthentication (ticket : Text)
  | findService (id : Text)
  | setParameter (context name : Text) (value : Json)
  | setFlow (context name : Text) (value : Json)
  | getParameter (context name : Text)
  | getTicket (context : Text)
  | setMarker (context : Text)
  | hasMarker (context : Text)

inductive SessionReply where
  | done
  | target (t : Option TargetService)
  | requirement (r : Option Requirement)
  | flag (b : Bool)
  | text (t : Option Text)
  | noTarget
  | resolvers (list : List (Text × Source))
  | principal (p : Option Principal)

inductive SessionFault where
  | unknownName (name : Text)
  | resolution (f : ResolutionFault)
  | rejected (r : Rejection)
  | attach (f : AttachFault)
  | host (f : HostFailure)
  | noStore

structure SessionReaction where
  answer : Except SessionFault SessionReply
  records : List LogRecord := []
  audit : List AuditEvent := []

namespace Session

/-- Replace the entry of a name in its place, or add one. -/
def putNamed {α : Type} (name : Text) (a : α) : List (Text × α) → List (Text × α)
  | [] => [(name, a)]
  | (n, b) :: rest => if n = name then (n, a) :: rest else (n, b) :: putNamed name a rest

def putContext (s : Session) (name : Text) (c : RequestContext) : Session :=
  { s with contexts := putNamed name c s.contexts }

def putTarget (s : Session) (name : Text) (t : Option TargetService) : Session :=
  { s with targets := putNamed name t s.targets }

def chain (s : Session) : Chain := s.assemble s.store.store?

def reply (s : Session) (r : SessionReply) : Session × SessionReaction := (s, ⟨.ok r, [], []⟩)

def refuse (s : Session) (f : SessionFault) : Session × SessionReaction := (s, ⟨.error f, [], []⟩)

/-- Go on with the context of a name. -/
def withContext (s : Session) (name : Text)
    (k : RequestContext → Session × SessionReaction) : Session × SessionReaction :=
  match s.contexts.lookup name with
  | some c => k c
  | none => s.refuse (.unknownName name)

/-- Go on with the target of a name, which may be none. -/
def withTarget (s : Session) (name : Text)
    (k : Option TargetService → Session × SessionReaction) : Session × SessionReaction :=
  match s.targets.lookup name with
  | some t => k t
  | none => s.refuse (.unknownName name)

/-- Resolve, write the audit event and keep the context and the target that result. -/
def resolve (s : Session) (context target : Text) (a : Option Authentication)
    (c : RequestContext) (t : Option TargetService) : Session × SessionReaction :=
  let r := s.chain.resolve a t c
  let delivery := Delivery.of s.sink s.attempts r.event
  let s' := (s.putContext context r.context).putTarget target r.target
  let answer := match r.answer with
    | .ok requirement => .ok (.requirement requirement)
    | .error f => .error (.resolution f)
  ({ s' with attempts := delivery.attempts },
    ⟨answer, r.records ++ delivery.records, delivery.written⟩)

def verify (s : Session) (method : Option Text) (context : Text) (c : RequestContext)
    (t : TargetService) : Session × SessionReaction :=
  let v := s.chain.verifier.verify method t c
  let answer := match v.verdict with
    | .supported => .ok (.flag true)
    | .suppressed => .ok (.flag false)
    | .rejected r => .error (.rejected r)
  (s.putContext context v.context, ⟨answer, v.records, []⟩)

def step (s : Session) : SessionStep → Session × SessionReaction
  | .request context c => (s.putContext context c).reply .done
  | .target target t => (s.putTarget target (some t)).reply .done
  | .extract context target protocols =>
    s.withContext context fun c =>
      let t := c.target? protocols
      (s.putTarget target t).reply (.target t)
  | .resolve context target principal =>
    s.withContext context fun c =>
      s.withTarget target fun t =>
        s.resolve context target (principal.map Authentication.mk) c t
  | .verify method context target =>
    s.withTarget target fun t =>
      match t with
      | none => s.reply .noTarget
      | some t => s.withContext context fun c => s.verify method context c t
  | .attach target r =>
    s.withTarget target fun t =>
      match t with
      | none => s.reply .noTarget
      | some t =>
        match t.attach? r with
        | .ok t => (s.putTarget target (some t)).reply (.target (some t))
        | .error f => s.refuse (.attach f)
  | .showTarget target => s.withTarget target fun t => s.reply (.target t)
  | .chain => s.reply (.resolvers (s.chain.resolvers.map fun r => (r.name, r.source)))
  | .addAuthentication ticket a =>
    match s.store with
    | .entries _ => ({ s with store := s.store.add ticket a }).reply .done
    | _ => s.refuse .noStore
  | .getAuthentication ticket =>
    match s.store.store? with
    | none => s.refuse .noStore
    | some store =>
      match store.find ticket with
      | .ok a => s.reply (.principal (a.map Authentication.principal))
      | .error f => s.refuse (.host f)
  | .findService id =>
    match s.services.find id with
    | .ok d => s.reply (.text (d.map ServiceDefinition.id))
    | .error f => s.refuse (.host f)
  | .setParameter context name value =>
    s.withContext context fun c => (s.putContext context (c.setParameter name value)).reply .done
  | .setFlow context name value =>
    s.withContext context fun c => (s.putContext context (c.setFlow name value)).reply .done
  | .getParameter context name =>
    s.withContext context fun c => s.reply (.text (c.parameter? name))
  | .getTicket context => s.withContext context fun c => s.reply (.text c.ticket?)
  | .setMarker context =>
    s.withContext context fun c =>
      let (fresh, c) := c.mark
      (s.putContext context c).reply (.flag fresh)
  | .hasMarker context => s.withContext context fun c => s.reply (.flag c.marker)

/-- Take the steps in turn; each reaction comes with the session after it. -/
def run (s : Session) : List SessionStep → List (Session × SessionReaction)
  | [] => []
  | step :: rest =>
    let (next, reaction) := s.step step
    (next, reaction) :: run next rest

end Session

end StepUp
