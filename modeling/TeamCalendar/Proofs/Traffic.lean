import TeamCalendar.Proofs.Protocol

/-!
# Traffic

Many requests are on their way at once, on one store in memory.  Each question of a request is a
step of its own, and any request may take the next step.  A request that has to wait for an open
transaction takes no step meanwhile.  A request may be abandoned at any time, and its transaction is
rolled back.

* `Traffic.advance?` is a step of one request, and `Traffic.Reachable` says what traffic can come of
  an empty store.
* `Serial` is what requests do that are carried out one after another, each of them alone.
-/

namespace TeamCalendar

/-- A request on its way. -/
structure Flight where
  visit : Visit
  /-- What has been asked and answered so far. -/
  past : Talk
  /-- What is still to be done. -/
  rest : Dialogue Surroundings (Except Refusal Reply)
  /-- Where new identifiers came from when the transaction was opened. -/
  ids : IdSource

/-- A request that has been committed. -/
structure Landing where
  visit : Visit
  /-- Where new identifiers came from when the transaction was opened. -/
  ids : IdSource

/-- The identifier that an event gets, if the request creates one. -/
def Landing.eventId (landing : Landing) : EventId :=
  landing.ids.draw.1

/-- Requests on their way, and the store that they share. -/
structure Traffic where
  store : Store
  flights : Nat → Option Flight := fun _ => none
  /-- The requests that have been committed, the latest one first. -/
  landed : List Landing := []

namespace Flight

/-- A request that has just arrived. -/
def arriving (visit : Visit) (ids : IdSource) : Flight where
  visit := visit
  past := []
  rest := ExceptT.run visit.service
  ids := ids

/-- The scene that a request finds, given the store. -/
def scene (flight : Flight) (store : Store) : Scene where
  store := store
  asked := flight.past.questions

/-- What is kept of a request that commits. -/
def landing (flight : Flight) : Landing where
  visit := flight.visit
  ids := flight.ids

/-- A request after an exchange. -/
def hear (flight : Flight) (exchange : Exchange)
    (rest : Dialogue Surroundings (Except Refusal Reply)) (store : Store) : Flight where
  visit := flight.visit
  past := exchange :: flight.past
  rest := rest
  ids := if exchange.turn? = some .inside then store.ids else flight.ids

end Flight

/-- Whether a question would have a new event stored under an identifier that is in use. -/
def Surroundings.Question.isStale (q : Surroundings.Question) (store : Store) : Bool :=
  match q with
  | storage (.insertEvent _) => store.committed.events.contains (store.ids.draw : EventId × IdSource).1
  | _ => false

namespace Traffic

/-- Sets a request on its way, or takes it off. -/
def put (t : Traffic) (index : Nat) (flight? : Option Flight) : Nat → Option Flight :=
  Function.update t.flights index flight?

/-- The traffic after a request has arrived. -/
def arrive (t : Traffic) (index : Nat) (visit : Visit) : Traffic :=
  { t with flights := t.put index (some (.arriving visit t.store.ids)) }

/-- The traffic after a request has asked a question and been answered. -/
def hear (t : Traffic) (index : Nat) (flight : Flight) (exchange : Exchange)
    (rest : Dialogue Surroundings (Except Refusal Reply)) (store : Store) : Traffic where
  store := store
  flights := t.put index (some (flight.hear exchange rest t.store))
  landed := if exchange.turn? = some .settled then flight.landing :: t.landed else t.landed

/-- The traffic after a step of a request; none if the request is at its end, has to wait, or would
have an event stored under an identifier that is in use. -/
def advance? (t : Traffic) (index : Nat) : Option Traffic :=
  (t.flights index).bind fun flight =>
    match flight.rest with
    | .done _ => none
    | .ask q next =>
      if q.isStale t.store then none
      else (Scene.answer flight.visit.collaborators q (flight.scene t.store)).map fun outcome =>
        t.hear index flight ⟨q, outcome.1⟩ (next outcome.1) outcome.2.store

/-- The traffic after a request has been abandoned. -/
def abandon (t : Traffic) (index : Nat) (flight : Flight) : Traffic :=
  { t with
    store := if flight.past.phase = .inside then t.store.rollback else t.store
    flights := t.put index none }

/-- The traffic after the writing of attendance has been made to fail, or no longer. -/
def switch (t : Traffic) (failing : Bool) : Traffic :=
  { t with store := t.store.setFailing failing }

/-- The traffic that can come of an empty store. -/
inductive Reachable : Traffic → Prop where
  | start {store : Store} (hempty : store.committed = {}) (hfree : store.staged = none) :
    Reachable { store }
  | arrive {t : Traffic} (h : Reachable t) {index : Nat} (visit : Visit)
    (hfree : t.flights index = none) : Reachable (t.arrive index visit)
  | advance {t t' : Traffic} (h : Reachable t) {index : Nat} (hstep : t.advance? index = some t') :
    Reachable t'
  | abandon {t : Traffic} (h : Reachable t) {index : Nat} {flight : Flight}
    (hflight : t.flights index = some flight) : Reachable (t.abandon index flight)
  | switch {t : Traffic} (h : Reachable t) (failing : Bool) : Reachable (t.switch failing)

end Traffic

/-- The scene of a request that is alone with a store. -/
def Scene.alone (tables : Tables) (ids : IdSource) : Scene where
  store := { committed := tables, ids }

/-- The tables that come of carrying out requests one after another, each of them alone.  The latest
one comes first. -/
inductive Serial : List Landing → Tables → Prop where
  | start : Serial [] {}
  | land {landed : List Landing} {tables : Tables} {landing : Landing} {reply : Reply} {s' : Scene}
    (h : Serial landed tables)
    (hfresh : ∀ new, landing.visit.operation = .create new →
      tables.events[landing.eventId]? = none)
    (hcarried : (Scene.alone tables landing.ids).carryOut landing.visit = some (.ok reply, s')) :
    Serial (landing :: landed) s'.store.committed

end TeamCalendar
