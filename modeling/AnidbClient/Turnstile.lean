import AnidbClient.Limiter
import AnidbClient.Time.Clock

/-!
# The turnstile

Callers get in line before a turnstile and are let through one at a time, first come, first
served.  The one at the head of the line keeps the delay of the `Limiter`, then does its job, and
only then is the next one looked at.  However a caller leaves after it had its turn, by finishing
or by being called away in the middle, the moment is remembered as that of the last packet.

What callers do inside is a `Service`: a state they share, what a job does to it when it arrives,
enters, goes on, or is called away, and the clock by which callers sleep through their delay.

The turnstile moves by events: time passes, a caller arrives, a caller looks whether it can go on,
a caller is called away.  Which events come in which order is left open, so whatever is shown for
every run holds for every way in which calls can overlap.
-/

namespace AnidbClient

/-- A caller, by its number. -/
abbrev Caller := Nat

/-- What became of a caller that looked whether it can go on: it stays, or it leaves with a
result. -/
inductive Turn (Stay Result : Type) where
  | staying (stay : Stay)
  | leaving (result : Result)

/-- What became of the state and of a caller, with what keeps it inside in other words. -/
def Turn.rename {State Stay Stay' Result : Type} (f : Stay → Stay') :
    State × Turn Stay Result → State × Turn Stay' Result
  | (s, .staying stay) => (s, .staying (f stay))
  | (s, .leaving r) => (s, .leaving r)

/-- What is done behind the turnstile, on a state that all callers share. -/
structure Service (State Job Stay Result : Type) where
  /-- The clock by which a caller sleeps through its delay. -/
  clock : Clock
  /-- The job keeps the short delay however long the client has been active. -/
  keepsShort : Job → Bool
  /-- The caller arrives; with a result it is turned away before it gets in line. -/
  arrive : Instant → Job → State → State × Option Result
  /-- The caller goes in. -/
  enter : Instant → Job → State → State × Turn Stay Result
  /-- The caller inside looks whether it can go on. -/
  resume : Instant → Stay → State → State × Turn Stay Result
  /-- The caller inside is called away. -/
  abandon : Instant → Stay → State → State
  /-- When the caller inside can go on. -/
  due : Stay → State → Instant
  /-- How often callers can still go on without leaving, at most. -/
  stock : State → Nat

/-- What a caller wants: to do a job, or to be told the present delay. -/
inductive Ticket (Job : Type) where
  | job (j : Job)
  | delay (short : Bool)
  deriving DecidableEq

/-- What a caller leaves with. -/
inductive Outcome (Result : Type) where
  | result (r : Result)
  | delay (d : Duration)
  deriving DecidableEq

/-- How far a caller has come. -/
inductive Stage (Job Stay Result : Type) where
  /-- In line. -/
  | waiting (ticket : Ticket Job)
  /-- At the head of the line, keeping the delay until the given instant. -/
  | pacing (job : Job) (ready : Instant)
  /-- At the head of the line, doing its job. -/
  | inside (stay : Stay)
  /-- Done. -/
  | left (outcome : Outcome Result)
  /-- Called away. -/
  | gone
  deriving DecidableEq

/-- The turnstile and everyone before, in and behind it. -/
structure Turnstile (State Job Stay Result : Type) where
  now : Instant
  pace : Pace
  /-- The callers that have not left, in the order of their arrival.  The first one has its
  turn. -/
  line : List Caller
  stage : Caller → Option (Stage Job Stay Result)
  state : State

/-- What can happen at a turnstile. -/
inductive Event (Job : Type) where
  /-- Time passes. -/
  | tick (d : Duration)
  /-- A caller arrives. -/
  | call (id : Caller) (ticket : Ticket Job)
  /-- A caller looks whether it can go on. -/
  | poll (id : Caller)
  /-- A caller is called away. -/
  | drop (id : Caller)

namespace Turnstile

variable {State Job Stay Result : Type}

/-- Nobody has come yet. -/
def opened (state : State) : Turnstile State Job Stay Result where
  now := 0
  pace := .fresh
  line := []
  stage := fun _ => none
  state := state

/-- The caller has come so far. -/
def setStage (w : Turnstile State Job Stay Result) (id : Caller) (s : Stage Job Stay Result) :
    Turnstile State Job Stay Result :=
  { w with stage := fun k => if k = id then some s else w.stage k }

/-- The caller steps out of the line, and nothing is remembered of it. -/
def stepOut (w : Turnstile State Job Stay Result) (id : Caller) :
    Turnstile State Job Stay Result :=
  { w with line := w.line.erase id }

/-- The caller leaves the turnstile, and the moment is remembered. -/
def passOut (w : Turnstile State Job Stay Result) (id : Caller) :
    Turnstile State Job Stay Result :=
  { w.stepOut id with pace := w.pace.stamp w.now }

/-- The caller looked at the shared state; it stays inside or leaves. -/
def settle (w : Turnstile State Job Stay Result) (id : Caller)
    (turn : State × Turn Stay Result) : Turnstile State Job Stay Result :=
  match turn with
  | (s, .staying stay) => { w with state := s }.setStage id (.inside stay)
  | (s, .leaving r) => ({ w with state := s }.passOut id).setStage id (.left (.result r))

variable (sv : Service State Job Stay Result) (l : Limits)

/-- A caller that has not been there before arrives. -/
def call (w : Turnstile State Job Stay Result) (id : Caller) (ticket : Ticket Job) :
    Turnstile State Job Stay Result :=
  if (w.stage id).isSome then w
  else
    match ticket with
    | .delay _ => { w with line := w.line ++ [id] }.setStage id (.waiting ticket)
    | .job j =>
      match sv.arrive w.now j w.state with
      | (s, some r) => { w with state := s }.setStage id (.left (.result r))
      | (s, none) => { w with state := s, line := w.line ++ [id] }.setStage id (.waiting ticket)

/-- The caller goes in. -/
def letIn (w : Turnstile State Job Stay Result) (id : Caller) (j : Job) :
    Turnstile State Job Stay Result :=
  w.settle id (sv.enter w.now j w.state)

/-- The caller at the head of the line has its turn. -/
def takeTurn (w : Turnstile State Job Stay Result) (id : Caller) :
    Ticket Job → Turnstile State Job Stay Result
  | .delay short =>
    (w.stepOut id).setStage id (.left (.delay (w.pace.currentDelay l w.now short)))
  | .job j =>
    match w.pace.nextTurn l w.now (sv.keepsShort j) with
    | (p, none) => letIn sv { w with pace := p } id j
    | (p, some wait) =>
      { w with pace := p }.setStage id (.pacing j (w.now + sv.clock.lasts wait))

/-- The caller looks whether it can go on, and goes on as far as it can. -/
def poll (w : Turnstile State Job Stay Result) (id : Caller) : Turnstile State Job Stay Result :=
  match w.stage id with
  | some (.waiting ticket) => if w.line.head? = some id then takeTurn sv l w id ticket else w
  | some (.pacing j ready) => if ready ≤ w.now then letIn sv w id j else w
  | some (.inside stay) => w.settle id (sv.resume w.now stay w.state)
  | _ => w

/-- The caller is called away, wherever it is. -/
def drop (w : Turnstile State Job Stay Result) (id : Caller) : Turnstile State Job Stay Result :=
  match w.stage id with
  | some (.waiting _) => (w.stepOut id).setStage id .gone
  | some (.pacing _ _) => (w.passOut id).setStage id .gone
  | some (.inside stay) =>
    ({ w with state := sv.abandon w.now stay w.state }.passOut id).setStage id .gone
  | _ => w

/-- What an event does. -/
def step (w : Turnstile State Job Stay Result) : Event Job → Turnstile State Job Stay Result
  | .tick d => { w with now := w.now + d }
  | .call id ticket => w.call sv id ticket
  | .poll id => w.poll sv l id
  | .drop id => w.drop sv id

/-- What events do, one after the other. -/
def run (w : Turnstile State Job Stay Result) (events : List (Event Job)) :
    Turnstile State Job Stay Result :=
  events.foldl (step sv l) w

/-- When the caller can go on, as far as that depends on time alone. -/
def due (w : Turnstile State Job Stay Result) (id : Caller) : Option Instant :=
  match w.stage id with
  | some (.waiting _) => if w.line.head? = some id then some w.now else none
  | some (.pacing _ ready) => some ready
  | some (.inside stay) => some (sv.due stay w.state)
  | _ => none

end Turnstile

end AnidbClient
