import AnidbClient.Turnstile

/-!
# The timeline

A script of errands, played before a turnstile on a clock that moves only while everyone waits
and then jumps to the next instant at which someone can go on.

The errands of a group start together, each after a delay of its own, and the next group starts
when all of them have ended.  At one instant the unfinished errands are looked at in the order of
the group, again and again until none of them can go on.  An errand may be called off some time
after it began; what ends at that very instant has ended.  The delay of an errand is slept through
by the clock of the service; the time at which it is called off is a deadline.
-/

namespace AnidbClient

/-- What is to be done. -/
inductive Deed (Job : Type) where
  | sleep (d : Duration)
  /-- Looks at the shared state. -/
  | observe
  | call (ticket : Ticket Job)

/-- Something to be done at a certain time. -/
structure Errand (Job : Type) where
  /-- The delay after which it begins. -/
  after : Duration
  /-- The time after which it is called off, counted from when it began. -/
  patience : Option Duration
  deed : Deed Job

/-- What an errand brought. -/
inductive Report (State Result : Type) where
  | slept
  | observed (s : State)
  | outcome (o : Outcome Result)
  | cancelled

/-- How far an errand has come. -/
inductive Progress (State Result : Type) where
  | scheduled (start : Instant)
  | sleeping (begun wake : Instant)
  | calling (begun : Instant)
  | ended (begun closed : Instant) (report : Report State Result)

/-- An errand on its way; its caller has a number of its own. -/
structure Task (State Job Result : Type) where
  id : Caller
  errand : Errand Job
  progress : Progress State Result

/-- A group of errands after its end, with the turnstile as it then was. -/
structure Scene (State Job Stay Result : Type) where
  tasks : List (Task State Job Result)
  after : Turnstile State Job Stay Result

namespace Timeline

variable {State Job Stay Result : Type} (sv : Service State Job Stay Result) (l : Limits)

/-- When a task that began at the given instant is called off. -/
def calledOffAt (t : Task State Job Result) (begun : Instant) : Option Instant :=
  t.errand.patience.map (begun + ·)

/-- Begins a task that is due. -/
def start (w : Turnstile State Job Stay Result) (t : Task State Job Result) :
    Turnstile State Job Stay Result × Task State Job Result :=
  match t.progress with
  | .scheduled start =>
    if start ≤ w.now then
      match t.errand.deed with
      | .sleep d => (w, { t with progress := .sleeping w.now (w.now + sv.clock.lasts d) })
      | .observe => (w, { t with progress := .ended w.now w.now (.observed w.state) })
      | .call ticket => (w.step sv l (.call t.id ticket), { t with progress := .calling w.now })
    else (w, t)
  | _ => (w, t)

/-- Lets a task go on as far as it can. -/
def proceed (w : Turnstile State Job Stay Result) (t : Task State Job Result) :
    Turnstile State Job Stay Result × Task State Job Result :=
  match t.progress with
  | .sleeping begun wake =>
    if wake ≤ w.now then (w, { t with progress := .ended begun w.now .slept }) else (w, t)
  | .calling begun =>
    let w := w.step sv l (.poll t.id)
    match w.stage t.id with
    | some (.left o) => (w, { t with progress := .ended begun w.now (.outcome o) })
    | _ => (w, t)
  | _ => (w, t)

/-- Calls off a task whose time is over. -/
def callOff (w : Turnstile State Job Stay Result) (t : Task State Job Result) :
    Turnstile State Job Stay Result × Task State Job Result :=
  let isOver (begun : Instant) : Bool := (calledOffAt t begun).any (· ≤ w.now)
  match t.progress with
  | .sleeping begun _ =>
    if isOver begun then (w, { t with progress := .ended begun w.now .cancelled }) else (w, t)
  | .calling begun =>
    if isOver begun then
      (w.step sv l (.drop t.id), { t with progress := .ended begun w.now .cancelled })
    else (w, t)
  | _ => (w, t)

/-- Looks at one task. -/
def visit (w : Turnstile State Job Stay Result) (t : Task State Job Result) :
    Turnstile State Job Stay Result × Task State Job Result :=
  let (w, t) := start sv l w t
  let (w, t) := proceed sv l w t
  callOff sv l w t

/-- Looks at every task, in order. -/
def pass (w : Turnstile State Job Stay Result) :
    List (Task State Job Result) → Turnstile State Job Stay Result × List (Task State Job Result)
  | [] => (w, [])
  | t :: rest =>
    let (w, t) := visit sv l w t
    let (w, rest) := pass w rest
    (w, t :: rest)

/-- The instants at which a task may go on. -/
def wakes (w : Turnstile State Job Stay Result) (t : Task State Job Result) : List Instant :=
  match t.progress with
  | .scheduled start => [start]
  | .sleeping begun wake => wake :: (calledOffAt t begun).toList
  | .calling begun => (w.due sv t.id).toList ++ (calledOffAt t begun).toList
  | .ended .. => []

/-- The clock jumps to an instant, unless that is over. -/
def jump (w : Turnstile State Job Stay Result) (next : Instant) :
    Turnstile State Job Stay Result :=
  w.step sv l (.tick (next - w.now))

/-- Plays a group to its end, in at most the given number of passes. -/
def play : Nat → Turnstile State Job Stay Result → List (Task State Job Result) →
    Turnstile State Job Stay Result × List (Task State Job Result)
  | 0, w, tasks => (w, tasks)
  | passes + 1, w, tasks =>
    let (w, tasks) := pass sv l w tasks
    match (tasks.flatMap (wakes sv w)).min? with
    | none => (w, tasks)
    | some next => play passes (jump sv l w next) tasks

/-- Enough passes for a group.  Each pass but the first takes at least one task a stage further,
of which there are five, or uses up some of the stock. -/
def passBound (w : Turnstile State Job Stay Result) (errands : List (Errand Job)) : Nat :=
  5 * errands.length + sv.stock w.state + 1

/-- Plays one group; its callers are numbered from `first` on. -/
def playGroup (w : Turnstile State Job Stay Result) (first : Caller)
    (errands : List (Errand Job)) : Scene State Job Stay Result :=
  let tasks := errands.mapIdx fun i errand =>
    ⟨first + i, errand, .scheduled (w.now + sv.clock.lasts errand.after)⟩
  let (w, tasks) := play sv l (passBound sv w errands) w tasks
  ⟨tasks, w⟩

/-- Plays one group after the other. -/
def playAll (w : Turnstile State Job Stay Result) (first : Caller) :
    List (List (Errand Job)) → List (Scene State Job Stay Result)
  | [] => []
  | errands :: rest =>
    let scene := playGroup sv l w first errands
    scene :: playAll scene.after (first + errands.length) rest

end Timeline

end AnidbClient
