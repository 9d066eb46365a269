import RemoteSigner.Client.Act

/-!
# Sessions

Many tasks over one channel and one lock. A task runs until it has to wait, for the lock or for a message;
both are granted first come, first served. What a task does may wake others, and those run in the order in
which they were woken. A woken receiver looks again: if another task has taken its message in the meantime
it queues up once more, at the end.
-/

namespace RemoteSigner

/-- What a task waits for, and how it goes on. -/
inductive Waiting (ρ : Type) where
  | lock (next : Except Fault Unit → Act ρ)
  | message (next : Reception → Act ρ)

/-- How a woken task goes on. -/
inductive Woken (ρ : Type) where
  | run (a : Act ρ)
  /-- Looks for a message again. -/
  | look (next : Reception → Act ρ)

/-- The tasks, by number, and what they share. -/
structure Session (κ ρ : Type) where
  state : κ
  /-- The tasks that want the lock, in order; the first one holds it. -/
  lockQueue : List Nat
  /-- The tasks that wait for a message, in order. -/
  receivers : List Nat
  waiting : List (Nat × Waiting ρ)
  /-- The tasks that were woken, in order. -/
  woken : List (Nat × Woken ρ)
  results : List (Nat × Except Fault ρ)
  log : List LogRecord

namespace Session

variable {κ ρ α : Type}

/-- A session without tasks. -/
def ofState (state : κ) : Session κ ρ := ⟨state, [], [], [], [], [], []⟩

/-- The task waits. -/
def wait (s : Session κ ρ) (id : Nat) (w : Waiting ρ) : Session κ ρ :=
  { s with waiting := s.waiting ++ [(id, w)] }

/-- The task is woken. -/
def wake (s : Session κ ρ) (id : Nat) (w : Woken ρ) : Session κ ρ :=
  { s with
    waiting := s.waiting.filter (·.1 != id)
    woken := s.woken ++ [(id, w)] }

/-- What the task waits for. -/
def waiting? (s : Session κ ρ) (id : Nat) : Option (Waiting ρ) :=
  (s.waiting.find? (·.1 == id)).map (·.2)

/-- The first `n` receivers are woken. -/
def wakeReceivers : Nat → Session κ ρ → Session κ ρ
  | 0, s => s
  | n + 1, s =>
    match s.receivers with
    | [] => s
    | id :: rest =>
      let s := { s with receivers := rest }
      match s.waiting? id with
      | some (.message next) => wakeReceivers n (s.wake id (.look next))
      | _ => wakeReceivers n s

/-- The task at the head of the queue gives up the lock; the next one is woken. -/
def passLock (s : Session κ ρ) : Session κ ρ :=
  let s := { s with lockQueue := s.lockQueue.tail }
  match s.lockQueue.head? with
  | none => s
  | some id =>
    match s.waiting? id with
    | some (.lock next) => s.wake id (.run (next (.ok ())))
    | _ => s

/-- The session after an operation on the channel. Each item that arrived wakes a receiver. -/
def absorb (channel : Channel κ) (s : Session κ ρ) (e : Effect κ α) : Session κ ρ :=
  let arrived := channel.backlog e.state - channel.backlog s.state
  wakeReceivers arrived { s with state := e.state, log := s.log ++ e.log }

/-- The task waits for a message, behind all other receivers. -/
def queueReceiver (s : Session κ ρ) (id : Nat) (next : Reception → Act ρ) : Session κ ρ :=
  { s with receivers := s.receivers ++ [id] }.wait id (.message next)

/-- The task runs until it ends or has to wait. -/
def advance (channel : Channel κ) (id : Nat) : Act ρ → Session κ ρ → Session κ ρ
  | .done r, s => { s with results := s.results ++ [(id, r)] }
  | .send frame next, s =>
    let e := channel.send frame s.state
    advance channel id (next e.result) (s.absorb channel e)
  | .receive next, s =>
    let e := channel.receive false s.state
    match e.result with
    | some r => advance channel id (next r) (s.absorb channel e)
    | none => (s.absorb channel e).queueReceiver id next
  | .close next, s =>
    let e := channel.close s.state
    advance channel id (next e.result) (s.absorb channel e)
  | .acquire next, s =>
    if s.lockQueue.isEmpty then
      advance channel id (next (.ok ())) { s with lockQueue := [id] }
    else { s with lockQueue := s.lockQueue ++ [id] }.wait id (.lock next)
  | .release next, s => advance channel id next s.passLock
  | .log record next, s => advance channel id next { s with log := s.log ++ [record] }

/-- A woken task goes on. -/
def resume (channel : Channel κ) (id : Nat) : Woken ρ → Session κ ρ → Session κ ρ
  | .run a, s => advance channel id a s
  | .look next, s =>
    let e := channel.receive true s.state
    match e.result with
    | some r => advance channel id (next r) (s.absorb channel e)
    | none => (s.absorb channel e).queueReceiver id next

/-- The woken tasks run in order, at most `fuel` of them. -/
def drain (channel : Channel κ) : Nat → Session κ ρ → Session κ ρ
  | 0, s => s
  | fuel + 1, s =>
    match s.woken with
    | [] => s
    | (id, w) :: rest => drain channel fuel (resume channel id w { s with woken := rest })

/-- Enough steps for operations of a client: each queues at most two items (an answer, and the end of the
stream when it closes) and gives up the lock at most twice, so it wakes at most four tasks. -/
def fuelFor (s : Session κ ρ) : Nat := 8 * (s.waiting.length + s.woken.length + 1)

/-- Every task that can run has run. -/
def settle (channel : Channel κ) (s : Session κ ρ) : Session κ ρ := drain channel s.fuelFor s

/-- A new task runs, and then every other task that can. -/
def start (channel : Channel κ) (id : Nat) (a : Act ρ) (s : Session κ ρ) : Session κ ρ :=
  (advance channel id a s).settle channel

/-- Something happens to the channel from outside, and then every task that can runs. -/
def disturb (channel : Channel κ) (f : κ → α × κ) (s : Session κ ρ) : α × Session κ ρ :=
  let (a, state) := f s.state
  (a, (s.absorb channel ⟨a, state, []⟩).settle channel)

/-- A waiting task is cancelled, and then every task that can runs; whether the task was waiting. -/
def cancel (channel : Channel κ) (id : Nat) (s : Session κ ρ) : Bool × Session κ ρ :=
  match s.waiting? id with
  | none => (false, s)
  | some (.lock next) =>
    let s := { s with lockQueue := s.lockQueue.filter (· != id) }
    (true, (s.wake id (.run (next (.error .cancelled)))).settle channel)
  | some (.message next) =>
    let s := { s with receivers := s.receivers.filter (· != id) }
    (true, (s.wake id (.run (next (.error .cancelled)))).settle channel)

/-- How the task ended, if it has. -/
def result? (s : Session κ ρ) (id : Nat) : Option (Except Fault ρ) :=
  (s.results.find? (·.1 == id)).map (·.2)

end Session

end RemoteSigner
