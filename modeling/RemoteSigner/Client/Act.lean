import RemoteSigner.Channel.Basic

/-!
# Programs of tasks

What a task does to the channel and the lock that it shares with other tasks, one step at a time. A
program says nothing about when its steps happen: `Act.run` takes them one after another for a task that
is alone, and a session interleaves those of many tasks. A step at which a task may be cancelled goes on
with the fault `cancelled`.
-/

namespace RemoteSigner

/-- A program that ends with a value of type `ρ` or a fault. -/
inductive Act (ρ : Type) where
  | done (r : Except Fault ρ)
  | send (frame : Text) (next : Except Fault Unit → Act ρ)
  | receive (next : Reception → Act ρ)
  | close (next : Except Fault Unit → Act ρ)
  /-- Waits for the lock. -/
  | acquire (next : Except Fault Unit → Act ρ)
  /-- Gives the lock to the task that has waited for it longest. -/
  | release (next : Act ρ)
  | log (record : LogRecord) (next : Act ρ)

namespace Act

variable {α β ρ : Type}

/-- The program, and then another that goes on with how it ended. -/
def andThen : Act α → (Except Fault α → Act β) → Act β
  | done r, k => k r
  | send frame next, k => .send frame fun r => (next r).andThen k
  | receive next, k => .receive fun r => (next r).andThen k
  | close next, k => .close fun r => (next r).andThen k
  | acquire next, k => .acquire fun r => (next r).andThen k
  | release next, k => .release (next.andThen k)
  | log record next, k => .log record (next.andThen k)

/-- The program with its value changed. -/
def map (f : α → β) (a : Act α) : Act β := a.andThen fun r => .done (f <$> r)

/-- The program while holding the lock, which is given back however the program ends. -/
def locked (a : Act α) : Act α :=
  .acquire fun
    | .error f => .done (.error f)
    | .ok () => a.andThen fun r => .release (.done r)

/-- The program and then a second one however it ended; the fault of the second wins. -/
def ensuring (a : Act α) (last : Act Unit) : Act α :=
  a.andThen fun r => last.andThen fun
    | .ok () => .done r
    | .error f => .done (.error f)

/-! ## Running alone -/

/-- How a program that ran alone ended: with no result if it waits for a message that nobody sends. -/
structure Ran (κ ρ : Type) where
  result : Option (Except Fault ρ)
  state : κ
  log : List LogRecord

/-- The run with records logged before it. -/
def Ran.after {κ : Type} (before : List LogRecord) (r : Ran κ ρ) : Ran κ ρ :=
  { r with log := before ++ r.log }

/-- The program on a channel that no other task uses. -/
def run {κ : Type} (channel : Channel κ) : Act ρ → κ → Ran κ ρ
  | done r, s => ⟨some r, s, []⟩
  | send frame next, s =>
    let e := channel.send frame s
    ((next e.result).run channel e.state).after e.log
  | receive next, s =>
    let e := channel.receive false s
    match e.result with
    | some r => ((next r).run channel e.state).after e.log
    | none => ⟨none, e.state, e.log⟩
  | close next, s =>
    let e := channel.close s
    ((next e.result).run channel e.state).after e.log
  | acquire next, s => (next (.ok ())).run channel s
  | release next, s => next.run channel s
  | log record next, s => (next.run channel s).after [record]

end Act

end RemoteSigner
