import Mathlib
import RemoteSigner.Client.Exchange

/-!
# The calls of a program

A program starts with a call on the channel, or with something that is nothing to the channel
(`Act.call?`). The channel answers a call (`Act.answer`), and the program goes on with the answer; a
program that runs alone does just that (`Act.ended_answer`). A program under the lock is one that does not
know of the lock, and then gives it back (`Act.unlocking`).
-/

namespace RemoteSigner

/-- A call made on a channel or a connection. -/
inductive Call where
  | send (frame : Text)
  | receive
  | close
  deriving DecidableEq, Repr

/-- What a call came to. -/
inductive Answer where
  | sent (frame : Text) (r : Except Fault Unit)
  | received (r : Reception)
  | closed (r : Except Fault Unit)
  /-- The caller was cancelled. -/
  | cancelled

namespace Answer

/-- The frame that the channel accepted. -/
def frame? : Answer → Option Text
  | sent frame (.ok ()) => some frame
  | _ => none

/-- The message that was received. -/
def message? : Answer → Option Message
  | received (.ok (some m)) => some m
  | _ => none

theorem message?_of_ne {r : Reception} (hr : ∀ m, r ≠ .ok (some m)) : (received r).message? = none := by
  rcases r with f | _ | m
  · rfl
  · rfl
  · exact (hr m rfl).elim

theorem of_not_message {w : Answer} {P : Message → Prop} (hw : w.message? = none) :
    ∀ m, w.message? = some m → P m := by
  intro m hm
  rw [hw] at hm
  cases hm

end Answer

/-- The channel, with a record of the calls made on it. -/
def Channel.recording {κ : Type} (channel : Channel κ) : Channel (κ × List Call) where
  send frame s :=
    let e := channel.send frame s.1
    ⟨e.result, (e.state, s.2 ++ [.send frame]), e.log⟩
  receive waited s :=
    let e := channel.receive waited s.1
    ⟨e.result, (e.state, s.2 ++ [.receive]), e.log⟩
  close s :=
    let e := channel.close s.1
    ⟨e.result, (e.state, s.2 ++ [.close]), e.log⟩
  backlog s := channel.backlog s.1

namespace Act

variable {κ α β γ ρ : Type}

/-! ## Calls and answers -/

/-- The call that the program starts with. -/
def call? : Act ρ → Option Call
  | send frame _ => some (.send frame)
  | receive _ => some .receive
  | close _ => some .close
  | _ => none

/-- What the channel makes of the call that the program starts with: how the program goes on, the state
of the channel, and the answer. There is none as long as nothing can be received. -/
def answer (channel : Channel κ) : Act ρ → κ → Option (Act ρ × κ × Answer)
  | send frame next, s =>
    let e := channel.send frame s
    some (next e.result, e.state, .sent frame e.result)
  | receive next, s =>
    let e := channel.receive false s
    e.result.map fun r => (next r, e.state, .received r)
  | close next, s =>
    let e := channel.close s
    some (next e.result, e.state, .closed e.result)
  | _, _ => none

/-- The program if it is cancelled during the call that it starts with. -/
def interrupted : Act ρ → Act ρ
  | send _ next => next (.error .cancelled)
  | receive next => next (.error .cancelled)
  | close next => next (.error .cancelled)
  | a => a

/-- How a run ended, and the state it left behind. -/
def Ran.ended (r : Ran κ ρ) : Option (Except Fault ρ) × κ := (r.result, r.state)

@[simp] theorem ended_after (log : List LogRecord) (r : Ran κ ρ) : (r.after log).ended = r.ended :=
  rfl

theorem ended_answer (channel : Channel κ) {a b : Act ρ} {s s' : κ} {w : Answer}
    (h : a.answer channel s = some (b, s', w)) : (a.run channel s).ended = (b.run channel s').ended := by
  cases a with
  | send frame next => cases h; rfl
  | receive next =>
    obtain ⟨r, hr, h⟩ := Option.map_eq_some_iff.mp h
    cases h
    rw [run]
    simp only [hr, ended_after]
  | close next => cases h; rfl
  | done | acquire | release | log => cases h

theorem answer_recording {channel : Channel κ} {a b : Act ρ} {s s' : κ} {w : Answer} {c : Call}
    (hc : a.call? = some c) (h : a.answer channel s = some (b, s', w)) (calls : List Call) :
    a.answer channel.recording (s, calls) = some (b, (s', calls ++ [c]), w) := by
  cases a with
  | send frame next => cases hc; cases h; rfl
  | receive next =>
    cases hc
    obtain ⟨r, hr, h⟩ := Option.map_eq_some_iff.mp h
    cases h
    simp only [answer, Channel.recording, hr, Option.map_some]
  | close next => cases hc; cases h; rfl
  | done | acquire | release | log => cases hc

theorem prefix_calls (channel : Channel κ) (a : Act ρ) (s : κ) (calls : List Call) :
    calls <+: (a.run channel.recording (s, calls)).state.2 := by
  induction a generalizing s calls with
  | done => exact List.prefix_refl _
  | send frame next ih => exact (List.prefix_append _ _).trans (ih _ _ _)
  | receive next ih =>
    rw [run]
    split
    · exact (List.prefix_append _ _).trans (ih _ _ _)
    · exact List.prefix_append _ _
  | close next ih => exact (List.prefix_append _ _).trans (ih _ _ _)
  | acquire next ih => exact ih _ _ _
  | release next ih => exact ih _ _
  | log record next ih => exact ih _ _

theorem prefix_call (channel : Channel κ) (a : Act ρ) (s : κ) (calls : List Call) {c : Call}
    (hc : a.call? = some c) : calls ++ [c] <+: (a.run channel.recording (s, calls)).state.2 := by
  cases a with
  | send frame next => cases hc; exact prefix_calls channel _ _ _
  | receive next =>
    cases hc
    rw [run]
    split
    · exact prefix_calls channel _ _ _
    · exact List.prefix_refl _
  | close next => cases hc; exact prefix_calls channel _ _ _
  | done | acquire | release | log => cases hc

/-! ## Programs one after another -/

theorem andThen_assoc (a : Act α) (k : Except Fault α → Act β) (l : Except Fault β → Act γ) :
    (a.andThen k).andThen l = a.andThen fun r => (k r).andThen l := by
  induction a with
  | done => rfl
  | send _ _ ih => simp only [andThen, ih]
  | receive _ ih => simp only [andThen, ih]
  | close _ ih => simp only [andThen, ih]
  | acquire _ ih => simp only [andThen, ih]
  | release _ ih => simp only [andThen, ih]
  | log _ _ ih => simp only [andThen, ih]

/-- Programs that do not touch the lock. -/
def LockFree : Act ρ → Prop
  | done _ => True
  | send _ next => ∀ r, (next r).LockFree
  | receive next => ∀ r, (next r).LockFree
  | close next => ∀ r, (next r).LockFree
  | acquire _ => False
  | release _ => False
  | log _ next => next.LockFree

theorem LockFree.andThen {a : Act α} {k : Except Fault α → Act β} (ha : a.LockFree)
    (hk : ∀ r, (k r).LockFree) : (a.andThen k).LockFree := by
  induction a with
  | done r => exact hk r
  | send _ _ ih => exact fun r => ih r (ha r)
  | receive _ ih => exact fun r => ih r (ha r)
  | close _ ih => exact fun r => ih r (ha r)
  | acquire => exact ha.elim
  | release => exact ha.elim
  | log _ _ ih => exact ih ha

theorem LockFree.map {a : Act α} (ha : a.LockFree) (f : α → β) : (a.map f).LockFree :=
  ha.andThen fun _ => trivial

theorem LockFree.of_answer {channel : Channel κ} {a b : Act ρ} {s s' : κ} {w : Answer}
    (ha : a.LockFree) (h : a.answer channel s = some (b, s', w)) : b.LockFree := by
  cases a with
  | send => cases h; exact ha _
  | receive =>
    obtain ⟨r, -, h⟩ := Option.map_eq_some_iff.mp h
    cases h
    exact ha r
  | close => cases h; exact ha _
  | done | acquire | release | log => cases h

theorem LockFree.interrupted {a : Act ρ} (ha : a.LockFree) : a.interrupted.LockFree := by
  cases a with
  | send => exact ha _
  | receive => exact ha _
  | close => exact ha _
  | done | acquire | release | log => exact ha

/-! ## Programs under the lock -/

/-- The program, after which the lock is given back. -/
def unlocking (a : Act ρ) : Act ρ := a.andThen fun r => .release (.done r)

/-- How a program under the lock goes on once it has the lock, or is cancelled. -/
def granted (a : Act ρ) : Except Fault Unit → Act ρ
  | .error f => .done (.error f)
  | .ok () => a.unlocking

theorem locked_eq (a : Act ρ) : a.locked = .acquire a.granted := rfl

theorem call?_unlocking (a : Act ρ) : a.unlocking.call? = a.call? := by
  cases a <;> rfl

theorem answer_unlocking (channel : Channel κ) (a : Act ρ) (s : κ) :
    a.unlocking.answer channel s =
      (a.answer channel s).map fun (b, s', w) => (b.unlocking, s', w) := by
  cases a with
  | receive next =>
    show Option.map _ _ = Option.map _ (Option.map _ _)
    rw [Option.map_map]
    rfl
  | done | send | close | acquire | release | log => rfl

theorem interrupted_unlocking {a : Act ρ} {c : Call} (h : a.call? = some c) :
    a.unlocking.interrupted = a.interrupted.unlocking := by
  cases a with
  | send | receive | close => rfl
  | done | acquire | release | log => cases h

/-- Programs that hold the lock, and give it back at the end. -/
def Holding (a : Act ρ) : Prop := ∃ b : Act ρ, b.LockFree ∧ a = b.unlocking

theorem LockFree.holding {a : Act ρ} (ha : a.LockFree) : a.unlocking.Holding := ⟨a, ha, rfl⟩

theorem not_holding_done (r : Except Fault ρ) : ¬ (done r : Act ρ).Holding := by
  rintro ⟨a, -, h⟩
  cases a <;> cases h

theorem not_holding_acquire (next : Except Fault Unit → Act ρ) : ¬ (acquire next).Holding := by
  rintro ⟨a, ha, h⟩
  cases a with
  | acquire => exact ha
  | done | send | receive | close | release | log => cases h

/-- The lock is given back by a program that is done otherwise. -/
theorem Holding.done_of_release {next : Act ρ} (h : (release next).Holding) :
    ∃ r, next = .done r := by
  obtain ⟨a, ha, h⟩ := h
  cases a with
  | done r => cases h; exact ⟨r, rfl⟩
  | release => exact ha.elim
  | send | receive | close | acquire | log => cases h

theorem Holding.of_log {record : LogRecord} {next : Act ρ} (h : (log record next).Holding) :
    next.Holding := by
  obtain ⟨a, ha, h⟩ := h
  cases a with
  | log _ b => cases h; exact ⟨b, ha, rfl⟩
  | done | send | receive | close | acquire | release => cases h

theorem Holding.of_answer {channel : Channel κ} {a b : Act ρ} {s s' : κ} {w : Answer}
    (ha : a.Holding) (h : a.answer channel s = some (b, s', w)) : b.Holding := by
  obtain ⟨a, ha, rfl⟩ := ha
  rw [answer_unlocking] at h
  obtain ⟨⟨b, s', w⟩, hb, h⟩ := Option.map_eq_some_iff.mp h
  cases h
  exact ⟨b, ha.of_answer hb, rfl⟩

theorem Holding.interrupted {a : Act ρ} (ha : a.Holding) {c : Call} (hc : a.call? = some c) :
    a.interrupted.Holding := by
  obtain ⟨a, ha, rfl⟩ := ha
  rw [call?_unlocking] at hc
  rw [interrupted_unlocking hc]
  exact ha.interrupted.holding

theorem ended_unlocking (channel : Channel κ) (a : Act ρ) (s : κ) :
    (a.unlocking.run channel s).ended = (a.run channel s).ended := by
  induction a generalizing s with
  | done r => rfl
  | send frame next ih => exact ih _ _
  | receive next ih =>
    show Ran.ended (run channel (.receive fun r => (next r).unlocking) s) = _
    rw [run, run]
    split
    · exact ih _ _
    · rfl
  | close next ih => exact ih _ _
  | acquire next ih => exact ih _ _
  | release next ih => exact ih _
  | log record next ih => exact ih _

theorem locked_map (f : α → β) (a : Act α) : a.locked.map f = (a.map f).locked := by
  have hgranted : (fun r => (a.granted r).andThen fun r => .done (f <$> r)) = (a.map f).granted := by
    funext r
    cases r with
    | error e => rfl
    | ok =>
      show (a.andThen _).andThen _ = (a.andThen _).andThen _
      rw [andThen_assoc, andThen_assoc]
      rfl
  rw [locked_eq, locked_eq, ← hgranted]
  rfl

end Act

namespace Client

variable {α : Type}

/-! ## Operations of a client -/

theorem lockFree_failed (command : Command) (f : Fault) : (failed command f : Act α).LockFree := by
  cases f <;> trivial

theorem lockFree_close : close.LockFree := fun _ => trivial

variable [Readers]

theorem lockFree_concluded (command : Command) (shape : Shape α) (m : Option Message) :
    (concluded command shape m).LockFree := by
  unfold concluded
  split
  · trivial
  · split_ifs
    · split <;> trivial
    · trivial

theorem lockFree_exchange (command : Command) (request : Datum) (shape : Shape α) :
    (exchange command request shape).LockFree := by
  unfold exchange
  split
  · trivial
  · intro r
    cases r with
    | error f => exact lockFree_failed command f
    | ok =>
      intro r
      cases r with
      | error f => exact lockFree_failed command f
      | ok m => exact lockFree_concluded command shape m

theorem lockFree_call (command : Command) (request : Datum) : (call command request).LockFree :=
  lockFree_exchange command request command.reply.shape

end Client

end RemoteSigner
