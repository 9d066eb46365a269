import Mathlib
import RemoteSigner.Proofs.Client.Programs

/-!
# Tasks that share a client

Any number of tasks issue operations on one client that they share. A `Pool` is what they have come to: a
task runs its program one step at a time, and between two steps of one task any other may run. A call on
the channel takes three steps: it is made, the channel answers, and it returns.

Whoever makes a call holds the lock: that is what `Guarded` says, and no step changes it
(`Guarded.step`), nor does the cancellation of a task (`Guarded.cancel`).
-/

namespace RemoteSigner

/-- An operation of a client. -/
inductive Operation where
  | call (command : Command) (request : Datum)
  | close

/-- What an operation gives. -/
inductive Reply where
  | value (command : Command) (v : command.reply.Value)
  | closed

namespace Operation

variable [Readers]

/-- The operation of a client that is shared with other tasks, or of one that is not. -/
def act (shared : Bool) : Operation → Act Reply
  | call command request => (Client.sharing shared (Client.call command request)).map (.value command)
  | close => (Client.sharing shared Client.close).map fun _ => .closed

theorem lockFree_act (op : Operation) : (op.act false).LockFree := by
  cases op with
  | call command request => exact (Client.lockFree_call command request).map _
  | close => exact Client.lockFree_close.map _

theorem act_shared (op : Operation) : op.act true = (op.act false).locked := by
  cases op <;> exact Act.locked_map _ _

end Operation

/-! ## Steps of tasks -/

/-- Where a task is. -/
inductive Place where
  /-- Between two operations. -/
  | idle
  | running (a : Act Reply)
  /-- Has asked for the lock. -/
  | queued (next : Except Fault Unit → Act Reply)
  /-- Has made the call that `a` starts with. -/
  | calling (a : Act Reply)
  /-- The channel has answered the call that `a` starts with; the task will go on with `b`. -/
  | returning (a b : Act Reply)

/-- A task: what it has yet to ask the lock for, where it is, and how its operations ended. -/
structure Task where
  todo : List Operation
  place : Place
  results : List (Except Fault Reply)

/-- The tasks, by number, what they share, and what has happened so far. -/
structure Pool (κ : Type) where
  state : κ
  /-- The tasks that want the lock, in order; the first one holds it. -/
  queue : List Nat
  tasks : Nat → Task
  /-- Every operation that has asked for the lock, in order, with its task. -/
  requested : List (Nat × Operation)
  /-- Every call made on the channel, in order. -/
  calls : List Call
  /-- What every call came to, in order, with the task that made it and the number of operations of the
  task that had ended by then. -/
  answers : List ((Nat × Nat) × Answer)

namespace Pool

variable {κ : Type} {p q : Pool κ} {i j : Nat}

/-- A pool of tasks that are about to issue the operations of a script. -/
def initial (s : κ) (script : Nat → List Operation) : Pool κ :=
  ⟨s, [], fun i => ⟨script i, .idle, []⟩, [], [], []⟩

/-- The pool with a task replaced. -/
def set (p : Pool κ) (i : Nat) (t : Task) : Pool κ := { p with tasks := Function.update p.tasks i t }

/-- The pool with a task at another place. -/
def move (p : Pool κ) (i : Nat) (place : Place) : Pool κ := p.set i { p.tasks i with place := place }

/-- The operation that a task is at: the task, and how many of its operations have ended. -/
def turn (p : Pool κ) (i : Nat) : Nat × Nat := (i, (p.tasks i).results.length)

/-- Task `i` is cancelled while it waits for the lock, or in a call, before or after the channel has
answered. -/
inductive Cancel (p : Pool κ) (i : Nat) : Pool κ → Prop where
  | queued {next : Except Fault Unit → Act Reply} (hplace : (p.tasks i).place = .queued next) :
      Cancel p i
        { p.move i (.running (next (.error .cancelled))) with queue := p.queue.filter (· != i) }
  | calling {a : Act Reply} (hplace : (p.tasks i).place = .calling a) :
      Cancel p i
        { p.move i (.running a.interrupted) with answers := p.answers ++ [(p.turn i, .cancelled)] }
  | returning {a b : Act Reply} (hplace : (p.tasks i).place = .returning a b) :
      Cancel p i
        { p.move i (.running a.interrupted) with answers := p.answers ++ [(p.turn i, .cancelled)] }

@[simp] theorem set_tasks_self (t : Task) : (p.set i t).tasks i = t := Function.update_self ..

@[simp] theorem move_tasks_self (place : Place) :
    (p.move i place).tasks i = { p.tasks i with place := place } := Function.update_self ..

theorem set_tasks_of_ne (h : j ≠ i) (t : Task) : (p.set i t).tasks j = p.tasks j :=
  Function.update_of_ne h ..

theorem move_tasks_of_ne (h : j ≠ i) (place : Place) : (p.move i place).tasks j = p.tasks j :=
  Function.update_of_ne h ..

/-- What a new task has in common with the old one, all tasks have. -/
theorem congr_set {α : Type} (f : Task → α) {t : Task} (h : f t = f (p.tasks i)) (j : Nat) :
    f ((p.set i t).tasks j) = f (p.tasks j) := by
  by_cases hji : j = i
  · rw [hji, set_tasks_self, h]
  · rw [set_tasks_of_ne hji]

variable [Readers]

/-- A step of task `i`. -/
inductive Step (channel : Channel κ) (p : Pool κ) (i : Nat) : Pool κ → Prop where
  | start {op : Operation} {rest : List Operation} (hplace : (p.tasks i).place = .idle)
      (htodo : (p.tasks i).todo = op :: rest) : Step channel p i (p.move i (.running (op.act true)))
  | request {next : Except Fault Unit → Act Reply} {op : Operation} {rest : List Operation}
      (hplace : (p.tasks i).place = .running (.acquire next))
      (htodo : (p.tasks i).todo = op :: rest) :
      Step channel p i
        { p.set i { p.tasks i with todo := rest, place := .queued next } with
          queue := p.queue ++ [i]
          requested := p.requested ++ [(i, op)] }
  | grant {next : Except Fault Unit → Act Reply} (hplace : (p.tasks i).place = .queued next)
      (hhead : p.queue.head? = some i) : Step channel p i (p.move i (.running (next (.ok ()))))
  | call {a : Act Reply} {c : Call} (hplace : (p.tasks i).place = .running a)
      (hcall : a.call? = some c) :
      Step channel p i { p.move i (.calling a) with calls := p.calls ++ [c] }
  | answer {a b : Act Reply} {s : κ} {w : Answer} (hplace : (p.tasks i).place = .calling a)
      (hanswer : a.answer channel p.state = some (b, s, w)) :
      Step channel p i
        { p.move i (.returning a b) with state := s, answers := p.answers ++ [(p.turn i, w)] }
  | resume {a b : Act Reply} (hplace : (p.tasks i).place = .returning a b) :
      Step channel p i (p.move i (.running b))
  | log {record : LogRecord} {next : Act Reply}
      (hplace : (p.tasks i).place = .running (.log record next)) :
      Step channel p i (p.move i (.running next))
  | release {next : Act Reply} (hplace : (p.tasks i).place = .running (.release next)) :
      Step channel p i { p.move i (.running next) with queue := p.queue.tail }
  | finish {r : Except Fault Reply} (hplace : (p.tasks i).place = .running (.done r)) :
      Step channel p i
        (p.set i { p.tasks i with place := .idle, results := (p.tasks i).results ++ [r] })

/-- What tasks can come to from `p` if none of them is cancelled, in any order of their steps. -/
def Reaches (channel : Channel κ) : Pool κ → Pool κ → Prop :=
  Relation.ReflTransGen fun p q => ∃ i, Step channel p i q

end Pool

/-! ## The lock -/

variable [Readers]

/-- Places of tasks that neither hold the lock nor wait for it. -/
def Place.Outside (todo : List Operation) : Place → Prop
  | idle => True
  | running a => (∃ op rest, todo = op :: rest ∧ a = op.act true) ∨ ∃ r, a = .done r
  | _ => False

/-- Places of tasks that wait for the lock. -/
def Place.Waits : Place → Prop
  | queued next => ∃ op : Operation, next = (op.act false).granted
  | _ => False

/-- Places of tasks that hold the lock. -/
def Place.Inside : Place → Prop
  | running a => a.Holding
  | calling a => a.Holding ∧ ∃ c, a.call? = some c
  | returning a b => a.Holding ∧ (∃ c, a.call? = some c) ∧ b.Holding
  | _ => False

/-- Only the first task in the queue is past the lock, and only tasks in the queue want it. -/
structure Guarded {κ : Type} (p : Pool κ) : Prop where
  nodup : p.queue.Nodup
  outside : ∀ i ∉ p.queue, (p.tasks i).place.Outside (p.tasks i).todo
  inside : ∀ i ∈ p.queue,
    (p.tasks i).place.Waits ∨ p.queue.head? = some i ∧ (p.tasks i).place.Inside

namespace Guarded

variable {κ : Type} {channel : Channel κ} {p q : Pool κ} {i j : Nat}

theorem initial (s : κ) (script : Nat → List Operation) : Guarded (Pool.initial s script) :=
  ⟨List.nodup_nil, fun _ _ => trivial, fun _ h => nomatch h⟩

/-! ### Where a task is, by what it is about to do -/

/-- A task is outside, waits, or is inside; which of them are possible is seen from its place. -/
theorem of_place (h : Guarded p) {place : Place} (hplace : (p.tasks i).place = place) :
    (i ∉ p.queue ∧ place.Outside (p.tasks i).todo) ∨ (i ∈ p.queue ∧ place.Waits) ∨
      (p.queue.head? = some i ∧ place.Inside) := by
  rw [← hplace]
  by_cases hi : i ∈ p.queue
  · exact .inr ((h.inside i hi).imp_left fun hw => ⟨hi, hw⟩)
  · exact .inl ⟨hi, h.outside i hi⟩

theorem not_mem_of_idle (h : Guarded p) (hplace : (p.tasks i).place = .idle) : i ∉ p.queue := by
  rcases h.of_place hplace with ⟨hi, -⟩ | ⟨-, ⟨⟩⟩ | ⟨-, ⟨⟩⟩
  exact hi

theorem of_queued (h : Guarded p) {next : Except Fault Unit → Act Reply}
    (hplace : (p.tasks i).place = .queued next) :
    i ∈ p.queue ∧ ∃ op : Operation, next = (op.act false).granted := by
  rcases h.of_place hplace with ⟨-, ⟨⟩⟩ | hw | ⟨-, ⟨⟩⟩
  exact hw

theorem of_running (h : Guarded p) {a : Act Reply} (hplace : (p.tasks i).place = .running a)
    (hacquire : ∀ next, a ≠ .acquire next) (hdone : ∀ r, a ≠ .done r) :
    p.queue.head? = some i ∧ a.Holding := by
  rcases h.of_place hplace with ⟨-, ⟨op, rest, -, rfl⟩ | ⟨r, rfl⟩⟩ | ⟨-, ⟨⟩⟩ | hin
  · exact (hacquire _ (op.act_shared.trans (Act.locked_eq _))).elim
  · exact (hdone r rfl).elim
  · exact hin

theorem of_acquire (h : Guarded p) {next : Except Fault Unit → Act Reply}
    (hplace : (p.tasks i).place = .running (.acquire next)) :
    i ∉ p.queue ∧ ∃ op rest, (p.tasks i).todo = op :: rest ∧ next = (op.act false).granted := by
  rcases h.of_place hplace with ⟨hi, ⟨op, rest, htodo, ha⟩ | ⟨r, ⟨⟩⟩⟩ | ⟨-, ⟨⟩⟩ | ⟨-, hin⟩
  · rw [op.act_shared, Act.locked_eq] at ha
    cases ha
    exact ⟨hi, op, rest, htodo, rfl⟩
  · exact (Act.not_holding_acquire next hin).elim

theorem not_mem_of_done (h : Guarded p) {r : Except Fault Reply}
    (hplace : (p.tasks i).place = .running (.done r)) : i ∉ p.queue := by
  rcases h.of_place hplace with ⟨hi, -⟩ | ⟨-, ⟨⟩⟩ | ⟨-, hin⟩
  · exact hi
  · exact (Act.not_holding_done r hin).elim

theorem of_call (h : Guarded p) {a : Act Reply} (hplace : (p.tasks i).place = .running a) {c : Call}
    (hc : a.call? = some c) : p.queue.head? = some i ∧ a.Holding :=
  h.of_running hplace (fun next ha => by rw [ha] at hc; cases hc) fun r ha => by
    rw [ha] at hc; cases hc

theorem of_calling (h : Guarded p) {a : Act Reply} (hplace : (p.tasks i).place = .calling a) :
    p.queue.head? = some i ∧ a.Holding ∧ ∃ c, a.call? = some c := by
  rcases h.of_place hplace with ⟨-, ⟨⟩⟩ | ⟨-, ⟨⟩⟩ | hin
  exact hin

theorem of_returning (h : Guarded p) {a b : Act Reply}
    (hplace : (p.tasks i).place = .returning a b) :
    p.queue.head? = some i ∧ a.Holding ∧ (∃ c, a.call? = some c) ∧ b.Holding := by
  rcases h.of_place hplace with ⟨-, ⟨⟩⟩ | ⟨-, ⟨⟩⟩ | hin
  exact hin

/-! ### Steps -/

theorem move_inside (h : Guarded p) (hhead : p.queue.head? = some i) {place : Place}
    (hplace : place.Inside) : Guarded (p.move i place) := by
  refine ⟨h.nodup, ?_, ?_⟩
  · intro j hj
    have hne : j ≠ i := by
      rintro rfl
      exact hj (List.mem_of_head? hhead)
    rw [Pool.move_tasks_of_ne hne]
    exact h.outside j hj
  · intro j hj
    by_cases hji : j = i
    · rw [hji, Pool.move_tasks_self]
      exact .inr ⟨hhead, hplace⟩
    · rw [Pool.move_tasks_of_ne hji]
      exact h.inside j hj

theorem set_outside (h : Guarded p) (hi : i ∉ p.queue) {t : Task} (ht : t.place.Outside t.todo) :
    Guarded (p.set i t) := by
  refine ⟨h.nodup, ?_, ?_⟩
  · intro j hj
    by_cases hji : j = i
    · rw [hji, Pool.set_tasks_self]
      exact ht
    · rw [Pool.set_tasks_of_ne hji]
      exact h.outside j hj
  · intro j hj
    have hne : j ≠ i := by
      rintro rfl
      exact hi hj
    rw [Pool.set_tasks_of_ne hne]
    exact h.inside j hj

theorem enqueue (h : Guarded p) (hi : i ∉ p.queue) {t : Task} (ht : t.place.Waits) :
    Guarded { p.set i t with queue := p.queue ++ [i] } := by
  refine ⟨?_, ?_, ?_⟩
  · exact List.nodup_append_comm.mp (List.nodup_cons.mpr ⟨hi, h.nodup⟩)
  · intro j hj
    obtain ⟨hj, hne⟩ : j ∉ p.queue ∧ j ≠ i := by simpa using hj
    show Place.Outside ((p.set i t).tasks j).todo _
    rw [Pool.set_tasks_of_ne hne]
    exact h.outside j hj
  · intro j hj
    show Place.Waits ((p.set i t).tasks j).place ∨ _
    by_cases hji : j = i
    · rw [hji, Pool.set_tasks_self]
      exact .inl ht
    · rw [Pool.set_tasks_of_ne hji]
      have hj : j ∈ p.queue := by simpa [hji] using hj
      refine (h.inside j hj).imp_right fun ⟨hhead, hin⟩ => ⟨?_, hin⟩
      show (p.queue ++ [i]).head? = some j
      rw [List.head?_append, hhead]
      rfl

theorem dequeue (h : Guarded p) {t : Task} (ht : t.place.Outside t.todo) :
    Guarded { p.set i t with queue := p.queue.filter (· != i) } := by
  refine ⟨h.nodup.filter _, ?_, ?_⟩
  · intro j hj
    show Place.Outside ((p.set i t).tasks j).todo _
    by_cases hji : j = i
    · rw [hji, Pool.set_tasks_self]
      exact ht
    · rw [Pool.set_tasks_of_ne hji]
      exact h.outside j fun hj' => hj (List.mem_filter.mpr ⟨hj', by simpa using hji⟩)
  · intro j hj
    obtain ⟨hj, hne⟩ : j ∈ p.queue ∧ j ≠ i := by simpa using hj
    show Place.Waits ((p.set i t).tasks j).place ∨ _
    rw [Pool.set_tasks_of_ne hne]
    refine (h.inside j hj).imp_right fun ⟨hhead, hin⟩ => ⟨?_, hin⟩
    show (p.queue.filter (· != i)).head? = some j
    obtain ⟨rest, hrest⟩ := List.head?_eq_some_iff.mp hhead
    rw [hrest, List.filter_cons_of_pos (by simpa using hne)]
    rfl

theorem tail_eq_filter (h : Guarded p) (hhead : p.queue.head? = some i) :
    p.queue.tail = p.queue.filter (· != i) := by
  obtain ⟨rest, hrest⟩ := List.head?_eq_some_iff.mp hhead
  have hnodup := h.nodup
  rw [hrest] at hnodup ⊢
  have hi : i ∉ rest := (List.nodup_cons.mp hnodup).1
  rw [List.filter_cons_of_neg (by simp), List.filter_eq_self.mpr]
  · rfl
  · intro j hj
    have hne : j ≠ i := fun hji => hi (hji ▸ hj)
    simpa using hne

theorem of_eq (h : Guarded p) (hqueue : q.queue = p.queue) (htasks : q.tasks = p.tasks) :
    Guarded q := by
  obtain ⟨hnodup, hout, hin⟩ := h
  refine ⟨?_, ?_, ?_⟩ <;> rw [hqueue]
  · exact hnodup
  · rw [htasks]; exact hout
  · rw [htasks]; exact hin

/-- No step of a task changes who is past the lock. -/
theorem step (h : Guarded p) (hstep : Pool.Step channel p i q) : Guarded q := by
  cases hstep with
  | @start op rest hplace htodo =>
    have hout : Place.Outside (p.tasks i).todo (.running (op.act true)) := .inl ⟨op, rest, htodo, rfl⟩
    exact h.set_outside (h.not_mem_of_idle hplace) hout
  | @request _ _ rest hplace =>
    obtain ⟨hi, op, -, -, rfl⟩ := h.of_acquire hplace
    have hw : Place.Waits (.queued (op.act false).granted) := ⟨op, rfl⟩
    exact (h.enqueue hi (t := ⟨rest, _, (p.tasks i).results⟩) hw).of_eq rfl rfl
  | grant hplace hhead =>
    obtain ⟨-, op, rfl⟩ := h.of_queued hplace
    exact h.move_inside hhead op.lockFree_act.holding
  | @call a c hplace hcall =>
    obtain ⟨hhead, ha⟩ := h.of_call hplace hcall
    have hin : Place.Inside (.calling a) := ⟨ha, c, hcall⟩
    exact (h.move_inside hhead hin).of_eq rfl rfl
  | @answer a b s w hplace hanswer =>
    obtain ⟨hhead, ha, hc⟩ := h.of_calling hplace
    have hin : Place.Inside (.returning a b) := ⟨ha, hc, ha.of_answer hanswer⟩
    exact (h.move_inside hhead hin).of_eq rfl rfl
  | resume hplace =>
    obtain ⟨hhead, -, -, hb⟩ := h.of_returning hplace
    exact h.move_inside hhead hb
  | log hplace =>
    obtain ⟨hhead, ha⟩ := h.of_running hplace nofun nofun
    exact h.move_inside hhead ha.of_log
  | release hplace =>
    obtain ⟨hhead, ha⟩ := h.of_running hplace nofun nofun
    obtain ⟨r, rfl⟩ := ha.done_of_release
    have hout : Place.Outside (p.tasks i).todo (.running (.done r)) := .inr ⟨r, rfl⟩
    exact (h.dequeue (t := ⟨_, _, (p.tasks i).results⟩) hout).of_eq (h.tail_eq_filter hhead) rfl
  | finish hplace => exact h.set_outside (h.not_mem_of_done hplace) trivial

/-- Neither does the cancellation of a task. -/
theorem cancel (h : Guarded p) (hcancel : Pool.Cancel p i q) : Guarded q := by
  cases hcancel with
  | queued hplace =>
    obtain ⟨-, op, rfl⟩ := h.of_queued hplace
    have hout : Place.Outside (p.tasks i).todo (.running (.done (.error .cancelled))) :=
      .inr ⟨_, rfl⟩
    exact h.dequeue (t := ⟨_, _, (p.tasks i).results⟩) hout
  | @calling a hplace =>
    obtain ⟨hhead, ha, c, hc⟩ := h.of_calling hplace
    have hin : Place.Inside (.running a.interrupted) := ha.interrupted hc
    exact (h.move_inside hhead hin).of_eq rfl rfl
  | @returning a b hplace =>
    obtain ⟨hhead, ha, ⟨c, hc⟩, -⟩ := h.of_returning hplace
    have hin : Place.Inside (.running a.interrupted) := ha.interrupted hc
    exact (h.move_inside hhead hin).of_eq rfl rfl

end Guarded

end RemoteSigner
