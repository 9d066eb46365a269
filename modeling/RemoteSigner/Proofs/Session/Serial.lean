import Mathlib
import RemoteSigner.Channel.Mock
import RemoteSigner.Proofs.Session.Interleaving

/-!
# Tasks that share a client take turns

Whatever the order of their steps, tasks that share a client do to the channel what one task would do that
issues the operations one after another, in the order in which they asked for the lock
(`Pool.serializable`). The invariant `Serial` splits the operations that asked for the lock into those that
had it and those that want it. Those that had it are `serve`d: each was alone on the channel. The first of
the others may have begun, and follows its run alone (`Follows`).
-/

namespace RemoteSigner

variable {κ : Type}

/-! ## What a task is in the middle of -/

/-- Programs that are about to receive. -/
def Act.Expects {ρ : Type} : Act ρ → Prop
  | receive _ => True
  | log _ next => next.Expects
  | _ => False

namespace Place

/-- Places of tasks in a call, or between sending and receiving. -/
def Midway : Place → Prop
  | running a => a.Expects
  | calling _ => True
  | returning _ _ => True
  | _ => False

/-- The result that a task at this place has come to, if it has. -/
def result? : Place → Option (Except Fault Reply)
  | running (.done r) => some r
  | _ => none

theorem result?_running {a : Act Reply} (ha : ∀ r, a ≠ .done r) : (running a).result? = none := by
  cases a with
  | done r => exact (ha r rfl).elim
  | send | receive | close | acquire | release | log => rfl

theorem Inside.result? {place : Place} (h : place.Inside) : place.result? = none := by
  cases place with
  | running a =>
    refine result?_running ?_
    rintro r rfl
    exact Act.not_holding_done r h
  | idle | queued | calling | returning => rfl

end Place

/-- How the operations of the task ended that have ended. -/
def Task.ended (t : Task) : List (Except Fault Reply) := t.results ++ t.place.result?.toList

section

variable [Readers]

/-! ## One task -/

/-- Operations of a client that is not shared, one after another: how each ended and the calls it made,
and the state of the channel afterwards. There is none if one of them does not end. -/
def serve (channel : Channel κ) (ops : List Operation) (s : κ) :
    Option (List (Except Fault Reply × List Call) × κ) :=
  ops.foldlM (fun (done, s) op =>
    let ran := (op.act false).run channel.recording (s, [])
    ran.result.map fun r => (done ++ [(r, ran.state.2)], ran.state.1)) ([], s)

theorem serve_concat {channel : Channel κ} {ops : List Operation} {op : Operation} {s s₁ s₂ : κ}
    {done : List (Except Fault Reply × List Call)} {r : Except Fault Reply} {u : List Call}
    (hserve : serve channel ops s = some (done, s₁))
    (hrun : ((op.act false).run channel.recording (s₁, [])).ended = (some r, (s₂, u))) :
    serve channel (ops ++ [op]) s = some (done ++ [(r, u)], s₂) := by
  obtain ⟨hresult, hstate⟩ := Prod.mk.inj hrun
  unfold serve at hserve ⊢
  rw [List.foldlM_append, hserve]
  simp [hresult, hstate]

theorem length_of_serve {channel : Channel κ} {ops : List Operation} {s s₁ : κ}
    {done : List (Except Fault Reply × List Call)} (h : serve channel ops s = some (done, s₁)) :
    done.length = ops.length := by
  induction ops using List.reverseRecOn generalizing done s₁ with
  | nil => cases h; rfl
  | append_singleton ops op ih =>
    unfold serve at h ih
    rw [List.foldlM_append] at h
    obtain ⟨⟨done', s'⟩, hdone, h⟩ := Option.bind_eq_some_iff.mp h
    obtain ⟨r, -, rfl, rfl⟩ : ∃ r, _ = some r ∧ done' ++ [(r, _)] = done ∧ _ = s₁ := by simpa using h
    rw [List.length_append, List.length_append, ih hdone]
    rfl

/-! ## Who has come to a result -/

theorem Place.Waits.result? {place : Place} (h : place.Waits) : place.result? = none := by
  cases place with
  | running a => cases h
  | idle | queued | calling | returning => rfl

theorem Guarded.result?_of_mem {p : Pool κ} (h : Guarded p) {i : Nat} (hi : i ∈ p.queue) :
    (p.tasks i).place.result? = none := by
  rcases h.inside i hi with hw | ⟨-, hin⟩
  · exact hw.result?
  · exact hin.result?

theorem Guarded.eq_of_midway {p : Pool κ} (h : Guarded p) {i j : Nat}
    (hi : (p.tasks i).place.Midway) (hj : (p.tasks j).place.Midway) : i = j := by
  have hhead : ∀ k, (p.tasks k).place.Midway → p.queue.head? = some k := by
    intro k hk
    cases hplace : (p.tasks k).place with
    | running a =>
      rw [hplace] at hk
      refine (h.of_running hplace ?_ ?_).1
      · rintro next rfl; exact hk
      · rintro r rfl; exact hk
    | calling a => exact (h.of_calling hplace).1
    | returning a b => exact (h.of_returning hplace).1
    | idle | queued _ => rw [hplace] at hk; cases hk
  exact Option.some.inj ((hhead i hi).symm.trans (hhead j hj))

/-! ## Following a run -/

/-- A task at a place of the operation has made the calls `u`, starting from the state `s₁`, and will end
as the operation ends that runs alone from there. -/
def Follows (channel : Channel κ) (s₁ : κ) (op : Operation) (s : κ) (u : List Call) : Place → Prop
  | .idle => False
  | .queued next => next = (op.act false).granted ∧ s = s₁ ∧ u = []
  | .running a => (a.run channel.recording (s, u)).ended =
      ((op.act false).run channel.recording (s₁, [])).ended
  | .calling a => ∃ c u', a.call? = some c ∧ u = u' ++ [c] ∧
      (a.run channel.recording (s, u')).ended =
        ((op.act false).run channel.recording (s₁, [])).ended
  | .returning _ b => (b.run channel.recording (s, u)).ended =
      ((op.act false).run channel.recording (s₁, [])).ended

theorem Follows.prefix_calls {channel : Channel κ} {s₁ s : κ} {op : Operation} {u : List Call}
    {place : Place} (h : Follows channel s₁ op s u place) :
    u <+: ((op.act false).run channel.recording (s₁, [])).state.2 := by
  have hof : ∀ (a : Act Reply) (v : List Call), (a.run channel.recording (s, v)).ended =
      ((op.act false).run channel.recording (s₁, [])).ended →
      (a.run channel.recording (s, v)).state.2 =
        ((op.act false).run channel.recording (s₁, [])).state.2 := fun a v he =>
    congrArg (fun e => e.2.2) he
  cases place with
  | idle => exact h.elim
  | queued next => rw [h.2.2]; exact List.nil_prefix
  | running a => rw [← hof a u h]; exact a.prefix_calls channel s u
  | calling a =>
    obtain ⟨c, u', hc, rfl, he⟩ := h
    rw [← hof a u' he]
    exact a.prefix_call channel s u' hc
  | returning a b => rw [← hof b u h]; exact b.prefix_calls channel s u

/-! ## The invariant -/

/-- The operations in `served` had the lock, ended as in `done`, and left the channel in the state `s₁`;
those in `pending` want it, and the first of them has made the calls `u`. -/
structure Serial (channel : Channel κ) (s₀ : κ) (script : Nat → List Operation) (p : Pool κ)
    (served pending : List (Nat × Operation)) (done : List (Except Fault Reply × List Call)) (s₁ : κ)
    (u : List Call) : Prop where
  guarded : Guarded p
  requested : p.requested = served ++ pending
  queue : p.queue = pending.map Prod.fst
  serve : serve channel (served.map Prod.snd) s₀ = some (done, s₁)
  calls : p.calls = done.flatMap Prod.snd ++ u
  free : pending = [] → p.state = s₁ ∧ u = []
  holder : ∀ e ∈ pending.head?, Follows channel s₁ e.2 p.state u (p.tasks e.1).place
  waiting : ∀ e ∈ pending.tail, (p.tasks e.1).place = .queued (e.2.act false).granted
  ended : ∀ i, (p.tasks i).ended = ((served.zip done).filter (·.1.1 == i)).map (·.2.1)
  todo : ∀ i, script i = (p.requested.filter (·.1 == i)).map Prod.snd ++ (p.tasks i).todo

namespace Serial

variable {channel : Channel κ} {s₀ s₁ : κ} {script : Nat → List Operation} {p q : Pool κ}
  {served pending : List (Nat × Operation)} {done : List (Except Fault Reply × List Call)}
  {u : List Call} {i : Nat}

theorem initial (channel : Channel κ) (s : κ) (script : Nat → List Operation) :
    Serial channel s script (Pool.initial s script) [] [] [] s [] :=
  ⟨.initial s script, rfl, rfl, rfl, rfl, fun _ => ⟨rfl, rfl⟩, nofun, nofun, fun _ => rfl,
    fun _ => rfl⟩

theorem ne_of_mem (h : Serial channel s₀ script p served pending done s₁ u) (hi : i ∉ p.queue) :
    ∀ e ∈ pending, e.1 ≠ i := by
  rintro e he rfl
  exact hi (h.queue ▸ List.mem_map_of_mem he)

theorem set_outside (h : Serial channel s₀ script p served pending done s₁ u) (hi : i ∉ p.queue)
    {t : Task} (hguarded : Guarded (p.set i t)) (htodo : t.todo = (p.tasks i).todo)
    (hended : t.ended = (p.tasks i).ended) :
    Serial channel s₀ script (p.set i t) served pending done s₁ u := by
  have hne := h.ne_of_mem hi
  refine ⟨hguarded, h.requested, h.queue, h.serve, h.calls, h.free, ?_, ?_, ?_, ?_⟩
  · intro e he
    rw [Pool.set_tasks_of_ne (hne e (List.mem_of_head? he))]
    exact h.holder e he
  · intro e he
    rw [Pool.set_tasks_of_ne (hne e (List.mem_of_mem_tail he))]
    exact h.waiting e he
  · intro j
    rw [Pool.congr_set Task.ended hended]
    exact h.ended j
  · intro j
    rw [Pool.congr_set Task.todo htodo]
    exact h.todo j

theorem pending_of_head (h : Serial channel s₀ script p served pending done s₁ u)
    (hhead : p.queue.head? = some i) :
    ∃ op rest, pending = (i, op) :: rest ∧ ∀ e ∈ rest, e.1 ≠ i := by
  have hnodup := h.guarded.nodup
  rw [h.queue] at hhead hnodup
  cases pending with
  | nil => cases hhead
  | cons e rest =>
    obtain ⟨j, op⟩ := e
    cases hhead
    refine ⟨op, rest, rfl, fun e he hei => (List.nodup_cons.mp hnodup).1 ?_⟩
    exact hei ▸ List.mem_map_of_mem he

theorem progress (h : Serial channel s₀ script p served pending done s₁ u)
    (hhead : p.queue.head? = some i) {place : Place} {s : κ} {u' calls : List Call}
    {answers : List ((Nat × Nat) × Answer)}
    (hguarded : Guarded { p.move i place with state := s, calls := calls, answers := answers })
    (hcalls : calls = done.flatMap Prod.snd ++ u') (hresult : place.result? = none)
    (hfollows : ∀ op, Follows channel s₁ op p.state u (p.tasks i).place →
      Follows channel s₁ op s u' place) :
    Serial channel s₀ script { p.move i place with state := s, calls := calls, answers := answers }
      served pending done s₁ u' := by
  obtain ⟨op, rest, hpending, hne⟩ := h.pending_of_head hhead
  refine ⟨hguarded, h.requested, h.queue, h.serve, hcalls, ?_, ?_, ?_, ?_, ?_⟩
  · intro he
    rw [hpending] at he
    cases he
  · intro e he
    rw [hpending] at he
    cases he
    show Follows channel s₁ op s u' ((p.move i place).tasks i).place
    rw [Pool.move_tasks_self]
    exact hfollows op (h.holder (i, op) (by rw [hpending]; rfl))
  · intro e he
    have he' : e ∈ rest := by
      rw [hpending] at he
      exact he
    show ((p.move i place).tasks e.1).place = _
    rw [Pool.move_tasks_of_ne (hne e he')]
    exact h.waiting e he
  · intro j
    have hended : Task.ended { p.tasks i with place := place } = (p.tasks i).ended := by
      rw [Task.ended, Task.ended, hresult, h.guarded.result?_of_mem (List.mem_of_head? hhead)]
    exact (Pool.congr_set Task.ended hended j).trans (h.ended j)
  · intro j
    have htodo : Task.todo { p.tasks i with place := place } = (p.tasks i).todo := rfl
    show _ = _ ++ ((p.set i _).tasks j).todo
    rw [Pool.congr_set Task.todo htodo]
    exact h.todo j

theorem enqueue (h : Serial channel s₀ script p served pending done s₁ u) (hi : i ∉ p.queue)
    {op : Operation} {rest : List Operation} (htodo : (p.tasks i).todo = op :: rest)
    (hresult : (p.tasks i).place.result? = none) {place : Place}
    (hplace : place = .queued (op.act false).granted)
    (hguarded : Guarded
      { p.set i { p.tasks i with todo := rest, place := place } with
        queue := p.queue ++ [i], requested := p.requested ++ [(i, op)] }) :
    Serial channel s₀ script
      { p.set i { p.tasks i with todo := rest, place := place } with
        queue := p.queue ++ [i], requested := p.requested ++ [(i, op)] }
      served (pending ++ [(i, op)]) done s₁ u := by
  have hne := h.ne_of_mem hi
  have hself : ((p.set i { p.tasks i with todo := rest, place := place }).tasks i).place =
      .queued (op.act false).granted := by rw [Pool.set_tasks_self, hplace]
  refine ⟨hguarded, ?_, ?_, h.serve, h.calls, ?_, ?_, ?_, ?_, ?_⟩
  · show p.requested ++ [(i, op)] = _
    rw [h.requested, List.append_assoc]
  · show p.queue ++ [i] = _
    rw [h.queue, List.map_append]
    rfl
  · intro he
    exact absurd he (by simp)
  · intro e he
    show Follows channel s₁ e.2 p.state u ((p.set i _).tasks e.1).place
    cases pending with
    | nil =>
      -- the lock is free, so nothing has happened since the last operation that had it
      cases he
      obtain ⟨hstate, hu⟩ := h.free rfl
      rw [hself]
      exact ⟨rfl, hstate, hu⟩
    | cons e' rest' =>
      cases he
      rw [Pool.set_tasks_of_ne (hne _ (List.mem_cons_self ..))]
      exact h.holder _ rfl
  · intro e he
    show ((p.set i _).tasks e.1).place = _
    cases pending with
    | nil => cases he
    | cons e' rest' =>
      rcases List.mem_append.mp he with he | he
      · rw [Pool.set_tasks_of_ne (hne e (List.mem_cons_of_mem _ he))]
        exact h.waiting e he
      · rw [List.mem_singleton.mp he]
        exact hself
  · intro j
    have hended : Task.ended { p.tasks i with todo := rest, place := place } = (p.tasks i).ended := by
      rw [Task.ended, Task.ended, hresult, hplace]
      rfl
    exact (Pool.congr_set Task.ended hended j).trans (h.ended j)
  · intro j
    show _ = ((p.requested ++ [(i, op)]).filter (·.1 == j)).map Prod.snd ++ ((p.set i _).tasks j).todo
    rw [List.filter_append, List.map_append, List.append_assoc, h.todo j]
    by_cases hji : j = i
    · rw [hji, Pool.set_tasks_self, htodo]
      simp
    · rw [Pool.set_tasks_of_ne hji]
      simp [Ne.symm hji]

theorem dequeue (h : Serial channel s₀ script p served pending done s₁ u)
    (hhead : p.queue.head? = some i) {r : Except Fault Reply}
    (hplace : (p.tasks i).place = .running (.release (.done r)))
    (hguarded : Guarded { p.move i (.running (.done r)) with queue := p.queue.tail }) :
    ∃ op rest, pending = (i, op) :: rest ∧
      Serial channel s₀ script { p.move i (.running (.done r)) with queue := p.queue.tail }
        (served ++ [(i, op)]) rest (done ++ [(r, u)]) p.state [] := by
  obtain ⟨op, rest, hpending, hne⟩ := h.pending_of_head hhead
  refine ⟨op, rest, hpending, ?_⟩
  have hrun : ((op.act false).run channel.recording (s₁, [])).ended = (some r, (p.state, u)) := by
    have hfollows := h.holder (i, op) (by rw [hpending]; rfl)
    rw [hplace] at hfollows
    exact hfollows.symm
  have hlength : served.length = done.length := by
    rw [length_of_serve h.serve, List.length_map]
  have hwaiting : ∀ e ∈ rest, (p.tasks e.1).place = .queued (e.2.act false).granted :=
    fun e he => h.waiting e (by rw [hpending]; exact he)
  refine ⟨hguarded, ?_, ?_, ?_, ?_, fun _ => ⟨rfl, rfl⟩, ?_, ?_, ?_, ?_⟩
  · show p.requested = _
    rw [h.requested, hpending, List.append_assoc]
    rfl
  · show p.queue.tail = _
    rw [h.queue, hpending]
    rfl
  · rw [List.map_append]
    exact serve_concat h.serve hrun
  · show p.calls = _
    rw [h.calls]
    simp
  · intro e he
    have he' := List.mem_of_head? he
    show Follows channel p.state e.2 p.state [] ((p.move i _).tasks e.1).place
    rw [Pool.move_tasks_of_ne (hne e he'), hwaiting e he']
    exact ⟨rfl, rfl, rfl⟩
  · intro e he
    have he' := List.mem_of_mem_tail he
    show ((p.move i _).tasks e.1).place = _
    rw [Pool.move_tasks_of_ne (hne e he')]
    exact hwaiting e he'
  · intro j
    show ((p.move i _).tasks j).ended = _
    rw [List.zip_append hlength, List.filter_append, List.map_append, ← h.ended j]
    by_cases hji : j = i
    · rw [hji, Pool.move_tasks_self, Task.ended, Task.ended, hplace]
      simp [Place.result?]
    · rw [Pool.move_tasks_of_ne hji]
      simp [Ne.symm hji]
  · intro j
    have htodo : Task.todo { p.tasks i with place := .running (.done r) } = (p.tasks i).todo := rfl
    show _ = _ ++ ((p.set i _).tasks j).todo
    rw [Pool.congr_set Task.todo htodo]
    exact h.todo j

/-- A step of a task keeps the invariant. -/
theorem step (h : Serial channel s₀ script p served pending done s₁ u)
    (hstep : Pool.Step channel p i q) :
    ∃ served pending done s₁ u, Serial channel s₀ script q served pending done s₁ u := by
  have hguarded := h.guarded.step hstep
  cases hstep with
  | @start op rest hplace htodo =>
    refine ⟨_, _, _, _, _, h.set_outside (h.guarded.not_mem_of_idle hplace) hguarded rfl ?_⟩
    rw [Task.ended, Task.ended, hplace, op.act_shared]
    rfl
  | @request next op rest hplace htodo =>
    obtain ⟨hi, op', rest', htodo', rfl⟩ := h.guarded.of_acquire hplace
    rw [htodo] at htodo'
    cases htodo'
    refine ⟨_, _, _, _, _, h.enqueue hi htodo ?_ rfl hguarded⟩
    rw [hplace]
    rfl
  | grant hplace hhead =>
    refine ⟨_, _, _, _, _, h.progress hhead hguarded h.calls ?_ ?_⟩
    · have := hguarded.result?_of_mem (List.mem_of_head? hhead)
      rwa [Pool.move_tasks_self] at this
    · intro op hfollows
      rw [hplace] at hfollows
      obtain ⟨rfl, rfl, rfl⟩ := hfollows
      exact Act.ended_unlocking channel.recording (op.act false) (p.state, [])
  | @call a c hplace hcall =>
    obtain ⟨hhead, -⟩ := h.guarded.of_call hplace hcall
    refine ⟨_, _, _, _, u ++ [c], h.progress hhead hguarded ?_ rfl ?_⟩
    · rw [h.calls, List.append_assoc]
    · intro op hfollows
      rw [hplace] at hfollows
      exact ⟨c, u, hcall, rfl, hfollows⟩
  | @answer a b s w hplace hanswer =>
    obtain ⟨hhead, -, -⟩ := h.guarded.of_calling hplace
    refine ⟨_, _, _, _, _, h.progress hhead hguarded h.calls rfl ?_⟩
    intro op hfollows
    rw [hplace] at hfollows
    obtain ⟨c, u', hcall, rfl, hfollows⟩ := hfollows
    exact (Act.ended_answer _ (Act.answer_recording hcall hanswer u')).symm.trans hfollows
  | @resume a b hplace =>
    obtain ⟨hhead, -, -, hb⟩ := h.guarded.of_returning hplace
    have hin : Place.Inside (.running b) := hb
    refine ⟨_, _, _, _, _, h.progress hhead hguarded h.calls hin.result? ?_⟩
    intro op hfollows
    rw [hplace] at hfollows
    exact hfollows
  | @log record next hplace =>
    obtain ⟨hhead, ha⟩ := h.guarded.of_running hplace nofun nofun
    have hin : Place.Inside (.running next) := ha.of_log
    refine ⟨_, _, _, _, _, h.progress hhead hguarded h.calls hin.result? ?_⟩
    intro op hfollows
    rw [hplace] at hfollows
    exact hfollows
  | release hplace =>
    obtain ⟨hhead, ha⟩ := h.guarded.of_running hplace nofun nofun
    obtain ⟨r, rfl⟩ := ha.done_of_release
    obtain ⟨op, rest, -, hserial⟩ := h.dequeue hhead hplace hguarded
    exact ⟨_, _, _, _, _, hserial⟩
  | finish hplace =>
    refine ⟨_, _, _, _, _, h.set_outside (h.guarded.not_mem_of_done hplace) hguarded rfl ?_⟩
    rw [Task.ended, Task.ended, hplace]
    simp [Place.result?]

/-- The invariant holds of everything that tasks come to. -/
theorem of_reaches (h : Pool.Reaches channel (Pool.initial s₀ script) p) :
    ∃ served pending done s₁ u, Serial channel s₀ script p served pending done s₁ u := by
  induction h with
  | refl => exact ⟨_, _, _, _, _, .initial channel s₀ script⟩
  | tail _ hstep ih =>
    obtain ⟨served, pending, done, s₁, u, hserial⟩ := ih
    obtain ⟨i, hstep⟩ := hstep
    exact hserial.step hstep

end Serial

/-- Tasks that share a client and are not cancelled take turns. At most one of them is in a call, or
between sending and receiving. The operations that asked for the lock, in that order, are the first ones
of each task's script; those that had the lock did to the channel what they do one after another, and
ended as they do then, with a value or a fault; the next one has made the first of its calls. The lock is
wanted by no operation that has ended. -/
theorem Pool.serializable {channel : Channel κ} {s₀ : κ} {script : Nat → List Operation} {p : Pool κ}
    (h : Pool.Reaches channel (Pool.initial s₀ script) p) :
    (∀ i j, (p.tasks i).place.Midway → (p.tasks j).place.Midway → i = j) ∧
    (∀ i, script i = (p.requested.filter (·.1 == i)).map Prod.snd ++ (p.tasks i).todo) ∧
    ∃ served pending done s₁ u,
      p.requested = served ++ pending ∧ p.queue = pending.map Prod.fst ∧
      serve channel (served.map Prod.snd) s₀ = some (done, s₁) ∧
      p.calls = done.flatMap Prod.snd ++ u ∧
      (∀ e ∈ pending.head?, u <+: ((e.2.act false).run channel.recording (s₁, [])).state.2) ∧
      (pending = [] → p.state = s₁ ∧ u = []) ∧
      ∀ i, (p.tasks i).ended = ((served.zip done).filter (·.1.1 == i)).map (·.2.1) := by
  obtain ⟨served, pending, done, s₁, u, hserial⟩ := Serial.of_reaches h
  exact ⟨fun i j => hserial.guarded.eq_of_midway, hserial.todo, served, pending, done, s₁, u,
    hserial.requested, hserial.queue, hserial.serve, hserial.calls,
    fun e he => (hserial.holder e he).prefix_calls, hserial.free, hserial.ended⟩

end

/-- One task asks for the address while another wants to close the channel: it asks for the lock when the
first has sent its frame. -/
theorem Pool.serializable_close :
    ∃ p frame, Pool.Reaches Channel.mock
        (Pool.initial { Mock.fresh none with replies := [(.whole Command.address.label, .null)] }
          fun i => if i = 0 then [.call .address (.text (.whole getRequest))] else [.close]) p ∧
      p.requested = [(0, .call .address (.text (.whole getRequest))), (1, .close)] ∧
      p.calls = [.send frame, .receive, .close] ∧ p.queue = [] ∧
      ∃ done, serve Channel.mock [.call .address (.text (.whole getRequest)), .close]
          { Mock.fresh none with replies := [(.whole Command.address.label, .null)] } =
          some (done, p.state) ∧
        p.calls = done.flatMap Prod.snd ∧
        (p.tasks 0).ended = [.ok (.value .address none)] := by
  have hreaches : Pool.Reaches Channel.mock
      (Pool.initial { Mock.fresh none with replies := [(.whole Command.address.label, .null)] }
        fun i => if i = 0 then [.call .address (.text (.whole getRequest))] else [.close]) _ :=
    .head ⟨0, .start rfl rfl⟩ <| .head ⟨0, .request rfl rfl⟩ <| .head ⟨0, .grant rfl rfl⟩ <|
    .head ⟨0, .call rfl rfl⟩ <| .head ⟨1, .start rfl rfl⟩ <| .head ⟨1, .request rfl rfl⟩ <|
    .head ⟨0, .answer rfl rfl⟩ <| .head ⟨0, .resume rfl⟩ <| .head ⟨0, .log rfl⟩ <|
    .head ⟨0, .call rfl rfl⟩ <| .head ⟨0, .answer rfl rfl⟩ <| .head ⟨0, .resume rfl⟩ <|
    .head ⟨0, .log rfl⟩ <| .head ⟨0, .release rfl⟩ <|
    .head ⟨1, .grant rfl rfl⟩ <| .head ⟨1, .call rfl rfl⟩ <| .head ⟨1, .answer rfl rfl⟩ <|
    .head ⟨1, .resume rfl⟩ <| .head ⟨1, .release rfl⟩ .refl
  obtain ⟨-, -, served, pending, done, s₁, u, hrequested, hqueue, hserve, hcalls, -, hfree, -⟩ :=
    Pool.serializable hreaches
  cases pending with
  | nil =>
    obtain ⟨hstate, hu⟩ := hfree rfl
    have hserved := hrequested.trans (List.append_nil served)
    have hdone := hcalls.trans (by rw [hu, List.append_nil])
    rw [← hserved, ← hstate] at hserve
    exact ⟨_, _, hreaches, rfl, rfl, rfl, done, hserve, hdone, rfl⟩
  | cons e rest => cases hqueue

end RemoteSigner
