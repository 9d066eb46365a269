import Mathlib
import RemoteSigner.Session.Basic
import RemoteSigner.Channel.Mock
import RemoteSigner.Channel.WebSocket
import RemoteSigner.Proofs.Session.Pairing
import RemoteSigner.Proofs.Session.Serial

/-!
# Sessions are pools

A session runs its tasks in an order of its own: each goes on until it has to wait, and those that it wakes
go on after it. Tasks of a pool can run in that order too, so a session in which tasks share a client does
nothing that a pool cannot do: not when a task starts (`Depicts.start`) or is cancelled (`Depicts.cancel`),
nor when something happens to the channel (`Depicts.disturb`), and so not in a whole run
(`Session.Runs.depicted`). In a calm session, where nobody is cancelled and the channel is left alone, the
tasks come to what one task comes to that issues their operations one after another
(`Session.Runs.served`).
-/

namespace RemoteSigner

variable {κ : Type}

/-- A receiver that gets nothing leaves the channel as it is, and one that has waited gets nothing that
another would not get. -/
structure Channel.Patient (channel : Channel κ) : Prop where
  idle : ∀ {waited s}, (channel.receive waited s).result = none →
    (channel.receive waited s).state = s
  look : ∀ {s r}, (channel.receive true s).result = some r →
    (channel.receive false s).result = some r ∧
      (channel.receive false s).state = (channel.receive true s).state

theorem Channel.patient_mock [Readers] : Channel.mock.Patient := by
  refine ⟨fun {waited m} h => ?_, fun {m r} h => ?_⟩
  · change (m.receive waited).1 = none at h
    show (m.receive waited).2 = m
    cases hinbox : m.inbox with
    | nil => rw [Mock.receive_nil hinbox]
    | cons item rest => rw [Mock.receive_cons hinbox] at h; cases h
  · change (m.receive true).1 = some r at h
    show (m.receive false).1 = some r ∧ (m.receive false).2 = (m.receive true).2
    cases hinbox : m.inbox with
    | nil => rw [Mock.receive_nil hinbox] at h; simp at h
    | cons item rest =>
      simp only [Mock.receive_cons hinbox] at h ⊢
      exact ⟨h, trivial⟩

theorem Channel.patient_webSocket (connection : Connection κ) (url : Option String) :
    (Channel.webSocket connection url).Patient :=
  ⟨nofun, fun h => ⟨h, rfl⟩⟩

/-! ## Where the tasks of a session are -/

/-- The place of a task that waits. -/
def Waiting.place : Waiting Reply → Place
  | lock next => .queued next
  | message next => .calling (.receive next)

/-- The place of a task that was woken. -/
def Woken.place : Woken Reply → Place
  | run a => .running a
  | look next => .calling (.receive next)

/-- The tasks of a session are where the tasks of a pool are. Those that have not started are about to issue
the operations of the script, and no task is active, waits and was woken at once. -/
structure Placed (script : Nat → List Operation) (started active : List Nat) (tasks : Nat → Task)
    (waiting : List (Nat × Waiting Reply)) (woken : List (Nat × Woken Reply))
    (results : List (Nat × Except Fault Reply)) : Prop where
  nodup : (active ++ (waiting.map Prod.fst ++ woken.map Prod.fst)).Nodup
  known : ∀ i ∈ active ++ (waiting.map Prod.fst ++ woken.map Prod.fst), i ∈ started
  fresh : ∀ i ∉ started, tasks i = ⟨script i, .idle, []⟩
  sleeping : ∀ e ∈ waiting, (tasks e.1).place = e.2.place
  roused : ∀ e ∈ woken, (tasks e.1).place = e.2.place
  ended : ∀ i, (tasks i).results = (results.filter (·.1 == i)).map (·.2)

namespace Placed

variable {script : Nat → List Operation} {started active : List Nat} {tasks : Nat → Task}
  {waiting : List (Nat × Waiting Reply)} {woken : List (Nat × Woken Reply)}
  {results : List (Nat × Except Fault Reply)} {i j : Nat}

theorem update (h : Placed script started [i] tasks waiting woken results) {t : Task}
    {results' : List (Nat × Except Fault Reply)}
    (hself : t.results = (results'.filter (·.1 == i)).map (·.2))
    (hother : ∀ j ≠ i, results'.filter (·.1 == j) = results.filter (·.1 == j)) :
    Placed script started [i] (Function.update tasks i t) waiting woken results' := by
  have hi : i ∈ started := h.known i (List.mem_cons_self ..)
  have hfree : i ∉ waiting.map Prod.fst ++ woken.map Prod.fst := (List.nodup_cons.mp h.nodup).1
  rw [List.mem_append, not_or] at hfree
  refine ⟨h.nodup, h.known, ?_, ?_, ?_, ?_⟩
  · intro j hj
    have hne : j ≠ i := by
      rintro rfl
      exact hj hi
    rw [Function.update_of_ne hne]
    exact h.fresh j hj
  · intro e he
    have hne : e.1 ≠ i := fun hei => hfree.1 (hei ▸ List.mem_map_of_mem he)
    rw [Function.update_of_ne hne]
    exact h.sleeping e he
  · intro e he
    have hne : e.1 ≠ i := fun hei => hfree.2 (hei ▸ List.mem_map_of_mem he)
    rw [Function.update_of_ne hne]
    exact h.roused e he
  · intro j
    by_cases hji : j = i
    · rw [hji, Function.update_self]
      exact hself
    · rw [Function.update_of_ne hji, hother j hji]
      exact h.ended j

theorem move (h : Placed script started [i] tasks waiting woken results) (place : Place) :
    Placed script started [i] (Function.update tasks i { tasks i with place := place }) waiting woken
      results :=
  h.update (h.ended i) fun _ _ => rfl

theorem finish (h : Placed script started [i] tasks waiting woken results) (r : Except Fault Reply) :
    Placed script started []
      (Function.update tasks i ⟨(tasks i).todo, .idle, (tasks i).results ++ [r]⟩)
      waiting woken (results ++ [(i, r)]) := by
  have hself : (tasks i).results ++ [r] =
      ((results ++ [(i, r)]).filter (·.1 == i)).map (·.2) := by
    simp [h.ended i]
  have hplaced := h.update (t := ⟨(tasks i).todo, .idle, _⟩) hself fun j hji => by simp [Ne.symm hji]
  exact ⟨(List.nodup_cons.mp hplaced.nodup).2, fun j hj => hplaced.known j (List.mem_cons_of_mem _ hj),
    hplaced.fresh, hplaced.sleeping, hplaced.roused, hplaced.ended⟩

theorem wait (h : Placed script started [i] tasks waiting woken results) {w : Waiting Reply}
    (hplace : (tasks i).place = w.place) :
    Placed script started [] tasks (waiting ++ [(i, w)]) woken results := by
  have hperm : ([] ++ ((waiting ++ [(i, w)]).map Prod.fst ++ woken.map Prod.fst)).Perm
      ([i] ++ (waiting.map Prod.fst ++ woken.map Prod.fst)) := by
    rw [List.map_append, List.append_assoc]
    exact List.perm_middle
  refine ⟨hperm.nodup_iff.mpr h.nodup, fun j hj => h.known j (hperm.mem_iff.mp hj), h.fresh, ?_,
    h.roused, h.ended⟩
  intro e he
  rcases List.mem_append.mp he with he | he
  · exact h.sleeping e he
  · rw [List.mem_singleton.mp he]
    exact hplace

theorem enter (h : Placed script started [] tasks waiting woken results) (hi : i ∉ started) :
    Placed script (i :: started) [i] tasks waiting woken results := by
  refine ⟨List.nodup_cons.mpr ⟨fun hmem => hi (h.known i hmem), h.nodup⟩, ?_, ?_, h.sleeping,
    h.roused, h.ended⟩
  · intro j hj
    rcases List.mem_cons.mp hj with rfl | hj
    · exact List.mem_cons_self ..
    · exact List.mem_cons_of_mem _ (h.known j hj)
  · intro j hj
    exact h.fresh j fun hj' => hj (List.mem_cons_of_mem _ hj')

theorem activate {w : Woken Reply} (h : Placed script started [] tasks waiting ((i, w) :: woken) results) :
    Placed script started [i] tasks waiting woken results ∧ (tasks i).place = w.place := by
  have hperm : ([i] ++ (waiting.map Prod.fst ++ woken.map Prod.fst)).Perm
      ([] ++ (waiting.map Prod.fst ++ ((i, w) :: woken).map Prod.fst)) := by
    show (i :: (waiting.map Prod.fst ++ woken.map Prod.fst)).Perm _
    exact List.perm_middle.symm
  exact ⟨⟨hperm.nodup_iff.mpr h.nodup, fun j hj => h.known j (hperm.mem_iff.mp hj), h.fresh,
    h.sleeping, fun e he => h.roused e (List.mem_cons_of_mem _ he), h.ended⟩,
    h.roused (i, w) (List.mem_cons_self ..)⟩

/-- Waking a task takes its number from those of the tasks that wait to those of the woken ones. -/
theorem perm_wake (hwaiting : (waiting.map Prod.fst).Nodup) (hi : i ∈ waiting.map Prod.fst)
    (woken : List (Nat × Woken Reply)) (w : Woken Reply) :
    ((waiting.filter (·.1 != i)).map Prod.fst ++
      (woken ++ [(i, w)]).map Prod.fst).Perm (waiting.map Prod.fst ++ woken.map Prod.fst) := by
  have hfilter : (waiting.filter (·.1 != i)).map Prod.fst = (waiting.map Prod.fst).erase i := by
    rw [hwaiting.erase_eq_filter, List.filter_map]
    rfl
  rw [hfilter, List.map_append, ← List.append_assoc]
  refine List.perm_append_comm.trans ?_
  exact (List.perm_cons_erase hi).symm.append_right (woken.map Prod.fst)

theorem wake (h : Placed script started active tasks waiting woken results) {w : Waiting Reply}
    (hw : (waiting.find? (·.1 == j)).map (·.2) = some w) (w' : Woken Reply) :
    Placed script started active (Function.update tasks j { tasks j with place := w'.place })
      (waiting.filter (·.1 != j)) (woken ++ [(j, w')]) results ∧ (tasks j).place = w.place ∧
      j ∉ active := by
  obtain ⟨⟨k, _⟩, hfind, rfl⟩ := Option.map_eq_some_iff.mp hw
  obtain rfl : k = j := by simpa using List.find?_some hfind
  have hmem := List.mem_of_find?_eq_some hfind
  have hk : k ∈ waiting.map Prod.fst := List.mem_map_of_mem hmem
  have hothers := (List.nodup_append.mp h.nodup).2.1
  have hperm := (perm_wake (List.nodup_append.mp hothers).1 hk woken w').append_left active
  have hwoken : ∀ e ∈ woken, e.1 ≠ k := by
    rintro e he rfl
    exact List.disjoint_of_nodup_append hothers hk (List.mem_map_of_mem he)
  refine ⟨⟨hperm.nodup_iff.mpr h.nodup, fun i hi => h.known i (hperm.mem_iff.mp hi), ?_, ?_, ?_,
    ?_⟩, h.sleeping _ hmem, ?_⟩
  · intro i hi
    have hne : i ≠ k := by
      rintro rfl
      exact hi (h.known i (List.mem_append_right _ (List.mem_append_left _ hk)))
    rw [Function.update_of_ne hne]
    exact h.fresh i hi
  · intro e he
    obtain ⟨he, hne⟩ : e ∈ waiting ∧ e.1 ≠ k := by simpa using he
    rw [Function.update_of_ne hne]
    exact h.sleeping e he
  · intro e he
    rcases List.mem_append.mp he with he | he
    · rw [Function.update_of_ne (hwoken e he)]
      exact h.roused e he
    · rw [List.mem_singleton.mp he, Function.update_self]
  · intro i
    by_cases hik : i = k
    · rw [hik, Function.update_self]
      exact h.ended k
    · rw [Function.update_of_ne hik]
      exact h.ended i
  · intro hactive
    exact List.disjoint_of_nodup_append h.nodup hactive (List.mem_append_left _ hk)

end Placed

namespace Session

/-- A task looks for a message. It goes on if it gets something, and waits otherwise. -/
def listen (channel : Channel κ) (waited : Bool) (i : Nat) (next : Reception → Act Reply)
    (s : Session κ Reply) : Session κ Reply :=
  let e := channel.receive waited s.state
  match e.result with
  | some r => advance channel i (next r) (s.absorb channel e)
  | none => (s.absorb channel e).queueReceiver i next

theorem advance_receive (channel : Channel κ) (i : Nat) (next : Reception → Act Reply)
    (s : Session κ Reply) : s.advance channel i (.receive next) = s.listen channel false i next := by
  rw [advance]
  rfl

theorem resume_look (channel : Channel κ) (i : Nat) (next : Reception → Act Reply)
    (s : Session κ Reply) : s.resume channel i (.look next) = s.listen channel true i next := by
  rw [resume]
  rfl

end Session

variable [Readers]

/-- The pool is where the session is. -/
structure Depicts (script : Nat → List Operation) (started active : List Nat) (p : Pool κ)
    (s : Session κ Reply) : Prop where
  guarded : Guarded p
  state : p.state = s.state
  queue : p.queue = s.lockQueue
  placed : Placed script started active p.tasks s.waiting s.woken s.results

namespace Depicts

variable {channel : Channel κ} {script : Nat → List Operation} {started active : List Nat} {p : Pool κ}
  {s : Session κ Reply} {i : Nat}

theorem ofState (s : κ) (script : Nat → List Operation) :
    Depicts script [] [] (Pool.initial s script) (Session.ofState s) :=
  ⟨.initial s script, rfl, rfl, List.nodup_nil, nofun, fun _ _ => rfl, nofun, nofun, fun _ => rfl⟩

theorem wakeReceivers (h : Depicts script started active p s) (n : Nat) :
    Depicts script started active p (s.wakeReceivers n) := by
  induction n generalizing s with
  | zero => exact h
  | succ n ih =>
    unfold Session.wakeReceivers
    split
    · exact h
    · rename_i j rest hreceivers
      have hrest : Depicts script started active p { s with receivers := rest } :=
        ⟨h.guarded, h.state, h.queue, h.placed⟩
      dsimp only
      split
      · rename_i next hw
        obtain ⟨hplaced, hplace, -⟩ := hrest.placed.wake hw (.look next)
        -- a receiver that is to look again is still in the same call
        have hsame : Function.update p.tasks j { p.tasks j with place := .calling (.receive next) } =
            p.tasks := by
          show Function.update p.tasks j { p.tasks j with place := (Waiting.message next).place } = _
          rw [← hplace]
          exact Function.update_eq_self ..
        exact ih ⟨h.guarded, h.state, h.queue, hsame ▸ hplaced⟩
      · exact ih hrest

theorem absorb {α : Type} {e : Effect κ α}
    (h : Depicts script started active p { s with state := e.state, log := s.log ++ e.log }) :
    Depicts script started active p (s.absorb channel e) := h.wakeReceivers _

theorem answered (h : Depicts script started [i] p s) {a b : Act Reply} {k : κ} {w : Answer}
    (hplace : (p.tasks i).place = .calling a) (hanswer : a.answer channel s.state = some (b, k, w))
    (log : List LogRecord) :
    ∃ q, Pool.Reaches channel p q ∧ (q.tasks i).place = .running b ∧
      Depicts script started [i] q { s with state := k, log := log } := by
  rw [← h.state] at hanswer
  have hstep := Pool.Step.answer hplace hanswer
  have hguarded := h.guarded.step hstep
  have hplaced := h.placed.move (.returning a b)
  have hresume : Pool.Step channel _ i _ :=
    .resume (p := { p.move i (.returning a b) with
      state := k, answers := p.answers ++ [(p.turn i, w)] }) (a := a) (b := b) (by simp)
  refine ⟨_, .head ⟨i, hstep⟩ (.single ⟨i, hresume⟩), by simp, hguarded.step hresume, rfl, h.queue, ?_⟩
  exact hplaced.move (.running b)

theorem calling (channel : Channel κ) (h : Depicts script started [i] p s) {a : Act Reply} {c : Call}
    (hplace : (p.tasks i).place = .running a) (hc : a.call? = some c) :
    ∃ q, Pool.Reaches channel p q ∧ (q.tasks i).place = .calling a ∧
      Depicts script started [i] q s := by
  have hstep : Pool.Step channel p i _ := .call hplace hc
  exact ⟨_, .single ⟨i, hstep⟩, by simp, h.guarded.step hstep, h.state, h.queue, h.placed.move _⟩

theorem call (h : Depicts script started [i] p s) {a b : Act Reply} {c : Call} {k : κ} {w : Answer}
    (hplace : (p.tasks i).place = .running a) (hc : a.call? = some c)
    (hanswer : a.answer channel s.state = some (b, k, w)) (log : List LogRecord) :
    ∃ q, Pool.Reaches channel p q ∧ (q.tasks i).place = .running b ∧
      Depicts script started [i] q { s with state := k, log := log } := by
  obtain ⟨q, hq, hcalling, hdepicts⟩ := h.calling channel hplace hc
  obtain ⟨q', hq', hrunning, hdepicts'⟩ := hdepicts.answered hcalling hanswer log
  exact ⟨q', hq.trans hq', hrunning, hdepicts'⟩

theorem passLock (h : Depicts script started active p { s with lockQueue := s.lockQueue.tail }) :
    ∃ q, Pool.Reaches channel p q ∧ (∀ j ∈ active, q.tasks j = p.tasks j) ∧
      Depicts script started active q s.passLock := by
  unfold Session.passLock
  dsimp only
  split
  · exact ⟨p, .refl, fun _ _ => rfl, h⟩
  · rename_i j hhead
    split
    · rename_i next hw
      obtain ⟨hplaced, hplace, hj⟩ := h.placed.wake hw (.run (next (.ok ())))
      have hhead' : p.queue.head? = some j := by rw [h.queue]; exact hhead
      have hstep : Pool.Step channel p j _ := .grant hplace hhead'
      refine ⟨_, .single ⟨j, hstep⟩, ?_, h.guarded.step hstep, h.state, h.queue, hplaced⟩
      intro k hk
      rw [Pool.move_tasks_of_ne]
      rintro rfl
      exact hj hk
    · exact ⟨p, .refl, fun _ _ => rfl, h⟩

theorem listen (hpatient : channel.Patient) {next : Reception → Act Reply} (waited : Bool)
    (h : Depicts script started [i] p s) (hplace : (p.tasks i).place = .calling (.receive next))
    (hnext : ∀ r {q : Pool κ} {s : Session κ Reply}, Depicts script started [i] q s →
      (q.tasks i).place = .running (next r) →
      ∃ q', Pool.Reaches channel q q' ∧ Depicts script started [] q' (s.advance channel i (next r))) :
    ∃ q, Pool.Reaches channel p q ∧
      Depicts script started [] q (s.listen channel waited i next) := by
  unfold Session.listen
  cases hr : (channel.receive waited s.state).result with
  | none =>
    have hidle : Depicts script started [i] p
        (s.absorb channel (channel.receive waited s.state)) := by
      exact absorb ⟨h.guarded, h.state.trans (hpatient.idle hr).symm, h.queue, h.placed⟩
    simp only [hr]
    exact ⟨p, .refl, hidle.guarded, hidle.state, hidle.queue, hidle.placed.wait hplace⟩
  | some r =>
    have hanswer : Act.answer channel (.receive next) s.state =
        some (next r, (channel.receive waited s.state).state, .received r) := by
      cases waited with
      | false => simp only [Act.answer, hr, Option.map_some]
      | true =>
        obtain ⟨hresult, hstate⟩ := hpatient.look hr
        simp only [Act.answer, hresult, hstate, Option.map_some]
    obtain ⟨q, hq, hrunning, hdepicts⟩ := h.answered hplace hanswer _
    obtain ⟨q', hq', hdepicts'⟩ := hnext r hdepicts.absorb hrunning
    simp only [hr]
    exact ⟨q', hq.trans hq', hdepicts'⟩

/-- The active task asks for the lock. It goes on if nobody else wants it, and waits otherwise. -/
theorem acquire {next : Except Fault Unit → Act Reply} (h : Depicts script started [i] p s)
    (hplace : (p.tasks i).place = .running (.acquire next))
    (hnext : ∀ {q : Pool κ} {s : Session κ Reply}, Depicts script started [i] q s →
      (q.tasks i).place = .running (next (.ok ())) →
      ∃ q', Pool.Reaches channel q q' ∧
        Depicts script started [] q' (s.advance channel i (next (.ok ())))) :
    ∃ q, Pool.Reaches channel p q ∧
      Depicts script started [] q (s.advance channel i (.acquire next)) := by
  obtain ⟨-, op, rest, htodo, -⟩ := h.guarded.of_acquire hplace
  have hstep : Pool.Step channel p i _ := .request hplace htodo
  have hplaced : Placed script started [i]
      (Function.update p.tasks i ⟨rest, .queued next, (p.tasks i).results⟩) s.waiting s.woken s.results :=
    h.placed.update (h.placed.ended i) fun _ _ => rfl
  unfold Session.advance
  split_ifs with hempty
  · -- nobody else wants the lock, so the pool grants it at once
    have hqueue : p.queue ++ [i] = [i] := by
      rw [h.queue, List.isEmpty_iff.mp hempty]
      rfl
    have hqueued : ((p.set i ⟨rest, .queued next, (p.tasks i).results⟩).tasks i).place =
        .queued next := by simp
    have hrequested := h.guarded.step hstep
    have hgrant : Pool.Step channel { p.set i ⟨rest, .queued next, (p.tasks i).results⟩ with
        queue := p.queue ++ [i], requested := p.requested ++ [(i, op)] } i _ :=
      .grant hqueued (congrArg List.head? hqueue)
    obtain ⟨q, hq, hdepicts⟩ := hnext (s := { s with lockQueue := [i] })
      ⟨hrequested.step hgrant, h.state, hqueue, hplaced.move _⟩ (by simp)
    exact ⟨q, .head ⟨i, hstep⟩ (.head ⟨i, hgrant⟩ hq), hdepicts⟩
  · refine ⟨_, .single ⟨i, hstep⟩, h.guarded.step hstep, h.state, congrArg (· ++ [i]) h.queue, ?_⟩
    exact hplaced.wait (by simp [Waiting.place])

theorem advance (hpatient : channel.Patient) {a : Act Reply} (h : Depicts script started [i] p s)
    (hplace : (p.tasks i).place = .running a) :
    ∃ q, Pool.Reaches channel p q ∧ Depicts script started [] q (s.advance channel i a) := by
  induction a generalizing p s with
  | done r =>
    have hstep : Pool.Step channel p i _ := .finish hplace
    exact ⟨_, .single ⟨i, hstep⟩, h.guarded.step hstep, h.state, h.queue, h.placed.finish r⟩
  | send frame next ih =>
    obtain ⟨q, hq, hrunning, hdepicts⟩ := h.call hplace rfl rfl _
    obtain ⟨q', hq', hdepicts'⟩ := ih _ hdepicts.absorb hrunning
    exact ⟨q', hq.trans hq', hdepicts'⟩
  | close next ih =>
    obtain ⟨q, hq, hrunning, hdepicts⟩ := h.call hplace rfl rfl _
    obtain ⟨q', hq', hdepicts'⟩ := ih _ hdepicts.absorb hrunning
    exact ⟨q', hq.trans hq', hdepicts'⟩
  | receive next ih =>
    obtain ⟨q, hq, hcalling, hdepicts⟩ := h.calling channel hplace rfl
    obtain ⟨q', hq', hdepicts'⟩ := hdepicts.listen hpatient false hcalling ih
    rw [Session.advance_receive]
    exact ⟨q', hq.trans hq', hdepicts'⟩
  | acquire next ih =>
    exact h.acquire hplace (ih (.ok ()))
  | release next ih =>
    have hstep : Pool.Step channel p i _ := .release hplace
    have hreleased : Depicts script started [i] _ { s with lockQueue := s.lockQueue.tail } :=
      ⟨h.guarded.step hstep, h.state, congrArg List.tail h.queue, h.placed.move _⟩
    obtain ⟨q, hq, hsame, hdepicts⟩ := hreleased.passLock
    obtain ⟨q', hq', hdepicts'⟩ := ih hdepicts (by rw [hsame i (List.mem_cons_self ..)]; simp)
    exact ⟨q', .head ⟨i, hstep⟩ (hq.trans hq'), hdepicts'⟩
  | log record next ih =>
    have hstep : Pool.Step channel p i _ := .log hplace
    obtain ⟨q, hq, hdepicts⟩ := ih (s := { s with log := s.log ++ [record] })
      ⟨h.guarded.step hstep, h.state, h.queue, h.placed.move _⟩ (by simp)
    exact ⟨q, .head ⟨i, hstep⟩ hq, hdepicts⟩

theorem drain (hpatient : channel.Patient) (h : Depicts script started [] p s) (fuel : Nat) :
    ∃ q, Pool.Reaches channel p q ∧ Depicts script started [] q (s.drain channel fuel) := by
  induction fuel generalizing p s with
  | zero => exact ⟨p, .refl, h⟩
  | succ fuel ih =>
    unfold Session.drain
    split
    · exact ⟨p, .refl, h⟩
    · rename_i i w rest hwoken
      have hplaced := h.placed
      rw [hwoken] at hplaced
      obtain ⟨hplaced, hplace⟩ := hplaced.activate
      have hactive : Depicts script started [i] p { s with woken := rest } :=
        ⟨h.guarded, h.state, h.queue, hplaced⟩
      obtain ⟨q, hq, hdepicts⟩ : ∃ q, Pool.Reaches channel p q ∧
          Depicts script started [] q (Session.resume channel i w { s with woken := rest }) := by
        cases w with
        | run a => exact hactive.advance hpatient hplace
        | look next =>
          rw [Session.resume_look]
          exact hactive.listen hpatient true hplace fun r => advance hpatient
      obtain ⟨q', hq', hdepicts'⟩ := ih hdepicts
      exact ⟨q', hq.trans hq', hdepicts'⟩

theorem start (hpatient : channel.Patient) (h : Depicts script started [] p s) (hi : i ∉ started)
    {op : Operation} (hscript : script i = [op]) :
    ∃ q, Pool.Reaches channel p q ∧
      Depicts script (i :: started) [] q (s.start channel i (op.act true)) := by
  have htask : p.tasks i = ⟨[op], .idle, []⟩ := by rw [h.placed.fresh i hi, hscript]
  have hstep : Pool.Step channel p i _ := .start (by rw [htask]) (by rw [htask])
  have hstarted : Depicts script (i :: started) [i] _ s :=
    ⟨h.guarded.step hstep, h.state, h.queue, (h.placed.enter hi).move _⟩
  obtain ⟨q, hq, hdepicts⟩ := hstarted.advance hpatient (a := op.act true) (by simp)
  obtain ⟨q', hq', hdepicts'⟩ := hdepicts.drain hpatient _
  exact ⟨q', .head ⟨i, hstep⟩ (hq.trans hq'), hdepicts'⟩

theorem cancel (hpatient : channel.Patient) (h : Depicts script started [] p s) (i : Nat) :
    ∃ q q', (q = p ∨ Pool.Cancel p i q) ∧ Pool.Reaches channel q q' ∧
      Depicts script started [] q' (s.cancel channel i).2 := by
  unfold Session.cancel
  split
  · exact ⟨p, p, .inl rfl, .refl, h⟩
  · rename_i next hw
    obtain ⟨hplaced, hplace, -⟩ := h.placed.wake hw (.run (next (.error .cancelled)))
    have hcancel : Pool.Cancel p i _ := .queued hplace
    have hdepicts : Depicts script started [] _
        (Session.wake { s with lockQueue := s.lockQueue.filter (· != i) } i
          (.run (next (.error .cancelled)))) :=
      ⟨h.guarded.cancel hcancel, h.state, congrArg (List.filter (· != i)) h.queue, hplaced⟩
    obtain ⟨q, hq, hdepicts'⟩ := hdepicts.drain hpatient _
    exact ⟨_, q, .inr hcancel, hq, hdepicts'⟩
  · rename_i next hw
    obtain ⟨hplaced, hplace, -⟩ := h.placed.wake hw (.run (next (.error .cancelled)))
    have hcancel : Pool.Cancel p i _ := .calling hplace
    have hdepicts : Depicts script started [] _
        (Session.wake { s with receivers := s.receivers.filter (· != i) } i
          (.run (next (.error .cancelled)))) :=
      ⟨h.guarded.cancel hcancel, h.state, h.queue, hplaced⟩
    obtain ⟨q, hq, hdepicts'⟩ := hdepicts.drain hpatient _
    exact ⟨_, q, .inr hcancel, hq, hdepicts'⟩

theorem disturb {α : Type} (hpatient : channel.Patient) (h : Depicts script started [] p s)
    (f : κ → α × κ) :
    ∃ q, Pool.Reaches channel { p with state := (f s.state).2 } q ∧
      Depicts script started [] q (s.disturb channel f).2 := by
  have hguarded : Guarded { p with state := (f s.state).2 } :=
    ⟨h.guarded.nodup, h.guarded.outside, h.guarded.inside⟩
  have hdepicts : Depicts script started [] { p with state := (f s.state).2 }
      { s with state := (f s.state).2, log := s.log ++ [] } := ⟨hguarded, rfl, h.queue, h.placed⟩
  exact drain hpatient (absorb (e := ⟨(f s.state).1, (f s.state).2, []⟩) hdepicts) _

end Depicts

/-! ## Runs -/

/-- Sessions in which tasks start one after another, each to issue the one operation of its script. Meanwhile
tasks may be cancelled, and the channel may change. A session is calm if neither has happened. -/
inductive Session.Runs (channel : Channel κ) (changes : κ → κ → Prop) (s₀ : κ)
    (script : Nat → List Operation) : Bool → List Nat → Session κ Reply → Prop where
  | ofState : Runs channel changes s₀ script true [] (ofState s₀)
  | start {calm : Bool} {started : List Nat} {s : Session κ Reply} {i : Nat} {op : Operation}
      (h : Runs channel changes s₀ script calm started s) (hi : i ∉ started) (hscript : script i = [op]) :
      Runs channel changes s₀ script calm (i :: started) (s.start channel i (op.act true))
  | cancel {calm : Bool} {started : List Nat} {s : Session κ Reply}
      (h : Runs channel changes s₀ script calm started s) (i : Nat) :
      Runs channel changes s₀ script false started (s.cancel channel i).2
  | disturb {calm : Bool} {started : List Nat} {s : Session κ Reply} {α : Type} {f : κ → α × κ}
      (h : Runs channel changes s₀ script calm started s) (hf : changes s.state (f s.state).2) :
      Runs channel changes s₀ script false started (s.disturb channel f).2

/-- What can happen to a pool: a task takes a step or is cancelled, or the channel changes. -/
inductive Pool.Event (channel : Channel κ) (changes : κ → κ → Prop) (p : Pool κ) : Pool κ → Prop where
  | step {i : Nat} {q : Pool κ} (h : Pool.Step channel p i q) : Event channel changes p q
  | cancel {i : Nat} {q : Pool κ} (h : Pool.Cancel p i q) : Event channel changes p q
  | change {s : κ} (h : changes p.state s) : Event channel changes p { p with state := s }

/-- What can come of `p`, whatever happens to it. -/
def Pool.Undergoes (channel : Channel κ) (changes : κ → κ → Prop) : Pool κ → Pool κ → Prop :=
  Relation.ReflTransGen (Pool.Event channel changes)

theorem Pool.Reaches.undergoes {channel : Channel κ} {p q : Pool κ} (h : Reaches channel p q)
    (changes : κ → κ → Prop) : Undergoes channel changes p q :=
  Relation.ReflTransGen.mono (fun _ _ ⟨_, hstep⟩ => .step hstep) _ _ h

namespace Session

variable {channel : Channel κ} {changes : κ → κ → Prop} {s₀ : κ} {script : Nat → List Operation}
  {calm : Bool} {started : List Nat} {s : Session κ Reply}

/-- Whatever a session comes to, tasks of a pool can come to, and by their own steps if it is calm. -/
theorem Runs.depicted (hpatient : channel.Patient) (h : Runs channel changes s₀ script calm started s) :
    ∃ p, Pool.Undergoes channel changes (Pool.initial s₀ script) p ∧
      (calm = true → Pool.Reaches channel (Pool.initial s₀ script) p) ∧ Depicts script started [] p s := by
  induction h with
  | ofState => exact ⟨_, .refl, fun _ => .refl, .ofState s₀ script⟩
  | start _ hi hscript ih =>
    obtain ⟨p, hp, hcalm, hdepicts⟩ := ih
    obtain ⟨q, hq, hdepicts'⟩ := hdepicts.start hpatient hi hscript
    exact ⟨q, hp.trans (hq.undergoes changes), fun hc => (hcalm hc).trans hq, hdepicts'⟩
  | cancel _ i ih =>
    obtain ⟨p, hp, -, hdepicts⟩ := ih
    obtain ⟨q, q', hcancel, hq, hdepicts'⟩ := hdepicts.cancel hpatient i
    refine ⟨q', ?_, nofun, hdepicts'⟩
    rcases hcancel with rfl | hcancel
    · exact hp.trans (hq.undergoes changes)
    · exact (hp.tail (.cancel hcancel)).trans (hq.undergoes changes)
  | disturb _ hf ih =>
    obtain ⟨p, hp, -, hdepicts⟩ := ih
    obtain ⟨q, hq, hdepicts'⟩ := hdepicts.disturb hpatient _
    rw [← hdepicts.state] at hf hq
    exact ⟨q, (hp.tail (.change hf)).trans (hq.undergoes changes), nofun, hdepicts'⟩

/-- If no change makes an answer arrive or disappear, what comes of a session with a peer comes of a pool
with that peer, although tasks are cancelled. -/
theorem Runs.comes (hpatient : channel.Patient) {peer : Peer channel} (hs : peer.At s₀ [] 0)
    (hchanges : ∀ {k k' frames n}, changes k k' → peer.At k frames n → peer.At k' frames n)
    (h : Runs channel changes s₀ script calm started s) :
    ∃ p, Pool.Comes peer (Pool.initial s₀ script) p ∧ Depicts script started [] p s := by
  obtain ⟨p, hp, -, hdepicts⟩ := h.depicted hpatient
  refine ⟨p, ?_, hdepicts⟩
  clear hdepicts
  induction hp with
  | refl => exact .refl
  | tail _ hevent ih =>
    cases hevent with
    | step hstep => exact ih.tail (.step hstep)
    | cancel hcancel => exact ih.tail (.cancel hcancel)
    | change hchange => exact ih.tail (.arrive (hchanges hchange (Matched.of_comes hs ih).state))

/-- The tasks come to what one task comes to that issues their operations one after another, in the order
in which they had the lock. -/
def Served (channel : Channel κ) (s₀ : κ) (script : Nat → List Operation) (s : Session κ Reply) : Prop :=
  ∃ (served : List (Nat × Operation)) (done : List (Except Fault Reply × List Call)) (s₁ : κ),
    serve channel (served.map Prod.snd) s₀ = some (done, s₁) ∧
    (s.lockQueue = [] → s.state = s₁) ∧
    (∀ e ∈ served, e.2 ∈ script e.1) ∧
    ∀ e ∈ s.results, ∃ op u, ((e.1, op), (e.2, u)) ∈ served.zip done

theorem Runs.served (hpatient : channel.Patient) (h : Runs channel changes s₀ script true started s) :
    Served channel s₀ script s := by
  obtain ⟨p, -, hcalm, hdepicts⟩ := h.depicted hpatient
  have hp := hcalm rfl
  obtain ⟨served, pending, done, s₁, u, hserial⟩ := Serial.of_reaches hp
  refine ⟨served, done, s₁, hserial.serve, ?_, ?_, ?_⟩
  · intro hqueue
    have hpending : pending = [] := by
      have hmap := hserial.queue
      rw [hdepicts.queue, hqueue] at hmap
      exact List.map_eq_nil_iff.mp hmap.symm
    rw [← hdepicts.state]
    exact (hserial.free hpending).1
  · intro e he
    rw [hserial.todo e.1, hserial.requested]
    refine List.mem_append_left _ (List.mem_map_of_mem (List.mem_filter.mpr ⟨?_, beq_self_eq_true _⟩))
    exact List.mem_append_left _ he
  · intro e he
    have hresult : e.2 ∈ (p.tasks e.1).ended := by
      refine List.mem_append_left _ ?_
      rw [hdepicts.placed.ended e.1]
      exact List.mem_map_of_mem (List.mem_filter.mpr ⟨he, beq_self_eq_true _⟩)
    rw [hserial.ended e.1] at hresult
    obtain ⟨⟨⟨i, op⟩, r, u⟩, hmem, hr⟩ := List.mem_map.mp hresult
    obtain ⟨hmem, hi⟩ := List.mem_filter.mp hmem
    obtain rfl : i = e.1 := eq_of_beq hi
    obtain rfl : r = e.2 := hr
    exact ⟨op, u, hmem⟩

theorem Runs.served_mock {m : Mock} {changes : Mock → Mock → Prop} {s : Session Mock Reply}
    (h : Runs Channel.mock changes m script true started s) : Served Channel.mock m script s :=
  h.served Channel.patient_mock

theorem Runs.served_webSocket {connection : Connection κ} {url : Option String}
    (h : Runs (Channel.webSocket connection url) changes s₀ script true started s) :
    Served (Channel.webSocket connection url) s₀ script s :=
  h.served (Channel.patient_webSocket connection url)

end Session

end RemoteSigner
