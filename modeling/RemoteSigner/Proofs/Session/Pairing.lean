import Mathlib
import RemoteSigner.Proofs.Client.Plays
import RemoteSigner.Proofs.Session.Ledger

/-!
# Replies under cancellation

Tasks share a client over a channel whose peer answers every frame with one message, in order, and may be
cancelled wherever they wait. What an operation receives is the answer to the first frame that nobody has
received an answer to. This is its own frame exactly if no exchange before it was abandoned, after its
frame was accepted and before its answer was received (`Pool.reply_of_message`).
-/

namespace RemoteSigner

variable {κ : Type}

/-! ## Stages of an operation -/

namespace Act

variable {ρ : Type}

/-- An operation has a frame in flight exactly while it is about to receive. -/
def Stage (a : Act ρ) (t : Nat × Nat) (flight : Option (Nat × Nat)) : Prop :=
  a.Speaking ∧ flight = none ∨ a.Listening ∧ flight = some t

theorem Stage.of_silent {a : Act ρ} (ha : a.Silent) (t : Nat × Nat) : a.Stage t none :=
  .inl ⟨ha.speaking, rfl⟩

theorem Stage.interrupted {a : Act ρ} {t : Nat × Nat} {flight : Option (Nat × Nat)} {c : Call}
    (ha : a.Stage t flight) (hc : a.call? = some c) : a.interrupted.Silent := by
  rcases ha with ⟨ha, -⟩ | ⟨ha, -⟩
  · cases a with
    | send => exact ha.2 _
    | close => exact ha _
    | receive => exact ha.elim
    | done | acquire | release | log => cases hc
  · cases a with
    | receive => exact ha _
    | send | close => exact ha.elim
    | done | acquire | release | log => cases hc

end Act

section

variable [Readers]

theorem Operation.speaking (op : Operation) : (op.act false).unlocking.Speaking := by
  have hact : (op.act false).Speaking := by
    cases op with
    | call command request =>
      exact (Client.speaking_exchange command request command.reply.shape).andThen fun _ => trivial
    | close => exact fun r => trivial
  exact hact.andThen fun _ => trivial

/-- The stage of the operation that has the lock, or is the next to have it. -/
def Place.Stage (t : Nat × Nat) (flight : Option (Nat × Nat)) : Place → Prop
  | running a => a.Stage t flight
  | calling a => a.Stage t flight
  | returning a b => b.Stage t flight ∧ a.interrupted.Silent
  | _ => flight = none

theorem Place.Waits.stage {place : Place} (h : place.Waits) {t : Nat × Nat}
    {flight : Option (Nat × Nat)} : place.Stage t flight ↔ flight = none := by
  cases place with
  | queued => exact Iff.rfl
  | idle | running | calling | returning => exact h.elim

/-! ## Runs with cancellation -/

/-- What can happen to a pool: a task takes a step or is cancelled, or something about the channel changes
by itself, such as an answer that arrives, but not which frames were accepted and how many answers were
received. -/
inductive Pool.Move {channel : Channel κ} (peer : Peer channel) (p : Pool κ) : Pool κ → Prop where
  | step {i : Nat} {q : Pool κ} (h : Pool.Step channel p i q) : Move peer p q
  | cancel {i : Nat} {q : Pool κ} (h : Pool.Cancel p i q) : Move peer p q
  | arrive {s : κ} (h : peer.At s (Ledger.frames p.answers) (Ledger.messages p.answers).length) :
      Move peer p { p with state := s }

/-- What tasks can come to from `p`, in any order of their steps and cancellations. -/
def Pool.Comes {channel : Channel κ} (peer : Peer channel) : Pool κ → Pool κ → Prop :=
  Relation.ReflTransGen (Pool.Move peer)

/-- The ledger agrees with the channel, and the operation that has the lock is where the ledger says. -/
structure Matched {channel : Channel κ} (peer : Peer channel) (p : Pool κ) : Prop where
  guarded : Guarded p
  paired : Ledger.Paired p.answers
  state : peer.At p.state (Ledger.frames p.answers) (Ledger.messages p.answers).length
  answered : Ledger.Answered peer.answer p.answers
  stage : ∀ i, p.queue.head? = some i →
    (p.tasks i).place.Stage (p.turn i) (Ledger.inFlight p.answers)
  closed : p.queue = [] → Ledger.inFlight p.answers = none

namespace Matched

variable {channel : Channel κ} {peer : Peer channel} {p q : Pool κ} {i : Nat}

theorem initial {s : κ} (hs : peer.At s [] 0) (script : Nat → List Operation) :
    Matched peer (Pool.initial s script) :=
  ⟨.initial s script, .nil, hs, nofun, nofun, fun _ => rfl⟩

theorem stage_of_place (h : Matched peer p) (hhead : p.queue.head? = some i) {place : Place}
    (hplace : (p.tasks i).place = place) :
    place.Stage (p.turn i) (Ledger.inFlight p.answers) := hplace ▸ h.stage i hhead

theorem move_head (h : Matched peer p) (hhead : p.queue.head? = some i) {place : Place}
    {calls : List Call} (hguarded : Guarded { p.move i place with calls := calls })
    (hstage : place.Stage (p.turn i) (Ledger.inFlight p.answers)) :
    Matched peer { p.move i place with calls := calls } := by
  refine ⟨hguarded, h.paired, h.state, h.answered, ?_, h.closed⟩
  intro j hj
  have hji : j = i := Option.some.inj (hj.symm.trans hhead)
  show ((p.move i place).tasks j).place.Stage (j, ((p.move i place).tasks j).results.length) _
  rw [hji, Pool.move_tasks_self]
  exact hstage

theorem set_outside (h : Matched peer p) (hi : i ∉ p.queue) {t : Task}
    (hguarded : Guarded (p.set i t)) : Matched peer (p.set i t) := by
  refine ⟨hguarded, h.paired, h.state, h.answered, ?_, h.closed⟩
  intro j hj
  have hne : j ≠ i := by
    rintro rfl
    exact hi (List.mem_of_head? hj)
  show ((p.set i t).tasks j).place.Stage (j, ((p.set i t).tasks j).results.length) _
  rw [Pool.set_tasks_of_ne hne]
  exact h.stage j hj

theorem enqueue (h : Matched peer p) (hi : i ∉ p.queue) {t : Task} (ht : t.place.Waits)
    {requested : List (Nat × Operation)}
    (hguarded : Guarded { p.set i t with queue := p.queue ++ [i], requested := requested }) :
    Matched peer { p.set i t with queue := p.queue ++ [i], requested := requested } := by
  refine ⟨hguarded, h.paired, h.state, h.answered, ?_, ?_⟩
  · intro j hj
    show ((p.set i t).tasks j).place.Stage (j, ((p.set i t).tasks j).results.length) _
    by_cases hji : j = i
    · rw [hji, Pool.set_tasks_self, ht.stage]
      cases hqueue : p.queue with
      | nil => exact h.closed hqueue
      | cons k rest =>
        have hjk : (k :: rest ++ [i]).head? = some j := hqueue ▸ hj
        cases hjk
        exact absurd (hqueue ▸ List.mem_cons_self ..) (hji ▸ hi)
    · rw [Pool.set_tasks_of_ne hji]
      refine h.stage j ?_
      cases hqueue : p.queue with
      | nil =>
        have hjk : ([] ++ [i]).head? = some j := hqueue ▸ hj
        exact absurd (Option.some.inj hjk).symm hji
      | cons k rest =>
        have hjk : (k :: rest ++ [i]).head? = some j := hqueue ▸ hj
        exact hjk
  · intro hq
    exact absurd hq (by simp)

theorem dequeue (h : Matched peer p) (hhead : p.queue.head? = some i)
    (hflight : Ledger.inFlight p.answers = none) {t : Task} {queue : List Nat}
    (hqueue : queue = p.queue.filter (· != i))
    (hguarded : Guarded { p.set i t with queue := queue }) :
    Matched peer { p.set i t with queue := queue } := by
  refine ⟨hguarded, h.paired, h.state, h.answered, ?_, fun _ => hflight⟩
  intro j hj
  obtain ⟨hmem, hne⟩ : j ∈ p.queue ∧ j ≠ i := by
    have hj' : j ∈ queue := List.mem_of_head? hj
    rw [hqueue] at hj'
    simpa using hj'
  show ((p.set i t).tasks j).place.Stage (j, ((p.set i t).tasks j).results.length) _
  rw [Pool.set_tasks_of_ne hne]
  -- whoever is next still waits for the lock, and so has no frame in flight
  rcases h.guarded.inside j hmem with hw | ⟨hhead', -⟩
  · exact hw.stage.mpr hflight
  · exact absurd (Option.some.inj (hhead'.symm.trans hhead)) hne

theorem leave (h : Matched peer p) {k : Nat} (hhead : p.queue.head? = some k) (hki : k ≠ i) {t : Task}
    (hguarded : Guarded { p.set i t with queue := p.queue.filter (· != i) }) :
    Matched peer { p.set i t with queue := p.queue.filter (· != i) } := by
  have hfilter : (p.queue.filter (· != i)).head? = some k := by
    obtain ⟨rest, hrest⟩ := List.head?_eq_some_iff.mp hhead
    rw [hrest, List.filter_cons_of_pos (by simpa using hki)]
    rfl
  refine ⟨hguarded, h.paired, h.state, h.answered, ?_, ?_⟩
  · intro j hj
    have hjk : j = k := Option.some.inj (hj.symm.trans hfilter)
    show ((p.set i t).tasks j).place.Stage (j, ((p.set i t).tasks j).results.length) _
    rw [hjk, Pool.set_tasks_of_ne hki]
    exact h.stage k hhead
  · intro hq
    have hnil : p.queue.filter (· != i) = [] := hq
    rw [hnil] at hfilter
    cases hfilter

theorem record (h : Matched peer p) (hhead : p.queue.head? = some i) {place : Place} {s : κ}
    {w : Answer}
    (hguarded : Guarded
      { p.move i place with state := s, answers := p.answers ++ [(p.turn i, w)] })
    (hpaired : Ledger.Paired (p.answers ++ [(p.turn i, w)]))
    (hstate : peer.At s (Ledger.frames (p.answers ++ [(p.turn i, w)]))
      (Ledger.messages (p.answers ++ [(p.turn i, w)])).length)
    (hmessage : ∀ m, w.message? = some m →
      (Ledger.messages p.answers).length < (Ledger.frames p.answers).length ∧
        m = peer.answer ((Ledger.frames p.answers).take ((Ledger.messages p.answers).length + 1)))
    (hstage : place.Stage (p.turn i) (w.frame?.map fun _ => p.turn i)) :
    Matched peer { p.move i place with state := s, answers := p.answers ++ [(p.turn i, w)] } := by
  refine ⟨hguarded, hpaired, hstate, h.answered.concat hmessage, ?_, ?_⟩
  · intro j hj
    have hji : j = i := Option.some.inj (hj.symm.trans hhead)
    show ((p.move i place).tasks j).place.Stage (j, ((p.move i place).tasks j).results.length)
      (Ledger.inFlight (p.answers ++ [(p.turn i, w)]))
    rw [hji, Pool.move_tasks_self, Ledger.inFlight_concat]
    exact hstage
  · intro hq
    have hnil : p.queue = [] := hq
    rw [hnil] at hhead
    cases hhead

theorem interrupt (h : Matched peer p) (hhead : p.queue.head? = some i) {a : Act Reply}
    (hguarded : Guarded { p.move i (.running a.interrupted) with
      answers := p.answers ++ [(p.turn i, .cancelled)] })
    (hsilent : a.interrupted.Silent)
    (hflight : Ledger.inFlight p.answers = none ∨ Ledger.inFlight p.answers = some (p.turn i)) :
    Matched peer { p.move i (.running a.interrupted) with
      answers := p.answers ++ [(p.turn i, .cancelled)] } := by
  refine h.record hhead hguarded ?_ ?_ (Answer.of_not_message rfl) (.of_silent hsilent _)
  · rcases hflight with hflight | hflight
    · exact .start h.paired hflight rfl
    · exact .finish h.paired hflight trivial
  · show peer.At p.state _ _
    rw [Ledger.frames_concat, Ledger.messages_concat]
    simpa [Answer.frame?, Answer.message?] using h.state

theorem answer (h : Matched peer p) {a b : Act Reply} {s : κ} {w : Answer}
    (hplace : (p.tasks i).place = .calling a) (hanswer : a.answer channel p.state = some (b, s, w))
    (hguarded : Guarded { p.move i (.returning a b) with
      state := s, answers := p.answers ++ [(p.turn i, w)] }) :
    Matched peer { p.move i (.returning a b) with
      state := s, answers := p.answers ++ [(p.turn i, w)] } := by
  obtain ⟨hhead, -, c, hc⟩ := h.guarded.of_calling hplace
  have hstage : a.Stage _ _ := h.stage_of_place hhead hplace
  have hsilent := hstage.interrupted hc
  obtain ⟨hat, hmessage⟩ := Act.answer_allowed
    (p := ⟨p.state, Ledger.frames p.answers, (Ledger.messages p.answers).length⟩) h.state hanswer
  have hstate : peer.At s (Ledger.frames (p.answers ++ [(p.turn i, w)]))
      (Ledger.messages (p.answers ++ [(p.turn i, w)])).length := by
    rw [Ledger.frames_concat, Ledger.messages_concat, List.length_append]
    exact hat
  cases a with
  | send frame next =>
    cases hanswer
    rcases hstage with ⟨⟨hok, herror⟩, hflight⟩ | ⟨⟨⟩, -⟩
    refine h.record hhead hguarded (.start h.paired hflight rfl) hstate hmessage ?_
    cases hr : (channel.send frame p.state).result with
    | ok => exact ⟨.inr ⟨hok, rfl⟩, hsilent⟩
    | error f => exact ⟨.of_silent (herror f) _, hsilent⟩
  | receive next =>
    obtain ⟨r, hr, hanswer⟩ := Option.map_eq_some_iff.mp hanswer
    cases hanswer
    rcases hstage with ⟨⟨⟩, -⟩ | ⟨hnext, hflight⟩
    exact h.record hhead hguarded (.finish h.paired hflight trivial) hstate hmessage
      ⟨.of_silent (hnext r) _, hsilent⟩
  | close next =>
    cases hanswer
    rcases hstage with ⟨hnext, hflight⟩ | ⟨⟨⟩, -⟩
    exact h.record hhead hguarded (.start h.paired hflight rfl) hstate hmessage
      ⟨.of_silent (hnext _) _, hsilent⟩
  | done | acquire | release | log => cases hc

/-- A step of a task keeps the ledger matched. -/
theorem step (h : Matched peer p) (hstep : Pool.Step channel p i q) : Matched peer q := by
  have hguarded := h.guarded.step hstep
  cases hstep with
  | start hplace => exact h.set_outside (h.guarded.not_mem_of_idle hplace) hguarded
  | @request _ _ rest hplace =>
    obtain ⟨hi, op, -, -, rfl⟩ := h.guarded.of_acquire hplace
    have hw : Place.Waits (.queued (op.act false).granted) := ⟨op, rfl⟩
    exact h.enqueue hi (t := ⟨rest, _, (p.tasks i).results⟩) hw hguarded
  | grant hplace hhead =>
    obtain ⟨-, op, rfl⟩ := h.guarded.of_queued hplace
    have hflight : Ledger.inFlight p.answers = none := h.stage_of_place hhead hplace
    exact h.move_head hhead hguarded (.inl ⟨op.speaking, hflight⟩)
  | @call a c hplace hcall =>
    obtain ⟨hhead, -⟩ := h.guarded.of_call hplace hcall
    have hstage : a.Stage _ _ := h.stage_of_place hhead hplace
    exact h.move_head hhead hguarded hstage
  | answer hplace hanswer => exact h.answer hplace hanswer hguarded
  | resume hplace =>
    obtain ⟨hhead, -⟩ := h.guarded.of_returning hplace
    exact h.move_head hhead hguarded (h.stage_of_place hhead hplace).1
  | @log record next hplace =>
    obtain ⟨hhead, -⟩ := h.guarded.of_running hplace nofun nofun
    have hstage : next.Stage _ _ := h.stage_of_place hhead hplace
    exact h.move_head hhead hguarded hstage
  | release hplace =>
    obtain ⟨hhead, -⟩ := h.guarded.of_running hplace nofun nofun
    rcases h.stage_of_place hhead hplace with ⟨-, hflight⟩ | ⟨⟨⟩, -⟩
    exact h.dequeue hhead hflight (h.guarded.tail_eq_filter hhead) hguarded
  | finish hplace => exact h.set_outside (h.guarded.not_mem_of_done hplace) hguarded

/-- So does the cancellation of a task. -/
theorem cancel (h : Matched peer p) (hcancel : Pool.Cancel p i q) : Matched peer q := by
  have hguarded := h.guarded.cancel hcancel
  cases hcancel with
  | queued hplace =>
    obtain ⟨hi, -⟩ := h.guarded.of_queued hplace
    obtain ⟨k, hhead⟩ : ∃ k, p.queue.head? = some k := by
      cases hqueue : p.queue with
      | nil => rw [hqueue] at hi; cases hi
      | cons k rest => exact ⟨k, rfl⟩
    by_cases hki : k = i
    · subst hki
      exact h.dequeue hhead (h.stage_of_place hhead hplace) rfl hguarded
    · exact h.leave hhead hki hguarded
  | calling hplace =>
    obtain ⟨hhead, -, c, hc⟩ := h.guarded.of_calling hplace
    have hstage : Act.Stage _ _ _ := h.stage_of_place hhead hplace
    exact h.interrupt hhead hguarded (hstage.interrupted hc) (hstage.imp And.right And.right)
  | returning hplace =>
    obtain ⟨hhead, -⟩ := h.guarded.of_returning hplace
    obtain ⟨hstage, hsilent⟩ := h.stage_of_place hhead hplace
    exact h.interrupt hhead hguarded hsilent (hstage.imp And.right And.right)

/-- The ledger is matched in everything that tasks come to. -/
theorem of_comes {s₀ : κ} (hs : peer.At s₀ [] 0) {script : Nat → List Operation}
    (h : Pool.Comes peer (Pool.initial s₀ script) p) : Matched peer p := by
  induction h with
  | refl => exact .initial hs script
  | tail _ hmove ih =>
    cases hmove with
    | step hstep => exact ih.step hstep
    | cancel hcancel => exact ih.cancel hcancel
    | arrive harrive =>
      exact ⟨⟨ih.guarded.nodup, ih.guarded.outside, ih.guarded.inside⟩, ih.paired, harrive,
        ih.answered, ih.stage, ih.closed⟩

end Matched

/-- A message goes to the operation that sent the last frame before it. It answers the first frame that
nobody had received an answer to: the operation's own, unless earlier exchanges were abandoned, and then
one that was accepted so many frames before. An exchange is abandoned if its operation is cancelled, or
receives something else than a message, after its frame was accepted. -/
theorem Pool.reply_of_message {channel : Channel κ} {peer : Peer channel} {s₀ : κ}
    (hs : peer.At s₀ [] 0) {script : Nat → List Operation} {p : Pool κ}
    (h : Pool.Comes peer (Pool.initial s₀ script) p) :
    (∀ before t m after, p.answers = before ++ (t, .received (.ok (some m))) :: after →
      ∃ (earlier : Ledger) (frame : Text), before = earlier ++ [(t, .sent frame (.ok ()))] ∧
        m = peer.answer ((Ledger.frames p.answers).take (earlier.messages.length + 1)) ∧
        earlier.frames.length = earlier.messages.length + earlier.abandoned ∧
        (earlier.messages.length = earlier.frames.length ↔ earlier.abandoned = 0)) ∧
    (∀ before t frame after, p.answers = before ++ (t, .sent frame (.ok ())) :: after →
      after = [] ∨ ∃ w rest, after = (t, w) :: rest ∧ w.Ends) := by
  have hmatched := Matched.of_comes hs h
  refine ⟨?_, ?_⟩
  · intro before t m after hsplit
    have hpaired := hmatched.paired
    rw [hsplit] at hpaired
    obtain ⟨earlier, frame, rfl, hearlier, hflight⟩ := hpaired.of_message
    have hlength := hearlier.length_frames
    rw [hflight] at hlength
    have hcount : Ledger.messages (earlier ++ [(t, .sent frame (.ok ()))]) = earlier.messages := by
      rw [Ledger.messages_concat]
      exact List.append_nil _
    have hmessage : (Ledger.messages p.answers)[earlier.messages.length]? = some m := by
      rw [hsplit, ← hcount]
      exact Ledger.getElem?_messages
    refine ⟨earlier, frame, rfl, (hmatched.answered _ m hmessage).2, hlength, ?_⟩
    simp only [Option.isSome_none, Bool.false_eq_true, if_false] at hlength
    omega
  · intro before t frame after hsplit
    have hpaired := hmatched.paired
    rw [hsplit] at hpaired
    exact hpaired.of_frame

end

/-- The answer to the last of the frames is an address whose key is the number of frames. -/
def numberedAddress (frames : List Text) : Message :=
  .ofText (.whole ("\x7b\"receiving_key\":\"0" ++ toString frames.length ++ "\"\x7d"))

/-- The frame that asks for the address. -/
def addressFrame : Text := .whole "\x7b\"command\":\"address\",\"request\":\"Get\"\x7d"

/-- A task asks for the address and is cancelled when its frame has been accepted. Another task asks, the
answers to both frames arrive, and the second task gives the first of them. -/
theorem Pool.reply_of_message_cancelled :
    ∃ p, Pool.Comes (Peer.mock numberedAddress)
        (Pool.initial (Mock.fresh none) fun _ => [.call .address (.text (.whole getRequest))]) p ∧
      p.answers = [((0, 0), .sent addressFrame (.ok ())), ((0, 0), .cancelled),
        ((1, 0), .sent addressFrame (.ok ())),
        ((1, 0), .received (.ok (some (numberedAddress [addressFrame]))))] ∧
      (p.tasks 1).results = [.ok (.value .address (some ⟨⟨"01", by decide⟩⟩))] ∧
      ∃ earlier : Ledger, p.answers = earlier ++ [((1, 0), .sent addressFrame (.ok ())),
          ((1, 0), .received (.ok (some (numberedAddress [addressFrame]))))] ∧
        earlier.abandoned = 1 ∧ earlier.messages.length ≠ earlier.frames.length := by
  have harrived : Mock.Answering numberedAddress
      { Mock.fresh none with
        frames := [addressFrame, addressFrame]
        inbox := [.message (numberedAddress [addressFrame]),
          .message (numberedAddress [addressFrame, addressFrame])] }
      [addressFrame, addressFrame] 0 := ⟨rfl, rfl, [], rfl⟩
  have hcomes : Pool.Comes (Peer.mock numberedAddress)
      (Pool.initial (Mock.fresh none) fun _ => [.call .address (.text (.whole getRequest))]) _ :=
    .head (.step (.start (i := 0) rfl rfl)) <| .head (.step (.request (i := 0) rfl rfl)) <|
    .head (.step (.grant (i := 0) rfl rfl)) <| .head (.step (.call (i := 0) rfl rfl)) <|
    .head (.step (.answer (i := 0) rfl rfl)) <| .head (.step (.resume (i := 0) rfl)) <|
    .head (.step (.log (i := 0) rfl)) <| .head (.step (.call (i := 0) rfl rfl)) <|
    .head (.cancel (.calling (i := 0) rfl)) <| .head (.step (.release (i := 0) rfl)) <|
    .head (.step (.start (i := 1) rfl rfl)) <| .head (.step (.request (i := 1) rfl rfl)) <|
    .head (.step (.grant (i := 1) rfl rfl)) <| .head (.step (.call (i := 1) rfl rfl)) <|
    .head (.step (.answer (i := 1) rfl rfl)) <| .head (.step (.resume (i := 1) rfl)) <|
    .head (.step (.log (i := 1) rfl)) <| .head (.step (.call (i := 1) rfl rfl)) <|
    .head (.arrive harrived) <| .head (.step (.answer (i := 1) rfl rfl)) <|
    .head (.step (.resume (i := 1) rfl)) <| .head (.step (.log (i := 1) rfl)) <|
    .head (.step (.release (i := 1) rfl)) <| .head (.step (.finish (i := 1) rfl)) .refl
  have hsound : (Peer.mock numberedAddress).At (Mock.fresh none) [] 0 := ⟨rfl, rfl, List.nil_prefix⟩
  obtain ⟨hmessages, -⟩ := Pool.reply_of_message hsound hcomes
  obtain ⟨earlier, frame, hsplit, -, -, hown⟩ :=
    hmessages [_, _, _] (1, 0) (numberedAddress [addressFrame]) [] rfl
  obtain ⟨rfl, -⟩ := List.append_inj' (show [_, _] ++ [_] = _ from hsplit) rfl
  exact ⟨_, hcomes, rfl, rfl, [_, _], rfl, rfl, fun heq => absurd (hown.mp heq) (by decide)⟩

end RemoteSigner
