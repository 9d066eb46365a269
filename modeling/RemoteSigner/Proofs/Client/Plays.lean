import Mathlib
import RemoteSigner.Proofs.Channel.Peer
import RemoteSigner.Proofs.Client.Stages

/-!
# Programs alone with a peer

A program that is alone on its channel is played against the peer: its calls are answered in turn, and
messages may arrive between any two of its steps (`Act.Plays`). The position says what has been accepted
and received by then. Whatever is played, the position stays one that the peer allows
(`Act.Plays.allowed`).
-/

namespace RemoteSigner

variable {κ : Type} {channel : Channel κ}

/-- Where a program and its peer are: the state of the channel, the frames that were accepted and the number
of answers that were received. -/
structure Position (κ : Type) where
  state : κ
  frames : List Text
  received : Nat

namespace Position

/-- A channel on which nothing has happened. -/
def start (s : κ) : Position κ := ⟨s, [], 0⟩

/-- The position after a call that left the channel in the state `s`. -/
def after (p : Position κ) (w : Answer) (s : κ) : Position κ :=
  ⟨s, p.frames ++ w.frame?.toList, p.received + w.message?.toList.length⟩

end Position

namespace Peer

/-- The peer allows the position. -/
def Allows (peer : Peer channel) (p : Position κ) : Prop := peer.At p.state p.frames p.received

end Peer

namespace Act

variable {α β ρ : Type}

/-- How a program ends that makes no more calls. -/
def ending : Act ρ → Option (Except Fault ρ)
  | .done r => some r
  | .release next => next.ending
  | .log _ next => next.ending
  | _ => none

/-- A play of the program: what its calls came to in turn, how it ended, and where. -/
inductive Plays (peer : Peer channel) :
    Act ρ → Position κ → List Answer → Except Fault ρ → Position κ → Prop
  | done (r : Except Fault ρ) (p : Position κ) : Plays peer (.done r) p [] r p
  | log {record : LogRecord} {next : Act ρ} {p q : Position κ} {ws : List Answer}
      {r : Except Fault ρ} (h : Plays peer next p ws r q) : Plays peer (.log record next) p ws r q
  /-- Something arrives. -/
  | arrive {a : Act ρ} {p q : Position κ} {s : κ} {ws : List Answer} {r : Except Fault ρ}
      (hs : peer.Allows { p with state := s }) (h : Plays peer a { p with state := s } ws r q) :
      Plays peer a p ws r q
  | answer {a b : Act ρ} {p q : Position κ} {s : κ} {w : Answer} {ws : List Answer}
      {r : Except Fault ρ} (hanswer : a.answer channel p.state = some (b, s, w))
      (h : Plays peer b (p.after w s) ws r q) : Plays peer a p (w :: ws) r q

theorem answer_allowed {peer : Peer channel} {a b : Act ρ} {p : Position κ} {s : κ} {w : Answer}
    (hp : peer.Allows p) (h : a.answer channel p.state = some (b, s, w)) :
    peer.Allows (p.after w s) ∧ ∀ m, w.message? = some m →
      p.received < p.frames.length ∧ m = peer.answer (p.frames.take (p.received + 1)) := by
  cases a with
  | send frame next =>
    cases h
    refine ⟨?_, Answer.of_not_message rfl⟩
    cases hr : (channel.send frame p.state).result with
    | ok => exact peer.send_ok hp hr
    | error f =>
      have := peer.send_error hp hr
      simpa [Peer.Allows, Position.after, Answer.frame?, Answer.message?] using this
  | receive next =>
    obtain ⟨r, hr, h⟩ := Option.map_eq_some_iff.mp h
    cases h
    by_cases hmessage : ∃ m, r = .ok (some m)
    · obtain ⟨m, rfl⟩ := hmessage
      obtain ⟨hat, hm⟩ := peer.receive_message hp hr
      refine ⟨?_, ?_⟩
      · simpa [Peer.Allows, Position.after, Answer.frame?, Answer.message?] using hat
      · intro m' hm'
        cases hm'
        exact hm
    · have hother : ∀ m, r ≠ .ok (some m) := fun m hm => hmessage ⟨m, hm⟩
      have hnone := Answer.message?_of_ne hother
      refine ⟨?_, Answer.of_not_message hnone⟩
      have := peer.receive_other hp hr hother
      simpa [Peer.Allows, Position.after, Answer.frame?, hnone] using this
  | close next =>
    cases h
    refine ⟨?_, Answer.of_not_message rfl⟩
    have := peer.close hp
    simpa [Peer.Allows, Position.after, Answer.frame?, Answer.message?] using this
  | done | acquire | release | log => cases h

namespace Plays

variable {peer : Peer channel} {a : Act ρ} {p q : Position κ} {ws : List Answer}
  {r : Except Fault ρ}

theorem allowed (h : a.Plays peer p ws r q) (hp : peer.Allows p) : peer.Allows q := by
  induction h with
  | done => exact hp
  | log _ ih => exact ih hp
  | arrive hs _ ih => exact ih hs
  | answer hanswer _ ih => exact ih (answer_allowed hp hanswer).1

theorem frames_eq (h : a.Plays peer p ws r q) :
    q.frames = p.frames ++ ws.filterMap Answer.frame? := by
  induction h with
  | done => exact (List.append_nil _).symm
  | log _ ih => exact ih
  | arrive _ _ ih => exact ih
  | @answer _ _ p _ _ w _ _ _ _ ih =>
    rw [ih, Position.after, List.append_assoc]
    cases hw : w.frame? <;> simp [hw]

theorem received_eq (h : a.Plays peer p ws r q) :
    q.received = p.received + (ws.filterMap Answer.message?).length := by
  induction h with
  | done => rfl
  | log _ ih => exact ih
  | arrive _ _ ih => exact ih
  | @answer _ _ p _ _ w _ _ _ _ ih =>
    rw [ih, Position.after, Nat.add_assoc]
    cases hw : w.message? <;> simp [hw, Nat.add_comm]

theorem of_log {record : LogRecord} {next : Act ρ} (h : (Act.log record next).Plays peer p ws r q) :
    next.Plays peer p ws r q := by
  generalize hb : Act.log record next = b at h
  induction h with
  | done => cases hb
  | log h => cases hb; exact h
  | arrive hs _ ih => exact .arrive hs (ih hb)
  | answer hanswer => subst hb; cases hanswer

theorem of_call {c : Call} (hc : a.call? = some c) (h : a.Plays peer p ws r q)
    (hp : peer.Allows p) : ∃ s b s' w ws', peer.Allows { p with state := s } ∧
      a.answer channel s = some (b, s', w) ∧ ws = w :: ws' ∧ b.Plays peer (p.after w s') ws' r q := by
  induction h with
  | done => cases hc
  | log => cases hc
  | arrive hs _ ih => exact ih hc hs
  | @answer a b p q s w ws r hanswer h => exact ⟨p.state, b, s, w, ws, hp, hanswer, rfl, h⟩

theorem of_silent (ha : a.Silent) (h : a.Plays peer p ws r q) : ws = [] ∧ a.ending = some r := by
  induction h with
  | done => exact ⟨rfl, rfl⟩
  | log _ ih => exact ih ha
  | arrive _ _ ih => exact ih ha
  | @answer a _ _ _ _ _ _ _ hanswer =>
    cases a with
    | send | receive | close => exact ha.elim
    | done | acquire | release | log => cases hanswer

theorem of_done {r₀ : Except Fault ρ} (h : (Act.done r₀).Plays peer p ws r q) :
    ws = [] ∧ r = r₀ := by
  obtain ⟨hws, hr⟩ := of_silent (a := .done r₀) trivial h
  exact ⟨hws, (Option.some.inj hr).symm⟩

theorem of_map {f : α → ρ} {a : Act α} (h : (a.map f).Plays peer p ws r q) :
    ∃ r', a.Plays peer p ws r' q ∧ r = f <$> r' := by
  generalize hb : a.map f = b at h
  induction h generalizing a with
  | done r p =>
    cases a with
    | done r' =>
      cases hb
      exact ⟨r', .done r' p, rfl⟩
    | send | receive | close | acquire | release | log => cases hb
  | log _ ih =>
    cases a with
    | log record next =>
      cases hb
      obtain ⟨r', h, hr⟩ := ih rfl
      exact ⟨r', .log h, hr⟩
    | done | send | receive | close | acquire | release => cases hb
  | arrive hs _ ih =>
    obtain ⟨r', h, hr⟩ := ih hb
    exact ⟨r', .arrive hs h, hr⟩
  | answer hanswer _ ih =>
    subst hb
    cases a with
    | send frame next =>
      cases hanswer
      obtain ⟨r', h, hr⟩ := ih rfl
      exact ⟨r', .answer rfl h, hr⟩
    | receive next =>
      obtain ⟨x, hx, hanswer⟩ := Option.map_eq_some_iff.mp hanswer
      cases hanswer
      obtain ⟨r', h, hr⟩ := ih rfl
      exact ⟨r', .answer (Option.map_eq_some_iff.mpr ⟨x, hx, rfl⟩) h, hr⟩
    | close next =>
      cases hanswer
      obtain ⟨r', h, hr⟩ := ih rfl
      exact ⟨r', .answer rfl h, hr⟩
    | done | acquire | release | log => cases hanswer

end Plays

end Act

end RemoteSigner
