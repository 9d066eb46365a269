import Mathlib
import RemoteSigner.Proofs.Session.Interleaving

/-!
# Frames and the messages that follow them

A `Ledger` records what calls came to, each under the operation that made it. A frame is in flight as long
as nothing comes after it (`Ledger.inFlight`). In a `Paired` ledger only the operation whose frame is in
flight receives anything, and nothing else comes between; then every frame is one that a message follows or
one that was `abandoned` (`Ledger.Paired.length_frames`).
-/

namespace RemoteSigner

namespace Answer

/-- Whether nothing more can come of the frame before: something was received, be it no message, or the
caller was cancelled. -/
def Ends : Answer → Prop
  | received _ => True
  | cancelled => True
  | _ => False

theorem Ends.frame? {w : Answer} (h : w.Ends) : w.frame? = none := by
  cases w with
  | sent => exact h.elim
  | received | closed | cancelled => rfl

end Answer

/-- What calls came to, in order, each under the operation that made it. -/
abbrev Ledger := List ((Nat × Nat) × Answer)

namespace Ledger

variable {h : Ledger} {e : (Nat × Nat) × Answer}

/-- The frames that were accepted. -/
def frames (h : Ledger) : List Text := h.filterMap (·.2.frame?)

/-- The messages that were received. -/
def messages (h : Ledger) : List Message := h.filterMap (·.2.message?)

/-- The operation whose frame was accepted last, if nothing has come of it. -/
def inFlight (h : Ledger) : Option (Nat × Nat) :=
  h.getLast?.bind fun e => e.2.frame?.map fun _ => e.1

/-- The number of frames that something else than a message came of. -/
def abandoned : Ledger → Nat
  | [] => 0
  | [_] => 0
  | e :: e' :: rest =>
    (if e.2.frame?.isSome ∧ e'.2.message? = none then 1 else 0) + abandoned (e' :: rest)

theorem frames_concat (h : Ledger) (e : (Nat × Nat) × Answer) :
    frames (h ++ [e]) = h.frames ++ e.2.frame?.toList := by
  rw [frames, List.filterMap_append]
  cases he : e.2.frame? <;> simp [he, frames]

theorem messages_concat (h : Ledger) (e : (Nat × Nat) × Answer) :
    messages (h ++ [e]) = h.messages ++ e.2.message?.toList := by
  rw [messages, List.filterMap_append]
  cases he : e.2.message? <;> simp [he, messages]

theorem getElem?_messages {after : Ledger} {t : Nat × Nat} {m : Message} :
    (messages (h ++ (t, .received (.ok (some m))) :: after))[h.messages.length]? = some m := by
  have hmessages : messages (h ++ (t, .received (.ok (some m))) :: after) =
      h.messages ++ m :: messages after := by
    simp [messages, Answer.message?]
  rw [hmessages, List.getElem?_append_right le_rfl, Nat.sub_self]
  rfl

theorem inFlight_concat (h : Ledger) (e : (Nat × Nat) × Answer) :
    inFlight (h ++ [e]) = e.2.frame?.map fun _ => e.1 := by
  rw [inFlight, List.getLast?_concat]
  rfl

theorem abandoned_concat (h : Ledger) (e : (Nat × Nat) × Answer) :
    abandoned (h ++ [e]) =
      h.abandoned + if h.inFlight.isSome ∧ e.2.message? = none then 1 else 0 := by
  induction h using abandoned.induct with
  | case1 => simp [abandoned, inFlight]
  | case2 e' => simp [abandoned, inFlight]
  | case3 e' e'' rest ih =>
    have hlast : inFlight (e' :: e'' :: rest) = inFlight (e'' :: rest) := by
      rw [inFlight, List.getLast?_cons_cons]
      rfl
    show (if _ then 1 else 0) + abandoned (e'' :: rest ++ [e]) = _
    rw [ih, abandoned, hlast, Nat.add_assoc]

theorem exists_of_inFlight {t : Nat × Nat} (ht : h.inFlight = some t) :
    ∃ before frame, h = before ++ [(t, .sent frame (.ok ()))] := by
  obtain ⟨e, hlast, he⟩ := Option.bind_eq_some_iff.mp ht
  obtain ⟨frame, hframe, rfl⟩ := Option.map_eq_some_iff.mp he
  obtain ⟨before, rfl⟩ := List.getLast?_eq_some_iff.mp hlast
  obtain ⟨t, w⟩ := e
  refine ⟨before, frame, ?_⟩
  cases w with
  | sent f r =>
    cases r with
    | ok => cases hframe; rfl
    | error => cases hframe
  | received | closed | cancelled => cases hframe

/-- The messages answer the frames, in order: the first message the first frame, and so on. -/
def Answered (answer : List Text → Message) (h : Ledger) : Prop :=
  ∀ k m, h.messages[k]? = some m → k < h.frames.length ∧ m = answer (h.frames.take (k + 1))

theorem Answered.concat {answer : List Text → Message} (hh : Answered answer h)
    (he : ∀ m, e.2.message? = some m → h.messages.length < h.frames.length ∧
      m = answer (h.frames.take (h.messages.length + 1))) : Answered answer (h ++ [e]) := by
  intro k m hk
  rw [messages_concat] at hk
  have hold : k < h.frames.length ∧ m = answer (h.frames.take (k + 1)) := by
    rcases lt_or_ge k h.messages.length with hlt | hge
    · rw [List.getElem?_append_left hlt] at hk
      exact hh k m hk
    · rw [List.getElem?_append_right hge] at hk
      cases hw : e.2.message? with
      | none => rw [hw] at hk; cases hk
      | some m' =>
        rw [hw, Option.toList_some, List.getElem?_singleton] at hk
        split_ifs at hk with hzero
        cases hk
        rw [show k = h.messages.length by omega]
        exact he _ hw
  rw [frames_concat, List.take_append_of_le_length hold.1, List.length_append]
  exact ⟨Nat.lt_add_right _ hold.1, hold.2⟩

/-- Nothing but the end of its exchange follows a frame, and a message follows nothing else. -/
inductive Paired : Ledger → Prop where
  | nil : Paired []
  | start {h : Ledger} {e : (Nat × Nat) × Answer} (hpaired : Paired h) (hflight : h.inFlight = none)
      (hmessage : e.2.message? = none) : Paired (h ++ [e])
  | finish {h : Ledger} {e : (Nat × Nat) × Answer} (hpaired : Paired h)
      (hflight : h.inFlight = some e.1) (hends : e.2.Ends) : Paired (h ++ [e])

namespace Paired

theorem of_concat (hpaired : Paired (h ++ [e])) :
    Paired h ∧ (h.inFlight = none ∧ e.2.message? = none ∨ h.inFlight = some e.1 ∧ e.2.Ends) := by
  generalize hh : h ++ [e] = h' at hpaired
  cases hpaired with
  | nil => exact absurd hh (by simp)
  | start hpaired hflight hmessage =>
    obtain ⟨rfl, hee⟩ := List.append_inj' hh rfl
    cases hee
    exact ⟨hpaired, .inl ⟨hflight, hmessage⟩⟩
  | finish hpaired hflight hends =>
    obtain ⟨rfl, hee⟩ := List.append_inj' hh rfl
    cases hee
    exact ⟨hpaired, .inr ⟨hflight, hends⟩⟩

theorem of_append {h' : Ledger} (hpaired : Paired (h ++ h')) : Paired h := by
  induction h' using List.reverseRecOn with
  | nil => rwa [List.append_nil] at hpaired
  | append_singleton h' e ih =>
    rw [← List.append_assoc] at hpaired
    exact ih hpaired.of_concat.1

/-- A message follows the frame of the operation that received it, which was sent when no frame was in
flight. -/
theorem of_message {after : Ledger} {t : Nat × Nat} {m : Message}
    (hpaired : Paired (h ++ (t, .received (.ok (some m))) :: after)) :
    ∃ (before : Ledger) (frame : Text), h = before ++ [(t, .sent frame (.ok ()))] ∧ before.Paired ∧
      before.inFlight = none := by
  have hpaired' : Paired (h ++ [(t, .received (.ok (some m)))] ++ after) := by
    rwa [List.append_assoc]
  obtain ⟨hh, ⟨-, hmessage⟩ | ⟨hflight, -⟩⟩ := hpaired'.of_append.of_concat
  · cases hmessage
  · obtain ⟨before, frame, rfl⟩ := exists_of_inFlight hflight
    obtain ⟨hbefore, ⟨hnone, -⟩ | ⟨-, hends⟩⟩ := hh.of_concat
    · exact ⟨before, frame, rfl, hbefore, hnone⟩
    · exact hends.elim

/-- Whatever follows a frame ends the exchange of the operation that sent it. -/
theorem of_frame {after : Ledger} {t : Nat × Nat} {frame : Text}
    (hpaired : Paired (h ++ (t, .sent frame (.ok ())) :: after)) :
    after = [] ∨ ∃ w rest, after = (t, w) :: rest ∧ w.Ends := by
  cases after with
  | nil => exact .inl rfl
  | cons e rest =>
    have hpaired' : Paired (h ++ [(t, .sent frame (.ok ()))] ++ [e] ++ rest) := by
      simpa using hpaired
    obtain ⟨-, hlast⟩ := hpaired'.of_append.of_concat
    rw [inFlight_concat] at hlast
    rcases hlast with ⟨hflight, -⟩ | ⟨hflight, hends⟩
    · cases hflight
    · obtain ⟨t', w⟩ := e
      cases hflight
      exact .inr ⟨w, rest, rfl, hends⟩

/-- A message came of every frame that is neither abandoned nor in flight. -/
theorem length_frames (hpaired : Paired h) :
    h.frames.length =
      h.messages.length + h.abandoned + if h.inFlight.isSome then 1 else 0 := by
  induction hpaired with
  | nil => rfl
  | @start h e _ hflight hmessage ih =>
    rw [frames_concat, messages_concat, abandoned_concat, inFlight_concat, hmessage, hflight]
    rw [hflight] at ih
    cases e.2.frame? <;> simpa using ih
  | @finish h e _ hflight hends ih =>
    rw [frames_concat, messages_concat, abandoned_concat, inFlight_concat, hflight, hends.frame?]
    rw [hflight] at ih
    cases e.2.message? with
    | none => simpa [Nat.add_assoc] using ih
    | some m =>
      simp at ih ⊢
      omega

end Paired

end Ledger

end RemoteSigner
