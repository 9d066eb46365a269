import Mathlib
import RemoteSigner.Proofs.Client.Classification

/-!
# Calls after which the connection is closed

A call within a client ends as the call does, and the connection is closed after the last thing that the
call did on it (`Client.ended_callWithin`), provided that closing raises nothing. The record of what was
done on a connection changes nothing about a run (`Act.forget_run_recording`).
-/

namespace RemoteSigner

variable {κ α β ρ : Type}

namespace Act

/-- A program after another starts in the state that the first one left behind. -/
theorem ended_andThen (channel : Channel κ) (a : Act α) (next : Except Fault α → Act β) (s : κ)
    {r : Except Fault α} (h : (a.run channel s).result = some r) :
    ((a.andThen next).run channel s).ended =
      ((next r).run channel (a.run channel s).state).ended := by
  induction a generalizing s with
  | done _ => cases h; rfl
  | send frame _ ih => exact ih _ _ h
  | receive first ih =>
    have hreceive : (receive first).andThen next = .receive fun r => (first r).andThen next := rfl
    rw [hreceive, run]
    rw [run] at h ⊢
    cases hr : (channel.receive false s).result with
    | none =>
      simp only [hr] at h
      cases h
    | some x =>
      simp only [hr] at h ⊢
      exact ih x _ h
  | close _ ih => exact ih _ _ h
  | acquire _ ih => exact ih _ _ h
  | release _ ih => exact ih _ h
  | log _ _ ih => exact ih _ h

theorem ended_ensuring (channel : Channel κ) (a : Act ρ) (last : Act Unit) (s : κ) {r : Except Fault ρ}
    (h : (a.run channel s).result = some r)
    (hlast : (last.run channel (a.run channel s).state).result = some (.ok ())) :
    ((a.ensuring last).run channel s).ended =
      (some r, (last.run channel (a.run channel s).state).state) := by
  rw [ensuring, ended_andThen channel a _ s h, ended_andThen channel last _ _ hlast]
  rfl

/-- The run without the record of calls. -/
def Ran.forget (r : Ran (κ × List Call) ρ) : Ran κ ρ := ⟨r.result, r.state.1, r.log⟩

theorem forget_run_recording (c : Connection κ) (url : Option String) (a : Act ρ) (k : κ)
    (calls : List Call) :
    (a.run (.webSocket c.recording url) (k, calls)).forget = a.run (.webSocket c url) k := by
  induction a generalizing k calls with
  | done _ => rfl
  | send frame _ ih => exact congrArg (Ran.after _) (ih _ _ _)
  | receive _ ih =>
    simp only [run]
    exact congrArg (Ran.after _) (ih _ _ _)
  | close _ ih => exact congrArg (Ran.after _) (ih _ _ _)
  | acquire _ ih => exact ih _ _ _
  | release _ ih => exact ih _ _
  | log _ _ ih => exact congrArg (Ran.after _) (ih _ _)

end Act

namespace Client

variable {c : Connection κ} {command : Command} {request : Datum} {k : κ}

/-- A call never closes the connection. -/
theorem close_notMem_calls (course : Course) : .close ∉ course.calls := by
  cases course <;> simp [Course.calls]

/-- A request with a written form is sent once, and then there may be something received. -/
theorem calls_course {frame : String}
    (he : (Envelope.mk (.whole command.label) request).encode = .ok frame) :
    (c.course command request k).calls = [.send (.whole frame)] ∨
      (c.course command request k).calls = [.send (.whole frame), .receive] := by
  obtain ⟨r, k', hs⟩ : ∃ r k', c.send (.whole frame) k = (r, k') := ⟨_, _, rfl⟩
  cases r with
  | error f => exact .inl (by rw [Connection.course_of_unsent he hs]; rfl)
  | ok =>
    cases hr : (c.receive k').1 with
    | error f => exact .inr (by rw [Connection.course_of_unanswered he hs hr]; rfl)
    | ok content => exact .inr (by rw [Connection.course_of_answered he hs hr]; rfl)

theorem ended_callWithin [Readers] (hclose : ∀ k, (c.close k).1 = .ok ()) (url : Option String)
    (command : Command) (request : Datum) (k : κ) :
    ∃ k', ((callWithin false command request).run (.webSocket c.recording url) (k, [])).ended =
      (some ((c.course command request k).outcome command),
        (k', (c.course command request k).calls ++ [.close])) := by
  have hresult := result_callOver c url command request k
  have hcalls := calls_callOver c url command request k
  have hlast : (close.run (.webSocket c.recording url)
      (callOver c url command request k).state).result = some (.ok ()) := congrArg some (hclose _)
  refine ⟨(c.close (callOver c url command request k).state.1).2, ?_⟩
  rw [← hcalls]
  exact Act.ended_ensuring _ _ _ _ hresult hlast

end Client

end RemoteSigner
