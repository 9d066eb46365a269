import RemoteSigner.Channel.WebSocket

/-!
# Scripted connections

A connection that follows a script: what each receive and each send gives is fixed beforehand. A script
that is used up behaves like a connection that the peer has closed in good order, and so does a connection
that was closed on this side.
-/

namespace RemoteSigner

/-- The state of a scripted connection. -/
structure Script where
  /-- What the receives give, in order. -/
  receives : List (Except Fault Content)
  /-- What the sends fail with, in order; sends after these succeed. -/
  sends : List (Option Fault)
  /-- The frames that were sent. -/
  frames : List Text
  /-- How often the connection was closed. -/
  closes : Nat

namespace Script

/-- A script of which nothing has happened. -/
def ofSteps (receives : List (Except Fault Content)) (sends : List (Option Fault)) : Script :=
  ⟨receives, sends, [], 0⟩

/-- A connection that has ended in good order, from the side of the peer if this side is open. -/
def ended (s : Script) : Fault :=
  .closed ⟨true, some ⟨1000, ""⟩, some ⟨1000, ""⟩, s.closes == 0⟩

def receive (s : Script) : Except Fault Content × Script :=
  if s.closes > 0 then (.error s.ended, s)
  else
    match s.receives with
    | [] => (.error s.ended, s)
    | r :: rest => (r, { s with receives := rest })

def send (frame : Text) (s : Script) : Except Fault Unit × Script :=
  if s.closes > 0 then (.error s.ended, s)
  else
    match s.sends with
    | some f :: rest => (.error f, { s with sends := rest })
    | none :: rest => (.ok (), { s with sends := rest, frames := s.frames ++ [frame] })
    | [] => (.ok (), { s with frames := s.frames ++ [frame] })

def close (s : Script) : Except Fault Unit × Script := (.ok (), { s with closes := s.closes + 1 })

end Script

/-- The scripted connection. -/
def Connection.script : Connection Script := ⟨Script.send, Script.receive, Script.close⟩

end RemoteSigner
