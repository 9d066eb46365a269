import Mathlib
import RemoteSigner.Channel.Script
import RemoteSigner.Proofs.Cli.Running
import RemoteSigner.Proofs.Json.Indented

/-!
# Printed replies

Nothing of a reply is lost when it is printed: the printed text is read as the reply that was received, and
without its layout it is the compact text of the reply (`printed_lossless`).
-/

namespace RemoteSigner

/-- A value with short integers comes back from its indented text, with any white space after it. -/
theorem Shape.decode_indented [Readers] {α : Type} (s : Shape α) (hs : s.WellFormed)
    (hd : s.depth ≤ Json.strict.depthLimit) {a : α} (ha : s.IsShort a) {j : Json} (hj : s.dump a = .ok j)
    (policy : NonFinite) {after : String} (hafter : ∀ c ∈ after.toList, c.isWhitespace) :
    s.decode (.text (.whole (j.indented policy ++ after))) = .ok a := by
  have hread := Json.readText_indented policy (s.everywhere_dump hs ha hj)
    ((s.depth_dump hj).trans hd) hafter
  exact s.decode_eq_ok.mpr ⟨j, mapError_eq_ok.mpr hread, s.check_dump hs hj⟩

namespace Cli

/-- A reply that was received is printed as a text that spells it, and the white space outside the strings of
that text is all that it has beside the compact text of the reply. This is what a run leaves on the output
whose call receives the reply. -/
theorem printed_lossless [Readers] (command : Command) {t : Text} {v : command.reply.Value}
    (hv : command.reply.shape.decode (.text t) = .ok v) : ∃ output compact,
      printed command.reply.shape v = .ok output ∧ command.reply.shape.dumpText v = .ok compact ∧
      command.reply.shape.decode (.text (.whole output)) = .ok v ∧ Json.squeeze output = compact ∧
      ∀ {κ : Type} (s : Surroundings) (p : Plan) (c : Connection κ) (dialler : Dial → Except Fault κ)
        (k : κ) (frame : String), plan s = .ok p → p.command = command →
        (connect p.settings s.files dialler).result = .ok k → (∀ k, (c.close k).1 = .ok ()) →
        c.course p.command p.request k = .answered frame (.text t) →
        (run s c dialler).exitCode = 0 ∧ (run s c dialler).output = output := by
  let shape := command.reply.shape
  have hwell : shape.WellFormed := command.reply.wellFormed
  have hshort : shape.IsShort v := (shape.each_of_decode hwell hv).mono (fun _ h => h) fun _ _ => trivial
  have hnewline : ∀ c ∈ "\n".toList, c.isWhitespace := List.forall_mem_singleton.mpr rfl
  obtain ⟨j, hj, hprinted⟩ := exists_printed hv
  refine ⟨j.indented .byName ++ "\n", j.compact .byName, hprinted, map_eq_ok.mpr ⟨j, hj, rfl⟩,
    shape.decode_indented hwell command.reply.depth_le hshort hj .byName hnewline,
    Json.squeeze_indented .byName (shape.everywhere_dump hwell hshort hj) hnewline, ?_⟩
  rintro κ s p c dialler k frame hplan rfl hk hclose hcourse
  have houtcome := Course.outcome_eq_ok.mpr ⟨frame, t, hcourse, hv⟩
  obtain ⟨j', hj', hcode, houtput⟩ := recordedRun_replied hclose hplan hk houtcome
  obtain rfl : j' = j := Except.ok.inj (hj'.symm.trans hj)
  rw [← forget_recordedRun]
  exact ⟨hcode, houtput⟩

/-- An address whose key looks like layout and brackets is printed over three lines. -/
theorem printed_lossless_address :
    let t : Text := .whole "\x7b\"receiving_key\":\"[ \\\" ,\\n\"\x7d"
    let v : Option Address := some ⟨⟨"[ \" ,\n", by decide⟩⟩
    let output := "\x7b\n  \"receiving_key\": \"[ \\\" ,\\n\"\n\x7d\n"
    let s : Surroundings := ⟨["address"], fun _ => none, ⟨fun _ => .missing, fun _ => .ok ()⟩, []⟩
    Command.address.reply.shape.decode (.text t) = .ok v ∧
      printed Command.address.reply.shape v = .ok output ∧
      Command.address.reply.shape.decode (.text (.whole output)) = .ok v ∧
      Text.whole (Json.squeeze output) = t ∧
      (run s .script fun _ => .ok (.ofSteps [.ok (.text t)] [])).output = output := by
  intro t v output s
  have hv : Command.address.reply.shape.decode (.text t) = .ok v := by cbv
  have hprinted : printed Command.address.reply.shape v = .ok output := by cbv
  have hdump : Command.address.reply.shape.dumpText v =
      .ok "\x7b\"receiving_key\":\"[ \\\" ,\\n\"\x7d" := by cbv
  have hplan : plan s = .ok ⟨.warning, .default, .address, .text (.whole getRequest)⟩ := by cbv
  obtain ⟨output', compact, hprinted', hdump', hdecode, hsqueeze, hruns⟩ := printed_lossless .address hv
  obtain rfl : output = output' := Except.ok.inj (hprinted.symm.trans hprinted')
  obtain rfl := Except.ok.inj (hdump.symm.trans hdump')
  obtain ⟨-, houtput⟩ := hruns s _ .script (fun _ => .ok (.ofSteps [.ok (.text t)] [])) _ _ hplan rfl rfl
    (fun _ => rfl) (Connection.course_of_answered rfl rfl rfl)
  exact ⟨hv, hprinted, hdecode, congrArg Text.whole hsqueeze, houtput⟩

end Cli

end RemoteSigner
