import Mathlib
import RemoteSigner.Client.Connect
import RemoteSigner.Proofs.Settings.Loading

/-!
# Failures to connect

Connecting can fail in two places. What a secure connection trusts is read first, and a fault there is
passed on as it is (`connect_of_untrusted`). With well-typed settings that is a fault of the system, and it
happens exactly if the certificates of a file are to be trusted and cannot be loaded
(`Settings.WellTyped.exists_tls_error_iff`). After that the connection is dialled once, and a fault of
dialling becomes a transport fault that explains it (`connect_of_trusted`).
-/

namespace RemoteSigner

/-! ## What a secure connection trusts -/

/-- There is a file of this name, and its certificates can be loaded. -/
def Files.Certifies (files : Files) (name : String) : Prop :=
  ∃ content, files.state name = .file content ∧ files.certify content = .ok ()

section

variable {files : Files} {name : String}

theorem loadAnchors_eq_ok : loadAnchors files name = .ok () ↔ files.Certifies name := by
  unfold loadAnchors Files.Certifies
  cases files.state name with
  | missing | directory | locked => simp
  | file content => cases hcertify : files.certify content <;> simp [Except.mapError, hcertify]

theorem isSystem_of_loadAnchors {f : Fault} (h : loadAnchors files name = .error f) : f.isSystem := by
  unfold loadAnchors at h
  split at h
  · cases h; rfl
  · cases h; rfl
  · cases h; rfl
  · rename_i content _
    cases hcertify : files.certify content with
    | ok => rw [hcertify] at h; cases h
    | error reason => rw [hcertify] at h; cases h; rfl

end

namespace Settings

variable {settings : Settings} {files : Files}

/-- A secure connection is to trust the certificates of a file from which none can be loaded. -/
def LacksTrust (settings : Settings) (files : Files) : Prop :=
  settings.isSecure = .ok true ∧
    ∃ name, settings .caFile = .text (.whole name) ∧ name ≠ "" ∧ ¬ files.Certifies name

theorem WellTyped.exists_isSecure (h : settings.WellTyped) : ∃ b, settings.isSecure = .ok b := by
  obtain ⟨url, hurl⟩ := h .url
  unfold isSecure
  rw [hurl]
  exact ⟨_, rfl⟩

theorem location_of_text {url : Text} (hurl : settings .url = .text url) : settings.location = url := by
  unfold location
  rw [hurl]

theorem WellTyped.url_eq (h : settings.WellTyped) : settings .url = .text (.whole settings.urlText) := by
  obtain ⟨url, hurl⟩ := h .url
  rw [hurl, urlText, location_of_text hurl]
  rfl

theorem WellTyped.url_eq_location (h : settings.WellTyped) : settings .url = .text settings.location := by
  obtain ⟨url, hurl⟩ := h .url
  rw [hurl, location_of_text hurl]

theorem isTruthy_text {name : String} : (Datum.text (.whole name)).isTruthy ↔ name ≠ "" := by
  simp [Datum.isTruthy, Text.length, Text.codes]

/-- With settings of the right types, the one thing that can be wrong with a secure connection is the file
that it is to trust. -/
theorem WellTyped.tls_eq_error (h : settings.WellTyped) {f : Fault} :
    settings.tls files = .error f ↔ settings.isSecure = .ok true ∧ ∃ name,
      settings .caFile = .text (.whole name) ∧ name ≠ "" ∧ loadAnchors files name = .error f := by
  obtain ⟨b, hb⟩ := h.exists_isSecure
  unfold tls
  rw [hb]
  cases b with
  | false => exact iff_of_false (fun h => by cases h) (fun h => by cases h.1)
  | true =>
    obtain hnull | ⟨name, hname⟩ := h .caFile
    · rw [hnull]
      exact iff_of_false (fun h => by cases h) (fun ⟨_, _, h, _⟩ => by cases h)
    · simp only [hname, Datum.text.injEq, Text.whole.injEq, exists_eq_left', true_and]
      by_cases hempty : name = ""
      · subst hempty
        exact iff_of_false (fun h => by cases h) (fun h => h.1 rfl)
      · have htruthy := isTruthy_text.mpr hempty
        show (if (Datum.text (.whole name)).isTruthy then _ else _) = _ ↔ _
        rw [if_pos htruthy]
        cases loadAnchors files name <;> simp [hempty]

theorem WellTyped.exists_tls_error_iff (h : settings.WellTyped) :
    (∃ f, settings.tls files = .error f) ↔ settings.LacksTrust files := by
  simp only [h.tls_eq_error, LacksTrust, ← loadAnchors_eq_ok]
  constructor
  · rintro ⟨f, hsecure, name, hname, hne, hload⟩
    exact ⟨hsecure, name, hname, hne, by simp [hload]⟩
  · rintro ⟨hsecure, name, hname, hne, hload⟩
    cases hanchors : loadAnchors files name with
    | ok => exact absurd hanchors hload
    | error f => exact ⟨f, hsecure, name, hname, hne, hanchors⟩

theorem WellTyped.isSystem_of_tls (h : settings.WellTyped) {f : Fault}
    (hf : settings.tls files = .error f) : f.isSystem := by
  obtain ⟨-, name, -, -, hload⟩ := h.tls_eq_error.mp hf
  exact isSystem_of_loadAnchors hload

theorem dial_of_tls {trust : Option TlsContext} (h : settings.tls files = .ok trust) :
    ∃ d : Dial, d.url = settings.location ∧ d.tls = trust ∧ settings.dial files = .ok d := by
  unfold dial
  rw [h]
  exact ⟨_, rfl, rfl, rfl⟩

end Settings

/-! ## Connecting -/

section

variable {κ : Type} {settings : Settings} {files : Files} {dialler : Dial → Except Fault κ}

/-- A fault of reading what a connection trusts is passed on, and nothing is dialled. -/
theorem connect_of_untrusted {f : Fault} (h : settings.tls files = .error f) :
    connect settings files dialler = ⟨[], .error f, []⟩ := by
  unfold connect Settings.dial
  rw [h]
  rfl

/-- Otherwise the URL is dialled once, and a fault that is known to dialling is explained. -/
theorem connect_of_trusted (hdialler : ∀ d f, dialler d = .error f → f.isConnection ∨ f.isSystem)
    {trust : Option TlsContext} (h : settings.tls files = .ok trust) :
    ∃ d : Dial, d.url = settings.location ∧ d.tls = trust ∧
      ((∃ k, dialler d = .ok k ∧ connect settings files dialler =
        ⟨[d], .ok k, [WebSocket.logged "WebSocket connected" (some settings.urlText)]⟩) ∨
      ∃ f, dialler d = .error f ∧ connect settings files dialler =
        ⟨[d], .error (WebSocket.because ("Failed to connect to " ++ settings.urlText) f), []⟩) := by
  obtain ⟨d, hurl, htls, hdial⟩ := Settings.dial_of_tls h
  refine ⟨d, hurl, htls, ?_⟩
  unfold connect
  simp only [hdial, hurl]
  cases hk : dialler d with
  | ok k => exact .inl ⟨k, rfl, rfl⟩
  | error f =>
    have hknown : (f.isConnection || f.isSystem) = true := by
      simpa using hdialler d f hk
    refine .inr ⟨f, rfl, ?_⟩
    simp only [connectFault, hknown, if_true, Settings.urlText]

/-- With settings of the right types, a file to trust whose certificates cannot be loaded is the one reason
for which connecting fails before anything is dialled. -/
theorem connect_of_lacking (h : settings.WellTyped) (hlacks : settings.LacksTrust files)
    (dialler : Dial → Except Fault κ) :
    ∃ f, settings.tls files = .error f ∧ f.isSystem ∧
      connect settings files dialler = ⟨[], .error f, []⟩ := by
  obtain ⟨f, hf⟩ := h.exists_tls_error_iff.mpr hlacks
  exact ⟨f, hf, h.isSystem_of_tls hf, connect_of_untrusted hf⟩

theorem connect_of_trusting (hdialler : ∀ d f, dialler d = .error f → f.isConnection ∨ f.isSystem)
    (h : settings.WellTyped) (htrust : ¬ settings.LacksTrust files) :
    ∃ d : Dial, settings .url = .text d.url ∧ (connect settings files dialler).dialled = [d] ∧
      ((∃ k, dialler d = .ok k ∧ (connect settings files dialler).result = .ok k) ∨
        ∃ f, dialler d = .error f ∧ (connect settings files dialler).result =
          .error (WebSocket.because ("Failed to connect to " ++ settings.urlText) f)) := by
  cases htls : settings.tls files with
  | error f => exact absurd (h.exists_tls_error_iff.mp ⟨f, htls⟩) htrust
  | ok trust =>
    obtain ⟨d, hurl, -, ⟨k, hk, hconnect⟩ | ⟨f, hf, hconnect⟩⟩ := connect_of_trusted hdialler htls
    · rw [hconnect]
      exact ⟨d, hurl ▸ h.url_eq_location, rfl, .inl ⟨k, hk, rfl⟩⟩
    · rw [hconnect]
      exact ⟨d, hurl ▸ h.url_eq_location, rfl, .inr ⟨f, hf, rfl⟩⟩

theorem log_connect_of_error {f : Fault} (h : (connect settings files dialler).result = .error f) :
    (connect settings files dialler).log = [] := by
  unfold connect at h ⊢
  cases hdial : settings.dial files with
  | error g => rfl
  | ok d =>
    simp only [hdial] at h ⊢
    cases hk : dialler d with
    | error g => rfl
    | ok k => simp [hk] at h

theorem connect_map {κ' : Type} (f : κ → κ') : connect settings files (fun d => f <$> dialler d) =
    ⟨(connect settings files dialler).dialled, f <$> (connect settings files dialler).result,
      (connect settings files dialler).log⟩ := by
  unfold connect
  cases settings.dial files with
  | error g => rfl
  | ok d =>
    simp only
    cases dialler d <;> rfl

end

end RemoteSigner
