import Mathlib
import RemoteSigner.Proofs.Client.Connecting

/-!
# Which connections are secured as the settings say

Two readers look at a URL. The settings see a secure one in the letters `wss://` at its start; the library
that opens it reads its scheme, in any letter case and after leading blanks (`urlScheme`). Each URL that
the settings find secure is one for the library too (`urlScheme_of_secure`), but not the other way round:
a secure URL spelt in another way is opened without what the settings trust (`connect_secured_exactly`).
-/

namespace RemoteSigner

/-! ## Schemes -/

/-- A letter of ASCII. -/
def isLetterCode (code : Nat) : Bool := (65 ≤ code && code ≤ 90) || (97 ≤ code && code ≤ 122)

/-- What the name of a scheme is made of: letters, digits, and the characters `+`, `-` and `.`. -/
def isSchemeCode (code : Nat) : Bool :=
  isLetterCode code || (48 ≤ code && code ≤ 57) || code == 43 || code == 45 || code == 46

/-- The scheme of a URL in lower case, empty if there is none: the name in front of the first colon, where
blanks and control characters at the start do not count, and tabs and line breaks nowhere. -/
def urlScheme (url : Text) : List Nat :=
  let codes := (url.codes.dropWhile (· ≤ 0x20)).filter fun c => c ≠ 9 ∧ c ≠ 10 ∧ c ≠ 13
  let name := codes.takeWhile (· ≠ 58)
  if name.length < codes.length ∧ name.head?.any isLetterCode ∧ name.all isSchemeCode then
    name.map SettingNumber.lower
  else []

/-- The URL starts with the letters of a secure one. -/
def StartsSecure (url : Text) : Prop := codesOf "wss://" <+: url.codes

theorem startsSecure_iff {url : Text} : StartsSecure url ↔ (codesOf "wss://").isPrefixOf url.codes = true :=
  List.isPrefixOf_iff_prefix.symm

instance (url : Text) : Decidable (StartsSecure url) := decidable_of_iff _ startsSecure_iff.symm

theorem urlScheme_of_secure {url : Text} (h : StartsSecure url) : urlScheme url = codesOf "wss" := by
  obtain ⟨rest, hrest⟩ := h
  have hname : ∀ codes, (codesOf "wss://" ++ codes).takeWhile (· ≠ 58) = codesOf "wss" := fun _ => rfl
  have hcodes : ((codesOf "wss://" ++ rest).dropWhile (· ≤ 0x20)).filter (fun c => c ≠ 9 ∧ c ≠ 10 ∧ c ≠ 13) =
      codesOf "wss://" ++ rest.filter fun c => c ≠ 9 ∧ c ≠ 10 ∧ c ≠ 13 := rfl
  unfold urlScheme
  rw [← hrest, hcodes]
  simp only [hname]
  rw [if_pos]
  · rfl
  · refine ⟨?_, rfl, rfl⟩
    rw [List.length_append]
    exact Nat.lt_add_right _ (by decide)

/-- A library that opens a URL securely or not, as its scheme says. -/
def ReadsScheme (opens : Text → Option Bool) : Prop :=
  ∀ url secure, opens url = some secure → urlScheme url = codesOf (if secure then "wss" else "ws")

/-! ## What the settings trust -/

/-- What a secure connection trusts if nothing is said about it. -/
def TlsContext.standard : TlsContext := ⟨true, none⟩

namespace Settings

variable {settings : Settings} {files : Files} {url : Text}

/-- The file of trusted certificates, if there is one, is usable. -/
def CanTrust (settings : Settings) (files : Files) : Prop :=
  (settings .caFile).isTruthy → ∃ name, settings .caFile = .text (.whole name) ∧ files.Certifies name

/-- The file of trusted certificates. -/
def anchors (settings : Settings) : Option String :=
  match settings .caFile with
  | .text (.whole name) => if name = "" then none else some name
  | _ => none

/-- What the settings say that a secure connection trusts. -/
def trust (settings : Settings) : TlsContext := ⟨(settings .verifyTls).isTruthy, settings.anchors⟩

/-- The settings are followed for URLs that start with the letters of a secure one. -/
theorem tls_of_secure (hurl : settings .url = .text url) (htrust : settings.CanTrust files)
    (h : StartsSecure url) : settings.tls files = .ok (some settings.trust) := by
  have hsecure : settings.isSecure = .ok true := by
    unfold isSecure
    rw [hurl]
    exact congrArg Except.ok (startsSecure_iff.mp h)
  unfold tls
  rw [hsecure]
  show (if (settings .caFile).isTruthy then _ else _) = _
  split_ifs with hfile
  · obtain ⟨name, hname, hcertifies⟩ := htrust hfile
    have hne : name ≠ "" := isTruthy_text.mp (hname ▸ hfile)
    have hanchors : settings.anchors = some name := by
      unfold anchors
      rw [hname]
      exact if_neg hne
    rw [trust, hanchors, hname]
    show (loadAnchors files name >>= fun _ => _) = _
    rw [loadAnchors_eq_ok.mpr hcertifies]
    rfl
  · have hanchors : settings.anchors = none := by
      unfold anchors
      split
      · rename_i name hname
        exact if_pos (by_contra fun hne => hfile (hname ▸ isTruthy_text.mpr hne))
      · rfl
    rw [trust, hanchors]
    rfl

/-- No other URL is secure to the settings. -/
theorem tls_of_not_secure (hurl : settings .url = .text url) (h : ¬ StartsSecure url) :
    settings.tls files = .ok none := by
  have hsecure : settings.isSecure = .ok false := by
    unfold isSecure
    rw [hurl]
    exact congrArg Except.ok (Bool.eq_false_iff.mpr fun hstarts => h (startsSecure_iff.mpr hstarts))
  unfold tls
  rw [hsecure]
  rfl

end Settings

/-! ## What is dialled -/

section

variable {κ : Type} {opens : Text → Option Bool} {settings : Settings} {files : Files} {url : Text}

theorem dialled_of_tls {trust : Option TlsContext} (h : settings.tls files = .ok trust)
    (dialler : Dial → Except Fault κ) :
    ∃ d : Dial, d.url = settings.location ∧ d.tls = trust ∧ (connect settings files dialler).dialled = [d] := by
  obtain ⟨d, hurl, htls, hdial⟩ := Settings.dial_of_tls h
  refine ⟨d, hurl, htls, ?_⟩
  unfold connect
  simp only [hdial]
  cases dialler d <;> rfl

/-- One connection is dialled. If the library opens the URL without a secure connection, then nothing is
passed on that one would trust. If it opens a secure one, then what the settings trust is passed on exactly
if the URL starts with `wss://`, in these letters; otherwise nothing is, so the connection trusts what it
does by default, whatever the settings say. -/
theorem connect_secured_exactly (hopens : ReadsScheme opens) (hurl : settings .url = .text url)
    (htrust : settings.CanTrust files) (dialler : Dial → Except Fault κ) :
    ∃ d : Dial, (connect settings files dialler).dialled = [d] ∧ d.url = url ∧
      (opens url = some false → d.tls = none) ∧
      (opens url = some true →
        (d.tls = some settings.trust ↔ StartsSecure url) ∧ (¬ StartsSecure url → d.tls = none) ∧
        (d.tls.getD .standard = settings.trust ↔ StartsSecure url ∨ settings.trust = .standard)) := by
  by_cases hsecure : StartsSecure url
  · obtain ⟨d, hd, htls, hdialled⟩ := dialled_of_tls (settings.tls_of_secure hurl htrust hsecure) dialler
    refine ⟨d, hdialled, hd.trans (Settings.location_of_text hurl), fun hplain => ?_, fun _ => ?_⟩
    · -- the library sees a secure URL, too
      have hscheme := (urlScheme_of_secure hsecure).symm.trans (hopens url false hplain)
      exact absurd hscheme (by decide)
    · rw [htls]
      exact ⟨iff_of_true rfl hsecure, absurd hsecure, iff_of_true rfl (.inl hsecure)⟩
  · obtain ⟨d, hd, htls, hdialled⟩ := dialled_of_tls (settings.tls_of_not_secure hurl hsecure) dialler
    refine ⟨d, hdialled, hd.trans (Settings.location_of_text hurl), fun _ => htls, fun _ => ?_⟩
    rw [htls]
    refine ⟨iff_of_false nofun hsecure, fun _ => rfl, ?_⟩
    exact eq_comm.trans (or_iff_right hsecure).symm

/-- A library that goes by the scheme opens `WSS://c` securely, and is not told that nothing is to be
verified; it is told for `wss://c`. -/
theorem connect_secured_exactly_capitals :
    let opens : Text → Option Bool := fun url =>
      if urlScheme url = codesOf "wss" then some true
      else if urlScheme url = codesOf "ws" then some false else none
    let settings (url : String) : Settings :=
      (Settings.default.set .url (.text (.whole url))).set .verifyTls (.bool false)
    let files : Files := ⟨fun _ => .missing, fun _ => .ok ()⟩
    let attempt (url : String) : Attempt Unit := connect (settings url) files fun _ => .ok ()
    ReadsScheme opens ∧
      (opens "WSS://c" = some true ∧ ∃ d, (attempt "WSS://c").dialled = [d] ∧
        d.tls = none ∧ d.tls.getD .standard ≠ (settings "WSS://c").trust) ∧
      (opens "wss://c" = some true ∧ ∃ d, (attempt "wss://c").dialled = [d] ∧
        d.tls = some ⟨false, none⟩) ∧
      opens "ws://c" = some false ∧ ∃ d, (attempt "ws://c").dialled = [d] ∧ d.tls = none := by
  intro opens settings files attempt
  have hopens : ReadsScheme opens := by
    intro url secure h
    simp only [opens] at h
    split_ifs at h with hwss hws
    · cases h
      exact hwss
    · cases h
      exact hws
  have htrust : ∀ url, (settings url).CanTrust files := fun _ => nofun
  have hurl : ∀ url, settings url .url = .text (.whole url) := fun _ => rfl
  have hcapitals : ¬ StartsSecure "WSS://c" := by decide
  have hstarts : StartsSecure "wss://c" := by decide
  have hspelt : opens "WSS://c" = some true := by decide
  have hsecure : opens "wss://c" = some true := by decide
  have hplain : opens "ws://c" = some false := by decide
  refine ⟨hopens, ⟨hspelt, ?_⟩, ⟨hsecure, ?_⟩, hplain, ?_⟩
  · obtain ⟨d, hd, -, -, h⟩ := connect_secured_exactly hopens (hurl "WSS://c") (htrust _)
      fun _ => Except.ok ()
    obtain ⟨-, hnone, hdefault⟩ := h hspelt
    refine ⟨d, hd, hnone hcapitals, fun htls => ?_⟩
    obtain hstarts | hstandard := hdefault.mp htls
    · exact hcapitals hstarts
    · exact absurd hstandard (by decide)
  · obtain ⟨d, hd, -, -, h⟩ := connect_secured_exactly hopens (hurl "wss://c") (htrust _)
      fun _ => Except.ok ()
    exact ⟨d, hd, (h hsecure).1.mpr hstarts⟩
  · obtain ⟨d, hd, -, h, -⟩ := connect_secured_exactly hopens (hurl "ws://c") (htrust _)
      fun _ => Except.ok ()
    exact ⟨d, hd, h hplain⟩

end

end RemoteSigner
