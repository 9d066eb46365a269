import Mathlib
import RemoteSigner.Proofs.Settings.Precedence

/-!
# What the environment variables spell

A setting has a variable or none, and the text of a variable spells a value of its setting
(`Setting.Spells`). What the environment gives a setting is what its variable spells, if that is set and not
empty (`Environment.given?_eq_some_iff`), and no variable is a fault where all numbers are spelled
(`Environment.NumbersSpelled.fault?_eq_none`). Lower case of ASCII is enough to tell whether a switch is on
(`EnvironmentSetting.isOn_iff_of_lowering`).
-/

namespace RemoteSigner

/-! ## Switches -/

namespace EnvironmentSetting

variable {text : String}

/-- The words that switch something on. -/
def switchWords : List String := ["1", "true", "yes", "on"]

/-- The letters of these words. -/
def switchLetters : List Char := ['1', 't', 'r', 'u', 'e', 'y', 's', 'o', 'n']

theorem mem_switchLetters {word : String} (h : word ∈ switchWords) :
    ∀ c ∈ word.toList, c ∈ switchLetters := by
  simp only [switchWords, List.mem_cons, List.not_mem_nil, or_false] at h
  obtain rfl | rfl | rfl | rfl := h <;> simp [switchLetters]

/-- A way to put text into lower case, as far as switches can tell: ASCII is as usual, and a character beyond
it leaves something behind that is no letter of theirs. -/
def IsLowering (lower : String → String) : Prop :=
  (∀ s : String, (∀ c ∈ s.toList, c.toNat < 128) → lower s = s.toLower) ∧
    ∀ s : String, ∀ c ∈ s.toList, 128 ≤ c.toNat → ∃ d ∈ (lower s).toList, d ∉ switchLetters

/-- Lower case of ASCII alone is such a way. -/
theorem isLowering_toLower : IsLowering String.toLower := by
  refine ⟨fun _ _ => rfl, fun s c hc hbeyond => ⟨c, ?_, fun hmem => ?_⟩⟩
  · have hsame : c.toLower = c := by
      refine dif_neg fun hupper => ?_
      have hle : c.toNat ≤ 'Z'.toNat := hupper.2
      exact absurd (hbeyond.trans hle) (by decide)
    rw [String.toLower, String.toList_map]
    exact List.mem_map.mpr ⟨c, hc, hsame⟩
  · have hascii : ∀ d ∈ switchLetters, d.toNat < 128 := by simp [switchLetters]
    exact absurd hbeyond (Nat.not_le.mpr (hascii c hmem))

theorem IsLowering.not_mem {lower : String → String} (h : IsLowering lower) {c : Char}
    (hc : c ∈ text.toList) (hbeyond : 128 ≤ c.toNat) : lower text ∉ switchWords := by
  intro hmem
  obtain ⟨d, hd, hother⟩ := h.2 text c hc hbeyond
  exact hother (mem_switchLetters hmem d hd)

/-- What counts as on does not hang on the lower case of characters beyond ASCII. -/
theorem isOn_iff_of_lowering {lower : String → String} (h : IsLowering lower) :
    isOn text = true ↔ lower text ∈ switchWords := by
  have hon : isOn text = true ↔ text.toLower ∈ switchWords := List.contains_iff_mem
  rw [hon]
  by_cases hascii : ∀ c ∈ text.toList, c.toNat < 128
  · rw [h.1 text hascii]
  · push Not at hascii
    obtain ⟨c, hc, hbeyond⟩ := hascii
    exact iff_of_false (isLowering_toLower.not_mem hc hbeyond) (h.not_mem hc hbeyond)

end EnvironmentSetting

/-! ## Variables and what they spell -/

namespace Setting

/-- The environment variable of a setting; two settings have none. -/
def variableName? : Setting → Option String
  | url => some "SIGNER_CLIENT_URL"
  | openTimeout => some "SIGNER_CLIENT_OPEN_TIMEOUT"
  | pingInterval => some "SIGNER_CLIENT_PING_INTERVAL"
  | maxSize => some "SIGNER_CLIENT_MAX_SIZE"
  | verifyTls => some "SIGNER_CLIENT_VERIFY_TLS"
  | caFile => some "SIGNER_CLIENT_CA_FILE"
  | closeTimeout | pingTimeout => none

/-- No two settings have the same variable. -/
theorem variableName?_inj {s t : Setting} {name : String} (hs : s.variableName? = some name)
    (ht : t.variableName? = some name) : s = t := by
  have hinj : ∀ s t : Setting, s.variableName? = t.variableName? → s.variableName? = none ∨ s = t := by
    intro s t
    cases s <;> cases t <;> decide
  obtain hnone | heq := hinj s t (hs.trans ht.symm)
  · cases hs.symm.trans hnone
  · exact heq

/-- What the text of its variable spells: the text itself, a number, or whether it is a word that switches
something on, in any letter case. An interval or a size that is not greater than zero is none. -/
def Spells : Setting → String → Datum → Prop
  | url, text, v | caFile, text, v => v = .text (.whole text)
  | openTimeout, text, v => ∃ x, SettingNumber.readFloat text = .ok x ∧ v = .float x
  | pingInterval, text, v =>
    ∃ x, SettingNumber.readFloat text = .ok x ∧ v = if Binary64.isPositive x then .float x else .null
  | maxSize, text, v => ∃ n, SettingNumber.readInteger text = .ok n ∧ v = if 0 < n then .int n else .null
  | verifyTls, text, v => ∃ b,
    (∀ lower, EnvironmentSetting.IsLowering lower →
      (b = true ↔ lower text ∈ EnvironmentSetting.switchWords)) ∧ v = .bool b
  | closeTimeout, _, _ | pingTimeout, _, _ => False

end Setting

/-! ## What the environment gives -/

namespace EnvironmentSetting

variable {env : Environment} {e : EnvironmentSetting} {text : String} {v : Datum}

theorem variableName?_setting (he : e ∈ all) : e.setting.variableName? = some e.variableName := by
  simp only [all, List.mem_cons, List.not_mem_nil, or_false] at he
  obtain rfl | rfl | rfl | rfl | rfl | rfl := he <;> rfl

theorem lookup?_setting (he : e ∈ all) : lookup? env all e.setting = e.given? env := by
  simp only [all, List.mem_cons, List.not_mem_nil, or_false] at he
  obtain rfl | rfl | rfl | rfl | rfl | rfl := he <;> rfl

theorem mem_setting_iff {s : Setting} : s ∈ all.map setting ↔ s.variableName? ≠ none := by
  cases s <;> decide

/-- Each variable is read as what it spells. -/
theorem read_eq_ok_iff (he : e ∈ all) : e.read text = .ok v ↔ e.setting.Spells text v := by
  simp only [all, List.mem_cons, List.not_mem_nil, or_false] at he
  obtain rfl | rfl | rfl | rfl | rfl | rfl := he
  · exact (Except.ok.injEq _ _).to_iff.trans eq_comm
  · simp only [seconds, map_eq_ok, mapError_eq_ok, Setting.Spells, eq_comm (a := v)]
  · simp only [seconds, map_eq_ok, mapError_eq_ok, Setting.Spells, eq_comm (a := v)]
  · simp only [size, map_eq_ok, mapError_eq_ok, Setting.Spells, eq_comm (a := v)]
  · simp only [Setting.Spells, Except.ok.injEq]
    constructor
    · rintro rfl
      exact ⟨isOn text, fun _ => isOn_iff_of_lowering, rfl⟩
    · rintro ⟨b, hb, rfl⟩
      -- lower case of ASCII alone settles which of the two it is
      have hon : isOn text = true ↔ text.toLower ∈ switchWords := isOn_iff_of_lowering isLowering_toLower
      rw [Bool.eq_iff_iff.mpr ((hb _ isLowering_toLower).trans hon.symm)]
  · exact (Except.ok.injEq _ _).to_iff.trans eq_comm

theorem given?_eq_some_iff : e.given? env = some v ↔
    ∃ text, env.value? e.variableName = some text ∧ e.read text = .ok v := by
  unfold given? outcome
  cases env.value? e.variableName with
  | none => simp
  | some text => cases hread : e.read text <;> simp [hread]

theorem fault?_eq_none_iff : e.fault? env = none ↔
    ∀ text, env.value? e.variableName = some text → ∃ v, e.read text = .ok v := by
  unfold fault? outcome
  cases env.value? e.variableName with
  | none => simp
  | some text => cases hread : e.read text <;> simp [hread]

end EnvironmentSetting

namespace Environment

/-- Each variable of a number spells one, unless it is empty. -/
def NumbersSpelled (env : Environment) : Prop :=
  ∀ s ∈ [Setting.openTimeout, .pingInterval, .maxSize], ∀ name text, s.variableName? = some name →
    env name = some text → text ≠ "" → ∃ v, s.Spells text v

/-- The environments differ at most in that a variable is unset in one and empty in the other. -/
def AlikeButEmpty (env env' : Environment) : Prop :=
  ∀ name, env name = env' name ∨ env name ∈ [none, some ""] ∧ env' name ∈ [none, some ""]

variable {env env' : Environment} {s : Setting} {name text : String} {v : Datum}

theorem value?_eq_some_iff : env.value? name = some text ↔ env name = some text ∧ text ≠ "" := by
  unfold value?
  cases env name with
  | none => simp
  | some s =>
    by_cases hs : s = ""
    · simp only [Option.bind_some, if_pos hs, Option.some.injEq]
      exact iff_of_false nofun fun h => h.2 (h.1 ▸ hs)
    · simp only [Option.bind_some, if_neg hs, Option.some.injEq]
      exact ⟨fun h => ⟨h, h ▸ hs⟩, And.left⟩

theorem value?_eq_none_iff : env.value? name = none ↔ env name = none ∨ env name = some "" := by
  unfold value?
  cases env name <;> simp

theorem AlikeButEmpty.value?_eq (h : AlikeButEmpty env env') (name : String) :
    env.value? name = env'.value? name := by
  obtain heq | ⟨hblank, hblank'⟩ := h name
  · unfold value?
    rw [heq]
  · rw [value?_eq_none_iff.mpr (by simpa using hblank), value?_eq_none_iff.mpr (by simpa using hblank')]

/-- Only a number can fail to be spelled. -/
theorem NumbersSpelled.exists_spells (h : env.NumbersSpelled) (hname : s.variableName? = some name)
    (hvalue : env.value? name = some text) : ∃ v, s.Spells text v := by
  obtain ⟨htext, hne⟩ := value?_eq_some_iff.mp hvalue
  cases s with
  | openTimeout => exact h .openTimeout (by decide) name text hname htext hne
  | pingInterval => exact h .pingInterval (by decide) name text hname htext hne
  | maxSize => exact h .maxSize (by decide) name text hname htext hne
  | url | caFile => exact ⟨_, rfl⟩
  | verifyTls => exact ⟨_, _, fun _ => EnvironmentSetting.isOn_iff_of_lowering, rfl⟩
  | closeTimeout | pingTimeout => cases hname

theorem given?_eq_some_iff : env.given? s = some v ↔ ∃ name text,
    s.variableName? = some name ∧ env.value? name = some text ∧ s.Spells text v := by
  by_cases hs : s ∈ EnvironmentSetting.all.map EnvironmentSetting.setting
  · obtain ⟨e, he, rfl⟩ := List.mem_map.mp hs
    rw [given?, EnvironmentSetting.lookup?_setting he, EnvironmentSetting.given?_eq_some_iff]
    simp only [EnvironmentSetting.variableName?_setting he, EnvironmentSetting.read_eq_ok_iff he,
      Option.some.injEq, exists_and_left, exists_eq_left']
  · have hnone : s.variableName? = none := not_not.mp (mt EnvironmentSetting.mem_setting_iff.mpr hs)
    rw [given?, EnvironmentSetting.lookup?_of_not_mem hs, hnone]
    exact iff_of_false nofun fun ⟨_, _, h, _⟩ => nomatch h

theorem NumbersSpelled.fault?_eq_none (h : env.NumbersSpelled) : env.fault? = none := by
  refine List.findSome?_eq_none_iff.mpr fun e he => ?_
  refine EnvironmentSetting.fault?_eq_none_iff.mpr fun text hvalue => ?_
  obtain ⟨v, hv⟩ := h.exists_spells (EnvironmentSetting.variableName?_setting he) hvalue
  exact ⟨v, (EnvironmentSetting.read_eq_ok_iff he).mpr hv⟩

/-- Where all numbers are spelled, nothing is given only for want of a text. -/
theorem NumbersSpelled.given?_eq_none_iff (h : env.NumbersSpelled) : env.given? s = none ↔
    ∀ name, s.variableName? = some name → env name = none ∨ env name = some "" := by
  rw [Option.eq_none_iff_forall_ne_some]
  constructor
  · intro hnone name hname
    refine value?_eq_none_iff.mp (Option.eq_none_iff_forall_ne_some.mpr fun text hvalue => ?_)
    obtain ⟨v, hv⟩ := h.exists_spells hname hvalue
    exact hnone v (given?_eq_some_iff.mpr ⟨name, text, hname, hvalue, hv⟩)
  · intro hunset v hv
    obtain ⟨name, text, hname, hvalue, -⟩ := given?_eq_some_iff.mp hv
    cases (value?_eq_none_iff.mpr (hunset name hname)).symm.trans hvalue

end Environment

end RemoteSigner
