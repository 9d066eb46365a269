import Mathlib
import RemoteSigner.Cli.Plan
import RemoteSigner.Proofs.Wire.Dump

/-!
# The types of loaded settings

Nothing checks the type of a setting. Still, settings that come from the environment and from well-typed
overrides have values of the types they are meant to have (`Settings.wellTyped_load`); the options of a
command line are such overrides (`Cli.wellTyped_readSettings`).
-/

namespace RemoteSigner

/-- What each step keeps is kept by all of them. -/
theorem foldlM_invariant {ε α β : Type} {P : β → Prop} {f : β → α → Except ε β} {as : List α}
    (hstep : ∀ a ∈ as, ∀ b b', P b → f b a = .ok b' → P b') {b b' : β} (hb : P b)
    (h : as.foldlM f b = .ok b') : P b' := by
  induction as generalizing b with
  | nil => cases h; exact hb
  | cons a as ih =>
    obtain ⟨hhead, htail⟩ := List.forall_mem_cons.mp hstep
    rw [List.foldlM_cons] at h
    obtain ⟨c, hc, h⟩ := bind_eq_ok.mp h
    exact ih htail (hhead b c hb hc) h

/-- The values that a setting is meant to have. -/
def Setting.Admits : Setting → Datum → Prop
  | url, v => ∃ s, v = .text (.whole s)
  | openTimeout, v | closeTimeout, v => ∃ x, v = .float x
  | pingInterval, v | pingTimeout, v => v = .null ∨ ∃ x, v = .float x
  | maxSize, v => v = .null ∨ ∃ n, v = .int n
  | verifyTls, v => ∃ b, v = .bool b
  | caFile, v => v = .null ∨ ∃ s, v = .text (.whole s)

/-- Every setting has a value of its type. -/
def Settings.WellTyped (settings : Settings) : Prop := ∀ s : Setting, s.Admits (settings s)

namespace Settings

theorem wellTyped_default : default.WellTyped
  | .url => ⟨_, rfl⟩
  | .openTimeout => ⟨_, rfl⟩
  | .closeTimeout => ⟨_, rfl⟩
  | .pingInterval => .inr ⟨_, rfl⟩
  | .pingTimeout => .inr ⟨_, rfl⟩
  | .maxSize => .inr ⟨_, rfl⟩
  | .verifyTls => ⟨_, rfl⟩
  | .caFile => .inl rfl

variable {settings settings' : Settings}

theorem WellTyped.set (h : settings.WellTyped) {s : Setting} {v : Datum} (hv : s.Admits v) :
    (settings.set s v).WellTyped := by
  intro t
  by_cases hts : t = s
  · subst hts
    rwa [set_self]
  · rw [set_of_ne settings v hts]
    exact h t

/-! ## From the environment -/

/-- What is read from a variable is a value of its setting. -/
theorem admits_read {e : EnvironmentSetting} (he : e ∈ EnvironmentSetting.all) {text : String}
    {v : Datum} (h : e.read text = .ok v) : e.setting.Admits v := by
  simp only [EnvironmentSetting.all, List.mem_cons, List.not_mem_nil, or_false] at he
  obtain rfl | rfl | rfl | rfl | rfl | rfl := he
  · cases h
    exact ⟨_, rfl⟩
  · obtain ⟨x, -, rfl⟩ := map_eq_ok.mp h
    exact ⟨x, rfl⟩
  · obtain ⟨x, -, rfl⟩ := map_eq_ok.mp h
    by_cases hx : Binary64.isPositive x
    · exact .inr ⟨x, if_pos hx⟩
    · exact .inl (if_neg hx)
  · obtain ⟨n, -, rfl⟩ := map_eq_ok.mp h
    by_cases hn : 0 < n
    · exact .inr ⟨n, if_pos hn⟩
    · exact .inl (if_neg hn)
  · cases h
    exact ⟨_, rfl⟩
  · cases h
    exact .inr ⟨_, rfl⟩

theorem wellTyped_apply {env : Environment} {e : EnvironmentSetting}
    (he : e ∈ EnvironmentSetting.all) (hs : settings.WellTyped)
    (h : e.apply env settings = .ok settings') : settings'.WellTyped := by
  unfold EnvironmentSetting.apply at h
  split at h
  · cases h
    exact hs
  · obtain ⟨v, hv, rfl⟩ := map_eq_ok.mp h
    exact hs.set (admits_read he hv)

theorem wellTyped_ofEnvironment {env : Environment} (h : ofEnvironment env = .ok settings) :
    settings.WellTyped :=
  foldlM_invariant (fun _ he _ _ => wellTyped_apply he) wellTyped_default h

/-! ## From overrides -/

theorem wellTyped_override {o : String × Datum}
    (ho : ∀ s, Setting.ofName? o.1 = some s → o.2 = .null ∨ s.Admits o.2)
    (hs : settings.WellTyped) (h : settings.override o = .ok settings') : settings'.WellTyped := by
  obtain ⟨name, v⟩ := o
  unfold override at h
  split at h
  · cases h
  · rename_i s hname
    split at h
    · cases h
      exact hs
    · rename_i v hnull
      cases h
      exact hs.set ((ho s hname).resolve_left hnull)

/-- Settings that were loaded with overrides of their types have the types they are meant to have. -/
theorem wellTyped_load {env : Environment} {overrides : List (String × Datum)}
    (ho : ∀ o ∈ overrides, ∀ s, Setting.ofName? o.1 = some s → o.2 = .null ∨ s.Admits o.2)
    (h : load env overrides = .ok settings) : settings.WellTyped := by
  unfold load at h
  split_ifs at h
  obtain ⟨settings₀, henv, h⟩ := bind_eq_ok.mp h
  exact foldlM_invariant (fun o hmem _ _ => wellTyped_override (ho o hmem))
    (wellTyped_ofEnvironment henv) h

end Settings

namespace Cli

theorem admits_overrides (words : Words) : ∀ o ∈ overrides words, ∀ s,
    Setting.ofName? o.1 = some s → o.2 = .null ∨ s.Admits o.2 := by
  simp only [overrides, List.forall_mem_cons, Setting.ofName?_name, Option.some.injEq]
  refine ⟨?_, ?_, ?_, nofun⟩
  · rintro s rfl
    cases words.value? .url with
    | none => exact .inl rfl
    | some v => exact .inr ⟨v, rfl⟩
  · rintro s rfl
    cases words.has .insecure with
    | false => exact .inl rfl
    | true => exact .inr ⟨false, rfl⟩
  · rintro s rfl
    cases words.value? .caFile with
    | none => exact .inl rfl
    | some v => exact .inr (.inr ⟨v, rfl⟩)

theorem wellTyped_readSettings {s : Surroundings} {words : Words} {settings : Settings}
    (h : readSettings s words = .ok settings) : settings.WellTyped := by
  unfold readSettings at h
  split at h
  · rename_i loaded hload
    cases h
    exact Settings.wellTyped_load (admits_overrides words) hload
  · cases h
  · cases h

end Cli

end RemoteSigner
