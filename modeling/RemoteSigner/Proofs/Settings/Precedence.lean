import Mathlib
import RemoteSigner.Settings.Environment
import RemoteSigner.Proofs.Wire.Dump

/-!
# Where the value of a setting comes from

Each setting is an override, else what the environment says, else the default (`Settings.load_eq`). All
variables are read before the first override is looked at, so one that cannot be read is a fault whatever
is overridden. An override hides everything else about its variable
(`Settings.load_shadowed_exactly`).
-/

namespace RemoteSigner

/-! ## Variables -/

namespace EnvironmentSetting

/-- What its variable comes to: nothing if it is unset or empty, else what is read from its text. -/
def outcome (env : Environment) (e : EnvironmentSetting) : Except Fault (Option Datum) :=
  match env.value? e.variableName with
  | none => .ok none
  | some text => some <$> e.read text

/-- The fault of a variable that cannot be read. -/
def fault? (env : Environment) (e : EnvironmentSetting) : Option Fault :=
  match e.outcome env with
  | .error f => some f
  | .ok _ => none

/-- The value that the variable gives its setting. -/
def given? (env : Environment) (e : EnvironmentSetting) : Option Datum :=
  match e.outcome env with
  | .error _ => none
  | .ok v => v

variable {env : Environment}

theorem apply_eq (settings : Settings) (e : EnvironmentSetting) : e.apply env settings =
    (fun v : Option Datum => v.elim settings (settings.set e.setting)) <$> e.outcome env := by
  unfold apply outcome
  cases env.value? e.variableName with
  | none => rfl
  | some text =>
    show settings.set e.setting <$> e.read text = _ <$> some <$> e.read text
    cases e.read text <;> rfl

/-- The value for a setting among these. -/
def lookup? (env : Environment) (es : List EnvironmentSetting) (t : Setting) : Option Datum :=
  (es.find? fun e => e.setting = t).bind (given? env)

theorem lookup?_cons (e : EnvironmentSetting) (rest : List EnvironmentSetting) (t : Setting) :
    lookup? env (e :: rest) t = if e.setting = t then given? env e else lookup? env rest t := by
  unfold lookup?
  rw [List.find?_cons]
  by_cases h : e.setting = t
  · rw [if_pos h, decide_eq_true h]
    rfl
  · rw [if_neg h, decide_eq_false h]

theorem lookup?_of_not_mem {es : List EnvironmentSetting} {t : Setting} (h : t ∉ es.map setting) :
    lookup? env es t = none := by
  have hnone : (es.find? fun e => e.setting = t) = none := by
    rw [List.find?_eq_none]
    intro e he heq
    exact h (of_decide_eq_true heq ▸ List.mem_map_of_mem he)
  rw [lookup?, hnone]
  rfl

/-- The first variable that cannot be read decides; if all can be, each gives its own setting a value. -/
theorem foldlM_apply {es : List EnvironmentSetting} (hes : (es.map setting).Nodup) (settings : Settings) :
    es.foldlM (apply env) settings = match es.findSome? (fault? env) with
      | some f => .error f
      | none => .ok fun t => (lookup? env es t).getD (settings t) := by
  induction es generalizing settings with
  | nil => rfl
  | cons e rest ih =>
    obtain ⟨hnew, hrest⟩ := List.nodup_cons.mp hes
    rw [List.foldlM_cons, apply_eq, List.findSome?_cons]
    match he : e.outcome env with
    | .error f =>
      have hfault : fault? env e = some f := by rw [fault?, he]
      rw [hfault]
      rfl
    | .ok v =>
      have hfault : fault? env e = none := by rw [fault?, he]
      have hgiven : given? env e = v := by rw [given?, he]
      -- what this one gives is not given again
      have hvalue : ∀ t, (lookup? env rest t).getD (v.elim settings (settings.set e.setting) t) =
          (lookup? env (e :: rest) t).getD (settings t) := by
        intro t
        rw [lookup?_cons, hgiven]
        by_cases ht : e.setting = t
        · subst ht
          rw [if_pos rfl, lookup?_of_not_mem hnew]
          cases v with
          | none => rfl
          | some v => exact Settings.set_self settings e.setting v
        · rw [if_neg ht]
          cases v with
          | none => rfl
          | some v =>
            show (lookup? env rest t).getD (settings.set e.setting v t) = _
            rw [Settings.set_of_ne settings v (Ne.symm ht)]
      rw [hfault]
      show rest.foldlM (apply env) (v.elim settings (settings.set e.setting)) = _
      simp only [ih hrest, hvalue]

end EnvironmentSetting

namespace Environment

/-- The fault of the first variable that cannot be read, in the order in which they are. -/
def fault? (env : Environment) : Option Fault :=
  EnvironmentSetting.all.findSome? (EnvironmentSetting.fault? env)

/-- What the environment says about a setting. -/
def given? (env : Environment) : Setting → Option Datum :=
  EnvironmentSetting.lookup? env EnvironmentSetting.all

end Environment

/-! ## Overrides -/

namespace Settings

/-- What one override says about a setting: nothing if it is another setting's, or null. -/
def overriding? (o : String × Datum) (t : Setting) : Option Datum :=
  if Setting.ofName? o.1 = some t then
    match o.2 with
    | .null => none
    | v => some v
  else none

/-- What the overrides say about a setting; the last one that says something counts. -/
def overrideOf? : List (String × Datum) → Setting → Option Datum
  | [], _ => none
  | o :: rest, t => (overrideOf? rest t).or (overriding? o t)

/-- Every override names a setting. -/
def AllKnown (overrides : List (String × Datum)) : Prop := ∀ o ∈ overrides, (Setting.ofName? o.1).isSome

variable {overrides : List (String × Datum)}

theorem override_eq {o : String × Datum} (ho : (Setting.ofName? o.1).isSome) (settings : Settings) :
    settings.override o = .ok fun t => (overriding? o t).getD (settings t) := by
  obtain ⟨name, v⟩ := o
  obtain ⟨s, hs⟩ := Option.isSome_iff_exists.mp ho
  have hset : ∀ v, settings.set s v = fun t => (if some s = some t then some v else none).getD (settings t) := by
    intro v
    funext t
    by_cases ht : s = t
    · subst ht
      rw [if_pos rfl]
      exact set_self settings s v
    · rw [if_neg fun h => ht (Option.some.inj h)]
      exact set_of_ne settings v (Ne.symm ht)
  unfold override overriding?
  simp only [hs]
  cases v with
  | null => simp only [ite_self, Option.getD_none]
  | bool | int | float | text | bytes | list | map | record | message | unknown =>
    exact congrArg Except.ok (hset _)

/-- Overrides that are known are what is said about each setting. -/
theorem foldlM_override (h : AllKnown overrides) (settings : Settings) :
    overrides.foldlM override settings = .ok fun t => (overrideOf? overrides t).getD (settings t) := by
  induction overrides generalizing settings with
  | nil => rfl
  | cons o rest ih =>
    obtain ⟨ho, hrest⟩ := List.forall_mem_cons.mp h
    rw [List.foldlM_cons, override_eq ho]
    show rest.foldlM override (fun t => (overriding? o t).getD (settings t)) = _
    rw [ih hrest]
    congr 1
    funext t
    rw [overrideOf?]
    cases overrideOf? rest t <;> rfl

/-! ## Loading -/

theorem nodup_setting : (EnvironmentSetting.all.map EnvironmentSetting.setting).Nodup := by decide

/-- The reserved name is no setting's. -/
theorem AllKnown.not_reserved (h : AllKnown overrides) : ¬ overrides.any (·.1 == reservedName) := by
  intro hany
  obtain ⟨o, ho, hname⟩ := List.any_eq_true.mp hany
  have hknown := h o ho
  rw [beq_iff_eq.mp hname] at hknown
  cases hknown

/-- Settings are loaded if all variables can be read, and then each is the override, else what the environment
says, else the default. -/
theorem load_eq (h : AllKnown overrides) (env : Environment) : load env overrides =
    match env.fault? with
    | some f => .error f
    | none => .ok fun t => (overrideOf? overrides t).getD ((env.given? t).getD (default t)) := by
  rw [load, if_neg h.not_reserved, ofEnvironment, EnvironmentSetting.foldlM_apply nodup_setting]
  show (match env.fault? with | some f => _ | none => _) >>= _ = _
  cases env.fault? with
  | some f => rfl
  | none => exact foldlM_override h _

/-- A variable that cannot be read is a fault, whatever is overridden. -/
theorem load_of_fault (h : AllKnown overrides) {env : Environment} {f : Fault}
    (hf : env.fault? = some f) : load env overrides = .error f := by
  rw [load_eq h, hf]

/-- The two environments agree on each variable whose setting is not overridden. -/
def AgreeBut (overrides : List (String × Datum)) (env env' : Environment) : Prop :=
  ∀ e ∈ EnvironmentSetting.all, overrideOf? overrides e.setting = none →
    env e.variableName = env' e.variableName

theorem AgreeBut.given_eq {env env' : Environment} (h : AgreeBut overrides env env') {t : Setting}
    (ht : overrideOf? overrides t = none) : env.given? t = env'.given? t := by
  refine Option.bind_congr fun e he => ?_
  have het : e.setting = t := by simpa using List.find?_some he
  have hvalue : env.value? e.variableName = env'.value? e.variableName := by
    unfold Environment.value?
    rw [h e (List.mem_of_find?_eq_some he) (het ▸ ht)]
  unfold EnvironmentSetting.given? EnvironmentSetting.outcome
  rw [hvalue]

/-- Environments that differ only in variables whose settings are overridden are loaded alike exactly if
their first unreadable variables are the same fault, or there is none in either. So an overridden variable
counts for nothing as long as it can be read; one that cannot be read is a fault although it is overridden. -/
theorem load_shadowed_exactly (hknown : AllKnown overrides) {env env' : Environment}
    (hagree : AgreeBut overrides env env') :
    (load env overrides = load env' overrides ↔ env.fault? = env'.fault?) ∧
      ∀ f, env.fault? = some f → load env overrides = .error f := by
  refine ⟨?_, fun f hf => load_of_fault hknown hf⟩
  rw [load_eq hknown, load_eq hknown]
  match hf : env.fault?, hf' : env'.fault? with
  | some f, some f' => exact Except.error.injEq _ _ |>.to_iff.trans (Option.some.injEq _ _).to_iff.symm
  | some f, none => exact iff_of_false nofun nofun
  | none, some f' => exact iff_of_false nofun nofun
  | none, none =>
    refine iff_of_true (congrArg Except.ok ?_) rfl
    funext t
    match ht : overrideOf? overrides t with
    | some v => rfl
    | none => rw [hagree.given_eq ht]

/-- A size that is overridden makes no difference in the environment if it is a number, and is a fault if it
is not. -/
theorem load_shadowed_exactly_size :
    let overrides := [("max_size", Datum.int 1024)]
    let env (text : Option String) : Environment := fun name =>
      if name = "SIGNER_CLIENT_MAX_SIZE" then text else none
    AllKnown overrides ∧ (∀ text, AgreeBut overrides (env none) (env text)) ∧
      load (env none) overrides = load (env (some "99")) overrides ∧
      load (env none) overrides ≠ load (env (some "big")) overrides ∧
      ∃ f, load (env (some "big")) overrides = .error f := by
  intro overrides env
  have hknown : AllKnown overrides := List.forall_mem_singleton.mpr rfl
  have hagree : ∀ text text', AgreeBut overrides (env text) (env text') := by
    intro text text' e he hnone
    simp only [EnvironmentSetting.all, List.mem_cons, List.not_mem_nil, or_false] at he
    obtain rfl | rfl | rfl | rfl | rfl | rfl := he
    · rfl
    · rfl
    · rfl
    · cases hnone
    · rfl
    · rfl
  have hunset : (env none).fault? = none := rfl
  have hsmall : (env (some "99")).fault? = none := Option.isNone_iff_eq_none.mp (by decide)
  obtain ⟨f, hbig⟩ : ∃ f, (env (some "big")).fault? = some f := Option.isSome_iff_exists.mp (by decide)
  obtain ⟨halike, -⟩ := load_shadowed_exactly hknown (hagree none (some "99"))
  obtain ⟨hdiffer, -⟩ := load_shadowed_exactly hknown (hagree none (some "big"))
  obtain ⟨-, hfault⟩ := load_shadowed_exactly hknown (hagree (some "big") none)
  refine ⟨hknown, hagree none, halike.mpr (hunset.trans hsmall.symm), fun h => ?_, f, hfault f hbig⟩
  rw [hdiffer, hunset, hbig] at h
  cases h

end Settings

end RemoteSigner
