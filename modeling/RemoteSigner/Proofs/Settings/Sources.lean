import Mathlib
import RemoteSigner.Proofs.Settings.Variables

/-!
# The one source of each setting

Where a setting has its value from is said without a word about the order in which things are read: from its
override, unless that is null; else from the text of its variable, unless that is empty; else it stands by
default (`Setting.Takes`). If all numbers can be read, overrides are refused for their names alone
(`Settings.load_of_read`), and what is loaded is what each setting takes
(`Settings.load_each_from_its_source`). So no setting depends on what is said about another one
(`Settings.agreeOn_load`), which leaves nothing for the order of the overrides to decide.
-/

namespace RemoteSigner

/-! ## What is said about a setting -/

namespace Setting

theorem ofName?_eq_some_iff {name : String} {s : Setting} : ofName? name = some s ↔ name = s.name := by
  constructor
  · intro h
    have hname : (s.name == name) = true := List.find?_some (p := fun s : Setting => s.name == name) h
    exact (beq_iff_eq.mp hname).symm
  · rintro rfl
    exact ofName?_name s

theorem name_inj {s t : Setting} (h : s.name = t.name) : s = t :=
  Option.some.inj ((ofName?_name s).symm.trans (ofName?_eq_some_iff.mpr h))

theorem isSome_ofName?_iff {name : String} : (ofName? name).isSome ↔ ∃ s : Setting, name = s.name := by
  simp only [Option.isSome_iff_exists, ofName?_eq_some_iff]

/-- No override says anything but null about the setting. -/
def Free (overrides : List (String × Datum)) (s : Setting) : Prop :=
  ∀ v, (s.name, v) ∈ overrides → v = .null

/-- The value that a setting takes, and where from. -/
inductive Takes (env : Environment) (overrides : List (String × Datum)) (s : Setting) : Datum → Prop
  | overridden {v : Datum} (hmem : (s.name, v) ∈ overrides) (hv : v ≠ .null) : Takes env overrides s v
  | spelled {name text : String} {v : Datum} (hfree : Free overrides s) (hname : s.variableName? = some name)
      (htext : env name = some text) (hne : text ≠ "") (hv : s.Spells text v) : Takes env overrides s v
  | standing (hfree : Free overrides s)
      (hunset : ∀ name, s.variableName? = some name → env name = none ∨ env name = some "") :
      Takes env overrides s (Settings.default s)

theorem Takes.congr {env env' : Environment} {overrides overrides' : List (String × Datum)} {s : Setting}
    {v : Datum} (hoverrides : ∀ v, (s.name, v) ∈ overrides ↔ (s.name, v) ∈ overrides')
    (henv : ∀ name, s.variableName? = some name → env name = env' name) (h : s.Takes env overrides v) :
    s.Takes env' overrides' v := by
  have hfree : Free overrides s → Free overrides' s := fun hfree v hv => hfree v ((hoverrides v).mpr hv)
  cases h with
  | overridden hmem hv => exact .overridden ((hoverrides v).mp hmem) hv
  | spelled hf hname htext hne hv => exact .spelled (hfree hf) hname ((henv _ hname).symm.trans htext) hne hv
  | standing hf hunset => exact .standing (hfree hf) fun name hname => henv name hname ▸ hunset name hname

end Setting

/-! ## What the overrides say -/

namespace Settings

variable {env env' : Environment} {overrides overrides' : List (String × Datum)} {s : Setting} {v : Datum}

theorem overriding?_eq_some_iff {o : String × Datum} :
    overriding? o s = some v ↔ o = (s.name, v) ∧ v ≠ .null := by
  obtain ⟨name, w⟩ := o
  simp only [overriding?, Setting.ofName?_eq_some_iff, Prod.mk.injEq]
  by_cases hname : name = s.name
  · rw [if_pos hname]
    cases w with
    | null => exact iff_of_false nofun fun h => h.2 h.1.2.symm
    | bool | int | float | text | bytes | list | map | record | message | unknown =>
      simp only [Option.some.injEq, hname, true_and, ne_eq, iff_self_and]
      rintro rfl
      exact nofun
  · rw [if_neg hname]
    exact iff_of_false nofun fun h => hname h.1.1

theorem mem_of_overrideOf? (h : overrideOf? overrides s = some v) :
    (s.name, v) ∈ overrides ∧ v ≠ .null := by
  induction overrides with
  | nil => cases h
  | cons o rest ih =>
    obtain hrest | ⟨-, ho⟩ := Option.or_eq_some_iff.mp h
    · obtain ⟨hmem, hv⟩ := ih hrest
      exact ⟨List.mem_cons_of_mem o hmem, hv⟩
    · obtain ⟨rfl, hv⟩ := overriding?_eq_some_iff.mp ho
      exact ⟨List.mem_cons_self, hv⟩

theorem overrideOf?_eq_none_iff : overrideOf? overrides s = none ↔ s.Free overrides := by
  induction overrides with
  | nil => exact iff_of_true rfl nofun
  | cons o rest ih =>
    rw [overrideOf?, Option.or_eq_none_iff, ih]
    constructor
    · rintro ⟨hrest, ho⟩ v hmem
      obtain rfl | hmem := List.mem_cons.mp hmem
      · by_contra hv
        cases ho.symm.trans (overriding?_eq_some_iff.mpr ⟨rfl, hv⟩)
      · exact hrest v hmem
    · intro hfree
      refine ⟨fun v hmem => hfree v (List.mem_cons_of_mem o hmem),
        Option.eq_none_iff_forall_ne_some.mpr fun v hv => ?_⟩
      obtain ⟨rfl, hne⟩ := overriding?_eq_some_iff.mp hv
      exact hne (hfree v List.mem_cons_self)

/-- Where no key comes twice, an override counts wherever it stands. -/
theorem overrideOf?_eq_some_iff (hkeys : (overrides.map Prod.fst).Nodup) :
    overrideOf? overrides s = some v ↔ (s.name, v) ∈ overrides ∧ v ≠ .null := by
  refine ⟨mem_of_overrideOf?, fun ⟨hmem, hv⟩ => ?_⟩
  match ho : overrideOf? overrides s with
  | none => exact absurd (overrideOf?_eq_none_iff.mp ho v hmem) hv
  | some w =>
    obtain ⟨hw, -⟩ := mem_of_overrideOf? ho
    have heq : (s.name, w) = (s.name, v) := List.inj_on_of_nodup_map hkeys hw hmem rfl
    rw [(Prod.mk.inj heq).2]

theorem load_null (before : List (String × Datum)) (s : Setting) (after : List (String × Datum)) :
    load env (before ++ (s.name, .null) :: after) = load env (before ++ after) := by
  -- the reserved name is looked for before any value, so it matters that it is no setting's
  have hname : (s.name == reservedName) = false := by cases s <;> decide
  have hnull : ∀ settings : Settings, settings.override (s.name, .null) = .ok settings := by
    intro settings
    unfold override
    rw [Setting.ofName?_name]
  unfold load
  simp only [List.any_append, List.any_cons, hname, Bool.false_or, List.foldlM_append, List.foldlM_cons,
    hnull]
  rfl

/-! ## Names -/

/-- What is wrong with the names of the overrides: the reserved one is among them, or else the first that is
no setting's. -/
def namingFault? (overrides : List (String × Datum)) : Option Fault :=
  if overrides.any (·.1 == reservedName) then some (nameTaken "from_env" reservedName)
  else (overrides.find? fun o => (Setting.ofName? o.1).isNone).map fun o => unknownName o.1

theorem allKnown_iff : AllKnown overrides ↔ ∀ o ∈ overrides, ∃ s : Setting, o.1 = s.name := by
  simp only [AllKnown, Setting.isSome_ofName?_iff]

theorem AllKnown.of_forall_mem (hmem : ∀ o, o.1 ≠ s.name → o ∈ overrides' → o ∈ overrides)
    (h : AllKnown overrides) : AllKnown overrides' := by
  rw [allKnown_iff] at h ⊢
  intro o ho
  by_cases hname : o.1 = s.name
  · exact ⟨s, hname⟩
  · exact h o (hmem o hname ho)

theorem find?_unknown_eq_none_iff :
    overrides.find? (fun o => (Setting.ofName? o.1).isNone) = none ↔ AllKnown overrides := by
  simp only [List.find?_eq_none, AllKnown, Option.isNone_iff_eq_none, Option.isSome_iff_ne_none, ne_eq]

theorem namingFault?_eq_none_iff : namingFault? overrides = none ↔ AllKnown overrides := by
  unfold namingFault?
  constructor
  · intro h
    split_ifs at h
    exact find?_unknown_eq_none_iff.mp (Option.map_eq_none_iff.mp h)
  · intro h
    rw [if_neg h.not_reserved, find?_unknown_eq_none_iff.mpr h]
    rfl

theorem exists_of_namingFault? {f : Fault} (h : namingFault? overrides = some f) :
    ∃ message, f = .plain .type message none := by
  unfold namingFault? at h
  split_ifs at h
  · exact ⟨_, (Option.some.inj h).symm⟩
  · obtain ⟨o, -, rfl⟩ := Option.map_eq_some_iff.mp h
    exact ⟨_, rfl⟩

theorem foldlM_override_of_unknown {o : String × Datum}
    (h : overrides.find? (fun o => (Setting.ofName? o.1).isNone) = some o) (settings : Settings) :
    overrides.foldlM override settings = .error (unknownName o.1) := by
  induction overrides generalizing settings with
  | nil => cases h
  | cons p rest ih =>
    rw [List.find?_cons] at h
    rw [List.foldlM_cons]
    match hp : Setting.ofName? p.1 with
    | none =>
      rw [hp] at h
      cases h
      unfold override
      rw [hp]
      rfl
    | some s =>
      rw [hp] at h
      rw [override_eq (hp ▸ rfl)]
      exact ih h _

/-! ## Loading -/

/-- What each setting is loaded with. -/
def loaded (env : Environment) (overrides : List (String × Datum)) : Settings :=
  fun s => (overrideOf? overrides s).getD ((env.given? s).getD (default s))

theorem eq_loaded_of_takes (hnumbers : env.NumbersSpelled) (hkeys : (overrides.map Prod.fst).Nodup)
    (h : s.Takes env overrides v) : v = loaded env overrides s := by
  unfold loaded
  cases h with
  | overridden hmem hv => rw [(overrideOf?_eq_some_iff hkeys).mpr ⟨hmem, hv⟩, Option.getD_some]
  | spelled hfree hname htext hne hv =>
    have hvalue := Environment.value?_eq_some_iff.mpr ⟨htext, hne⟩
    rw [overrideOf?_eq_none_iff.mpr hfree, Environment.given?_eq_some_iff.mpr ⟨_, _, hname, hvalue, hv⟩,
      Option.getD_none, Option.getD_some]
  | standing hfree hunset =>
    rw [overrideOf?_eq_none_iff.mpr hfree, hnumbers.given?_eq_none_iff.mpr hunset, Option.getD_none,
      Option.getD_none]

theorem takes_loaded (hnumbers : env.NumbersSpelled) (overrides : List (String × Datum)) (s : Setting) :
    s.Takes env overrides (loaded env overrides s) := by
  unfold loaded
  match ho : overrideOf? overrides s with
  | some v =>
    obtain ⟨hmem, hv⟩ := mem_of_overrideOf? ho
    exact .overridden hmem hv
  | none =>
    have hfree := overrideOf?_eq_none_iff.mp ho
    match hg : env.given? s with
    | some v =>
      obtain ⟨name, text, hname, hvalue, hv⟩ := Environment.given?_eq_some_iff.mp hg
      obtain ⟨htext, hne⟩ := Environment.value?_eq_some_iff.mp hvalue
      exact .spelled hfree hname htext hne hv
    | none => exact .standing hfree (hnumbers.given?_eq_none_iff.mp hg)

/-- What is loaded is what each setting takes. -/
theorem takes_iff (hnumbers : env.NumbersSpelled) (hkeys : (overrides.map Prod.fst).Nodup) :
    s.Takes env overrides v ↔ v = loaded env overrides s :=
  ⟨eq_loaded_of_takes hnumbers hkeys, fun h => h ▸ takes_loaded hnumbers overrides s⟩

/-- If all variables can be read, only the names of the overrides can be wrong. -/
theorem load_of_read (hread : env.fault? = none) : load env overrides =
    match namingFault? overrides with
    | some f => .error f
    | none => .ok (loaded env overrides) := by
  by_cases hknown : AllKnown overrides
  · rw [load_eq hknown, hread, namingFault?_eq_none_iff.mpr hknown]
    rfl
  · obtain ⟨o, ho⟩ := Option.ne_none_iff_exists'.mp (mt find?_unknown_eq_none_iff.mp hknown)
    unfold load namingFault?
    split_ifs
    · rfl
    · rw [ho, ofEnvironment, EnvironmentSetting.foldlM_apply nodup_setting]
      show (match env.fault? with | some f => _ | none => _) >>= _ = _
      rw [hread]
      exact foldlM_override_of_unknown ho _

theorem load_of_known (hnumbers : env.NumbersSpelled) (hknown : AllKnown overrides) :
    load env overrides = .ok (loaded env overrides) := by
  rw [load_of_read hnumbers.fault?_eq_none, namingFault?_eq_none_iff.mpr hknown]

/-- A name that is no setting's is a fault of type. -/
theorem load_of_not_known (hnumbers : env.NumbersSpelled) (hknown : ¬ AllKnown overrides) :
    ∃ message, load env overrides = .error (.plain .type message none) := by
  obtain ⟨f, hf⟩ := Option.ne_none_iff_exists'.mp (mt namingFault?_eq_none_iff.mp hknown)
  obtain ⟨message, rfl⟩ := exists_of_namingFault? hf
  exact ⟨message, by rw [load_of_read hnumbers.fault?_eq_none, hf]⟩

/-! ## Independence -/

/-- Both attempts to load are refused for a type, or both succeed and agree on some settings. -/
inductive AgreeOn (P : Setting → Prop) : Except Fault Settings → Except Fault Settings → Prop
  | refused {message message' : Option String} {cause cause' : Option Fault} :
    AgreeOn P (.error (.plain .type message cause)) (.error (.plain .type message' cause'))
  | loaded {settings settings' : Settings} (h : ∀ s, P s → settings s = settings' s) :
    AgreeOn P (.ok settings) (.ok settings')

/-- Settings about which the same is said are loaded alike, whatever is said about others. -/
theorem agreeOn_load {P : Setting → Prop} (hnumbers : env.NumbersSpelled) (hnumbers' : env'.NumbersSpelled)
    (hkeys' : (overrides'.map Prod.fst).Nodup) (hknown : AllKnown overrides ↔ AllKnown overrides')
    (hoverrides : ∀ s, P s → ∀ v, (s.name, v) ∈ overrides ↔ (s.name, v) ∈ overrides')
    (henv : ∀ s, P s → ∀ name, s.variableName? = some name → env name = env' name) :
    AgreeOn P (load env overrides) (load env' overrides') := by
  by_cases h : AllKnown overrides
  · rw [load_of_known hnumbers h, load_of_known hnumbers' (hknown.mp h)]
    refine .loaded fun s hs => ?_
    -- what the setting takes on one side it takes on the other, and that is what is loaded there
    have htakes := (takes_loaded hnumbers overrides s).congr (hoverrides s hs) (henv s hs)
    exact eq_loaded_of_takes hnumbers' hkeys' htakes
  · obtain ⟨message, hload⟩ := load_of_not_known hnumbers h
    obtain ⟨message', hload'⟩ := load_of_not_known hnumbers' (mt hknown.mpr h)
    rw [hload, hload']
    exact .refused

/-- Unset and empty variables are loaded alike. -/
theorem load_of_alike (h : env.AlikeButEmpty env') : load env overrides = load env' overrides := by
  have happly : EnvironmentSetting.apply env = EnvironmentSetting.apply env' := by
    funext settings e
    unfold EnvironmentSetting.apply
    rw [h.value?_eq]
  unfold load ofEnvironment
  rw [happly]

/-- Each setting takes what is said about it: its override, unless that is null; else what its variable
spells, unless that is unset or empty; else the default. Where all numbers are spelled the one thing that can
go wrong is a name that is no setting's, be its override null or not. So it makes no difference whether a
variable is unset or empty, whether a setting is overridden by null, or in which order overrides stand; and a
variable or an override makes none to other settings than its own. -/
theorem load_each_from_its_source (hnumbers : env.NumbersSpelled) (hkeys : (overrides.map Prod.fst).Nodup) :
    ((∃ message cause, load env overrides = .error (.plain .type message cause)) ↔
        ∃ o ∈ overrides, ∀ s : Setting, o.1 ≠ s.name) ∧
      ((∀ o ∈ overrides, ∃ s : Setting, o.1 = s.name) → ∃ settings, load env overrides = .ok settings ∧
        ∀ s v, Setting.Takes env overrides s v ↔ v = settings s) ∧
      (∀ env', env.AlikeButEmpty env' → load env overrides = load env' overrides) ∧
      (∀ before after, ∀ s : Setting, overrides = before ++ (s.name, .null) :: after →
        load env overrides = load env (before ++ after)) ∧
      (∀ overrides', overrides.Perm overrides' →
        AgreeOn (fun _ => True) (load env overrides) (load env overrides')) ∧
      (∀ env', ∀ s : Setting, env'.NumbersSpelled →
        (∀ name, s.variableName? ≠ some name → env name = env' name) →
        AgreeOn (· ≠ s) (load env overrides) (load env' overrides)) ∧
      ∀ overrides', ∀ s : Setting, (overrides'.map Prod.fst).Nodup →
        (∀ o, o.1 ≠ s.name → (o ∈ overrides ↔ o ∈ overrides')) →
        AgreeOn (· ≠ s) (load env overrides) (load env overrides') := by
  refine ⟨?refused, ?taken, fun _ => load_of_alike, ?null, ?order, ?given, ?overridden⟩
  case refused =>
    constructor
    · rintro ⟨message, cause, hload⟩
      by_contra! hall
      cases (load_of_known hnumbers (allKnown_iff.mpr hall)).symm.trans hload
    · rintro ⟨o, ho, hunknown⟩
      have hnot : ¬ AllKnown overrides := fun hknown => by
        obtain ⟨s, hs⟩ := allKnown_iff.mp hknown o ho
        exact hunknown s hs
      obtain ⟨message, hload⟩ := load_of_not_known hnumbers hnot
      exact ⟨_, _, hload⟩
  case taken =>
    intro hknown
    exact ⟨_, load_of_known hnumbers (allKnown_iff.mpr hknown), fun s v => takes_iff hnumbers hkeys⟩
  case null =>
    rintro before after s rfl
    exact load_null before s after
  case order =>
    intro overrides' hperm
    have hknown : AllKnown overrides ↔ AllKnown overrides' :=
      forall_congr' fun _ => imp_congr_left hperm.mem_iff
    exact agreeOn_load hnumbers hnumbers ((hperm.map Prod.fst).nodup hkeys) hknown
      (fun _ _ _ => hperm.mem_iff) fun _ _ _ _ => rfl
  case given =>
    intro env' s hnumbers' henv
    refine agreeOn_load hnumbers hnumbers' hkeys Iff.rfl (fun _ _ _ => Iff.rfl) fun t ht name hname => ?_
    exact henv name fun hs => ht (Setting.variableName?_inj hname hs)
  case overridden =>
    intro overrides' s hkeys' hsame
    have hknown : AllKnown overrides ↔ AllKnown overrides' :=
      ⟨AllKnown.of_forall_mem fun o hname => (hsame o hname).mpr,
        AllKnown.of_forall_mem fun o hname => (hsame o hname).mp⟩
    refine agreeOn_load hnumbers hnumbers hkeys' hknown (fun t ht v => hsame (t.name, v) ?_) fun _ _ _ _ => rfl
    exact fun h => ht (Setting.name_inj h)

/-- An override before a variable, a size of zero, a switch in capitals behind a null override, an empty
variable and a setting without one; and then a name that is no setting's. -/
theorem load_each_from_its_source_mixed :
    let env : Environment := fun name =>
      if name = "SIGNER_CLIENT_URL" then some "ws://b"
      else if name = "SIGNER_CLIENT_MAX_SIZE" then some "0"
      else if name = "SIGNER_CLIENT_VERIFY_TLS" then some "YES"
      else if name = "SIGNER_CLIENT_CA_FILE" then some ""
      else none
    let overrides := [("url", Datum.text (.whole "wss://a")), ("verify_tls", .null)]
    env.NumbersSpelled ∧ (overrides.map Prod.fst).Nodup ∧
      (∃ settings, load env overrides = .ok settings ∧ settings .url = .text (.whole "wss://a") ∧
        settings .maxSize = .null ∧ settings .verifyTls = .bool true ∧ settings .caFile = .null ∧
        settings .closeTimeout = default .closeTimeout) ∧
      ∃ message cause, load env (("port", .null) :: overrides) = .error (.plain .type message cause) := by
  intro env overrides
  have hnumbers : env.NumbersSpelled := by
    intro s hs name text hname htext hne
    simp only [List.mem_cons, List.not_mem_nil, or_false] at hs
    obtain rfl | rfl | rfl := hs
    · cases hname
      cases htext
    · cases hname
      cases htext
    · cases hname
      cases htext
      exact ⟨.null, 0, by cbv, rfl⟩
  have hkeys : (overrides.map Prod.fst).Nodup := by decide
  have hkeys' : ((("port", Datum.null) :: overrides).map Prod.fst).Nodup := by decide
  obtain ⟨-, htaken, -⟩ := load_each_from_its_source hnumbers hkeys
  obtain ⟨hrefused, -⟩ := load_each_from_its_source hnumbers hkeys'
  obtain ⟨settings, hload, htakes⟩ := htaken
    (List.forall_mem_cons.mpr ⟨⟨.url, rfl⟩, List.forall_mem_singleton.mpr ⟨.verifyTls, rfl⟩⟩)
  have hfree : ∀ s : Setting, s ≠ .url → s.Free overrides := by
    intro s hs v hmem
    obtain hurl | hmem := List.mem_cons.mp hmem
    · exact absurd (Setting.name_inj (Prod.mk.inj hurl).1) hs
    · exact (Prod.mk.inj (List.mem_singleton.mp hmem)).2
  have hon : EnvironmentSetting.isOn "YES" = true := by cbv
  have hsize : Setting.Takes env overrides .maxSize .null :=
    .spelled (hfree _ (by decide)) rfl rfl (by decide) ⟨0, by cbv, rfl⟩
  have hverify : Setting.Takes env overrides .verifyTls (.bool true) :=
    .spelled (hfree _ (by decide)) rfl rfl (by decide) ⟨true, fun _ hlower =>
      iff_of_true rfl ((EnvironmentSetting.isOn_iff_of_lowering hlower).mp hon), rfl⟩
  have hfile : Setting.Takes env overrides .caFile .null :=
    .standing (hfree _ (by decide)) fun name hname => by
      cases hname
      exact .inr rfl
  refine ⟨hnumbers, hkeys, ⟨settings, hload, ?_, ?_, ?_, ?_, ?_⟩, hrefused.mpr ⟨_, List.mem_cons_self, ?_⟩⟩
  · exact ((htakes .url _).mp (.overridden List.mem_cons_self nofun)).symm
  · exact ((htakes .maxSize _).mp hsize).symm
  · exact ((htakes .verifyTls _).mp hverify).symm
  · exact ((htakes .caFile _).mp hfile).symm
  · exact ((htakes .closeTimeout _).mp (.standing (hfree _ (by decide)) nofun)).symm
  · intro s
    cases s <;> decide

end Settings

end RemoteSigner
