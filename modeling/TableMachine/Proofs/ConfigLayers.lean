import TableMachine.Config.Load
import TableMachine.Proofs.CompileErrors

/-!
# The runner's configuration is layered

Loading the configuration starts from the defaults, replaces them by the file that
`TABFSM_CONFIG` names when that variable is set, and lays the environment over the result:

> `load_layers_environment`: loading fails exactly when `TABFSM_CONFIG` is set to text naming a
> file that cannot be read as UTF-8 text, or whose text is no configuration; otherwise every
> setting is the environment's when its variable is set to text (a flag read as a flag, a label
> policy only when it is one), else the file's when `TABFSM_CONFIG` is set, else the default.

A variable whose value is not UTF-8 reads as unset. The programs read the environment as text
(`OsEnvironment.text`), which drops such variables; since each variable is set at most once,
reading a name there gives exactly its value when that value is text (`get?_text`). The rest
follows the loader's three steps: where the lower layer comes from (`load_eq`), what reading
the file gives (`fromFile_eq`), and how the environment replaces settings
(`overrideFrom_layered`).
-/

namespace TableMachine

namespace OsEnvironment

/-- The value of a variable when it is set to text: set, and UTF-8. -/
def unicode? (e : OsEnvironment) (name : String) : Option String :=
  (e.vars.find? (·.1 = name)).bind fun entry => (Text.decode entry.2).toOption

/-- Reading variables with distinct names as text finds a name's value exactly when it is set
and UTF-8. -/
theorem find?_filterMap_asText (name : String) : ∀ vars : List (String × List UInt8),
    (vars.map (·.1)).Nodup →
    ((vars.filterMap asText).find? (·.1 = name)).map (·.2) =
      (vars.find? (·.1 = name)).bind fun entry => (Text.decode entry.2).toOption
  | [], _ => rfl
  | (n, v) :: rest, hnd => by
    obtain ⟨hfresh, hrest⟩ := List.nodup_cons.mp hnd
    by_cases hn : n = name
    · subst hn
      rw [List.find?_cons_of_pos (by simp), Option.bind_some]
      cases hd : Text.decode v with
      | ok s =>
        have hv : asText (n, v) = some (n, s) := by simp [asText, hd, Except.toOption]
        rw [List.filterMap_cons_some hv, List.find?_cons_of_pos (by simp)]
        rfl
      | error err =>
        -- the variable reads as unset, and no later entry carries its name
        have hv : asText (n, v) = none := by simp [asText, hd, Except.toOption]
        have hnone : (rest.filterMap asText).find? (·.1 = n) = none := by
          rw [List.find?_eq_none]
          intro x hx hxn
          obtain ⟨entry, hentry, hx⟩ := List.mem_filterMap.mp hx
          obtain ⟨s, -, rfl⟩ := Option.map_eq_some_iff.mp hx
          exact hfresh (List.mem_map.mpr ⟨entry, hentry, by simpa using hxn⟩)
        rw [List.filterMap_cons_none hv, hnone]
        rfl
    · -- another name: the entry is passed over on both sides
      rw [List.find?_cons_of_neg (by simpa using hn), ← find?_filterMap_asText name rest hrest]
      cases hv : asText (n, v) with
      | none => rw [List.filterMap_cons_none hv]
      | some entry =>
        obtain ⟨s, -, rfl⟩ := Option.map_eq_some_iff.mp hv
        rw [List.filterMap_cons_some hv, List.find?_cons_of_neg (by simpa using hn)]

/-- The programs read a variable's value exactly when it is set to text. -/
@[simp] theorem get?_text (e : OsEnvironment) (name : String) : e.text.get? name = e.unicode? name :=
  find?_filterMap_asText name e.vars e.names_nodup

end OsEnvironment

namespace Config

/-- The settings `c` are the environment `e` laid over the settings `lower`: a variable that is
set to text replaces its setting (a flag is read as a flag, and a label policy only when the text
spells one), and every other setting is `lower`'s. -/
structure Layered (c : Config) (e : OsEnvironment) (lower : Config) : Prop where
  path : c.table.path =
    match e.unicode? "TABFSM_TABLE" with
    | some v => some v
    | none => lower.table.path
  initial : c.table.initial =
    match e.unicode? "TABFSM_INITIAL" with
    | some v => some v
    | none => lower.table.initial
  wildcard : c.compile.wildcard =
    match e.unicode? "TABFSM_WILDCARD" with
    | some v => v
    | none => lower.compile.wildcard
  capitalization : c.compile.capitalization =
    match e.unicode? "TABFSM_CAPITALIZATION" with
    | some v =>
      match Capitalization.ofString? v with
      | .ok policy => policy
      | .error _ => lower.compile.capitalization
    | none => lower.compile.capitalization
  terminalSignals : c.compile.terminalSignals =
    match e.unicode? "TABFSM_TERMINAL_SIGNALS" with
    | some v => flag v
    | none => lower.compile.terminalSignals
  echoState : c.output.echoState =
    match e.unicode? "TABFSM_ECHO_STATE" with
    | some v => flag v
    | none => lower.output.echoState

/-- Why the file that `path` names gives no settings: it cannot be read as text, or its text is
no configuration. -/
def FileFault (read : FileReader Id) (path : String) (err : ConfigError) : Prop :=
  (∃ re, read.text path = .error re ∧ err = .io path re) ∨
  (∃ text ye, read.text path = .ok text ∧ ofYaml text = .error ye ∧ err = .parse path ye.text)

/-- The layer below the environment: the settings of the file that `TABFSM_CONFIG` names when
it is set to text, and the defaults when it is not. -/
def Below (e : OsEnvironment) (read : FileReader Id) (lower : Config) : Prop :=
  match e.unicode? "TABFSM_CONFIG" with
  | none => lower = {}
  | some path => ∃ text, read.text path = .ok text ∧ ofYaml text = .ok lower

/-- What laying an environment over settings gives, setting by setting. -/
theorem overrideFrom_fst (c : Config) (env : Environment) :
    (c.overrideFrom env).1 =
      { table := { path := (env.get? "TABFSM_TABLE").orElse fun _ => c.table.path,
                   initial := (env.get? "TABFSM_INITIAL").orElse fun _ => c.table.initial },
        compile := { wildcard := (env.get? "TABFSM_WILDCARD").getD c.compile.wildcard,
                     capitalization :=
                       match env.get? "TABFSM_CAPITALIZATION" with
                       | some v =>
                         match Capitalization.ofString? v with
                         | .ok policy => policy
                         | .error _ => c.compile.capitalization
                       | none => c.compile.capitalization,
                     terminalSignals :=
                       match env.get? "TABFSM_TERMINAL_SIGNALS" with
                       | some v => flag v
                       | none => c.compile.terminalSignals },
        output := { echoState :=
                      match env.get? "TABFSM_ECHO_STATE" with
                      | some v => flag v
                      | none => c.output.echoState } } := by
  simp only [overrideFrom]
  -- the label policy is read before the flag, which leaves it as it is
  cases env.get? "TABFSM_CAPITALIZATION" with
  | none => cases env.get? "TABFSM_TERMINAL_SIGNALS" <;> cases env.get? "TABFSM_ECHO_STATE" <;> rfl
  | some v =>
    dsimp only
    cases Capitalization.ofString? v <;> cases env.get? "TABFSM_TERMINAL_SIGNALS" <;>
      cases env.get? "TABFSM_ECHO_STATE" <;> rfl

/-- Laying an environment over settings replaces exactly the settings its variables give. -/
theorem overrideFrom_layered (e : OsEnvironment) (lower : Config) :
    (lower.overrideFrom e.text).1.Layered e lower := by
  rw [overrideFrom_fst]
  simp only [OsEnvironment.get?_text]
  constructor
  · cases e.unicode? "TABFSM_TABLE" <;> rfl
  · cases e.unicode? "TABFSM_INITIAL" <;> rfl
  · cases e.unicode? "TABFSM_WILDCARD" <;> rfl
  all_goals rfl

/-- Reading a configuration file: its text, read as a configuration. -/
theorem fromFile_eq (read : FileReader Id) (path : String) :
    fromFile read path =
      match read.text path with
      | .error re => .error (.io path re)
      | .ok text => (ofYaml text).mapError fun ye => .parse path ye.text := by
  simp only [fromFile]
  cases read.text path <;> rfl

theorem fromFile_eq_error_iff {read : FileReader Id} {path : String} {err : ConfigError} :
    fromFile read path = .error err ↔ FileFault read path err := by
  rw [fromFile_eq, FileFault]
  cases read.text path with
  | error re =>
    constructor
    · rintro ⟨⟩
      exact .inl ⟨re, rfl, rfl⟩
    · rintro (⟨re', hre, rfl⟩ | ⟨text, ye, htext, -⟩)
      · cases hre
        rfl
      · cases htext
  | ok text =>
    rw [mapError_eq_error_iff]
    constructor
    · rintro ⟨ye, hye, rfl⟩
      exact .inr ⟨text, ye, rfl, hye, rfl⟩
    · rintro (⟨re, hre, -⟩ | ⟨text', ye, htext, hye, rfl⟩)
      · cases hre
      · cases htext
        exact ⟨ye, hye, rfl⟩

theorem fromFile_eq_ok_iff {read : FileReader Id} {path : String} {c : Config} :
    fromFile read path = .ok c ↔ ∃ text, read.text path = .ok text ∧ ofYaml text = .ok c := by
  rw [fromFile_eq]
  cases read.text path with
  | error re =>
    constructor
    · rintro ⟨⟩
    · rintro ⟨text, htext, -⟩
      cases htext
  | ok text =>
    dsimp only
    constructor
    · intro h
      refine ⟨text, rfl, ?_⟩
      cases hy : ofYaml text with
      | error ye =>
        rw [hy] at h
        cases h
      | ok file =>
        rw [hy] at h
        cases h
        rfl
    · rintro ⟨text', htext, hy⟩
      cases htext
      rw [hy]
      rfl

/-- Loading: the lower layer, from the file when `TABFSM_CONFIG` is set to text, with the
environment laid over it. -/
theorem load_eq (e : OsEnvironment) (read : FileReader Id) :
    load e.text read =
      (fun lower : Config => lower.overrideFrom e.text) <$>
        match e.unicode? "TABFSM_CONFIG" with
        | some path => fromFile read path
        | none => .ok {} := by
  simp only [load, OsEnvironment.get?_text]
  cases e.unicode? "TABFSM_CONFIG" <;> rfl

/-- Only the configuration file can make loading fail. -/
theorem load_eq_error_iff {e : OsEnvironment} {read : FileReader Id} {err : ConfigError} :
    load e.text read = .error err ↔
      ∃ path, e.unicode? "TABFSM_CONFIG" = some path ∧ FileFault read path err := by
  rw [load_eq, map_eq_error]
  cases e.unicode? "TABFSM_CONFIG" with
  | none =>
    constructor
    · rintro ⟨⟩
    · rintro ⟨path, hpath, -⟩
      cases hpath
  | some path =>
    rw [fromFile_eq_error_iff]
    constructor
    · exact fun h => ⟨path, rfl, h⟩
    · rintro ⟨path', hpath, h⟩
      cases hpath
      exact h

/-- Loaded settings are the environment laid over the lower layer. -/
theorem load_eq_ok {e : OsEnvironment} {read : FileReader Id} {c : Config}
    {warnings : List Log.Record} (h : load e.text read = .ok (c, warnings)) :
    ∃ lower, Below e read lower ∧ lower.overrideFrom e.text = (c, warnings) := by
  rw [load_eq, map_eq_ok] at h
  obtain ⟨lower, hlower, heq⟩ := h
  refine ⟨lower, ?_, heq⟩
  unfold Below
  cases hc : e.unicode? "TABFSM_CONFIG" with
  | none =>
    rw [hc] at hlower
    cases hlower
    rfl
  | some path =>
    rw [hc] at hlower
    exact fromFile_eq_ok_iff.mp hlower

end Config

/-- **The configuration is layered.** Loading fails exactly when `TABFSM_CONFIG` is set to text
naming a file that cannot be read as UTF-8 text (an I/O error) or whose text is no configuration
(a parse error), and then with that error. Otherwise the configuration has the settings of the
environment laid over the lower layer: every setting is the environment's when its variable is
set to text, with flags read as flags and a label policy taken only when the text spells one;
else the file's when `TABFSM_CONFIG` is set to text; else the default. A variable whose value is
not UTF-8 counts as unset. -/
theorem load_layers_environment (e : OsEnvironment) (read : FileReader Id) :
    (∀ err, Config.load e.text read = .error err ↔
      ∃ path, e.unicode? "TABFSM_CONFIG" = some path ∧ Config.FileFault read path err) ∧
    (∀ c warnings, Config.load e.text read = .ok (c, warnings) →
      ∃ lower, Config.Below e read lower ∧ c.Layered e lower) := by
  refine ⟨fun err => Config.load_eq_error_iff, fun c warnings h => ?_⟩
  obtain ⟨lower, hbelow, heq⟩ := Config.load_eq_ok h
  refine ⟨lower, hbelow, ?_⟩
  rw [show c = (lower.overrideFrom e.text).1 from congrArg Prod.fst heq.symm]
  exact Config.overrideFrom_layered e lower

end TableMachine
