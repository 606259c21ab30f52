import BlockStorage.Proofs.FileLayers

/-!
The precedence of settings.

The environment chooses a file of defaults and one of settings (`IsDefaults`, `IsSettings`), which
make of every name what `filed` says, one after the other (`readNths_filed`). Then a pass over each
list of variables follows its rule name by name (`pass_ruled`), and the rule depends on nothing but
the value that the name had (`Environed`). As nobody takes a name of the loader's, none of this can
fail, and every name ends with what the layers make of its built-in value (`loadOver_layered`).
-/
namespace BlockStorage.Settings

/-! ### The rules -/

/-- Which defaults are read: those that the environment names, if it names any. -/
inductive IsDefaults (disk : String → Option File) (env : Environment) : File → Prop where
  | named {path : String} {file : File} (h : env.lookup "DEFAULTS_FILE" = some path)
      (hne : path ≠ "") (hread : Read disk path file) : IsDefaults disk env file
  | unnamed (h : ∀ path, env.lookup "DEFAULTS_FILE" = some path → path = "") :
      IsDefaults disk env []

/-- Which settings are read: those that the environment names, or else those of the usual name. -/
inductive IsSettings (disk : String → Option File) (env : Environment) : File → Prop where
  | named {path : String} {file : File} (h : env.lookup "SETTINGS_FILE" = some path)
      (hne : path ≠ "") (hread : Read disk path file) : IsSettings disk env file
  | usual {file : File} (h : ∀ path, env.lookup "SETTINGS_FILE" = some path → path = "")
      (hread : Read disk "settings.py" file) : IsSettings disk env file

/-- The value of a name after its variable was looked at for a number. -/
def counted (env : Environment) (name : String) (old : Option Value) : Option Value :=
  match nonEmpty? env name with
  | none => old
  | some s =>
    match Text.Integer.read s.toList with
    | .ok n => some (.int n)
    | .error _ => old

/-- The value of a name after its variable was looked at for a switch. -/
def switched (env : Environment) (name : String) (old : Option Value) : Option Value :=
  match env.lookup name with
  | none => old
  | some s => some (.bool (isOn s))

/-- A step of a pass over names: it makes of one name what its rule does, whatever the settings are
as long as the loader's names are free. -/
def Keeps (step : Layer → String → Except Fault Layer)
    (rule : String → Option Value → Option Value) : Prop :=
  ∀ t name, Plain t → name ∉ loaderNames → ∃ t', step t name = .ok t' ∧
    ∀ other, t'.lookup other = if other = name then rule name (t.lookup name) else t.lookup other

theorem nonEmpty?_eq_some_iff {env : Environment} {name s : String} :
    nonEmpty? env name = some s ↔ env.lookup name = some s ∧ s ≠ "" := by
  simp [nonEmpty?, Option.filter_eq_some_iff]

/-- What the two passes make of a name. -/
def environed (env : Environment) (name : String) (old : Option Value) : Option Value :=
  if name ∈ environmentSwitches then switched env name old
  else if name ∈ environmentNumbers then counted env name old
  else old

/-- The defaults that are read, if the environment names any. -/
theorem IsDefaults.nonEmpty? {disk : String → Option File} {env : Environment} {D : File}
    (h : IsDefaults disk env D) :
    (∃ path, nonEmpty? env "DEFAULTS_FILE" = some path ∧ Read disk path D) ∨
      (nonEmpty? env "DEFAULTS_FILE" = none ∧ D = []) := by
  cases h with
  | named hpath hne hread => exact .inl ⟨_, nonEmpty?_eq_some_iff.2 ⟨hpath, hne⟩, hread⟩
  | unnamed hnone =>
    refine .inr ⟨Option.eq_none_iff_forall_ne_some.2 fun path hpath => ?_, rfl⟩
    obtain ⟨hset, hne⟩ := nonEmpty?_eq_some_iff.1 hpath
    exact hne (hnone path hset)

theorem IsSettings.read {disk : String → Option File} {env : Environment} {S : File}
    (h : IsSettings disk env S) : Read disk (settingsFile env) S := by
  cases h with
  | named hpath hne hread =>
    rw [settingsFile, nonEmpty?_eq_some_iff.2 ⟨hpath, hne⟩]
    exact hread
  | usual hnone hread =>
    have hunset : nonEmpty? env "SETTINGS_FILE" = none :=
      Option.eq_none_iff_forall_ne_some.2 fun path hpath => by
        obtain ⟨hset, hne⟩ := nonEmpty?_eq_some_iff.1 hpath
        exact hne (hnone path hset)
    rw [settingsFile, hunset]
    exact hread

section Loading

variable {base : Layer} {disk : String → Option File} {D S : File} {env : Environment}

/-- What is at a name after loading: the loader's own names are set, and any other has what the
files and the environment make of it. -/
def loaded (base : Layer) (D S : File) (env : Environment) (name : String) : Option Value :=
  if name = ownName then some (.text "NODE_ADDRESS_CACHE")
  else environed env name
    ((environmentLists.reverse.lookup name).or (filed (started base env) D S name))

end Loading

/-! ### Two files -/

end BlockStorage.Settings
