import Fieldbus.Proofs.SettingsRoundTrip

/-!
# Creating a configuration file loses no file

Creation refuses a path where something is, unless it is forced. Otherwise it makes directories and
writes one file, so every other file keeps its content, whether it succeeds or fails. Once it has
succeeded the file holds the defaults, whatever was there before, and the path is refused the next
time.
-/

namespace Fieldbus.Command

/-- Everything that the creation of a configuration file can do. -/
lemma initConfig_cases (path : String) (force : Bool) (files : Files) :
    (files.has path = true ∧ force = false ∧
      initConfig (some path) force files = ⟨.error (Cause.fileExists path), [], files⟩) ∨
    (∃ fault new, files.Grows new ∧
      initConfig (some path) force files = ⟨.error (Cause.config fault), [], new⟩) ∨
    ∃ grown new target, files.Grows grown ∧
      Files.Stores target (Utf8.encode Settings.default.toToml.toList) grown new ∧
      new.locate path = .ok target ∧
      initConfig (some path) force files = ⟨.ok ("wrote " ++ path), [], new⟩ := by
  unfold initConfig
  dsimp only
  by_cases hrefused : (files.has path && !force) = true
  · obtain ⟨hhas, hforce⟩ := Bool.and_eq_true_iff.mp hrefused
    rw [if_pos hrefused]
    exact .inl ⟨hhas, by simpa using hforce, rfl⟩
  · rw [if_neg hrefused]
    cases hsave : Config.save .default files path with
    | mk result new =>
      obtain ⟨fault, rfl, hgrows⟩ | ⟨grown, target, rfl, hgrows, hstores, htarget⟩ :=
        Config.save_cases hsave
      · exact .inr (.inl ⟨fault, new, hgrows, rfl⟩)
      · exact .inr (.inr ⟨grown, new, target, hgrows, hstores, htarget, rfl⟩)

lemma initConfig_of_has {path : String} {files : Files} (h : files.has path = true) :
    initConfig (some path) false files = ⟨.error (Cause.fileExists path), [], files⟩ := by
  rw [initConfig, h]
  rfl

/-- Creating the configuration file at a path. Where something is, it is refused without force, and
nothing changes. If it fails, every file but the one that the path leads to keeps its content. If it
succeeds, the path leads to a file from which the defaults are loaded; every file at another place
keeps its content and is still read by its paths; and creating it once more without force is refused
and changes nothing. -/
theorem configInit_loses_no_file {context : Context} {path : String}
    (hpath : context.path = some path) (force : Bool) (files : Files) :
    let outcome := (configInit force).run context files
    let again := (configInit false).run context outcome.files
    (files.has path = true → force = false →
      outcome.result = .error (Cause.fileExists path) ∧ outcome.files = files) ∧
    (∀ failure, outcome.result = .error failure →
      ∀ place content, outcome.files.locate path ≠ .ok place →
        files.root.get? place = some (.file content) →
        outcome.files.root.get? place = some (.file content)) ∧
    ∀ output, outcome.result = .ok output →
      Config.load outcome.files path = .ok .default ∧
      (∃ target, outcome.files.locate path = .ok target ∧
        (∀ place content, place ≠ target → files.root.get? place = some (.file content) →
          outcome.files.root.get? place = some (.file content)) ∧
        ∀ other content, outcome.files.locate other ≠ .ok target →
          files.read other = .ok content → outcome.files.read other = .ok content) ∧
      again.result = .error (Cause.fileExists path) ∧ again.files = outcome.files := by
  have hrun (force : Bool) (files : Files) :
      (configInit force).run context files = initConfig (some path) force files := by
    rw [run, hpath]
  simp only [hrun]
  constructor
  · intro hhas hforce
    rw [hforce, initConfig_of_has hhas]
    exact ⟨rfl, rfl⟩
  obtain ⟨_, _, h⟩ | ⟨fault, new, hgrows, h⟩ | ⟨grown, new, target, hgrows, hstores, htarget, h⟩ :=
    initConfig_cases path force files
  · rw [h]
    exact ⟨fun _ _ _ _ _ hfile => hfile, nofun⟩
  · rw [h]
    exact ⟨fun _ _ _ _ _ hfile => hgrows.file hfile, nofun⟩
  · have hfile := Node.at?_eq_some_some.mp hstores.stored
    have hhas : new.has path = true := by
      rw [Files.has, Files.node_of_locate htarget hfile]
      rfl
    rw [h]
    dsimp only
    rw [initConfig_of_has hhas]
    refine ⟨nofun, fun _ _ => ⟨?_, ⟨target, htarget, ?_, ?_⟩, rfl, rfl⟩⟩
    · exact Config.load_of_read (Config.parse_toToml .default)
        (Files.read_eq_ok_iff.mpr ⟨target, htarget, hfile⟩)
    · intro place content hne hold
      exact hstores.file hne (hgrows.file hold)
    · intro other content hother hread
      obtain ⟨place, hplace, hold⟩ := Files.read_eq_ok_iff.mp hread
      -- Directories stay directories, so the other path leads where it led.
      have hnew := hstores.passable.locate (hgrows.passable.locate hplace)
      have hne : place ≠ target := fun heq => hother (heq ▸ hnew)
      exact Files.read_eq_ok_iff.mpr ⟨place, hnew, hstores.file hne (hgrows.file hold)⟩

/-- A file that is no document is replaced by force only, and the one beside it stays. -/
theorem configInit_loses_no_file_malformed :
    let context : Context := ⟨.default, some "conf/tool.toml"⟩
    let files : Files := ⟨.directory [("conf", .directory
      [("tool.toml", .file (Utf8.encode "level = [".toList)), ("notes", .file [1, 2, 3])])], []⟩
    let outcome := (configInit true).run context files
    Config.load files "conf/tool.toml" = .error (.parse .malformed) ∧
      ((configInit false).run context files).result = .error (Cause.fileExists "conf/tool.toml") ∧
      outcome.result = .ok "wrote conf/tool.toml" ∧
      Config.load outcome.files "conf/tool.toml" = .ok .default ∧
      outcome.files.root.get? ["conf", "notes"] = some (.file [1, 2, 3]) := by
  intro context files outcome
  have hpath : context.path = some "conf/tool.toml" := rfl
  have hresult : outcome.result = .ok "wrote conf/tool.toml" := rfl
  have hlocate : outcome.files.locate "conf/tool.toml" = .ok ["conf", "tool.toml"] := rfl
  obtain ⟨hrefused, _⟩ := configInit_loses_no_file hpath false files
  obtain ⟨_, _, hdone⟩ := configInit_loses_no_file hpath true files
  obtain ⟨hload, ⟨target, htarget, hkept, _⟩, _⟩ := hdone _ hresult
  have hne : ["conf", "notes"] ≠ target := by
    obtain rfl := Except.ok.inj (hlocate.symm.trans htarget)
    decide
  exact ⟨by decide, (hrefused rfl rfl).1, hresult, hload, hkept _ _ hne rfl⟩

end Fieldbus.Command
