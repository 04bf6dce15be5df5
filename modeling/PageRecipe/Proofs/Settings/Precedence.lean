import PageRecipe.Proofs.Failing
import PageRecipe.Settings.Loading

/-!
# The precedence of settings

`Settings.load` reads two files, lays what they say over the standard settings, and what the
environment says over that. Here the files answer without effects, so they are one state of a
file system, and `Layer.IsReadFrom` says what a file contributes.

`load_eq_ok_iff` says what comes out (`Settings.IsLayered`). A text is that of the environment
if there is one, else that of the project, else that of the user, else the standard one ; a path
is then expanded, once. The classes of admonitions are those of the environment as they stand,
else those of the user or the standard ones, which the project may amend.
-/

namespace PageRecipe

variable {files : FileSystem Id}

/-! ## Files -/

namespace Layer

/-- What a file says. A file that is not there says nothing, and neither does one without a
path. -/
inductive IsReadFrom (files : FileSystem Id) : Option FilePath → Layer → Prop where
  | noPath : IsReadFrom files none .empty
  | absent {path : FilePath} (hpresent : files.isPresent path = false) :
      IsReadFrom files (some path) .empty
  | written {path : FilePath} {text : String} {layer : Layer}
      (hpresent : files.isPresent path = true) (hread : files.read path = .ok text)
      (htext : Layer.ofText text = .ok layer) : IsReadFrom files (some path) layer

theorem run_ofFile_of_absent {path : FilePath} (hpresent : files.isPresent path = false) :
    (ofFile files path).run = .ok .empty := by
  rw [ofFile, hpresent]
  rfl

theorem run_ofFile_of_unreadable {path : FilePath} {error : ReadError}
    (hpresent : files.isPresent path = true) (hread : files.read path = .error error) :
    (ofFile files path).run = .error (.unreadable path error) := by
  rw [ofFile, hpresent, hread]
  rfl

/-- A file that can be read says what its text says. -/
theorem run_ofFile_of_read {path : FilePath} {text : String}
    (hpresent : files.isPresent path = true) (hread : files.read path = .ok text) :
    (ofFile files path).run = (ofText text).mapError (.malformed path) := by
  rw [ofFile]
  refine (run_bind_ok (congrArg Except.ok hpresent) _).trans ?_
  rw [if_pos rfl]
  refine (run_bind_ok (congrArg Except.ok hread) _).trans ?_
  dsimp only
  cases ofText text with
  | error reason => rfl
  | ok layer => rfl

theorem run_ofFile?_eq_ok_iff {path : Option FilePath} {layer : Layer} :
    (ofFile? files path).run = .ok layer ↔ IsReadFrom files path layer := by
  constructor
  · intro hrun
    cases path with
    | none =>
      obtain rfl := Except.ok.inj hrun
      exact .noPath
    | some path =>
      rw [ofFile?] at hrun
      cases hpresent : files.isPresent path with
      | false =>
        obtain rfl := Except.ok.inj ((run_ofFile_of_absent hpresent).symm.trans hrun)
        exact .absent hpresent
      | true =>
        cases hread : files.read path with
        | error error => cases (run_ofFile_of_unreadable hpresent hread).symm.trans hrun
        | ok text =>
          rw [run_ofFile_of_read hpresent hread, mapError_eq_ok_iff] at hrun
          exact .written hpresent hread hrun
  · intro hread
    cases hread with
    | noPath => rfl
    | absent hpresent => exact run_ofFile_of_absent hpresent
    | written hpresent hread htext =>
      rw [ofFile?, run_ofFile_of_read hpresent hread, htext]
      rfl

end Layer

namespace Settings

/-- Settings are loaded when both files can be read. -/
theorem run_load_eq_ok_iff {environment : Environment} {root : Option FilePath}
    {settings : Settings} : (load files environment root).run = .ok settings ↔
      ∃ user project, Layer.IsReadFrom files environment.settingsFile? user ∧
        Layer.IsReadFrom files (root.map FilePath.settingsFile) project ∧
        settings = ofLayers environment user project := by
  simp only [load, run_bind_eq_ok_iff, Layer.run_ofFile?_eq_ok_iff]
  constructor
  · rintro ⟨user, huser, project, hproject, hrun⟩
    exact ⟨user, project, huser, hproject, (Except.ok.inj hrun).symm⟩
  · rintro ⟨user, project, huser, hproject, rfl⟩
    exact ⟨user, huser, project, hproject, rfl⟩

/-! ## Layers -/

theorem text_replacedBy (settings : Settings) (layer : Layer) (setting : TextSetting) :
    (settings.replacedBy layer).text setting =
      (layer.text? setting).getD (settings.text setting) := by
  cases setting <;> rfl

theorem text_amendedBy (settings : Settings) (layer : Layer) (setting : TextSetting) :
    (settings.amendedBy layer).text setting =
      (layer.text? setting).getD (settings.text setting) := by
  cases setting <;> rfl

/-- Expansion is for paths only. -/
theorem text_expandPaths (settings : Settings) (environment : Environment)
    (setting : TextSetting) : (settings.expandPaths environment).text setting =
      if setting.isPath then environment.expand (settings.text setting)
      else settings.text setting := by
  cases setting <;> rfl

/-- Settings are determined by their texts and the classes of admonitions. -/
theorem ext_of_text {a b : Settings} (htext : ∀ setting, a.text setting = b.text setting)
    (hclasses : a.admonitionClasses = b.admonitionClasses) : a = b := by
  have hcontent := htext .contentDirectory
  have hrecipes := htext .recipesDirectory
  have hpage := htext .pageFileName
  have hmacro := htext .exampleMacro
  cases a
  cases b
  simp_all [text]

/-- The text of a setting before it is expanded : what the layer of highest precedence says that
says anything, or the standard text. -/
def layeredText (fromEnvironment project user : Layer) (setting : TextSetting) : String :=
  match fromEnvironment.text? setting, project.text? setting, user.text? setting with
  | some text, _, _ => text
  | none, some text, _ => text
  | none, none, some text => text
  | none, none, none => standard.text setting

/-- The classes that the project amends : those of the user as they are written, or the standard
ones. -/
def baseClasses (user : Layer) : List String :=
  match user.admonitionClasses with
  | some classes => classes
  | none => standard.admonitionClasses

/-- The settings that come from what the environment, the project and the user say. -/
structure IsLayered (environment : Environment) (user project : Layer) (settings : Settings) :
    Prop where
  path : ∀ setting, setting.isPath = true → settings.text setting =
    environment.expand (layeredText (.ofEnvironment environment) project user setting)
  text : ∀ setting, setting.isPath = false → settings.text setting =
    layeredText (.ofEnvironment environment) project user setting
  classes : settings.admonitionClasses =
    match (Layer.ofEnvironment environment).admonitionClasses, project.admonitionClasses with
    | some classes, _ => classes
    | none, some amendments => Classes.merge (baseClasses user) amendments
    | none, none => baseClasses user

theorem text_ofLayers (environment : Environment) (user project : Layer) (setting : TextSetting) :
    (ofLayers environment user project).text setting =
      if setting.isPath then
        environment.expand (layeredText (.ofEnvironment environment) project user setting)
      else layeredText (.ofEnvironment environment) project user setting := by
  have hlayered : layeredText (.ofEnvironment environment) project user setting =
      ((Layer.ofEnvironment environment).text? setting).getD ((project.text? setting).getD
        ((user.text? setting).getD (standard.text setting))) := by
    rw [layeredText]
    cases (Layer.ofEnvironment environment).text? setting <;> cases project.text? setting <;>
      cases user.text? setting <;> rfl
  rw [ofLayers, text_expandPaths, text_replacedBy, text_amendedBy, text_replacedBy, hlayered]

theorem admonitionClasses_ofLayers (environment : Environment) (user project : Layer) :
    (ofLayers environment user project).admonitionClasses =
      match (Layer.ofEnvironment environment).admonitionClasses, project.admonitionClasses with
      | some classes, _ => classes
      | none, some amendments => Classes.merge (baseClasses user) amendments
      | none, none => baseClasses user := by
  simp only [ofLayers, expandPaths, replacedBy, amendedBy, baseClasses]
  cases (Layer.ofEnvironment environment).admonitionClasses <;> cases project.admonitionClasses <;>
    cases user.admonitionClasses <;> rfl

/-- The layers determine the settings. -/
theorem isLayered_iff {environment : Environment} {user project : Layer} {settings : Settings} :
    IsLayered environment user project settings ↔
      settings = ofLayers environment user project := by
  constructor
  · rintro ⟨hpath, htext, hclasses⟩
    refine ext_of_text (fun setting => ?_)
      (hclasses.trans (admonitionClasses_ofLayers environment user project).symm)
    rw [text_ofLayers]
    cases hsetting : setting.isPath with
    | true => simpa using hpath setting hsetting
    | false => simpa using htext setting hsetting
  · rintro rfl
    refine ⟨fun setting h => ?_, fun setting h => ?_, admonitionClasses_ofLayers _ _ _⟩ <;>
      simp [text_ofLayers, h]

end Settings

end PageRecipe
