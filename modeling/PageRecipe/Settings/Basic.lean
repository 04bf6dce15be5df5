import PageRecipe.Check.Classifier
import PageRecipe.Files.Path
import PageRecipe.Settings.Classes
import PageRecipe.Settings.Environment

/-!
# Settings

The settings say where pages and recipes are and what counts as an admonition or an example.
They come in layers : what a layer does not mention stays as it was. The layer of the user
replaces the classes of admonitions (`Settings.replacedBy`), the layer of a project amends them
(`Settings.amendedBy`).
-/

namespace PageRecipe

/-- A setting that is a text. -/
inductive TextSetting where
  | contentDirectory
  | recipesDirectory
  | pageFileName
  | exampleMacro
  deriving DecidableEq, Repr

namespace TextSetting

/-- The settings that are texts, in the order in which they are written. -/
def all : List TextSetting := [contentDirectory, recipesDirectory, pageFileName, exampleMacro]

/-- The key of a setting. -/
def key : TextSetting → String
  | contentDirectory => "content_dir"
  | recipesDirectory => "recipes_dir"
  | pageFileName => "document_file_name"
  | exampleMacro => "interactive_example_macro"

/-- The setting is a path. -/
def isPath : TextSetting → Bool
  | contentDirectory | recipesDirectory => true
  | pageFileName | exampleMacro => false

/-- The setting of a key. -/
def ofKey? (key : String) : Option TextSetting := all.find? (·.key == key)

theorem ofKey?_key (setting : TextSetting) : ofKey? setting.key = some setting := by
  cases setting <;> decide

end TextSetting

/-- The key of the classes of admonitions. -/
def classesKey : String := "admonition_classes"

/-- Where things are and what they are called. -/
structure Settings where
  /-- The directory of the pages, from the root of the project. -/
  contentDirectory : String
  /-- The directory of the recipes, from the root of the project. -/
  recipesDirectory : String
  /-- The file name of every page. -/
  pageFileName : String
  /-- The macro that embeds an interactive example. -/
  exampleMacro : String
  /-- The classes that mark an admonition. -/
  admonitionClasses : List String
  deriving DecidableEq, Repr

/-- What one source says about the settings. -/
structure Layer where
  contentDirectory : Option String
  recipesDirectory : Option String
  pageFileName : Option String
  exampleMacro : Option String
  admonitionClasses : Option (List String)
  deriving DecidableEq, Repr

namespace Layer

/-- The layer that says nothing. -/
def empty : Layer := ⟨none, none, none, none, none⟩

/-- What a layer says about a setting. -/
def text? (layer : Layer) : TextSetting → Option String
  | .contentDirectory => layer.contentDirectory
  | .recipesDirectory => layer.recipesDirectory
  | .pageFileName => layer.pageFileName
  | .exampleMacro => layer.exampleMacro

/-- The layer that says something else about a setting. -/
def putText (layer : Layer) (setting : TextSetting) (value : Option String) : Layer :=
  match setting with
  | .contentDirectory => { layer with contentDirectory := value }
  | .recipesDirectory => { layer with recipesDirectory := value }
  | .pageFileName => { layer with pageFileName := value }
  | .exampleMacro => { layer with exampleMacro := value }

/-- The layer that says something else about the classes of admonitions. -/
def putClasses (layer : Layer) (classes : Option (List String)) : Layer :=
  { layer with admonitionClasses := classes }

theorem text?_putText (layer : Layer) (setting other : TextSetting) (value : Option String) :
    (layer.putText setting value).text? other =
      if other = setting then value else layer.text? other := by
  cases setting <;> cases other <;> rfl

end Layer

namespace Settings

/-- The settings that hold where nothing is said. -/
def standard : Settings :=
  { contentDirectory := "content"
    recipesDirectory := "recipes"
    pageFileName := "docs.md"
    exampleMacro := "EmbedInteractiveExample"
    admonitionClasses := Classifier.defaultClasses }

/-- The value of a setting. -/
def text (settings : Settings) : TextSetting → String
  | .contentDirectory => settings.contentDirectory
  | .recipesDirectory => settings.recipesDirectory
  | .pageFileName => settings.pageFileName
  | .exampleMacro => settings.exampleMacro

/-- The settings with the texts of a layer. -/
def withTexts (settings : Settings) (layer : Layer) : Settings :=
  { settings with
    contentDirectory := layer.contentDirectory.getD settings.contentDirectory
    recipesDirectory := layer.recipesDirectory.getD settings.recipesDirectory
    pageFileName := layer.pageFileName.getD settings.pageFileName
    exampleMacro := layer.exampleMacro.getD settings.exampleMacro }

/-- The settings under a layer whose classes replace those that were there. -/
def replacedBy (settings : Settings) (layer : Layer) : Settings :=
  { settings.withTexts layer with
    admonitionClasses := layer.admonitionClasses.getD settings.admonitionClasses }

/-- The settings under a layer whose classes amend those that were there. -/
def amendedBy (settings : Settings) (layer : Layer) : Settings :=
  { settings.withTexts layer with
    admonitionClasses :=
      layer.admonitionClasses.elim settings.admonitionClasses
        (Classes.merge settings.admonitionClasses) }

/-- The settings with variables expanded in their paths. -/
def expandPaths (settings : Settings) (environment : Environment) : Settings :=
  { settings with
    contentDirectory := environment.expand settings.contentDirectory
    recipesDirectory := environment.expand settings.recipesDirectory }

/-- The classifier that goes by the settings. -/
def classifier (settings : Settings) : Classifier := ⟨settings.admonitionClasses⟩

end Settings

end PageRecipe
