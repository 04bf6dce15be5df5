import PageRecipe.Settings.Basic
import PageRecipe.Toml.Kind
import PageRecipe.Toml.Layout

/-!
# Settings as a TOML document

A document may mention any of the settings, and what else it holds is not looked at
(`Layer.ofText`). `Settings.toText` writes a document that mentions all of them.
-/

namespace PageRecipe

/-! ## Reading -/

/-- What is expected under the key of a setting. -/
def TextSetting.expectation (setting : TextSetting) : String :=
  if setting.isPath then "path string" else "a string"

namespace Layer

/-- The layer with what an entry says. -/
def addEntry (layer : Layer) (key : Toml.Key) (item : Toml.Item) : Except Toml.Misfit Layer :=
  match TextSetting.ofKey? key.name with
  | some setting =>
    (item.expectText key setting.expectation).map fun text => layer.putText setting (some text)
  | none =>
    if key.name = classesKey then
      (item.expectTexts key).map fun classes => layer.putClasses (some classes)
    else .ok layer

/-- The layer that the entries of a document make. -/
def ofEntries (entries : Toml.Entries) : Except Toml.Misfit Layer :=
  entries.foldlM (fun layer entry => layer.addEntry entry.1 entry.2) empty

/-- The layer that a document writes, or what is wrong with it. -/
def ofText (text : String) : Except String Layer :=
  let source := text.toList
  (Toml.readEntries source).bind fun entries =>
    (ofEntries entries).mapError (Toml.Misfit.explainIn source)

end Layer

/-! ## Writing -/

namespace Settings

/-- The line of a setting that is a text. -/
def textLine (settings : Settings) (setting : TextSetting) : List Char :=
  Toml.writeEntry setting.key (Toml.write (settings.text setting).toList)

/-- The lines of the classes of admonitions. -/
def classesLines (settings : Settings) : List Char :=
  Toml.writeEntry classesKey (Toml.writeTexts (settings.admonitionClasses.map String.toList))

/-- The document that mentions all settings. -/
def toText (settings : Settings) : String :=
  String.ofList (TextSetting.all.flatMap settings.textLine ++ settings.classesLines)

end Settings

end PageRecipe
