import PageRecipe.Proofs.Settings.Precedence
import PageRecipe.Proofs.Toml.WrittenEntries

/-!
# Settings that were written are read back

The document of `Settings.toText` has one entry for every setting. Each of them is read as what
was written (`Toml.Document.read_entries`), and adds to the layer that is read what the settings
say (`Layer.addEntry_text`, `Layer.addEntry_classes`).

So the layer of the document mentions all settings, and other settings that it replaces become
the ones that were written (`Settings.ofText_toText`).
-/

namespace PageRecipe

namespace Settings

variable (settings : Settings)

/-! ## The entries of the document -/

/-- What the document says under the key of a setting. -/
def textEntry (setting : TextSetting) : String × Toml.Content :=
  (setting.key, .text (settings.text setting).toList)

/-- What the document says under the key of the classes of admonitions. -/
def classesEntry : String × Toml.Content :=
  (classesKey, .texts (settings.admonitionClasses.map String.toList))

/-- All that the document says. -/
def writtenEntries : List (String × Toml.Content) :=
  TextSetting.all.map settings.textEntry ++ [settings.classesEntry]

theorem toList_toText :
    settings.toText.toList = settings.writtenEntries.flatMap Toml.entryLine := by
  rw [toText, String.toList_ofList, writtenEntries, List.flatMap_append, List.flatMap_map,
    List.flatMap_singleton]
  rfl

/-- The keys are the same for all settings. -/
theorem map_writtenEntries :
    settings.writtenEntries.map (·.1) = TextSetting.all.map TextSetting.key ++ [classesKey] := by
  rw [writtenEntries, List.map_append, List.map_map]
  rfl

theorem isPlainKey_writtenEntries : ∀ entry ∈ settings.writtenEntries, Toml.IsPlainKey entry.1 := by
  have hkeys : ∀ key ∈ TextSetting.all.map TextSetting.key ++ [classesKey],
      Toml.IsPlainKey key := by
    decide
  intro entry hentry
  exact hkeys entry.1 (settings.map_writtenEntries ▸ List.mem_map_of_mem hentry)

theorem nodup_writtenEntries : (settings.writtenEntries.map (·.1)).Nodup := by
  rw [map_writtenEntries]
  decide

end Settings

/-! ## What the entries add to a layer -/

/-- A text that was read is the text that was written. -/
theorem expectText_of_isReadAs {text : String} {item : Toml.Item}
    (h : Toml.Content.IsReadAs (.text text.toList) item) (key : Toml.Key) (expected : String) :
    item.expectText key expected = .ok text := by
  cases h with
  | text s span => exact congrArg Except.ok String.ofList_toList

theorem mapM_expectText_of_isReadAs {texts : List String} {items : List Toml.Item}
    (h : List.Forall₂ (fun s => Toml.Content.IsReadAs (.text s)) (texts.map String.toList) items)
    (key : Toml.Key) (expected : String) :
    (items.mapM fun item => item.expectText key expected) = .ok texts := by
  rw [List.forall₂_map_left_iff] at h
  induction h with
  | nil => rfl
  | cons hitem _ ih =>
    rw [List.mapM_cons, ih, expectText_of_isReadAs hitem]
    rfl

namespace Layer

variable (layer : Layer) {settings : Settings} {entry : Toml.Key × Toml.Item}

theorem addEntry_text {setting : TextSetting}
    (h : Toml.IsEntryOf (settings.textEntry setting) entry) :
    layer.addEntry entry.1 entry.2 =
      .ok (layer.putText setting (some (settings.text setting))) := by
  have hname : entry.1.name = setting.key := h.1
  rw [addEntry, hname, TextSetting.ofKey?_key]
  exact congrArg (Except.map _) (expectText_of_isReadAs h.2 _ _)

theorem addEntry_classes (h : Toml.IsEntryOf settings.classesEntry entry) :
    layer.addEntry entry.1 entry.2 = .ok (layer.putClasses (some settings.admonitionClasses)) := by
  have hname : entry.1.name = classesKey := h.1
  have hnone : TextSetting.ofKey? classesKey = none := by decide
  have htexts : entry.2.expectTexts entry.1 = .ok settings.admonitionClasses := by
    obtain ⟨key, item⟩ := entry
    obtain ⟨-, hitem⟩ := h
    rw [Settings.classesEntry] at hitem
    cases hitem with
    | texts span hitems => exact mapM_expectText_of_isReadAs hitems key _
  rw [addEntry, hname, hnone, htexts]
  exact if_pos rfl

/-- The entries of some settings and of the classes add what the settings say. -/
theorem foldlM_addEntry (texts : List TextSetting) {entries : Toml.Entries}
    (h : List.Forall₂ Toml.IsEntryOf
      (texts.map settings.textEntry ++ [settings.classesEntry]) entries) :
    entries.foldlM (fun layer entry => layer.addEntry entry.1 entry.2) layer =
      .ok ((texts.foldl (fun layer setting =>
        layer.putText setting (some (settings.text setting))) layer).putClasses
          (some settings.admonitionClasses)) := by
  induction texts generalizing layer entries with
  | nil =>
    cases h with
    | cons hclasses hnone =>
      cases hnone
      rw [List.foldlM_cons, addEntry_classes layer hclasses]
      rfl
  | cons setting texts ih =>
    cases h with
    | cons hsetting hrest =>
      rw [List.foldlM_cons, addEntry_text layer hsetting]
      exact ih _ hrest

end Layer

namespace Settings

/-- The settings of a document that was written for settings are all there, and replace any
others by the settings that were written. -/
theorem ofText_toText (settings : Settings) :
    ∃ layer, Layer.ofText settings.toText = .ok layer ∧
      (∀ setting, layer.text? setting = some (settings.text setting)) ∧
      layer.admonitionClasses = some settings.admonitionClasses ∧
      ∀ base : Settings, base.replacedBy layer = settings := by
  obtain ⟨entries, hentries, hread⟩ :=
    Toml.Document.read_entries settings.isPlainKey_writtenEntries settings.nodup_writtenEntries
  have hfold := Layer.empty.foldlM_addEntry TextSetting.all hentries
  refine ⟨⟨settings.contentDirectory, settings.recipesDirectory, settings.pageFileName,
    settings.exampleMacro, settings.admonitionClasses⟩, ?_, ?_, rfl, fun base => rfl⟩
  · rw [Layer.ofText, toList_toText, Toml.readEntries, hread]
    exact congrArg (Except.mapError _) hfold
  · rintro (_ | _ | _ | _) <;> rfl

end Settings

end PageRecipe
