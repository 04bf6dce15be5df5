import PageRecipe.Proofs.Files.PathParts
import PageRecipe.Proofs.Project.PageFindings

/-!
# Where a project looks things up

A check of a page asks the file system about the page, about the file of the recipe that the
page names, and about the file that the recipe relates to. Which paths these are depends on
texts that a page and a recipe write.

`FileSystem.recorded` gives the same answers as another file system and keeps the paths that it
is asked about, and `Asks` says what a step answers and which paths it asks about. There is one
statement of this form for each step of a check (`asks_checkPage`), so recording changes no
answer and no other path is looked up.

`lookups_isBelow_iff` says where the paths lead. A relative text stays below the directory that
it is taken from, and an absolute one only if it leads there by itself.
-/

namespace PageRecipe

/-! ## Recording questions -/

/-- Steps that keep the paths they ask about. -/
abbrev Recording := StateM (List FilePath)

/-- A step gives an answer and asks about paths on its way, whatever was asked before. -/
def Asks {α : Type} (x : Recording α) (answer : α) (paths : List FilePath) : Prop :=
  ∀ asked, x.run asked = (answer, asked ++ paths)

/-- The paths that a step asks about. -/
def lookups {α : Type} (x : Recording α) : List FilePath := (x.run []).2

section Steps

variable {α β ε : Type} {a : α} {b : β} {e : ε} {p q : List FilePath}

theorem Asks.lookups_eq {x : Recording α} (hx : Asks x a p) : lookups x = p := by
  rw [lookups, hx []]
  rfl

theorem asks_pure (a : α) : Asks (pure a) a [] := fun asked => by
  rw [List.append_nil]
  rfl

theorem Asks.bind {x : Recording α} {f : α → Recording β} (hx : Asks x a p)
    (hf : Asks (f a) b q) : Asks (x >>= f) b (p ++ q) := by
  intro asked
  rw [StateT.run_bind, hx asked, ← List.append_assoc]
  exact hf (asked ++ p)

theorem Asks.bind_ok {x : ExceptT ε Recording α} {f : α → ExceptT ε Recording β}
    {result : Except ε β} (hx : Asks x.run (.ok a) p) (hf : Asks (f a).run result q) :
    Asks (x >>= f).run result (p ++ q) := by
  rw [ExceptT.run_bind]
  exact hx.bind hf

/-- What stands behind a failure is not asked. -/
theorem Asks.bind_error {x : ExceptT ε Recording α} (hx : Asks x.run (.error e) p)
    (f : α → ExceptT ε Recording β) : Asks (x >>= f).run (.error e) p := by
  rw [ExceptT.run_bind, ← List.append_nil p]
  exact hx.bind (asks_pure _)

theorem Asks.lift {x : Recording α} (hx : Asks x a p) :
    Asks (ExceptT.lift x : ExceptT ε Recording α).run (.ok a) p := fun asked => by
  rw [ExceptT.run_lift, StateT.run_map, hx asked]
  rfl

end Steps

/-- A file system that gives the same answers and keeps the paths that it is asked about. -/
def FileSystem.recorded (files : FileSystem Id) : FileSystem Recording where
  read path := fun asked => (files.read path, asked ++ [path])
  isPresent path := fun asked => (files.isPresent path, asked ++ [path])
  isFile path := fun asked => (files.isFile path, asked ++ [path])
  isDirectory path := fun asked => (files.isDirectory path, asked ++ [path])
  filesBelow path := fun asked => (files.filesBelow path, asked ++ [path])

namespace Project

/-- The project with files that keep the paths which they are asked about. -/
def recorded (project : Project Id) : Project Recording :=
  ⟨project.files.recorded, project.settings, project.root⟩

variable (project : Project Id) (registry : Registry)

/-! ## The steps of a check -/

theorem asks_read (action : String) (path : FilePath) :
    Asks (project.recorded.read action path).run (project.read action path).run [path] := by
  have hread : Asks (project.recorded.files.read path) (project.files.read path) [path] :=
    fun asked => rfl
  rw [Project.read, Project.read]
  cases h : project.files.read path with
  | error error =>
    rw [h] at hread
    exact hread.lift.bind_ok (asks_pure _)
  | ok text =>
    rw [h] at hread
    exact hread.lift.bind_ok (asks_pure _)

/-- The paths that loading a recipe asks about. The text of the file is asked for only if it is
one. -/
def recipeLookups (name : String) : List FilePath :=
  match project.files.isFile (project.recipeFile name) with
  | true => [project.recipeFile name, project.recipeFile name]
  | false => [project.recipeFile name]

theorem asks_loadRecipe (name : String) :
    Asks (project.recorded.loadRecipe name).run (project.loadRecipe name).run
      (project.recipeLookups name) := by
  have hisFile : Asks (project.recorded.files.isFile (project.recipeFile name))
      (project.files.isFile (project.recipeFile name)) [project.recipeFile name] := fun _ => rfl
  rw [recipeLookups]
  cases hfile : project.files.isFile (project.recipeFile name) with
  | false =>
    rw [hfile] at hisFile
    rw [run_loadRecipe_of_noFile hfile]
    exact hisFile.lift.bind_ok (asks_pure _)
  | true =>
    rw [hfile] at hisFile
    have hasks := project.asks_read "read recipe" (project.recipeFile name)
    cases hread : project.files.read (project.recipeFile name) with
    | error error =>
      rw [run_read_error hread] at hasks
      rw [run_loadRecipe_of_unreadable hfile hread]
      exact hisFile.lift.bind_ok (hasks.bind_error _)
    | ok text =>
      rw [run_read_ok hread] at hasks
      rw [run_loadRecipe hfile hread, ← List.append_nil [_, _]]
      refine hisFile.lift.bind_ok (hasks.bind_ok ?_)
      cases Recipe.ofText text <;> exact asks_pure _

theorem asks_checkRelated (page : Page) (recipe : Recipe) (report : Report) :
    Asks (project.recorded.checkRelated page recipe report)
      (project.checkRelated page recipe report) [project.relatedFile recipe] := fun _ => rfl

/-- The paths that checking the recipe of a page asks about. -/
def pageLookups (page : Page) : List FilePath :=
  match page.recipeName? with
  | none => []
  | some name =>
    project.recipeLookups name ++
      match (project.loadRecipe name).run with
      | .ok recipe => [project.relatedFile recipe]
      | .error _ => []

theorem asks_checkRecipe (page : Page) (report : Report) :
    Asks (project.recorded.checkRecipe registry page report).run
      (project.checkRecipe registry page report).run (project.pageLookups page) := by
  rw [checkRecipe, checkRecipe, pageLookups]
  cases page.recipeName? with
  | none => exact asks_pure _
  | some name =>
    have hload := (project.asks_loadRecipe name).lift (ε := ProjectError)
    cases h : (project.loadRecipe name).run with
    | ok recipe =>
      rw [h] at hload
      simp only [h]
      refine hload.bind_ok ?_
      exact (project.asks_checkRelated page recipe report).lift.bind_ok (asks_pure _)
    | error error =>
      rw [h] at hload
      simp only [h]
      refine hload.bind_ok ?_
      cases error <;> exact asks_pure _

/-- The paths that checking the page in a file asks about. -/
def fileLookups (file : FilePath) : List FilePath :=
  [file] ++
    match project.files.read file with
    | .ok content => project.pageLookups (Page.ofText content).1
    | .error _ => []

theorem asks_checkPage (file : FilePath) :
    Asks (project.recorded.checkPage registry file).run (project.checkPage registry file).run
      (project.fileLookups file) := by
  have hasks := project.asks_read "read document" file
  rw [fileLookups]
  cases hread : project.files.read file with
  | error cause =>
    rw [run_read_error hread] at hasks
    rw [run_checkPage_of_error hread]
    exact hasks.bind_error _
  | ok content =>
    rw [run_read_ok hread] at hasks
    obtain ⟨page, front, hpage⟩ := Page.exists_reads content
    obtain ⟨rest, hrest⟩ := exists_finds project registry page
    obtain ⟨error, htext, hfront⟩ := hpage.ofText_eq
    have hrecipe := project.asks_checkRecipe registry page (reportFrontMatter page error .empty)
    rw [run_checkRecipe hrest, hfront, Report.extend_extend] at hrecipe
    rw [run_checkPage_of_ok hread hpage hrest]
    refine hasks.bind_ok ?_
    simp only [htext]
    rw [hfront, ← List.append_nil (project.pageLookups page)]
    exact hrecipe.bind_ok (asks_pure _)

/-! ## Where the paths lead -/

variable {project registry}

/-- Loading a recipe asks about one file, once or twice. -/
theorem mem_lookups_loadRecipe {name : String} {path : FilePath} :
    path ∈ lookups (project.recorded.loadRecipe name).run ↔ path = project.recipeFile name := by
  rw [(project.asks_loadRecipe name).lookups_eq, recipeLookups]
  split <;> simp

theorem mem_pageLookups {page : Page} {path : FilePath} :
    path ∈ project.pageLookups page ↔ ∃ name, Names page name ∧
      (path ∈ lookups (project.recorded.loadRecipe name).run ∨
        ∃ recipe, (project.loadRecipe name).run = .ok recipe ∧
          path = project.relatedFile recipe) := by
  simp only [← recipeName?_eq_some_iff, pageLookups, (project.asks_loadRecipe _).lookups_eq]
  cases page.recipeName? with
  | none => simp
  | some name =>
    simp only [List.mem_append, Option.some.injEq, exists_eq_left']
    refine or_congr Iff.rfl ?_
    cases (project.loadRecipe name).run with
    | ok recipe =>
      refine List.mem_singleton.trans ⟨fun h => ⟨recipe, rfl, h⟩, ?_⟩
      rintro ⟨other, hother, h⟩
      rwa [Except.ok.inj hother]
    | error error =>
      refine ⟨fun h => absurd h List.not_mem_nil, ?_⟩
      rintro ⟨recipe, h, -⟩
      cases h

theorem isAbsolute_append {name : String} :
    FilePath.isAbsolute ⟨name ++ ".yaml"⟩ = FilePath.isAbsolute ⟨name⟩ := by
  simp only [FilePath.isAbsolute, String.toList_append]
  cases name.toList <;> rfl

/-- The file of a recipe stands below the directory of the recipes, and what a recipe relates to
below the root of the project, unless the text they are named by is an absolute path that leads
elsewhere. A check of a page looks up nothing else than the page and these files. -/
theorem lookups_isBelow_iff (project : Project Id) :
    (∀ name path, path ∈ lookups (project.recorded.loadRecipe name).run →
      ((project.root.join ⟨project.settings.recipesDirectory⟩).parts <+: path.parts ↔
        FilePath.isAbsolute ⟨name⟩ = false ∨
        (project.root.join ⟨project.settings.recipesDirectory⟩).parts <+:
          FilePath.parts ⟨name ++ ".yaml"⟩)) ∧
    (∀ page recipe report path,
      path ∈ lookups (project.recorded.checkRelated page recipe report) →
      (project.root.parts <+: path.parts ↔
        FilePath.isAbsolute ⟨recipe.relatedContent⟩ = false ∨
        project.root.parts <+: FilePath.parts ⟨recipe.relatedContent⟩)) ∧
    ∀ registry file path, path ∈ lookups (project.recorded.checkPage registry file).run ↔
      path = file ∨ ∃ content name, project.files.read file = .ok content ∧
        Names (Page.ofText content).1 name ∧
        (path ∈ lookups (project.recorded.loadRecipe name).run ∨
          ∃ recipe, (project.loadRecipe name).run = .ok recipe ∧
            path = project.root.join ⟨recipe.relatedContent⟩) := by
  refine ⟨fun name path hpath => ?_, fun page recipe report path hpath => ?_,
    fun registry file path => ?_⟩
  · rw [mem_lookups_loadRecipe.mp hpath, recipeFile, recipesDirectory,
      FilePath.parts_isPrefix_join_iff, isAbsolute_append]
  · rw [(project.asks_checkRelated page recipe report).lookups_eq, List.mem_singleton] at hpath
    rw [hpath, relatedFile, FilePath.parts_isPrefix_join_iff]
  · rw [(project.asks_checkPage registry file).lookups_eq, fileLookups, List.mem_append,
      List.mem_singleton]
    refine or_congr Iff.rfl ?_
    cases hread : project.files.read file with
    | error cause =>
      refine ⟨fun h => absurd h List.not_mem_nil, ?_⟩
      rintro ⟨content, name, h, -⟩
      cases h
    | ok content =>
      rw [mem_pageLookups]
      constructor
      · rintro ⟨name, h⟩
        exact ⟨content, name, rfl, h⟩
      · rintro ⟨other, name, hother, h⟩
        rw [Except.ok.inj hother]
        exact ⟨name, h⟩

/-- Files with texts, in places of a file system that holds nothing else. -/
def filesWithTexts (texts : List (FilePath × String)) : FileSystem Id where
  read path := (texts.lookup path).elim (.error .notFound) .ok
  isPresent path := (texts.lookup path).isSome
  isFile path := (texts.lookup path).isSome
  isDirectory _ := false
  filesBelow _ := []

/-- A project in the directory `site`, with a recipe whose related content is given from the root
of the project by a path that starts with a slash. -/
def slashedProject : Project Id where
  files := filesWithTexts [
    (⟨"site/content/docs.md"⟩, "---\nrecipe: r\n---\n"),
    (⟨"site/recipes/r.yaml"⟩, "related_content: /related/js.yaml\n"),
    (⟨"site/related/js.yaml"⟩, "")]
  settings := .standard
  root := ⟨"site"⟩

/-- The recipe is looked for below the directory of the recipes. What it relates to is looked for
too, but not below the root of the project. -/
theorem lookups_slashedProject :
    (⟨"site/recipes/r.yaml"⟩ ∈ lookups (slashedProject.recorded.loadRecipe "r").run ∧
      FilePath.parts ⟨"site/recipes"⟩ <+: FilePath.parts ⟨"site/recipes/r.yaml"⟩) ∧
    ⟨"/related/js.yaml"⟩ ∈
        lookups (slashedProject.recorded.checkPage .builtin ⟨"site/content/docs.md"⟩).run ∧
      ¬FilePath.parts ⟨"site"⟩ <+: FilePath.parts ⟨"/related/js.yaml"⟩ := by
  obtain ⟨hrecipes, hrelated, hpage⟩ := lookups_isBelow_iff slashedProject
  have hname : Names (Page.ofText "---\nrecipe: r\n---\n").1 "r" :=
    recipeName?_eq_some_iff.mp (by decide +kernel)
  have hrecipe : ⟨"site/recipes/r.yaml"⟩ ∈ lookups (slashedProject.recorded.loadRecipe "r").run :=
    mem_lookups_loadRecipe.mpr (by decide)
  have hloads : (slashedProject.loadRecipe "r").run.toOption.map (·.relatedContent) =
      some "/related/js.yaml" := by decide +kernel
  obtain ⟨recipe, hload, hslashed⟩ := Option.map_eq_some_iff.mp hloads
  have hplace : ⟨"/related/js.yaml"⟩ = slashedProject.root.join ⟨recipe.relatedContent⟩ := by
    rw [hslashed]
    decide
  have hlookup : ⟨"/related/js.yaml"⟩ ∈ lookups (slashedProject.recorded.checkRelated
      (Page.ofText "---\nrecipe: r\n---\n").1 recipe .empty) := by
    rw [(slashedProject.asks_checkRelated _ _ _).lookups_eq, relatedFile, ← hplace]
    exact List.mem_cons_self
  refine ⟨⟨hrecipe, (hrecipes "r" _ hrecipe).mpr (Or.inl (by decide))⟩,
    (hpage .builtin ⟨"site/content/docs.md"⟩ _).mpr
      (Or.inr ⟨_, "r", rfl, hname, Or.inr ⟨recipe, toOption_eq_some_iff.mp hload, hplace⟩⟩),
    fun hbelow => ?_⟩
  have hpart := (hrelated _ recipe _ _ hlookup).mp hbelow
  rw [hslashed] at hpart
  exact absurd hpart (by decide)

/-- The content that the recipe relates to is looked for at the root of the file system. -/
theorem leaves_slashedProject :
    ∃ path ∈ lookups (slashedProject.recorded.checkPage .builtin ⟨"site/content/docs.md"⟩).run,
      path = ⟨"/related/js.yaml"⟩ ∧ ¬slashedProject.root.parts <+: path.parts ∧
      slashedProject.files.isPresent ⟨"site/related/js.yaml"⟩ = true ∧
      (slashedProject.checkPage .builtin ⟨"site/content/docs.md"⟩).run.toOption.map
        (·.findings.map (·.code)) = some ["related-content-missing"] := by
  have hmem : (⟨"/related/js.yaml"⟩ : FilePath) ∈
      lookups (slashedProject.recorded.checkPage .builtin ⟨"site/content/docs.md"⟩).run := by
    rw [(slashedProject.asks_checkPage _ _).lookups_eq]
    decide +kernel
  exact ⟨_, hmem, rfl, by decide, rfl, by decide +kernel⟩

end Project

end PageRecipe
