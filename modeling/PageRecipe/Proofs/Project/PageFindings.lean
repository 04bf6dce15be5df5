import PageRecipe.Project.Checking
import PageRecipe.Proofs.Check.RecipeFindings
import PageRecipe.Proofs.Failing

/-!
# What checking a page finds

The check of a page asks the file system four questions and reads two YAML texts, and each of
them can fail. Here the files of a project answer without effects, so a project is one state of
a file system. `Page.Reads` says which page a text is and what its front matter adds to the
findings, and `Project.Finds` what the recipe of a page adds, by the file in which the recipe is
looked for (`Project.FindsIn`).

`checkPage_iff` says that nothing else happens : an error ends the check exactly when the page
itself cannot be read, and every other failure is a finding.
-/

namespace PageRecipe

/-- A text is read as a page, with the findings of its front matter. The prose is what stands
behind the front matter, whether that can be read or not. -/
inductive Page.Reads (content : String) : Page → List Finding → Prop where
  | noFrontMatter {prose : List Char}
      (hsplit : FrontMatter.split content.toList = (none, prose)) :
      Reads content ⟨[], .ofMarkdown (String.ofList prose)⟩ []
  | frontMatter {front prose : List Char} {metadata : Metadata}
      (hsplit : FrontMatter.split content.toList = (some front, prose))
      (hfront : Metadata.ofText (String.ofList front) = .ok metadata) :
      Reads content ⟨metadata, .ofMarkdown (String.ofList prose)⟩ []
  | brokenFrontMatter {front prose : List Char} {error : Yaml.Error}
      (hsplit : FrontMatter.split content.toList = (some front, prose))
      (hfront : Metadata.ofText (String.ofList front) = .error error) :
      Reads content ⟨[], .ofMarkdown (String.ofList prose)⟩
        [⟨(Node.ofMarkdown (String.ofList prose)).display,
          "Invalid front matter: " ++ error.message, "invalid-front-matter", .fail⟩]

/-- Every text is read as a page. -/
theorem Page.exists_reads (content : String) : ∃ page front, Reads content page front := by
  rcases hsplit : FrontMatter.split content.toList with ⟨_ | front, prose⟩
  · exact ⟨_, _, .noFrontMatter hsplit⟩
  · cases hfront : Metadata.ofText (String.ofList front) with
    | ok metadata => exact ⟨_, _, .frontMatter hsplit hfront⟩
    | error error => exact ⟨_, _, .brokenFrontMatter hsplit hfront⟩

theorem Page.Reads.ofText_eq {content : String} {page : Page} {front : List Finding}
    (h : Reads content page front) : ∃ error, ofText content = (page, error) ∧
      ∀ report, Project.reportFrontMatter page error report = report.extend front := by
  cases h with
  | noFrontMatter hsplit =>
    exact ⟨none, by simp [ofText, hsplit], fun report => report.extend_nil.symm⟩
  | frontMatter hsplit hfront =>
    exact ⟨none, by simp [ofText, hsplit, hfront], fun report => report.extend_nil.symm⟩
  | brokenFrontMatter hsplit hfront =>
    exact ⟨some _, by simp [ofText, hsplit, hfront], fun report => rfl⟩

namespace Project

variable (project : Project Id) (registry : Registry)

/-- The page asks for the recipe of this name. -/
def Names (page : Page) (name : String) : Prop :=
  ∃ value, page.metadata.get? "recipe" = some value ∧ value.text? = some name

/-- What a recipe adds to the findings of a page, when it is looked for in this file. -/
inductive FindsIn (page : Page) (file : FilePath) : List Finding → Prop where
  | noFile (hfile : project.files.isFile file = false) :
      FindsIn page file [⟨page.prose.display,
        "Recipe not found: " ++ file.text, "recipe-not-found", .fail⟩]
  | unreadable {error : ReadError} (hfile : project.files.isFile file = true)
      (hread : project.files.read file = .error error) :
      FindsIn page file [⟨page.prose.display, "Invalid recipe: read recipe: " ++
        file.text ++ ": " ++ error.message, "invalid-recipe", .fail⟩]
  | malformed {text : String} {error : Yaml.Error} (hfile : project.files.isFile file = true)
      (hread : project.files.read file = .ok text) (hrecipe : Recipe.ofText text = .error error) :
      FindsIn page file [⟨page.prose.display, "Invalid recipe: parse recipe: " ++
        file.text ++ ": " ++ error.message, "invalid-recipe", .fail⟩]
  | noRelated {text : String} {recipe : Recipe} (hfile : project.files.isFile file = true)
      (hread : project.files.read file = .ok text) (hrecipe : Recipe.ofText text = .ok recipe)
      (hrelated : project.files.isPresent (project.root.join ⟨recipe.relatedContent⟩) = false) :
      FindsIn page file (⟨page.prose.display,
        "Related content not found: " ++ recipe.relatedContent,
        "related-content-missing", .fail⟩ ::
          ((project.interpreter registry).check page recipe .empty).findings)
  | related {text : String} {recipe : Recipe} (hfile : project.files.isFile file = true)
      (hread : project.files.read file = .ok text) (hrecipe : Recipe.ofText text = .ok recipe)
      (hrelated : project.files.isPresent (project.root.join ⟨recipe.relatedContent⟩) = true) :
      FindsIn page file ((project.interpreter registry).check page recipe .empty).findings

/-- What the recipe of a page adds to its findings. The recipe stands in the directory of the
recipes, which is taken from the root of the project, under the name that the page gives. -/
inductive Finds (page : Page) : List Finding → Prop where
  | noName (hname : ∀ name, ¬Names page name) :
      Finds page [⟨page.prose.display, "Document does not name a recipe", "missing-recipe", .fail⟩]
  | named {name : String} {findings : List Finding} (hname : Names page name)
      (hrecipe : FindsIn project registry page
        ((project.root.join ⟨project.settings.recipesDirectory⟩).join ⟨name ++ ".yaml"⟩)
        findings) :
      Finds page findings

variable {project registry}

theorem recipeName?_eq_some_iff {page : Page} {name : String} :
    page.recipeName? = some name ↔ Names page name :=
  Option.bind_eq_some_iff

theorem recipeName?_eq_none_iff {page : Page} :
    page.recipeName? = none ↔ ∀ name, ¬Names page name := by
  simp only [Option.eq_none_iff_forall_ne_some, ne_eq, recipeName?_eq_some_iff]

theorem exists_findsIn (project : Project Id) (registry : Registry) (page : Page)
    (file : FilePath) : ∃ findings, FindsIn project registry page file findings := by
  cases hfile : project.files.isFile file with
  | false => exact ⟨_, .noFile hfile⟩
  | true =>
    cases hread : project.files.read file with
    | error error => exact ⟨_, .unreadable hfile hread⟩
    | ok text =>
      cases hrecipe : Recipe.ofText text with
      | error error => exact ⟨_, .malformed hfile hread hrecipe⟩
      | ok recipe =>
        cases hrelated : project.files.isPresent (project.root.join ⟨recipe.relatedContent⟩) with
        | false => exact ⟨_, .noRelated hfile hread hrecipe hrelated⟩
        | true => exact ⟨_, .related hfile hread hrecipe hrelated⟩

/-- Whatever a state of the file system is, some findings about the recipe of a page come out. -/
theorem exists_finds (project : Project Id) (registry : Registry) (page : Page) :
    ∃ findings, Finds project registry page findings := by
  cases hname : page.recipeName? with
  | none => exact ⟨_, .noName (recipeName?_eq_none_iff.mp hname)⟩
  | some name =>
    obtain ⟨findings, hrecipe⟩ := exists_findsIn project registry page
      ((project.root.join ⟨project.settings.recipesDirectory⟩).join ⟨name ++ ".yaml"⟩)
    exact ⟨findings, .named (recipeName?_eq_some_iff.mp hname) hrecipe⟩

/-! ## Running the check -/

theorem run_pages_of_noDirectory
    (h : project.files.isDirectory project.contentDirectory = false) :
    project.pages.run = .error (.contentNotFound project.contentDirectory) := by
  rw [pages, h]
  rfl

theorem run_pages_of_isDirectory
    (h : project.files.isDirectory project.contentDirectory = true) :
    project.pages.run = .ok (((project.files.filesBelow project.contentDirectory).filter
      fun path => path.isNamed project.settings.pageFileName).mergeSort FilePath.le) := by
  rw [pages, h]
  rfl

theorem run_read_ok {path : FilePath} {text : String} (h : project.files.read path = .ok text)
    (action : String) : (project.read action path).run = .ok text := by
  rw [Project.read, h]
  rfl

theorem run_read_error {path : FilePath} {error : ReadError}
    (h : project.files.read path = .error error) (action : String) :
    (project.read action path).run = .error (.operation action path error.message) := by
  rw [Project.read, h]
  rfl

theorem run_loadRecipe_of_noFile {name : String}
    (hfile : project.files.isFile (project.recipeFile name) = false) :
    (project.loadRecipe name).run = .error (.recipeNotFound (project.recipeFile name)) := by
  rw [loadRecipe, hfile]
  rfl

theorem run_loadRecipe_of_unreadable {name : String} {error : ReadError}
    (hfile : project.files.isFile (project.recipeFile name) = true)
    (hread : project.files.read (project.recipeFile name) = .error error) :
    (project.loadRecipe name).run =
      .error (.operation "read recipe" (project.recipeFile name) error.message) := by
  rw [loadRecipe, hfile]
  exact run_bind_error (run_read_error hread _) _

/-- A recipe that can be read is what the text of its file writes. -/
theorem run_loadRecipe {name text : String}
    (hfile : project.files.isFile (project.recipeFile name) = true)
    (hread : project.files.read (project.recipeFile name) = .ok text) :
    (project.loadRecipe name).run = (Recipe.ofText text).mapError fun error =>
      .operation "parse recipe" (project.recipeFile name) error.message := by
  rw [loadRecipe, hfile]
  refine (run_bind_ok (run_read_ok hread _) _).trans ?_
  cases Recipe.ofText text with
  | ok recipe => rfl
  | error error => rfl

theorem run_loadRecipe_ok {name text : String} {recipe : Recipe}
    (hfile : project.files.isFile (project.recipeFile name) = true)
    (hread : project.files.read (project.recipeFile name) = .ok text)
    (hrecipe : Recipe.ofText text = .ok recipe) :
    (project.loadRecipe name).run = .ok recipe := by
  rw [run_loadRecipe hfile hread, hrecipe]
  rfl

theorem run_loadRecipe_error {name text : String} {error : Yaml.Error}
    (hfile : project.files.isFile (project.recipeFile name) = true)
    (hread : project.files.read (project.recipeFile name) = .ok text)
    (hrecipe : Recipe.ofText text = .error error) :
    (project.loadRecipe name).run =
      .error (.operation "parse recipe" (project.recipeFile name) error.message) := by
  rw [run_loadRecipe hfile hread, hrecipe]
  rfl

/-- A recipe that can be loaded is checked, behind a look at what it relates to. -/
theorem run_checkRecipe_of_ok {page : Page} {name : String} {recipe : Recipe}
    (hname : page.recipeName? = some name) (hload : (project.loadRecipe name).run = .ok recipe)
    (report : Report) :
    (project.checkRecipe registry page report).run =
      .ok (report.extend (Finding.failIf (!project.files.isPresent (project.relatedFile recipe))
        (Interpreter.anchor page) ("Related content not found: " ++ recipe.relatedContent)
        "related-content-missing" ++
          ((project.interpreter registry).check page recipe .empty).findings)) := by
  rw [checkRecipe, hname, ← Report.extend_extend, ← Interpreter.check_eq_extend,
    ← Report.failIf_eq_extend]
  simp only [hload]
  rfl

/-- Checking a page against the recipe that it names never fails, whatever is found in the file
of the recipe. -/
theorem run_checkRecipe_of_named {page : Page} {name : String} {findings : List Finding}
    (hname : page.recipeName? = some name)
    (h : FindsIn project registry page (project.recipeFile name) findings) (report : Report) :
    (project.checkRecipe registry page report).run = .ok (report.extend findings) := by
  cases h with
  | noFile hfile =>
    rw [checkRecipe, hname]
    simp only [run_loadRecipe_of_noFile hfile]
    rfl
  | unreadable hfile hread =>
    rw [checkRecipe, hname]
    simp only [run_loadRecipe_of_unreadable hfile hread]
    rfl
  | malformed hfile hread hrecipe =>
    rw [checkRecipe, hname]
    simp only [run_loadRecipe_error hfile hread hrecipe]
    rfl
  | noRelated hfile hread hrecipe hrelated =>
    rw [run_checkRecipe_of_ok hname (run_loadRecipe_ok hfile hread hrecipe), relatedFile,
      hrelated]
    rfl
  | related hfile hread hrecipe hrelated =>
    rw [run_checkRecipe_of_ok hname (run_loadRecipe_ok hfile hread hrecipe), relatedFile,
      hrelated]
    rfl

/-- Checking the recipe of a page never fails : it extends the report by what is found. -/
theorem run_checkRecipe {page : Page} {findings : List Finding}
    (h : Finds project registry page findings) (report : Report) :
    (project.checkRecipe registry page report).run = .ok (report.extend findings) := by
  cases h with
  | noName hname =>
    rw [checkRecipe, recipeName?_eq_none_iff.mpr hname]
    rfl
  | named hname hrecipe =>
    exact run_checkRecipe_of_named (recipeName?_eq_some_iff.mpr hname) hrecipe report

theorem run_checkPage_of_error {path : FilePath} {cause : ReadError}
    (hread : project.files.read path = .error cause) :
    (project.checkPage registry path).run =
      .error (.operation "read document" path cause.message) := by
  rw [checkPage, readPage]
  exact run_bind_error (run_read_error hread _) _

theorem run_checkPage_of_ok {path : FilePath} {content : String} {page : Page}
    {front rest : List Finding} (hread : project.files.read path = .ok content)
    (hpage : Page.Reads content page front) (hrest : Finds project registry page rest) :
    (project.checkPage registry path).run = .ok ⟨path, front ++ rest⟩ := by
  obtain ⟨error, htext, hfront⟩ := hpage.ofText_eq
  have hcheck := run_checkRecipe hrest (reportFrontMatter page error .empty)
  rw [hfront, Report.extend_extend] at hcheck
  rw [checkPage, readPage, run_bind_ok (run_read_ok hread _), htext]
  dsimp only
  rw [hfront, run_bind_ok hcheck]
  rfl

/-- The check of a page ends in one of two ways. -/
theorem run_checkPage_cases (project : Project Id) (registry : Registry) (path : FilePath) :
    (∃ cause, project.files.read path = .error cause ∧
      (project.checkPage registry path).run =
        .error (.operation "read document" path cause.message)) ∨
    ∃ content page front rest, project.files.read path = .ok content ∧
      Page.Reads content page front ∧ Finds project registry page rest ∧
      (project.checkPage registry path).run = .ok ⟨path, front ++ rest⟩ := by
  cases hread : project.files.read path with
  | error cause => exact Or.inl ⟨cause, rfl, run_checkPage_of_error hread⟩
  | ok content =>
    obtain ⟨page, front, hpage⟩ := Page.exists_reads content
    obtain ⟨rest, hrest⟩ := exists_finds project registry page
    exact Or.inr ⟨content, page, front, rest, rfl, hpage, hrest,
      run_checkPage_of_ok hread hpage hrest⟩

/-- A page that cannot be read is an error, and there is no other. A page that can be read gets
the findings of its front matter, then those of its recipe ; with front matter that cannot be
read it names no recipe, whatever the files are. -/
theorem checkPage_iff (project : Project Id) (registry : Registry) (path : FilePath) :
    (∀ error, (project.checkPage registry path).run = .error error ↔
      ∃ cause, project.files.read path = .error cause ∧
        error = .operation "read document" path cause.message) ∧
    (∀ report, (project.checkPage registry path).run = .ok report ↔
      ∃ content page front rest, project.files.read path = .ok content ∧
        Page.Reads content page front ∧ Finds project registry page rest ∧
        report = ⟨path, front ++ rest⟩) ∧
    ∀ content front prose error, project.files.read path = .ok content →
      FrontMatter.split content.toList = (some front, prose) →
      Metadata.ofText (String.ofList front) = .error error →
      (project.checkPage registry path).run = .ok ⟨path,
        [⟨(Node.ofMarkdown (String.ofList prose)).display,
          "Invalid front matter: " ++ error.message, "invalid-front-matter", .fail⟩,
        ⟨(Node.ofMarkdown (String.ofList prose)).display,
          "Document does not name a recipe", "missing-recipe", .fail⟩]⟩ := by
  have hcases := run_checkPage_cases project registry path
  refine ⟨fun error => ⟨fun hrun => ?_, ?_⟩, fun report => ⟨fun hrun => ?_, ?_⟩,
    fun content front prose error hread hsplit hfront => ?_⟩
  · rcases hcases with ⟨cause, hread, herror⟩ | ⟨_, _, _, _, _, _, _, hok⟩
    · exact ⟨cause, hread, Except.error.inj (hrun.symm.trans herror)⟩
    · cases hrun.symm.trans hok
  · rintro ⟨cause, hread, rfl⟩
    exact run_checkPage_of_error hread
  · rcases hcases with ⟨_, _, herror⟩ | ⟨content, page, front, rest, hread, hpage, hrest, hok⟩
    · cases hrun.symm.trans herror
    · exact ⟨content, page, front, rest, hread, hpage, hrest,
        Except.ok.inj (hrun.symm.trans hok)⟩
  · rintro ⟨content, page, front, rest, hread, hpage, hrest, rfl⟩
    exact run_checkPage_of_ok hread hpage hrest
  · refine run_checkPage_of_ok hread (.brokenFrontMatter hsplit hfront) (.noName ?_)
    rintro name ⟨value, hvalue, -⟩
    rw [Dictionary.get?, List.lookup_nil] at hvalue
    cases hvalue

end Project

end PageRecipe
