import PageRecipe.Files.Tree
import PageRecipe.Main
import PageRecipe.Proofs.Check.ConstructorVerdict
import PageRecipe.Proofs.Check.ExamplePlacement
import PageRecipe.Proofs.Check.HandlerCodes
import PageRecipe.Proofs.Check.OptionalParts
import PageRecipe.Proofs.Check.RecipeFindings
import PageRecipe.Proofs.Check.RecipeMistakes
import PageRecipe.Proofs.Check.Registration
import PageRecipe.Proofs.Files.PathParts
import PageRecipe.Proofs.Page.FencedText
import PageRecipe.Proofs.Project.PageFindings
import PageRecipe.Proofs.Prose.EventForest
import PageRecipe.Proofs.Prose.Headings
import PageRecipe.Proofs.Prose.Translation
import PageRecipe.Proofs.Recipe.BodyEntries
import PageRecipe.Proofs.Recipe.References
import PageRecipe.Proofs.Settings.Precedence
import PageRecipe.Proofs.Yaml.NodeValues
import PageRecipe.Proofs.Project.Lookups
import PageRecipe.Proofs.Command.CheckStatus
import PageRecipe.Proofs.Numeric.Numerals
import PageRecipe.Proofs.Settings.VariableValues
import PageRecipe.Proofs.Settings.Variables
import PageRecipe.Proofs.Prose.BalancedEvents
import PageRecipe.Proofs.Prose.Nodes
import PageRecipe.Proofs.Check.SectionLocality
import PageRecipe.Proofs.Dictionary
import PageRecipe.Proofs.Prose.HeadingIds
import PageRecipe.Proofs.Recipe.Groups
import PageRecipe.Proofs.Recipe.GroupLabels
import PageRecipe.Proofs.Recipe.EntryTranslation
import PageRecipe.Proofs.Prose.TextConservation
import PageRecipe.Proofs.Prose.SiblingRuns
import PageRecipe.Proofs.Prose.NestedSections
import PageRecipe.Proofs.Check.SilentExamples
import PageRecipe.Proofs.Check.LinkListReports
import PageRecipe.Proofs.Check.Invocations
import PageRecipe.Proofs.Check.TermPlacement
import PageRecipe.Proofs.Check.BlankSpacing
import PageRecipe.Proofs.Text.Blanks
import PageRecipe.Proofs.Check.MacroGrammar
import PageRecipe.Proofs.Recipe.Notation
import PageRecipe.Proofs.Prose.HtmlBlocks
import PageRecipe.Proofs.Prose.TextRuns
import PageRecipe.Proofs.Settings.ClassAmendments
import PageRecipe.Proofs.Recipe.Placeholders
import PageRecipe.Proofs.Files.PathOrder
import PageRecipe.Proofs.Files.TreeFiles
import PageRecipe.Proofs.Project.Discovery
import PageRecipe.Proofs.Toml.WrittenStrings
import PageRecipe.Proofs.Toml.WrittenEntries
import PageRecipe.Proofs.Settings.WrittenSettings
import PageRecipe.Proofs.Files.ShownPaths
import PageRecipe.Proofs.Prose.ShownNodes
import PageRecipe.Proofs.Prose.Traversal
import PageRecipe.Proofs.Check.ExampleHolders
import PageRecipe.Proofs.Prose.TitleIds
import PageRecipe.Proofs.Prose.HeadingTags
