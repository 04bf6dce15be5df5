import PageRecipe.Check.Registry

/-!
# Which handler a name resolves to

`Registry.register` keeps a name as it is given, and `Registry.resolve?` takes a qualifier off
before it looks. A registry answers for a bare name with the handler that was registered last
under it (`Built.get?_entries`), so a listed name resolves in its qualified form
(`resolve?_of_mem_names`). The name itself resolves to the same handler when it does not begin
with the qualifier ; a name that does is looked up as if it were qualified, and is not found or
found under another name (`unresolved_qualifiedName`).
-/

namespace PageRecipe.Registry

/-! ## Names and their qualifier -/

/-- Exactly one qualifier is taken off. -/
theorem bareName_qualified (name : String) : bareName (qualifier ++ name) = name := by
  have hdrop : (qualifier.toList ++ name.toList).drop qualifier.length = name.toList :=
    List.drop_left
  rw [bareName, if_pos (by simp), String.toList_append, hdrop, String.ofList_toList]

theorem bareName_of_unqualified {name : String} (h : ¬qualifier.toList <+: name.toList) :
    bareName name = name := by
  rw [bareName, if_neg (by rwa [List.isPrefixOf_iff_prefix])]

/-! ## Registering one handler after the other -/

/-- The registry comes from the empty one or the one of the library, by registering. The
history lists what was registered under which name, the latest first. -/
inductive Built : List (String × Handler) → Registry → Prop where
  | empty : Built [] .empty
  | builtin : Built builtinHandlers.reverse .builtin
  | register {history : List (String × Handler)} {registry : Registry} (name : String)
      (handler : Handler) (h : Built history registry) :
      Built ((name, handler) :: history) (registry.register name handler)

/-- The registry answers for every name with the latest handler of the history. -/
def Answers (registry : Registry) (history : List (String × Handler)) : Prop :=
  ∀ name, registry.entries.get? name = history.lookup name

theorem Answers.empty : Answers .empty [] := fun _ => rfl

/-- Registering a handler keeps the answers for all other names. -/
theorem Answers.register {registry : Registry} {history : List (String × Handler)}
    (h : registry.Answers history) (name : String) (handler : Handler) :
    (registry.register name handler).Answers ((name, handler) :: history) := by
  intro other
  by_cases heq : other = name
  · subst heq
    rw [Registry.register, Dictionary.get?_insert_self, List.lookup_cons_self]
  · rw [Registry.register, Dictionary.get?_insert_of_ne heq, h other, List.lookup_cons,
      beq_false_of_ne heq]

theorem Answers.foldl_register {registry : Registry} {history : List (String × Handler)}
    (h : registry.Answers history) (entries : List (String × Handler)) :
    (entries.foldl (fun registry entry => registry.register entry.1 entry.2) registry).Answers
      (entries.reverse ++ history) := by
  induction entries generalizing registry history with
  | nil => exact h
  | cons entry rest ih =>
    rw [List.foldl_cons, List.reverse_cons, List.append_assoc]
    exact ih (h.register entry.1 entry.2)

theorem Built.answers {registry : Registry} {history : List (String × Handler)}
    (h : Built history registry) : registry.Answers history := by
  induction h with
  | empty => exact .empty
  | builtin =>
    rw [Registry.builtin, ← List.append_nil builtinHandlers.reverse]
    exact Answers.empty.foldl_register builtinHandlers
  | register name handler _ ih => exact ih.register name handler

/-! ## Resolving -/

theorem resolve?_qualified {registry : Registry} {history : List (String × Handler)}
    (h : registry.Answers history) (name : String) :
    registry.resolve? (qualifier ++ name) = history.lookup name := by
  rw [resolve?, bareName_qualified, h]

theorem resolve?_of_unqualified {registry : Registry} {history : List (String × Handler)}
    (h : registry.Answers history) {name : String}
    (hname : ¬qualifier.toList <+: name.toList) :
    registry.resolve? name = history.lookup name := by
  rw [resolve?, bareName_of_unqualified hname, h]

/-- A listed name resolves in its qualified form to the handler that was registered last under
it. So does the name itself if it does not begin with the qualifier ; else it resolves to what
was registered last under the name without the qualifier. -/
theorem resolve?_of_mem_names {registry : Registry} {history : List (String × Handler)}
    (hbuilt : Built history registry) {name : String} (hname : name ∈ registry.names) :
    ∃ handler, history.lookup name = some handler ∧
      registry.resolve? (qualifier ++ name) = some handler ∧
      (¬qualifier.toList <+: name.toList → registry.resolve? name = some handler) ∧
      ∀ bare, name = qualifier ++ bare → registry.resolve? name = history.lookup bare := by
  have hanswers := hbuilt.answers
  obtain ⟨handler, hhandler⟩ := Option.isSome_iff_exists.mp (Dictionary.mem_labels_iff.mp hname)
  rw [hanswers] at hhandler
  refine ⟨handler, hhandler, ?_, fun hprefix => ?_, ?_⟩
  · rw [resolve?_qualified hanswers, hhandler]
  · rw [resolve?_of_unqualified hanswers hprefix, hhandler]
  · rintro bare rfl
    exact resolve?_qualified hanswers bare

/-- A handler registered under a name with the qualifier answers only for that name qualified
once more. The name itself goes to another handler. -/
theorem resolve?_shadowedName :
    Built (("data.constructor", InteractiveExample.check) :: builtinHandlers.reverse)
        (builtin.register "data.constructor" InteractiveExample.check) ∧
      "data.constructor" ∈
        (builtin.register "data.constructor" InteractiveExample.check).names ∧
      (builtin.register "data.constructor" InteractiveExample.check).resolve?
        "data.data.constructor" = some InteractiveExample.check ∧
      (builtin.register "data.constructor" InteractiveExample.check).resolve?
        "data.constructor" = some Constructor.check := by
  have hbuilt := Built.register "data.constructor" InteractiveExample.check .builtin
  have hname : "data.constructor" ∈
      (builtin.register "data.constructor" InteractiveExample.check).names := by decide
  obtain ⟨handler, hlatest, hqualified, -, hbare⟩ := resolve?_of_mem_names hbuilt hname
  rw [List.lookup_cons_self] at hlatest
  exact ⟨hbuilt, hname, hqualified.trans hlatest.symm, hbare "constructor" rfl⟩

/-- A name that begins with the qualifier is listed and resolves to nothing. -/
theorem unresolved_qualifiedName :
    (empty.register "data.short_description" Constructor.check).names =
        ["data.short_description"] ∧
      ((empty.register "data.short_description" Constructor.check).resolve?
        "data.short_description").isNone = true := by
  decide

end PageRecipe.Registry
