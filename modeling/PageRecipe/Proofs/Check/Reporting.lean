import PageRecipe.Check.Report

/-!
# What reporting adds

Every way of reporting extends the report at its end, so a check is described by the list
of findings it adds. A violation that is reported on a condition adds one finding or none
(`Finding.failIf`).
-/

namespace PageRecipe

/-- The finding of a violation when `condition` holds, and none otherwise. -/
def Finding.failIf (condition : Bool) (node message code : String) : List Finding :=
  if condition then [⟨node, message, code, .fail⟩] else []

theorem Finding.failIf_eq_nil_iff {condition : Bool} {node message code : String} :
    failIf condition node message code = [] ↔ condition = false := by
  cases condition <;> simp [failIf]

/-- A violation unless a test succeeds is a finding unless what is tested holds. -/
theorem Finding.failIf_not_eq {test : Bool} {holds : Prop} [Decidable holds]
    (h : test = true ↔ holds) (node message code : String) :
    failIf (!test) node message code = if holds then [] else [⟨node, message, code, .fail⟩] := by
  by_cases hp : holds
  · rw [if_pos hp, h.mpr hp]
    rfl
  · rw [if_neg hp, Bool.eq_false_iff.mpr (mt h.mp hp)]
    rfl

@[simp]
theorem Finding.isEmpty_failIf (condition : Bool) (node message code : String) :
    (failIf condition node message code).isEmpty = !condition := by
  cases condition <;> rfl

/-- Two checks find nothing together when each of them finds nothing. -/
@[simp]
theorem Finding.isEmpty_append (a b : List Finding) :
    (a ++ b).isEmpty = (a.isEmpty && b.isEmpty) := by
  cases a <;> rfl

theorem Finding.code_of_mem_failIf {condition : Bool} {node message code : String}
    {finding : Finding} (h : finding ∈ failIf condition node message code) :
    finding.code = code := by
  cases condition <;> simp_all [failIf]

/-- How many of the findings have this code. -/
def Finding.countOf (code : String) (findings : List Finding) : Nat :=
  findings.countP (·.code == code)

@[simp]
theorem Finding.countOf_append (code : String) (a b : List Finding) :
    countOf code (a ++ b) = countOf code a + countOf code b :=
  List.countP_append

theorem Finding.countOf_eq_zero {code : String} {findings : List Finding}
    (h : ∀ finding ∈ findings, finding.code ≠ code) : countOf code findings = 0 :=
  List.countP_eq_zero.mpr fun finding hfinding => by simpa using h finding hfinding

theorem Finding.countOf_failIf (condition : Bool) (node message code : String) :
    countOf code (failIf condition node message code) = if condition then 1 else 0 := by
  cases condition <;> simp [countOf, failIf]

namespace Report

@[simp]
theorem extend_nil (report : Report) : report.extend [] = report := by
  rw [extend, List.append_nil]

@[simp]
theorem extend_extend (report : Report) (more rest : List Finding) :
    (report.extend more).extend rest = report.extend (more ++ rest) := by
  rw [extend, extend, extend, List.append_assoc]

theorem fail_eq_extend (report : Report) (node message code : String) :
    report.fail node message code = report.extend [⟨node, message, code, .fail⟩] := rfl

theorem expected_eq_extend (report : Report) (node selector code : String) :
    report.expected node selector code =
      report.extend [⟨node, "expected element not found: " ++ selector, code, .expected⟩] := rfl

theorem failIf_eq_extend (report : Report) (condition : Bool) (node message code : String) :
    report.failIf condition node message code =
      report.extend (Finding.failIf condition node message code) := by
  cases condition
  · rw [Finding.failIf_eq_nil_iff.mpr rfl, extend_nil]
    rfl
  · rfl

end Report

end PageRecipe
