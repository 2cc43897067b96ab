import Mathlib.Data.List.Forall2
import RentalGuard.Proofs.Sql.ConditionText
import RentalGuard.Sql.Statement
import RentalGuard.Tenancy.Filter

/-! # The places of bound values are numbered through

A query is what comes out if its steps are written one after the other and each value gets the next
number. The filter of a context binds one list or none, and its text says nothing about the
companies.
-/

namespace RentalGuard

open Sql

/-! ## Conditions as they are written -/

namespace CompanyScope

variable (scope : CompanyScope) (column : String)

/-- Writes the condition for a scope. -/
def write (statement : Statement) (column : String) : CompanyScope → Statement
  | allCompanies => statement.push "TRUE"
  | companies ids =>
    let opened := ["(", column, " IS NULL OR ", column, " = ANY("].foldl Statement.push statement
    (opened.pushBind (ids.map (·.text))).push "))"
  | ownDataOnly => (statement.push column).push " IS NULL"

/-- The parts of the condition for a scope after `bound` values. -/
def parts (column : String) (bound : Nat) : CompanyScope → List Part
  | allCompanies => [.text "TRUE"]
  | companies _ => [.text "(", .text column, .text " IS NULL OR ", .text column, .text " = ANY(",
      .place (bound + 1), .text "))"]
  | ownDataOnly => [.text column, .text " IS NULL"]

/-- The lists that the condition for a scope binds. -/
def values : CompanyScope → List (List String)
  | companies ids => [ids.map (·.text)]
  | allCompanies | ownDataOnly => []

theorem write_eq (statement : Statement) : scope.write statement column =
    ⟨statement.parts ++ scope.parts column statement.values.length,
      statement.values ++ scope.values⟩ := by
  cases scope with
  | allCompanies => simp [write, Statement.push, parts, values]
  | companies ids => simp [write, Statement.push, Statement.pushBind, parts, values]
  | ownDataOnly => simp [write, Statement.push, parts, values]

theorem filterMap_number?_parts (bound : Nat) : (scope.parts column bound).filterMap Part.number? =
    List.range' (bound + 1) scope.values.length := by
  cases scope <;> rfl

theorem render_condition (used : Nat) : Query.render used (scope.condition column).pieces =
    String.join ((scope.parts column used).map Part.written) := by
  cases scope with
  | allCompanies => rfl
  | companies ids =>
    -- the query is made of smaller pieces of text than the statement
    have hor : " IS NULL OR " = " IS NULL" ++ " OR " := rfl
    have hclose : "))" = ")" ++ ")" := rfl
    simp [condition, Condition.pieces, Query.render, parts, Part.written, hor, hclose,
      String.append_assoc, -String.reduceAppend]
  | ownDataOnly => simp [condition, Condition.pieces, Query.render, parts, Part.written]

theorem binds_condition : (scope.condition column).binds = scope.values := by
  cases scope <;> rfl

end CompanyScope

theorem TenantContext.values_scope (ctx : TenantContext) : ctx.scope.values =
    if ctx.superAdmin ∨ ctx.companies = [] then [] else [ctx.companyNames] := by
  unfold scope
  cases hflag : ctx.superAdmin with
  | true => rfl
  | false => cases hlisted : ctx.companies <;> simp [CompanyScope.values, companyNames, hlisted]

/-! ## Steps as they are written -/

namespace QueryStep

def write (statement : Statement) : QueryStep → Statement
  | push text => statement.push text
  | bind value => statement.pushBind [value]
  | companyFilter column ctx => ctx.scope.write statement column

/-- The parts that a step adds to a statement with `bound` values. -/
def parts (bound : Nat) : QueryStep → List Part
  | push text => [.text text]
  | bind _ => [.place (bound + 1)]
  | companyFilter column ctx => ctx.scope.parts column bound

/-- The values that a step binds. A filter binds the identifiers of its context, as one list, unless
the context sees everything or lists no company. -/
def values : QueryStep → List (List String)
  | push _ => []
  | bind value => [[value]]
  | companyFilter _ ctx => if ctx.superAdmin ∨ ctx.companies = [] then [] else [ctx.companyNames]

variable {start : String} (step : QueryStep)

/-- A step adds its parts at the end of the text and its values after the others. -/
theorem write_eq (statement : Statement) : step.write statement =
    ⟨statement.parts ++ step.parts statement.values.length, statement.values ++ step.values⟩ := by
  cases step with
  | push text =>
    rw [values, List.append_nil]
    rfl
  | bind value =>
    rw [write, Statement.pushBind, List.length_append]
    rfl
  | companyFilter column ctx =>
    rw [values, ← ctx.values_scope]
    exact ctx.scope.write_eq column statement

/-- The places that a step writes have the numbers of its values. -/
theorem filterMap_number?_parts (bound : Nat) :
    (step.parts bound).filterMap Part.number? = List.range' (bound + 1) step.values.length := by
  cases step with
  | push text => rfl
  | bind value => rfl
  | companyFilter column ctx =>
    rw [values, ← ctx.values_scope]
    exact ctx.scope.filterMap_number?_parts column bound

/-- A step adds the same to a query. -/
theorem text_extend (q : Query) : (step.extend q).text =
    q.text ++ String.join ((step.parts q.binds.length).map Part.written) := by
  have hadd : ∀ pieces, (q.add pieces).text = q.text ++ Query.render q.binds.length pieces := by
    intro pieces
    rw [Query.text, Query.add, Query.render_append, Nat.zero_add]
    rfl
  cases step with
  | push text => simp [extend, Query.push, hadd, Query.render, parts, Part.written]
  | bind value => simp [extend, Query.bind, hadd, Query.render, parts, Part.written]
  | companyFilter column ctx =>
    rw [extend, Query.filter, hadd, CompanyScope.render_condition]
    rfl

theorem binds_extend (q : Query) : (step.extend q).binds = q.binds ++ step.values := by
  have hadd : ∀ pieces, (q.add pieces).binds = q.binds ++ (Query.mk pieces).binds :=
    Query.binds_append q.pieces
  cases step with
  | push text => exact hadd _
  | bind value => exact hadd _
  | companyFilter column ctx =>
    rw [values, ← ctx.values_scope, ← CompanyScope.binds_condition ctx.scope column]
    exact hadd _

/-- Two steps that differ at most in the values that they bind. -/
inductive Alike : QueryStep → QueryStep → Prop
  | push (text : String) : Alike (push text) (push text)
  | bind (value value' : String) : Alike (bind value) (bind value')
  | companyFilter (column : String) {ctx ctx' : TenantContext}
      (hflag : ctx.superAdmin = ctx'.superAdmin)
      (hlisted : ctx.companies = [] ↔ ctx'.companies = []) :
      Alike (companyFilter column ctx) (companyFilter column ctx')

theorem Alike.parts_eq {step step' : QueryStep} (h : Alike step step') (bound : Nat) :
    step.parts bound = step'.parts bound := by
  cases h with
  | push text => rfl
  | bind value value' => rfl
  | companyFilter column hflag hlisted =>
    simp only [parts, TenantContext.scope, hflag, List.isEmpty_iff, hlisted]
    split
    · rfl
    · split <;> rfl

theorem Alike.length_values {step step' : QueryStep} (h : Alike step step') :
    step.values.length = step'.values.length := by
  have hnumbers := congrArg (List.filterMap Part.number?) (h.parts_eq 0)
  rw [filterMap_number?_parts, filterMap_number?_parts] at hnumbers
  simpa using congrArg List.length hnumbers

/-! ## All steps -/

/-- A statement is the text and the values of a query, and its places are numbered through. -/
structure Sends (statement : Statement) (query : Query) : Prop where
  text : query.text = statement.text
  values : query.binds = statement.values
  numbered : statement.places = List.range' 1 statement.values.length

theorem sends_start (text : String) : Sends (.start text) (.start text) where
  text := by
    simp [Query.start, Query.text, Query.render, Statement.start, Statement.text, Part.written]
  values := rfl
  numbered := rfl

theorem Sends.next {s : Statement} {q : Query} (h : Sends s q) (step : QueryStep) :
    Sends (step.write s) (step.extend q) where
  text := by
    rw [write_eq, text_extend, h.text, h.values, Statement.text, Statement.text, List.map_append,
      String.join_append]
  values := by rw [write_eq, binds_extend, h.values]
  numbered := by
    have hplaces : s.parts.filterMap Part.number? = List.range' 1 s.values.length := h.numbered
    rw [write_eq, Statement.places, List.filterMap_append, hplaces, filterMap_number?_parts,
      List.length_append, Nat.add_comm s.values.length 1, List.range'_append_1]

theorem Sends.all {s : Statement} {q : Query} (h : Sends s q) (steps : List QueryStep) :
    Sends (steps.foldl QueryStep.write s) (steps.foldl extend q) := by
  induction steps generalizing s q with
  | nil => exact h
  | cons step rest ih => exact ih (h.next step)

/-- What is written and bound stays as it is. -/
theorem exists_write_all (s : Statement) (steps : List QueryStep) :
    ∃ rest more, steps.foldl write s = ⟨s.parts ++ rest, s.values ++ more⟩ := by
  induction steps generalizing s with
  | nil => exact ⟨[], [], by simp⟩
  | cons step others ih =>
    obtain ⟨rest, more, h⟩ := ih (step.write s)
    rw [List.foldl_cons, h, write_eq, List.append_assoc, List.append_assoc]
    exact ⟨_, _, rfl⟩

/-- Steps that are alike write the same text, and as many values. -/
theorem parts_write_all {steps steps' : List QueryStep} (h : List.Forall₂ Alike steps steps') :
    ∀ {s s' : Statement}, s.parts = s'.parts → s.values.length = s'.values.length →
      (steps.foldl write s).parts = (steps'.foldl write s').parts := by
  induction h with
  | nil => exact fun hparts _ => hparts
  | cons halike hrest ih =>
    intro s s' hparts hvalues
    refine ih ?_ ?_
    · rw [write_eq, write_eq, hparts, hvalues, halike.parts_eq]
    · rw [write_eq, write_eq, List.length_append, List.length_append, hvalues,
        halike.length_values]

/-- The query that the steps make. -/
def query (start : String) (steps : List QueryStep) : Query := steps.foldl extend (.start start)

/-- The statement that is written by the steps. -/
def statement (start : String) (steps : List QueryStep) : Statement :=
  steps.foldl write (.start start)

end QueryStep

/-- The query that any steps make is the statement that they write from left to right. Its places
are numbered from one without a gap, up to the number of its values, and each step has written the
places of the values that it has bound. Other values, and other companies in a context that lists
some, leave the text as it is. -/
theorem places_are_numbered_through (start : String) (steps : List QueryStep) :
    let query := QueryStep.query start steps
    let statement := QueryStep.statement start steps
    query.text = statement.text ∧ query.binds = statement.values ∧
      statement.places = List.range' 1 query.binds.length ∧
      (∀ before step after, steps = before ++ step :: after →
        let earlier := QueryStep.statement start before
        let added := step.parts earlier.values.length
        ∃ rest more, statement.parts = earlier.parts ++ added ++ rest ∧
          query.binds = earlier.values ++ step.values ++ more ∧
          added.filterMap Part.number? =
            List.range' (earlier.values.length + 1) step.values.length) ∧
      ∀ steps', List.Forall₂ QueryStep.Alike steps steps' →
        (QueryStep.query start steps').text = query.text := by
  intro query statement
  have hsends : ∀ steps, QueryStep.Sends (QueryStep.statement start steps)
      (QueryStep.query start steps) := (QueryStep.sends_start start).all
  refine ⟨(hsends steps).text, (hsends steps).values, ?_, ?_, ?_⟩
  · rw [(hsends steps).values]
    exact (hsends steps).numbered
  · rintro before step after rfl earlier added
    obtain ⟨rest, more, h⟩ := QueryStep.exists_write_all (step.write earlier) after
    have hall : statement =
        ⟨earlier.parts ++ added ++ rest, earlier.values ++ step.values ++ more⟩ := by
      rw [step.write_eq earlier] at h
      refine Eq.trans ?_ h
      rw [← step.write_eq earlier]
      exact List.foldl_append
    refine ⟨rest, more, by rw [hall], ?_, step.filterMap_number?_parts _⟩
    rw [(hsends _).values]
    exact congrArg Statement.values hall
  · intro steps' halike
    have hparts : statement.parts = (QueryStep.statement start steps').parts :=
      QueryStep.parts_write_all halike rfl rfl
    rw [(hsends steps').text, (hsends steps).text, Statement.text, Statement.text]
    exact congrArg (fun parts => String.join (parts.map Part.written)) hparts.symm

/-- Filters for a list of companies, for everything and for shared records only, between values of
the query itself. With another list the text is the same. -/
theorem places_are_numbered_through_three_filters :
    let first : CompanyId := ⟨"A", by decide, by decide⟩
    let second : CompanyId := ⟨"B_2", by decide, by decide⟩
    let listing (ids : List CompanyId) : QueryStep :=
      .companyFilter "b.company_id" (.make ids false)
    let others : List QueryStep := [.push " OR ", .companyFilter "o" .empty, .push " OR ",
      .companyFilter "o" (.make [first] true), .push " LIMIT ", .bind "5"]
    let steps := .bind "on" :: .push " AND " :: listing [second, first] :: others
    let steps' := .bind "off" :: .push " AND " :: listing [first] :: others
    let start := "SELECT 1 FROM b WHERE state = "
    List.Forall₂ QueryStep.Alike steps steps' ∧
      (QueryStep.statement start steps).places = [1, 2, 3] ∧
      (QueryStep.query start steps).binds = [["on"], ["B_2", "A"], ["5"]] ∧
      (QueryStep.query start steps').text = "SELECT 1 FROM b WHERE state = $1 AND " ++
        "(b.company_id IS NULL OR b.company_id = ANY($2)) OR o IS NULL OR TRUE LIMIT $3" := by
  intro first second listing others steps steps' start
  have hothers : List.Forall₂ QueryStep.Alike others others :=
    .cons (.push _) (.cons (.companyFilter _ rfl Iff.rfl) (.cons (.push _)
      (.cons (.companyFilter _ rfl Iff.rfl) (.cons (.push _) (.cons (.bind _ _) .nil)))))
  have halike : List.Forall₂ QueryStep.Alike steps steps' :=
    .cons (.bind _ _) (.cons (.push _) (.cons (.companyFilter _ rfl (by decide)) hothers))
  obtain ⟨-, -, hplaces, -, htext⟩ := places_are_numbered_through start steps
  refine ⟨halike, hplaces, by decide, (htext steps' halike).trans ?_⟩
  decide +kernel

end RentalGuard
