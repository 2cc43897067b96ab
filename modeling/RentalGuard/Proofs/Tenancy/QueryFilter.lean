import RentalGuard.Proofs.Sql.ConditionText
import RentalGuard.Tenancy.Filter

/-! # Queries return the visible records

The condition for a context keeps a row exactly if the check on loaded records finds its owner
visible, and it can follow any other condition after AND, as long as that is one operand too. -/

namespace RentalGuard

open Sql

theorem CompanyScope.condition_on (scope : CompanyScope) (column : String) :
    (scope.condition column).On column := by
  cases scope with
  | allCompanies => trivial
  | companies ids => exact ⟨rfl, rfl⟩
  | ownDataOnly => rfl

theorem contains_text (ids : List CompanyId) (id : CompanyId) :
    (ids.map (·.text)).contains id.text = ids.contains id := by
  rw [Bool.eq_iff_iff, List.contains_iff_mem, List.contains_iff_mem]
  constructor
  · intro h
    obtain ⟨a, ha, he⟩ := List.mem_map.mp h
    exact CompanyId.eq_of_text he ▸ ha
  · exact List.mem_map_of_mem

namespace TenantContext

variable (ctx : TenantContext)

theorem keeps_condition (column : String) (owner : Option CompanyId) :
    (ctx.scope.condition column).keeps (owner.map (·.text)) = ctx.canSee owner := by
  unfold scope
  cases hs : ctx.superAdmin with
  | true =>
    -- every row passes, the companies that are listed besides make no difference
    cases owner with
    | none => rfl
    | some id => simp [CompanyScope.condition, Condition.keeps, Condition.holds?, canSee, hs]
  | false =>
    cases hc : ctx.companies with
    | nil =>
      cases owner with
      | none => rfl
      | some id =>
        simp [CompanyScope.condition, Condition.keeps, Condition.holds?, canSee, hs, hc]
    | cons first rest =>
      cases owner with
      | none => rfl
      | some id =>
        have hm := contains_text (first :: rest) id
        simp only [Bool.false_eq_true, if_false, List.isEmpty_cons, CompanyScope.condition,
          Condition.keeps, Condition.holds?, Option.map_some, hm, canSee, hs, hc, Bool.false_or]
        cases (first :: rest).contains id <;> rfl

end TenantContext

/-- One operand of AND: the constant TRUE, one expression in parentheses, or one test whether the
column has no value. -/
def IsOperand (column text : String) : Prop :=
  ∃ items, lexemes? text = some items ∧
    (items = [.word "TRUE"] ∨ (∃ inner, items = [.group inner]) ∨
      items = [.word column, .word "IS", .word "NULL"])

theorem CompanyScope.isOperand_condition (scope : CompanyScope) {column : String}
    (hcolumn : IsName column) (q : Query) : IsOperand column ((scope.condition column).textIn q) := by
  have hr := (scope.condition column).reads_render hcolumn.1 (scope.condition_on column)
    q.binds.length
  refine ⟨_, reads_iff_lexemes?.mp hr, ?_⟩
  cases scope with
  | allCompanies => exact .inl rfl
  | companies ids => exact .inr (.inl ⟨_, rfl⟩)
  | ownDataOnly => exact .inr (.inr rfl)

end RentalGuard
