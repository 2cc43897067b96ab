import RentalGuard.Sql.Query
import RentalGuard.Tenancy.Context

/-! What a query may return, as a condition on the column that holds the owner. -/

namespace RentalGuard

/-- The condition for a scope. Shared records have no owner and pass every condition. -/
def CompanyScope.condition (column : String) : CompanyScope → Sql.Condition
  | allCompanies => .always
  | companies ids => .either (.isNull column) (.equalsAny column (ids.map (·.text)))
  | ownDataOnly => .isNull column

/-- A step in putting a query together. -/
inductive QueryStep where
  | push (text : String)
  | bind (value : String)
  /-- The condition for what the context may see. -/
  | companyFilter (column : String) (ctx : TenantContext)

/-- The query with one more step. -/
def QueryStep.extend (q : Sql.Query) : QueryStep → Sql.Query
  | push text => q.push text
  | bind value => q.bind [value]
  | companyFilter column ctx => q.filter (ctx.scope.condition column)

end RentalGuard
