import RentalGuard.Scope.Answer
import RentalGuard.Scope.World
import RentalGuard.Tenancy.Filter
import RentalGuard.Tenancy.Session

/-! The operations on the ambient context. Outside all blocks each of them fails and changes
nothing; only two do not need a context: the question whether there is one, and reading a
snapshot. -/

namespace RentalGuard

inductive AmbientOp where
  | isInitialized
  | current
  | companies
  | setCompanies (ids : List CompanyId)
  | isSuperAdmin
  | setSuperAdmin (superAdmin : Bool)
  | clear
  | scope
  /-- The text of a query that begins with `start`. -/
  | filter (start column : String)
  /-- The settings with which a connection is opened. -/
  | connect
  | takeSnapshot (name : String)
  | readSnapshot (name : String)

namespace AmbientOp

/-- An operation that only looks at the context. -/
def look (f : TenantContext → Answer) (w : World) : World × Answer :=
  match w.ambient with
  | some ctx => (w, f ctx)
  | none => (w, .noScope .notInitialized)

/-- An operation that puts another context in place. -/
def change (f : TenantContext → TenantContext) (w : World) : World × Answer :=
  match w.ambient with
  | some ctx => ({ w with ambient := some (f ctx) }, .done)
  | none => (w, .noScope .notInitialized)

def run : AmbientOp → World → World × Answer
  | isInitialized, w => (w, .flag w.ambient.isSome)
  | current, w => look .context w
  | companies, w => look (fun ctx => .companies ctx.companies) w
  | setCompanies ids, w => change (·.setCompanies ids) w
  | isSuperAdmin, w => look (fun ctx => .flag ctx.superAdmin) w
  | setSuperAdmin superAdmin, w => change (·.setSuperAdmin superAdmin) w
  | clear, w => change (fun _ => .empty) w
  | scope, w => look (fun ctx => .companyScope ctx.scope) w
  | filter start column, w =>
    look (fun ctx => .text ((Sql.Query.start start).filter (ctx.scope.condition column)).text) w
  | connect, w =>
    match w.ambient with
    | some ctx => (w, .session (.ofContext ctx))
    | none => (w, .failed (.scope .notInitialized))
  | takeSnapshot name, w =>
    match w.ambient with
    | some ctx => ({ w with snapshots := (name, ctx.companies) :: w.snapshots }, .done)
    | none => (w, .noScope .notInitialized)
  | readSnapshot name, w => (w, .snapshot (w.snapshots.lookup name))

end AmbientOp

end RentalGuard
