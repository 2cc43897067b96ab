import RentalGuard.Tenancy.Context
import RentalGuard.Text.Parts

/-! The session settings of a database connection, from which the database decides for itself
which rows it shows. -/

namespace RentalGuard

/-- The settings of a session: the identifiers with commas between them, and the right to see
everything. -/
structure SessionSettings where
  companyIds : String
  superAdmin : Bool
deriving DecidableEq, Repr

namespace SessionSettings

def separator : Char := ','

def ofContext (ctx : TenantContext) : SessionSettings :=
  ⟨String.ofList (Text.joined separator (ctx.companyNames.map String.toList)), ctx.superAdmin⟩

/-- The identifiers of a setting. An empty setting has none. -/
def companies (settings : SessionSettings) : List String :=
  if settings.companyIds.toList.isEmpty then []
  else (Text.parts separator settings.companyIds.toList).map String.ofList

/-- Whether the row policy lets a row with this owner through. -/
def admits (settings : SessionSettings) (cell : Option String) : Bool :=
  settings.superAdmin || match cell with
    | none => true
    | some company => settings.companies.contains company

end SessionSettings

end RentalGuard
