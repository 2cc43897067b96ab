import RentalGuard.Text.Blank

/-! The settings of the log. -/

namespace RentalGuard

/-- How entries are written: for programs, or for people. -/
inductive LogFormat where
  | json
  | pretty
deriving DecidableEq, Repr

namespace LogFormat

def variableName : String := "LOG_FORMAT"

def name : LogFormat → String
  | json => "json"
  | pretty => "pretty"

/-- Reads the name of a format. Blanks around it and the case of ASCII letters make no
difference. -/
def ofName? (s : String) : Option LogFormat :=
  match String.ofList ((Text.trim s.toList).map Char.toLower) with
  | "json" => some json
  | "pretty" => some pretty
  | _ => none

/-- The format that is set. An unknown name counts as none. -/
def read (lookup : String → Option String) : LogFormat :=
  ((lookup variableName).bind ofName?).getD pretty

end LogFormat

structure LogSettings where
  service : String
  format : LogFormat
  filter : String
deriving DecidableEq, Repr

namespace LogSettings

/-- The filter of a service that sets none. -/
def defaultFilter : String := "info,pedalhub=debug"

def read (service : String) (lookup : String → Option String) : LogSettings :=
  ⟨service, .read lookup, defaultFilter⟩

end LogSettings

end RentalGuard
