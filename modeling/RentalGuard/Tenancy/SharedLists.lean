import Mathlib.Data.List.Dedup
import RentalGuard.Tenancy.History

/-! The changes of a context over lists that are shared. A context and its snapshots know a list by
its number, so that taking a snapshot copies nothing. A change never touches a list that has been
made; it makes another one. Repetitions are left out by a filter that remembers in a hash set what
has come before. -/

namespace RentalGuard

/-- The items that are not in `seen`, each when it comes for the first time. -/
def keepUnseen {α : Type} [BEq α] [Hashable α] (seen : Std.HashSet α) : List α → List α
  | [] => []
  | a :: rest =>
    let (known, seen) := seen.containsThenInsert a
    if known then keepUnseen seen rest else a :: keepUnseen seen rest

instance : Hashable CompanyId := ⟨fun id => hash id.text⟩

structure SharedHistory where
  /-- All lists, the newest last. -/
  lists : List (List CompanyId)
  /-- The number of the list of the context. -/
  current : Nat
  superAdmin : Bool
  /-- The numbers of the lists of the snapshots, the newest first. -/
  snapshots : List (String × Nat)

namespace SharedHistory

def start (ctx : TenantContext) : SharedHistory := ⟨[ctx.companies], 0, ctx.superAdmin, []⟩

/-- Makes a list and gives it to the context. -/
def make (h : SharedHistory) (ids : List CompanyId) : SharedHistory :=
  { h with lists := h.lists ++ [ids], current := h.lists.length }

def apply (h : SharedHistory) : ContextChange → SharedHistory
  | .setCompanies ids => h.make (keepUnseen ∅ ids)
  | .setSuperAdmin superAdmin => { h with superAdmin }
  | .clear => { h.make [] with superAdmin := false }
  | .takeSnapshot name => { h with snapshots := (name, h.current) :: h.snapshots }

def after (ctx : TenantContext) (changes : List ContextChange) : SharedHistory :=
  changes.foldl apply (start ctx)

/-- What stands in the list with this number now. -/
def read (h : SharedHistory) (n : Nat) : List CompanyId := h.lists.getD n []

def companies (h : SharedHistory) : List CompanyId := h.read h.current

/-- The snapshots with their lists, as they are read now. -/
def taken (h : SharedHistory) : List (String × List CompanyId) :=
  h.snapshots.map fun (name, n) => (name, h.read n)

end SharedHistory

end RentalGuard
