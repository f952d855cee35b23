import Lookout.Retry
import Lookout.Url.Parser

/-!
# Resolution of targets

The host of a target is looked up and the addresses found are filtered by family. Each address is kept
once, in the order of the answer.
-/

namespace Lookout
set_option autoImplicit false

/-- Why a target has no addresses. -/
inductive ResolveError where
  | invalidUri (target reason : String)
  | lookup (host : String)
deriving DecidableEq

namespace ResolveError

def message : ResolveError → String
  | invalidUri target reason => "Failed to parse target URI " ++ target ++ ": " ++ reason
  | lookup host => "Failed to resolve name " ++ host

end ResolveError

/-- Whether a target is written as a URI. -/
def isUri (target : String) : Bool :=
  Text.occursIn "://".toList target.toList

/-- The host of a target: that of a URI, or else the whole target. -/
def hostOf (target : String) : Except ResolveError String :=
  if isUri target then
    match Url.ofText target with
    | .error e => .error (.invalidUri target e.message)
    | .ok url =>
      match url.host? with
      | some host => .ok host.text
      | none => .error (.invalidUri target "no host component")
  else .ok target

namespace Families

/-- Whether an address belongs to an enabled family. -/
def allows (f : Families) : Address → Bool
  | .v4 _ => f.ipv4
  | .v6 _ => f.ipv6

end Families

/-- The texts of addresses without repetition, each where it comes first. -/
def distinct : List String → List String
  | [] => []
  | t :: r => t :: (distinct r).filter (· != t)

theorem mem_distinct_iff {s : String} {l : List String} : s ∈ distinct l ↔ s ∈ l := by
  induction l with
  | nil => rfl
  | cons t r ih =>
    rw [distinct, List.mem_cons, List.mem_filter, ih, List.mem_cons]
    by_cases same : s = t
    · simp [same]
    · simp [same]

theorem nodup_distinct (l : List String) : (distinct l).Nodup := by
  induction l with
  | nil => exact List.nodup_nil
  | cons t r ih =>
    refine List.nodup_cons.2 ⟨?_, ih.sublist List.filter_sublist⟩
    simp

/-- The targets that an answer of the lookup leads to. -/
def targetsOf (families : Families) (found : List Address) : List String :=
  distinct (((found.map Address.canonical).filter families.allows).map Address.text)

/-- The targets of a host by the answer of its lookup. -/
def resolved (families : Families) (host : String) :
    Option (List Address) → Except ResolveError (List String)
  | none => .error (.lookup host)
  | some found => .ok (targetsOf families found)

/-- The addresses of `host` by itself: those of an address are that address. -/
def literalLookup (host : String) : Option (List Address) :=
  (Address.ofText? host).map ([·])

end Lookout
