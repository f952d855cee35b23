import Lookout.Probe.Pattern
import Lookout.Text.Escape

/-!
# Probes and the registry

A probe is declared by its name, the arguments that it accepts, whether its target is a host to be
resolved, and a text that shows its use. A registry holds probes by name; no name is taken twice.
-/

namespace Lookout
set_option autoImplicit false

/-- The declaration of a probe. -/
structure Probe where
  name : String
  /-- The accepted arguments, each with the pattern that its value must match. -/
  arguments : List (String × Pattern) := []
  /-- Whether the target is resolved and the probe run once for each address. -/
  resolves : Bool := true
  /-- What a user is shown about the probe. -/
  usage : String := ""
deriving Inhabited

/-- The text that some lines make up. -/
def Probe.lines (ls : List String) : String :=
  String.intercalate "\n" ls

/-- Why a registry cannot do what it is asked. -/
inductive RegistryError where
  | unknownProbe (name : String)
  | duplicate (name : String)
deriving DecidableEq

namespace RegistryError

def message : RegistryError → String
  | unknownProbe name => "Unknown probe type: " ++ name
  | duplicate name => "Probe type registered twice: " ++ name

end RegistryError

/-- The probes that can be run, in the order in which they were registered. -/
structure Registry where
  probes : List Probe := []
  nodup : (probes.map Probe.name).Nodup := by simp

namespace Registry

instance : Inhabited Registry := ⟨{}⟩

/-- The probe named `name`. -/
def get? (r : Registry) (name : String) : Option Probe :=
  r.probes.find? (·.name == name)

def contains (r : Registry) (name : String) : Bool :=
  (r.get? name).isSome

/-- The registry with one more probe, unless its name is taken. -/
def register (r : Registry) (p : Probe) : Except RegistryError Registry :=
  if h : p.name ∈ r.probes.map Probe.name then .error (.duplicate p.name)
  else .ok ⟨r.probes ++ [p], by
    rw [List.map_append, List.nodup_append]
    refine ⟨r.nodup, by simp, ?_⟩
    rintro a ha b hb rfl
    simp only [List.map_cons, List.map_nil, List.mem_singleton] at hb
    exact h (hb ▸ ha)⟩

/-- Registers probes one after the other. -/
def ofList (probes : List Probe) : Except RegistryError Registry :=
  probes.foldlM register {}

/-- The registered names, ascending. -/
def names (r : Registry) : List String :=
  (r.probes.map Probe.name).mergeSort fun a b => decide (a ≤ b)

/-- A registry as it is shown for diagnosis. -/
def description (r : Registry) : String :=
  "ProbeRegistry \x7b probes: [" ++ String.intercalate ", " (r.names.map Text.quoted) ++ "] \x7d"

end Registry

end Lookout
