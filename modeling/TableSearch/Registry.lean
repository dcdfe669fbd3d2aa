import TableSearch.Source

/-!
# Registered sources

Sources in the order of their registration, no two of one name.
-/
namespace TableSearch

/-- The registered sources, with distinct names. -/
structure Registry where
  sources : List Source
  distinct : (sources.map (·.name)).Nodup := by exact List.nodup_nil

/-- A source of that name is registered already. -/
structure NameTaken where
  name : String
  deriving DecidableEq, Repr, Inhabited

def NameTaken.message (e : NameTaken) : String := "source '" ++ e.name ++ "' is already registered"

/-- What a listing shows of a source. -/
structure Entry where
  name : String
  label : String
  className : String
  kind : SourceKind
  deriving DecidableEq, Repr, Inhabited

namespace Registry

def empty : Registry := ⟨[], List.nodup_nil⟩

instance : Inhabited Registry := ⟨empty⟩

/-- Register a source after the others, unless its name is taken. -/
def register (r : Registry) (s : Source) : Except NameTaken Registry :=
  if h : s.name ∈ r.sources.map (·.name) then .error ⟨s.name⟩
  else .ok ⟨r.sources ++ [s], by
    rw [List.map_append, List.nodup_append]
    refine ⟨r.distinct, by simp, ?_⟩
    intro a ha b hb e
    simp only [List.map_cons, List.map_nil, List.mem_singleton] at hb
    exact h (hb ▸ e ▸ ha)⟩

def registerAll (r : Registry) : List Source → Except NameTaken Registry
  | [] => .ok r
  | s :: ss => do registerAll (← r.register s) ss

def get? (r : Registry) (name : String) : Option Source := r.sources.find? (·.name == name)

def entries (r : Registry) : List Entry :=
  r.sources.map fun s => ⟨s.name, s.label, s.className, s.kind⟩

end Registry

end TableSearch
