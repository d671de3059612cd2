import HostBinder.Proofs.Entries
import HostBinder.Proofs.Hierarchy.Chain
import HostBinder.Schema.Basic

set_option autoImplicit false

namespace HostBinder

namespace Schema

open Relation

variable {s : Schema}

def Extends (s : Schema) (path parent : String) : Prop :=
  ∃ c, s.get? path = some (.component c) ∧ c.extends? = some parent

/-- `base` is `path` or one of its ancestors in the schema. -/
def Reaches (s : Schema) (path base : String) : Prop := ReflTransGen s.Extends path base

theorem hierarchy_supertype? (s : Schema) (path : String) :
    s.hierarchy.supertype? path = ((s.get? path).bind Node.component?).bind Component.extends? := by
  have hedges : s.hierarchy.edges =
      s.components.foldl (fun t e => t.insert e.1 e.2.extends?) (∅ : Hierarchy).edges :=
    (List.foldl_hom Hierarchy.edges fun _ _ => rfl).symm
  have hdiffer := s.nodes.increasing.differ
  have hget := SortedTable.get?_foldl_insert Component.extends? (hdiffer.filterMap Node.component?)
    (∅ : Hierarchy).edges path
  rw [lookup_filterMap _ hdiffer] at hget
  rw [Hierarchy.supertype?, hedges, components, hget]
  cases hc : (s.nodes.entries.lookup path).bind Node.component? with
  | none => simp [get?, SortedTable.get?, hc]; rfl
  | some c => simp [get?, SortedTable.get?, hc]

theorem hierarchy_extends : s.hierarchy.Extends = s.Extends := by
  funext path parent
  rw [Hierarchy.Extends, hierarchy_supertype?, Extends]
  apply propext
  constructor
  · intro h
    obtain ⟨c, hc, hp⟩ := Option.bind_eq_some_iff.mp h
    obtain ⟨n, hn, hcomp⟩ := Option.bind_eq_some_iff.mp hc
    cases n with
    | component _ => cases hcomp; exact ⟨c, hn, hp⟩
    | host _ => cases hcomp
  · intro hx
    obtain ⟨c, hc, hp⟩ := hx
    rw [hc]
    exact hp

theorem hierarchy_conforms_iff {type base : String} :
    s.hierarchy.conforms type base = true ↔ s.Reaches type base := by
  rw [Hierarchy.conforms, List.contains_iff_mem, Hierarchy.mem_ancestors_iff, hierarchy_extends, Reaches]

instance (type base : String) : Decidable (s.Reaches type base) :=
  decidable_of_iff _ hierarchy_conforms_iff

end Schema

end HostBinder
