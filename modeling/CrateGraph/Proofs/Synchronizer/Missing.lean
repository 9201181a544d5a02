import CrateGraph.Proofs.Synchronizer.Operation

/-!
# Crates that are reported as missing

A crate on the allow-list is missing if no package inside the workspace has its name. The
report looks at nothing but these names, so two workspaces whose packages have the same names
cannot be told apart by it, whatever else they hold and in whichever order.

## Main results

* `Workspace.member?_eq_none_iff` — when a search by name fails.
* `reportedAlike_of_names` — what the report depends on.
-/

namespace CrateGraph

theorem Workspace.member?_eq_none_iff (w : Workspace) (name : String) :
    w.member? name = none ↔ name ∉ w.members.map Package.name := by
  rw [Workspace.member?, List.find?_eq_none]
  simp

/-- Whether the same crates are reported as missing from two workspaces, by any synchronizers
with the given configuration that read the one and the other. -/
def ReportedAlike (c : Config) (w w' : Workspace) : Prop :=
  ∀ (σ σ' : Type) (s : Synchronizer σ) (s' : Synchronizer σ') (root root' : Path)
    (p : Progress σ) (p' : Progress σ'), s.config = c → s'.config = c →
      ((s.metadata root).run p).1 = w → ((s'.metadata root').run p').1 = w' →
        ((s.missingExplicit root).run p).1 = ((s'.missingExplicit root').run p').1

/-- The report depends on the names of the packages inside the workspace only. -/
theorem reportedAlike_of_names (c : Config) {w w' : Workspace}
    (h : ∀ name, name ∈ w.members.map Package.name ↔ name ∈ w'.members.map Package.name) :
    ReportedAlike c w w' := by
  have hmember : ∀ name, (w.member? name).isNone = (w'.member? name).isNone := by
    intro name
    rw [Bool.eq_iff_iff, Option.isNone_iff_eq_none, Option.isNone_iff_eq_none,
      Workspace.member?_eq_none_iff, Workspace.member?_eq_none_iff, h]
  intro σ σ' s s' root root' p p' hs hs' hw hw'
  rw [Synchronizer.run_missingExplicit (Prod.eta _).symm,
    Synchronizer.run_missingExplicit (Prod.eta _).symm, hs, hs', hw, hw']
  exact List.filter_congr fun name _ => hmember name

end CrateGraph
