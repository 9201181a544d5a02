import CrateGraph.Config
import CrateGraph.Node
import CrateGraph.Policy

/-!
# The policy of a configuration

The binding is built again after the native crate, and whenever any native source in the
workspace changes. The consumer is built again after the binding, and watches its own
sources and the generated binding only, so that a change that leaves the binding as it is
goes no further.
-/

namespace CrateGraph

/-- What the build of the binding waits for and watches. -/
def bindingDefault (c : Config) (t : Triggers) : TargetDefault where
  dependsOn := [targetKey (c.graph.materializedName t.nativeCrate) Target.build]
  inputs := (Glob.projectRoot ++ "/**/*") :: c.sources.nativeSources

/-- What the build of the consumer waits for and watches. -/
def consumerDefault (t : Triggers) : TargetDefault where
  dependsOn := [targetKey t.bindingProject Target.build]
  inputs := t.consumerInputs ++ [t.bindingDir]

/-- The policy of a configuration. -/
def Policy.ofConfig (c : Config) : Policy :=
  let namedInputs := Table.empty.insert c.sources.namedInput c.sources.withManifests
  match c.triggers with
  | none => { Policy.empty with namedInputs }
  | some t =>
    { plugins := t.plugin.toList.map (⟨·, .empty⟩)
      targetDefaults := Table.empty
        |>.insert (targetKey t.bindingProject Target.build) (bindingDefault c t)
        |>.insert (targetKey t.consumerProject Target.build) (consumerDefault t)
      namedInputs }

end CrateGraph
