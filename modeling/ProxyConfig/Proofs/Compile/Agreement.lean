import ProxyConfig.Proofs.Compile.Plan
import ProxyConfig.Proofs.Node.CommonView

/-!
# Agreement of the two documents

The documents of one model describe the same nodes and the same groups, whatever the format and the
options.  They write the time between two tests in different ways, one as a number of seconds and
the other as a text with a unit; the view of a group has the text.

Main results:

- `groupViews_assemble`: both documents of a plan have the groups of the plan.
- `documents_agree`: entries, lists of entries and groups have the same views in both documents.
-/

namespace ProxyConfig

/-- The parameters of an automatic test. -/
structure TestView where
  url : String
  interval : String
  tolerance : Nat
deriving DecidableEq

/-- A group with everything that both documents say about it. -/
structure GroupView where
  name : String
  members : List String
  /-- The test by which the group chooses; missing when it is chosen by hand. -/
  test : Option TestView
deriving DecidableEq

/-- The view of the way in which a group chooses. -/
def GroupKind.testView? : GroupKind → Option TestView
  | .select => none
  | .urlTest url interval tolerance => some ⟨url, toString interval ++ "s", tolerance⟩

/-- The view of a group. -/
def Group.view (g : Group) : GroupView :=
  ⟨g.name, g.members, g.kind.testView?⟩

namespace SingBox

/-- The view of an outbound that is a group. -/
def OutboundEntry.groupView? : OutboundEntry → Option GroupView
  | .selector tag members _ => some ⟨tag, members, none⟩
  | .urlTest tag members url interval tolerance _ =>
    some ⟨tag, members, some ⟨url, interval, tolerance⟩⟩
  | .proxy _ | .direct | .block => none

/-- The groups of a document, in order. -/
def Document.groupViews (d : Document) : List GroupView :=
  d.outbounds.filterMap OutboundEntry.groupView?

@[simp]
theorem groupView?_ofGroup (mobile : Bool) (g : Group) :
    (OutboundEntry.ofGroup mobile g).groupView? = some g.view := by
  unfold OutboundEntry.ofGroup Group.view
  cases g.kind <;> rfl

/-- A document has the groups of its plan. -/
theorem groupViews_assemble (plan : Plan) :
    (Document.assemble plan).groupViews = plan.groups.map Group.view := by
  have hgroups : (plan.groups.map (OutboundEntry.ofGroup plan.mobile)).filterMap
      OutboundEntry.groupView? = plan.groups.map Group.view := by
    rw [List.filterMap_map, ← List.filterMap_eq_map]
    congr 1
    funext g
    exact groupView?_ofGroup plan.mobile g
  have hproxies : ((encodeAll plan.nodes).map OutboundEntry.proxy).filterMap
      OutboundEntry.groupView? = [] := by
    rw [List.filterMap_map, List.filterMap_eq_nil_iff]
    intro p hp
    rfl
  unfold Document.groupViews Document.assemble
  rw [List.filterMap_append, List.filterMap_append, hgroups, hproxies]
  simp [OutboundEntry.groupView?]

end SingBox

namespace Clash

/-- The view of a group of the document. -/
def ProxyGroup.view (g : ProxyGroup) : GroupView :=
  ⟨g.name, g.proxies, g.kind.testView?⟩

/-- The groups of a document, in order. -/
def Document.groupViews (d : Document) : List GroupView :=
  d.groups.map ProxyGroup.view

/-- A document has the groups of its plan. -/
theorem groupViews_assemble (plan : Plan) :
    (Document.assemble plan).groupViews = plan.groups.map Group.view := by
  unfold Document.groupViews Document.assemble
  rw [List.map_map]
  rfl

end Clash

/-- The groups of a plan depend on the model alone. -/
theorem map_groups_prepare (model : Model) (options options' : CompileOptions) :
    (Plan.prepare model options).map Plan.groups = (Plan.prepare model options').map Plan.groups := by
  unfold Plan.prepare
  cases model.encodable <;> rfl

/-- The two documents describe the same proxies.

A record has an entry in one document exactly when it has one in the other, that is when its type is
known, and then both entries have the view of the options of the record.  The entries of a list of
nodes are those of the nodes that can be encoded, in the order of the list.  The documents of one
model have the same groups, in the same order. -/
theorem documents_agree :
    (∀ record : NodeRecord,
      (SingBox.encode record.toNode).isSome = record.toNode.isEncodable ∧
      (Clash.encode record.toNode).isSome = record.toNode.isEncodable ∧
      (record.toNode.isEncodable = true ↔ record.kind ∈ Protocol.names) ∧
      (SingBox.encode record.toNode).map SingBox.Proxy.view = record.toNode.view? ∧
      (Clash.encode record.toNode).map Clash.Proxy.view = record.toNode.view?) ∧
    (∀ nodes : List Node,
      List.Forall₂ (fun n s => SingBox.encode n = some s) (nodes.filter Node.isEncodable)
        (SingBox.encodeAll nodes) ∧
      List.Forall₂ (fun n p => Clash.encode n = some p) (nodes.filter Node.isEncodable)
        (Clash.encodeAll nodes) ∧
      (SingBox.encodeAll nodes).map SingBox.Proxy.view =
        (Clash.encodeAll nodes).map Clash.Proxy.view) ∧
    ∀ (model : Model) (options options' : CompileOptions),
      (Plan.prepare model options).map
          (fun plan => (SingBox.Document.assemble plan).groupViews) =
        (Plan.prepare model options').map
          fun plan => (Clash.Document.assemble plan).groupViews := by
  refine ⟨?_, ?_, ?_⟩
  · intro record
    exact ⟨SingBox.isSome_encode _, Clash.isSome_encode _, isEncodable_toNode_iff record,
      SingBox.map_view_encode _, Clash.map_view_encode _⟩
  · intro nodes
    refine ⟨SingBox.forall₂_encodeAll nodes, Clash.forall₂_encodeAll nodes, ?_⟩
    rw [SingBox.map_view_encodeAll, Clash.map_view_encodeAll]
  · intro model options options'
    have hsingBox : (Plan.prepare model options).map
        (fun plan => (SingBox.Document.assemble plan).groupViews) =
          ((Plan.prepare model options).map Plan.groups).map (List.map Group.view) := by
      simp only [SingBox.groupViews_assemble]
      cases Plan.prepare model options <;> rfl
    have hclash : (Plan.prepare model options').map
        (fun plan => (Clash.Document.assemble plan).groupViews) =
          ((Plan.prepare model options').map Plan.groups).map (List.map Group.view) := by
      simp only [Clash.groupViews_assemble]
      cases Plan.prepare model options' <;> rfl
    rw [hsingBox, hclash, map_groups_prepare model options options']

end ProxyConfig
