import TaintReview.Graph.Handlers
import TaintReview.Proofs.Accounting
import TaintReview.Proofs.Members

namespace TaintReview

/-!
# Entities and how they are found again

A node that was written for an endpoint carries the endpoint's node and the investigation among
its properties, and by these two it is found again when a path is written.

* `Persistence.get?_endpointProperties` — the properties of a node are the members of the endpoint,
  less those that are `null`;
* `Persistence.standsFor` — the node stands for an entity in a role, which is so of every node
  that is written for an endpoint and of none that is written for a path;
* `Persistence.AnswersFind` — the statement that looks for entities is answered as it is written;
* `Persistence.value_findEndpoint` — then a search gives the first node in the store that stands
  for the entity.
-/

/-- The end of a path in a role. -/
def FlowPath.endpoint (p : FlowPath) : Role → Endpoint
  | .source => p.source
  | .sink => p.sink

namespace Persistence

/-! ### Nodes that stand for entities -/

/-- No two members of an endpoint have one key. -/
theorem nodup_toFields (e : Endpoint) : (e.toFields.map (·.1)).Nodup := by
  simp only [Endpoint.toFields, List.map_cons, List.map_nil]
  decide

/-- Other properties than the metadata and the investigation are the members that are not
    `null`. -/
theorem get?_endpointProperties (investigation : String) (e : Endpoint) {key : String}
    (hmetadata : key ≠ "metadata") (hinvestigation : key ≠ "investigation_id") :
    (endpointProperties investigation e).get? key =
      (e.toFields.get? key).filter fun v => !isNull v := by
  rw [endpointProperties, Fields.get?_insert_of_ne hinvestigation,
    Fields.get?_insert_of_ne hmetadata, Fields.get?_filter_of_nodup (nodup_toFields e)]
  simp only [bne_iff_ne.mpr hmetadata, Bool.true_and]

/-- The node of the endpoint is among the properties. -/
theorem nodeId_endpointProperties (investigation : String) (e : Endpoint) :
    (endpointProperties investigation e).get? "node_id" = some (.ofInt64 e.nodeId) := by
  rw [get?_endpointProperties investigation e (by decide) (by decide)]
  rfl

theorem investigation_endpointProperties (investigation : String) (e : Endpoint) :
    (endpointProperties investigation e).get? "investigation_id" =
      some (.string investigation) := by
  rw [endpointProperties, Fields.get?_insert_self]

/-- Does the node stand for the entity in a role, for the investigation? -/
def standsFor (i : Investigation) (role : Role) (id : NodeId) (n : StoredNode) : Bool :=
  Handler.isEntity (label role) (.string i.id) (.ofInt64 id) n

/-- The node of an endpoint stands for its entity. -/
theorem standsFor_of_endpoint {i : Investigation} {role : Role} {e : Endpoint} {n : StoredNode}
    (hlabels : n.labels = [label role]) (hproperties : n.properties = endpointProperties i.id e) :
    standsFor i role e.nodeId n = true := by
  have hlabel : n.hasLabel (label role) = true := by
    rw [StoredNode.hasLabel, hlabels, List.contains_cons, beq_self_eq_true, Bool.true_or]
  have hnode : n.hasProperty "node_id" (.ofInt64 e.nodeId) = true := by
    rw [StoredNode.hasProperty, hproperties, nodeId_endpointProperties]
    exact beq_self_eq_true e.nodeId.toInt
  have hinvestigation : n.hasProperty "investigation_id" (.string i.id) = true := by
    rw [StoredNode.hasProperty, hproperties, investigation_endpointProperties]
    exact beq_self_eq_true i.id
  rw [standsFor, Handler.isEntity, hlabel, hnode, hinvestigation]
  rfl

/-- The node of a path stands for no entity. -/
theorem not_standsFor_of_path {n : StoredNode} (hlabels : n.labels = [pathLabel])
    (i : Investigation) (role : Role) (id : NodeId) : standsFor i role id n = false := by
  have hlabel : n.hasLabel (label role) = false := by
    rw [StoredNode.hasLabel, hlabels]
    cases role <;> decide
  rw [standsFor, Handler.isEntity, hlabel]
  rfl

/-! ### Finding entities -/

/-- The statement that finds a role's nodes is answered as it is written: its first row has the
    identity of the first node in the store that stands for the entity asked for, and there is no
    row when there is no such node.  It asks for one row, so that further ones do not matter. -/
def AnswersFind (g : Graph) (role : Role) : Prop :=
  ∃ handler, g.handlers.lookup (findStatement role) = some handler ∧ ∀ parameters store, ∃ rows,
    (handler parameters store).rows = .ok rows ∧
    rows.head?.map (Record.int? · "id") =
      (store.nodes.find? (Handler.isEntity (label role)
        (Handler.parameter parameters "investigation_id")
        (Handler.parameter parameters "node_id"))).map fun n => some n.id

/-- The integer of a word fits a word again. -/
theorem int64OfInt?_toInt (n : Int64) : int64OfInt? n.toInt = some n := by
  have hlow := n.le_toInt
  have hhigh := n.toInt_lt
  rw [int64OfInt?, if_pos ⟨by omega, by omega⟩, Int64.ofInt_toInt]

/-- A handler that lists the nodes of the role does. -/
theorem answersFind_of_entities {g : Graph} {role : Role}
    (h : g.handlers.lookup (findStatement role) = some (Handler.entities (label role))) :
    AnswersFind g role := by
  refine ⟨_, h, fun parameters store => ⟨_, rfl, ?_⟩⟩
  rw [List.head?_map, Option.map_map, List.head?_filter]
  refine Option.map_congr fun n _ => ?_
  exact int64OfInt?_toInt n.id

/-- A statement that is to fail fails, whatever its parameters. -/
theorem rows_of_failing {g : Graph} {statement : String}
    (h : g.failingStatements.contains statement = true) (parameters : Parameters) :
    ∃ e, g.rows statement parameters = .error e := by
  rw [Graph.rows, Graph.answer?, if_pos h]
  exact ⟨_, rfl⟩

/-- A statement that is not to fail is answered by its handler. -/
theorem rows_of_lookup {g : Graph} {statement : String} {handler : Handler}
    (hfailing : g.failingStatements.contains statement = false)
    (h : g.handlers.lookup statement = some handler) (parameters : Parameters) :
    g.rows statement parameters = (handler parameters g.store).rows := by
  rw [Graph.rows, Graph.answer?, if_neg (Bool.eq_false_iff.mp hfailing), h]
  rfl

/-- What a search for an entity finds: the first node that stands for it. -/
theorem value_findEndpoint {i : Investigation} {role : Role} {s : Session}
    (hfailing : s.graph.failingStatements.contains (findStatement role) = false)
    (h : AnswersFind s.graph role) (e : Endpoint) :
    (findEndpoint i role e).value s =
      .ok ((s.graph.store.nodes.find? (standsFor i role e.nodeId)).map (·.id)) := by
  obtain ⟨handler, hlookup, hrows⟩ := h
  obtain ⟨rows, hanswer, hfirst⟩ := hrows
    [("investigation_id", .string i.id), ("node_id", .ofInt64 e.nodeId)] s.graph.store
  have hfound : (findEntity i role e.nodeId).value s =
      .ok ((s.graph.store.nodes.find? (standsFor i role e.nodeId)).map (·.id)) := by
    -- Only the first row is looked at, and it has the identity of the first such node.
    have hid : rows.head?.bind (Record.int? · "id") =
        (s.graph.store.nodes.find? (standsFor i role e.nodeId)).map (·.id) := by
      have hfirst : rows.head?.map (Record.int? · "id") =
          (s.graph.store.nodes.find? (standsFor i role e.nodeId)).map fun n => some n.id := hfirst
      cases hfound : s.graph.store.nodes.find? (standsFor i role e.nodeId) with
      | none =>
        rw [hfound] at hfirst
        rw [Option.map_eq_none_iff.mp hfirst]
        rfl
      | some n =>
        rw [hfound] at hfirst
        obtain ⟨row, hrow, hid⟩ := Option.map_eq_some_iff.mp hfirst
        rw [hrow]
        exact hid
    rw [findEntity, ReviewM.value_bind, ReviewM.value_query, rows_of_lookup hfailing hlookup,
      hanswer]
    exact congrArg Except.ok hid
  rw [findEndpoint, ReviewM.value_bind_of_ok hfound]
  split <;> rfl

end Persistence

end TaintReview
