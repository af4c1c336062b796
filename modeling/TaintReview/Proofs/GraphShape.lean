import TaintReview.Proofs.FlowLinks

namespace TaintReview

/-!
# The shape of what is written back

What a write-back adds to a graph without faults of relationships, spelled out: for each endpoint
its node with the links to the entity, to the file and from the owner, and for each path its node
between two nodes that stand for its ends.  A link is there exactly when its other end is.

* `WrittenInTurn.within`, `WrittenInTurn.countP_links` — reading blocks against the final store,
  and counting links block by block;
* `Persistence.EndpointShape`, `Persistence.PathShape` — the shape of one block;
* `Persistence.persistAll_shape` — the shape of the whole.
-/

/-! ### Counting links -/

namespace WrittenInTurn

variable {α : Type} {block : List StoredNode → α → StoredNode → List Relationship → Prop}
  {stored nodes : List StoredNode} {items : List α} {links : List Relationship}

/-- Every block is written against a part of what is stored in the end, for one of the nodes. -/
theorem within (h : WrittenInTurn block stored items nodes links) {all : List StoredNode}
    (hall : stored ++ nodes <+: all) :
    WrittenInTurn (fun before a node own => before <+: all ∧ block before a node own) stored items
      nodes links := by
  induction h with
  | nil stored => exact .nil stored
  | @cons stored nodes a rest node links others first next ih =>
    rw [← List.singleton_append, ← List.append_assoc] at hall
    exact .cons ⟨(List.prefix_append _ _).trans hall, first⟩ (ih hall)

/-- Links that no block has are not there. -/
theorem countP_links_eq_zero (h : WrittenInTurn block stored items nodes links)
    (counts : Relationship → Bool)
    (hnone : ∀ before a node own, node ∈ nodes → block before a node own → own.countP counts = 0) :
    links.countP counts = 0 := by
  induction h with
  | nil stored => rfl
  | cons first next ih =>
    rw [List.countP_append, hnone _ _ _ _ List.mem_cons_self first,
      ih fun before a node own hnode => hnone before a node own (List.mem_cons_of_mem _ hnode)]

/-- Links that only the block of one node has, and has once, are there once. -/
theorem countP_links (h : WrittenInTurn block stored items nodes links)
    (hnodup : (nodes.map (·.id)).Nodup) {node : StoredNode} (hnode : node ∈ nodes)
    (counts : Relationship → Bool)
    (hcount : ∀ before a other own, other ∈ nodes → block before a other own →
      own.countP counts = if other.id = node.id then 1 else 0) : links.countP counts = 1 := by
  induction h with
  | nil stored => cases hnode
  | @cons stored nodes a rest head links others first next ih =>
    rw [List.map_cons, List.nodup_cons] at hnodup
    have hfirst := hcount _ _ _ _ List.mem_cons_self first
    have hrest : ∀ before a other own, other ∈ nodes → block before a other own →
        own.countP counts = if other.id = node.id then 1 else 0 :=
      fun before a other own hother => hcount before a other own (List.mem_cons_of_mem _ hother)
    rw [List.countP_append, hfirst]
    obtain rfl | hnode := List.mem_cons.mp hnode
    · -- The rest has other identities.
      have hzero : others.countP counts = 0 := by
        refine next.countP_links_eq_zero counts fun before a other own hother hblock => ?_
        have hne : other.id ≠ node.id := by
          intro heq
          exact hnodup.1 (heq ▸ List.mem_map_of_mem hother)
        rw [hrest before a other own hother hblock, if_neg hne]
      rw [if_pos rfl, hzero]
    · have hne : head.id ≠ node.id := by
        intro heq
        exact hnodup.1 (heq ▸ List.mem_map_of_mem hnode)
      rw [if_neg hne, ih hnodup.2 hnode hrest]

end WrittenInTurn

namespace Persistence

/-! ### Shapes -/

/-- Of the relationships that a new node is to have, each one given with its other end, those whose
    other end is stored. -/
def linksThere (stored : List StoredNode) (wanted : List (NodeId × Relationship)) :
    List Relationship :=
  (wanted.filter fun w => stored.any (·.id == w.1)).map (·.2)

/-- Nodes carry the name of their role. -/
theorem label_eq (role : Role) : label role = if role = .source then "Source" else "Sink" := by
  cases role <;> rfl

/-- Owners have the nodes of a role by its name. -/
theorem ownerType_eq (role : Role) :
    ownerType role = if role = .source then "HAS_SOURCE" else "HAS_SINK" := by
  cases role <;> rfl

/-- The shape of an endpoint's block.  The node represents the entity and is in its file, and its
    owner has it, which is the code graph or, where that is not known, the investigation. -/
structure EndpointShape (i : Investigation) (role : Role) (stored : List StoredNode) (e : Endpoint)
    (node : StoredNode) (links : List Relationship) : Prop where
  labels : node.labels = [if role = .source then "Source" else "Sink"]
  properties : node.properties = endpointProperties i.id e
  links : links = linksThere stored (
    [(e.nodeId, { start := node.id, target := e.nodeId, type := "REPRESENTS", properties := [] })]
    ++ e.fileNodeId.toList.map (fun file =>
      (file, { start := node.id, target := file, type := "IN_FILE", properties := [] }))
    ++ (i.graphId.or i.nodeId).toList.map (fun owner =>
      (owner, { start := owner, target := node.id
                type := if role = .source then "HAS_SOURCE" else "HAS_SINK", properties := [] })))

/-- The shape of a path's block.  The node is linked from a node that stands for its source and to
    one that stands for its sink, and the owner has it. -/
structure PathShape (i : Investigation) (stored : List StoredNode) (p : FlowPath)
    (node : StoredNode) (links : List Relationship) : Prop where
  labels : node.labels = ["DataFlowPath"]
  properties : node.properties = pathProperties i.id p
  links : ∃ ends : Role → StoredNode,
    (∀ role, ends role ∈ stored ∧
      standsFor i role (p.endpoint role).nodeId (ends role) = true) ∧
    links = flowLink node.id (ends .source).id .source :: flowLink node.id (ends .sink).id .sink ::
      linksThere stored ((i.graphId.or i.nodeId).toList.map fun owner =>
        (owner, { start := owner, target := node.id, type := "HAS_DATA_FLOW_PATH"
                  properties := [] }))

end Persistence

namespace Rules

variable {r : Rules} {stored : List StoredNode} {node : StoredNode}

/-- Without faults a link from a stored node is there exactly when its target is. -/
theorem link?_out (hfaults : r.failingTypes = []) (hnode : node ∈ stored) (target : NodeId)
    (type : String) : r.link? stored (node.id, target, type) =
      if stored.any (·.id == target) then
        some { start := node.id, target, type, properties := [] } else none := by
  have hstart : stored.any (·.id == node.id) = true :=
    List.any_eq_true.mpr ⟨node, hnode, beq_self_eq_true _⟩
  rw [link?, hfaults, hstart]
  rfl

/-- Without faults a link to a stored node is there exactly when its start is. -/
theorem link?_in (hfaults : r.failingTypes = []) (hnode : node ∈ stored) (start : NodeId)
    (type : String) : r.link? stored (start, node.id, type) =
      if stored.any (·.id == start) then
        some { start, target := node.id, type, properties := [] } else none := by
  have htarget : stored.any (·.id == node.id) = true :=
    List.any_eq_true.mpr ⟨node, hnode, beq_self_eq_true _⟩
  rw [link?, hfaults, htarget, Bool.and_true]
  rfl

end Rules

namespace Persistence

theorem linksThere_append (stored : List StoredNode) (first second : List (NodeId × Relationship)) :
    linksThere stored (first ++ second) = linksThere stored first ++ linksThere stored second := by
  simp only [linksThere, List.filter_append, List.map_append]

variable {r : Rules} {i : Investigation} {stored : List StoredNode} {node : StoredNode}
  {links : List Relationship}

/-- Links from a new node. -/
theorem filterMap_link?_out (hfaults : r.failingTypes = []) (hnode : node ∈ stored)
    (type : String) (targets : List NodeId) :
    (targets.map fun target => (node.id, target, type)).filterMap (r.link? stored) =
      linksThere stored (targets.map fun target =>
        (target, { start := node.id, target, type, properties := [] })) := by
  induction targets with
  | nil => rfl
  | cons target rest ih =>
    rw [List.map_cons, List.filterMap_cons, Rules.link?_out hfaults hnode, ih]
    cases hthere : stored.any (·.id == target) <;> simp [linksThere, hthere]

/-- Links to a new node. -/
theorem filterMap_link?_in (hfaults : r.failingTypes = []) (hnode : node ∈ stored)
    (type : String) (starts : List NodeId) :
    (starts.map fun start => (start, node.id, type)).filterMap (r.link? stored) =
      linksThere stored (starts.map fun start =>
        (start, { start, target := node.id, type, properties := [] })) := by
  induction starts with
  | nil => rfl
  | cons start rest ih =>
    rw [List.map_cons, List.filterMap_cons, Rules.link?_in hfaults hnode, ih]
    cases hthere : stored.any (·.id == start) <;> simp [linksThere, hthere]

/-- Without faults the block of an endpoint has its shape. -/
theorem EndpointBlock.shape {role : Role} {e : Endpoint} (hfaults : r.failingTypes = [])
    (h : EndpointBlock r i role stored e node links) :
    EndpointShape i role stored e node links where
  labels := label_eq role ▸ h.labels
  properties := h.properties
  links := by
    -- The wanted links, sorted by the end that is not the new node.
    have hwanted : endpointLinks i role e node.id =
        [e.nodeId].map (fun target => (node.id, target, "REPRESENTS")) ++
          e.fileNodeId.toList.map (fun target => (node.id, target, "IN_FILE")) ++
          i.owner?.toList.map (fun start => (start, node.id, ownerType role)) := by
      rw [endpointLinks]
      cases e.fileNodeId <;> cases i.owner? <;> rfl
    rw [h.links, hwanted, List.filterMap_append, List.filterMap_append,
      filterMap_link?_out hfaults h.mem, filterMap_link?_out hfaults h.mem,
      filterMap_link?_in hfaults h.mem, ownerType_eq, linksThere_append, linksThere_append]
    rfl

/-- Without faults the block of a path has its shape. -/
theorem PathBlock.shape {p : FlowPath} (hfaults : r.failingTypes = [])
    (h : PathBlock r i stored p node links) : PathShape i stored p node links where
  labels := h.labels
  properties := h.properties
  links := by
    obtain ⟨ends, hends, hlinks⟩ := h.links
    have hmem : ∀ role, ends role ∈ stored := fun role => List.mem_of_find?_eq_some (hends role)
    have hflows : r.failingTypes.contains flowType = false := by
      rw [hfaults]
      rfl
    -- Both flow links have their ends among the stored nodes, so that only the owner can be
    -- missing.
    have hwanted : pathLinks i (ends .source).id (ends .sink).id node.id =
        ((ends .source).id, node.id, flowType) :: (node.id, (ends .sink).id, flowType) ::
          i.owner?.toList.map fun start => (start, node.id, "HAS_DATA_FLOW_PATH") := by
      rw [pathLinks]
      cases i.owner? <;> rfl
    refine ⟨ends, fun role => ⟨hmem role, List.find?_some (hends role)⟩, ?_⟩
    rw [hlinks, hwanted, List.filterMap_cons_some (Rules.link?_of_mem hflows (hmem .source) h.mem),
      List.filterMap_cons_some (Rules.link?_of_mem hflows h.mem (hmem .sink)),
      filterMap_link?_in hfaults h.mem]
    rfl

/-! ### Flow links of a path -/

/-- Is it a flow link into the node, on the side of the source, or out of it, on that of the
    sink? -/
def isFlowOf (path : NodeId) : Role → Relationship → Bool
  | .source, rel => rel.type == flowType && rel.target == path
  | .sink, rel => rel.type == flowType && rel.start == path

/-- A block has one flow link into its own node and one out of it, and none of another path. -/
theorem PathShape.countP_isFlowOf {p : FlowPath} (h : PathShape i stored p node links)
    {path : NodeId} (hends : ∀ n ∈ stored, ∀ role id, standsFor i role id n = true → n.id ≠ path)
    (role : Role) : links.countP (isFlowOf path role) = if node.id = path then 1 else 0 := by
  obtain ⟨ends, hstands, hlinks⟩ := h.links
  have hne : ∀ side, ((ends side).id == path) = false :=
    fun side => beq_false_of_ne (hends _ (hstands side).1 side _ (hstands side).2)
  -- The owner's link is of another type.
  have howner : (linksThere stored ((i.graphId.or i.nodeId).toList.map fun owner =>
      (owner, { start := owner, target := node.id, type := "HAS_DATA_FLOW_PATH"
                properties := [] }))).countP (isFlowOf path role) = 0 := by
    refine List.countP_eq_zero.mpr fun rel hrel => ?_
    obtain ⟨⟨other, rel⟩, hmem, rfl⟩ := List.mem_map.mp hrel
    obtain ⟨owner, -, hrel⟩ := List.mem_map.mp (List.mem_filter.mp hmem).1
    cases hrel
    cases role <;> exact Bool.false_ne_true
  rw [hlinks, List.countP_cons, List.countP_cons, howner]
  cases role <;> simp [isFlowOf, flowLink, hne]

/-! ### The whole write-back -/

/-- Looking up entities works when its statements do not fail. -/
theorem finds_of_not_failing {g : Graph}
    (h : ∀ role, g.failingStatements.contains (findStatement role) = false) :
    finds g.rules = true := by
  rw [finds, Graph.rules, h .source, h .sink]
  rfl

/-- The blocks of endpoints have no flow links. -/
theorem countP_isFlowOf_of_endpoints {r : Rules} {role : Role} {es : List Endpoint}
    {nodes : List StoredNode} (h : WrittenInTurn (EndpointBlock r i role) stored es nodes links)
    (path : NodeId) (side : Role) : links.countP (isFlowOf path side) = 0 := by
  refine List.countP_eq_zero.mpr fun rel hrel hflow => ?_
  have htype := beq_false_of_ne (type_ne_flowType_of_writtenInTurn h hrel)
  cases side <;> rw [isFlowOf, htype] at hflow <;> exact Bool.false_ne_true hflow

/-- **The shape of a write-back.**  Without faults of relationships, and with a graph that looks
    entities up as it is asked to, the nodes and links that are added are those of the endpoints
    that the graph keeps and of the paths between them, each one in its shape.  Every path between
    written endpoints is asked for once, and is written if the graph keeps its node; it then has one
    flow link in and one out. -/
theorem persistAll_shape (i : Investigation) (sources sinks : List Endpoint) (paths : List FlowPath)
    (failedBefore : Nat) (s : Session) (hanswers : ∀ role, AnswersFind s.graph role)
    (hfinds : ∀ role, s.graph.failingStatements.contains (findStatement role) = false)
    (hfaults : s.graph.failingTypes = []) :
    let r := s.graph.rules
    let stored := s.graph.store.nodes
    let eligible := eligiblePaths r sources sinks paths
    let counts := (persistAll i sources sinks paths failedBefore).value s
    let g := ((persistAll i sources sinks paths failedBefore).after s).graph
    ∃ sourceNodes sourceLinks sinkNodes sinkLinks pathNodes pathLinks,
      WrittenInTurn (EndpointShape i .source) stored (kept (r.keeps "Source") sources)
        sourceNodes sourceLinks ∧
      WrittenInTurn (EndpointShape i .sink) (stored ++ sourceNodes)
        (kept (r.keeps "Sink") sinks) sinkNodes sinkLinks ∧
      WrittenInTurn (PathShape i) (stored ++ sourceNodes ++ sinkNodes)
        (kept (r.keeps "DataFlowPath") eligible) pathNodes pathLinks ∧
      g.store.nodes = stored ++ (sourceNodes ++ sinkNodes ++ pathNodes) ∧
      g.store.relationships =
        s.graph.store.relationships ++ (sourceLinks ++ sinkLinks ++ pathLinks) ∧
      g.attempts = s.graph.attempts ++ ((sources.map fun _ => ["Source"]) ++
        (sinks.map fun _ => ["Sink"]) ++ (eligible.map fun _ => ["DataFlowPath"])) ∧
      (counts.sources, counts.sinks, counts.paths) =
        (sourceNodes.length, sinkNodes.length, pathNodes.length) ∧
      (s.graph.HasRoomFor (sources.length + sinks.length + paths.length) →
        ∀ path ∈ pathNodes, ∀ role,
          (sourceLinks ++ sinkLinks ++ pathLinks).countP (isFlowOf path.id role) = 1) := by
  intro r stored eligible counts g
  have hfound : finds r = true := finds_of_not_failing hfinds
  have hwritten : writtenPaths r sources sinks paths = kept (r.keeps pathLabel) eligible := by
    rw [writtenPaths, writesPaths, hfound]
    rfl
  obtain ⟨hcount, hcount', hcount'', sourceNodes, sourceLinks, sinkNodes, sinkLinks, pathNodes,
    pathLinks, hsources, hsinks, hpaths, hstores⟩ :=
    persistAll_stores i sources sinks paths failedBefore s hanswers
  refine ⟨sourceNodes, sourceLinks, sinkNodes, sinkLinks, pathNodes, pathLinks,
    hsources.imp fun _ _ _ _ h => h.shape hfaults, hsinks.imp fun _ _ _ _ h => h.shape hfaults,
    hwritten ▸ hpaths.imp fun _ _ _ _ h => h.shape hfaults, hstores.nodes, hstores.relationships,
    ?_, ?_, ?_⟩
  · rw [hstores.attempts, hfound]
    rfl
  · rw [hcount, hcount', hcount'', ← hsources.length_nodes, ← hsinks.length_nodes,
      ← hpaths.length_nodes]
  · intro hroom path hpath role
    have hroom := hroom.mono (length_written_le hsources hsinks hpaths)
    have hpath' : path ∈ sourceNodes ++ sinkNodes ++ pathNodes := List.mem_append_right _ hpath
    obtain ⟨_, _, _, -, hblock⟩ := hpaths.exists_of_node hpath
    have hall : stored ++ sourceNodes ++ sinkNodes ++ pathNodes <+:
        stored ++ (sourceNodes ++ sinkNodes ++ pathNodes) :=
      ⟨[], by simp only [List.append_assoc, List.append_nil]⟩
    -- With room for all of them the new nodes have different identities.
    have hnodup : (pathNodes.map (·.id)).Nodup := by
      have h := hstores.nodup hroom
      rw [List.map_append] at h
      exact (List.nodup_append.mp h).2.1
    have hone : pathLinks.countP (isFlowOf path.id role) = 1 := by
      refine (hpaths.within hall).countP_links hnodup hpath _ ?_
      rintro before p node own - ⟨hbefore, hown⟩
      refine (hown.shape hfaults).countP_isFlowOf (fun n hn side id hstands hid => ?_) role
      -- What stands for an entity is no path, so it is another node than the path's.
      have heq := hstores.eq_of_id_eq hroom (hbefore.subset hn) hpath' hid
      rw [heq, not_standsFor_of_path hblock.labels] at hstands
      cases hstands
    rw [List.countP_append, List.countP_append, countP_isFlowOf_of_endpoints hsources,
      countP_isFlowOf_of_endpoints hsinks, hone]

/-- One source, one sink and the path between them, owned by the node of the investigation. -/
theorem persistAll_shape_twoFunctions :
    (∀ role, AnswersFind twoFunctions.graph role) ∧
      (∀ role, twoFunctions.graph.failingStatements.contains (findStatement role) = false) ∧
      twoFunctions.graph.failingTypes = [] ∧ twoFunctions.graph.HasRoomFor 3 ∧
      ∃ (path : StoredNode) (links : List Relationship), path.labels = ["DataFlowPath"] ∧
        ((persistAll { id := "x", nodeId := some 1 } [loads] [saves] [loadToSave] 0).after
          twoFunctions).graph.store.relationships = links ∧
        links.length = 7 ∧ ∀ role, links.countP (isFlowOf path.id role) = 1 := by
  obtain ⟨_, sourceLinks, _, sinkLinks, pathNodes, pathLinks, -, -, hpaths, -, hlinks, -, hcounts,
    hflows⟩ := persistAll_shape { id := "x", nodeId := some 1 } [loads] [saves] [loadToSave] 0
      twoFunctions answersFind_twoFunctions (fun _ => rfl) rfl
  have hone : ((persistAll { id := "x", nodeId := some 1 } [loads] [saves] [loadToSave] 0).value
      twoFunctions).paths = 1 := by decide +kernel
  have hseven : ((persistAll { id := "x", nodeId := some 1 } [loads] [saves] [loadToSave] 0).after
      twoFunctions).graph.store.relationships.length = 7 := by decide +kernel
  have hpath : 0 < pathNodes.length := by
    have hcount := congrArg (·.2.2) hcounts
    dsimp only at hcount
    omega
  obtain ⟨path, hpath⟩ := List.exists_mem_of_length_pos hpath
  obtain ⟨_, _, _, -, hshape⟩ := hpaths.exists_of_node hpath
  rw [hlinks] at hseven
  have hroom : twoFunctions.graph.HasRoomFor 3 := hasRoomFor_twoFunctions.mono (by decide)
  exact ⟨answersFind_twoFunctions, fun _ => rfl, rfl, hroom, path, _, hshape.labels, hlinks,
    hseven, hflows hroom path hpath⟩

end Persistence

end TaintReview
