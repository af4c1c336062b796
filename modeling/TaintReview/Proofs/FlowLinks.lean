import TaintReview.Proofs.WriteBack

namespace TaintReview

namespace Persistence

/-!
# The links of paths

A path's node is linked from the entity of its source and to the entity of its sink, and both
entities are looked up in the whole store.  Of several nodes that stand for one entity the first
counts, so that a node which was there before a write-back hides the one that it creates.

* `PathBlock.mem_flowLinks` — the flow links that are written for a path;
* `FlowLinksWithin` — all flow links join new path nodes to new entities;
* `flowLinks_within_iff` — when a write-back keeps its flow links to what it created itself.
-/

/-! ### Flow links -/

/-- The type of the links between a path's node and its entities. -/
def flowType : String := "FLOWS_TO"

/-- The link between a path's node and its entity in a role. -/
def flowLink (path entity : NodeId) : Role → Relationship
  | .source => { start := entity, target := path, type := flowType, properties := [] }
  | .sink => { start := path, target := entity, type := flowType, properties := [] }

end Persistence

namespace Rules

variable {r : Rules} {stored : List StoredNode} {rel : Relationship} {start target : NodeId}
  {type : String}

/-- A link between stored nodes is stored if its type does not fail. -/
theorem link?_of_mem {a b : StoredNode} (hfailing : r.failingTypes.contains type = false)
    (ha : a ∈ stored) (hb : b ∈ stored) :
    r.link? stored (a.id, b.id, type) =
      some { start := a.id, target := b.id, type, properties := [] } := by
  have hstart : stored.any (·.id == a.id) = true := List.any_eq_true.mpr ⟨a, ha, beq_self_eq_true _⟩
  have htarget : stored.any (·.id == b.id) = true :=
    List.any_eq_true.mpr ⟨b, hb, beq_self_eq_true _⟩
  rw [link?, hfailing, hstart, htarget]
  rfl

/-- What is stored for a link has the type asked for, which does not fail. -/
theorem type_of_link? (h : r.link? stored (start, target, type) = some rel) :
    rel.type = type ∧ r.failingTypes.contains type = false := by
  rw [link?] at h
  split at h
  · next hcond =>
    cases h
    rw [Bool.and_eq_true, Bool.and_eq_true, Bool.not_eq_true'] at hcond
    exact ⟨rfl, hcond.1.1⟩
  · cases h

end Rules

namespace Persistence

/-- **The flow links of a path** are two, to the first nodes in the store that stand for its ends;
    there are none if their type fails. -/
theorem PathBlock.mem_flowLinks {r : Rules} {i : Investigation} {stored : List StoredNode}
    {p : FlowPath} {node : StoredNode} {links : List Relationship}
    (h : PathBlock r i stored p node links) :
    ∃ ends : Role → StoredNode,
      (∀ role, stored.find? (standsFor i role (p.endpoint role).nodeId) = some (ends role)) ∧
      ∀ rel, rel ∈ links ∧ rel.type = flowType ↔
        r.failingTypes.contains flowType = false ∧
          ∃ role, rel = flowLink node.id (ends role).id role := by
  obtain ⟨ends, hends, hlinks⟩ := h.links
  have hmem : ∀ role, ends role ∈ stored := fun role => List.mem_of_find?_eq_some (hends role)
  refine ⟨ends, hends, fun rel => ⟨?_, ?_⟩⟩
  · rintro ⟨hrel, htype⟩
    rw [hlinks] at hrel
    obtain ⟨⟨start, target, type⟩, hwanted, hlink⟩ := List.mem_filterMap.mp hrel
    obtain ⟨htype', hfailing⟩ := Rules.type_of_link? hlink
    obtain rfl : type = flowType := htype'.symm.trans htype
    refine ⟨hfailing, ?_⟩
    -- A path is linked to its source, its sink and its owner; the last link is of another type.
    simp only [pathLinks, List.mem_cons, Option.mem_toList, Option.map_eq_some_iff,
      Prod.mk.injEq] at hwanted
    rcases hwanted with ⟨rfl, rfl, -⟩ | ⟨rfl, rfl, -⟩ | ⟨owner, -, -, -, hother⟩
    · rw [Rules.link?_of_mem hfailing (hmem .source) h.mem] at hlink
      exact ⟨.source, (Option.some.inj hlink).symm⟩
    · rw [Rules.link?_of_mem hfailing h.mem (hmem .sink)] at hlink
      exact ⟨.sink, (Option.some.inj hlink).symm⟩
    · exact absurd hother (by decide)
  · rintro ⟨hfailing, role, rfl⟩
    rw [hlinks]
    cases role with
    | source =>
      exact ⟨List.mem_filterMap.mpr ⟨_, List.mem_cons_self,
        Rules.link?_of_mem hfailing (hmem .source) h.mem⟩, rfl⟩
    | sink =>
      exact ⟨List.mem_filterMap.mpr ⟨_, List.mem_cons_of_mem _ List.mem_cons_self,
        Rules.link?_of_mem hfailing h.mem (hmem .sink)⟩, rfl⟩

/-- The links of an endpoint are no flow links. -/
theorem EndpointBlock.type_ne_flowType {r : Rules} {i : Investigation} {role : Role}
    {stored : List StoredNode} {e : Endpoint} {node : StoredNode} {links : List Relationship}
    (h : EndpointBlock r i role stored e node links) {rel : Relationship} (hrel : rel ∈ links) :
    rel.type ≠ flowType := by
  rw [h.links] at hrel
  obtain ⟨⟨start, target, type⟩, hwanted, hlink⟩ := List.mem_filterMap.mp hrel
  rw [(Rules.type_of_link? hlink).1]
  simp only [endpointLinks, List.mem_cons, List.mem_append, Option.mem_toList,
    Option.map_eq_some_iff, Prod.mk.injEq] at hwanted
  rcases hwanted with ⟨-, -, rfl⟩ | ⟨file, -, -, -, rfl⟩ | ⟨owner, -, -, -, rfl⟩
  · decide
  · decide
  · cases role <;> decide

/-- So it is with the links of all endpoints that are written one after the other. -/
theorem type_ne_flowType_of_writtenInTurn {r : Rules} {i : Investigation} {role : Role}
    {stored nodes : List StoredNode} {es : List Endpoint} {links : List Relationship}
    (h : WrittenInTurn (EndpointBlock r i role) stored es nodes links) {rel : Relationship}
    (hrel : rel ∈ links) : rel.type ≠ flowType := by
  obtain ⟨before, e, node, own, -, -, -, hblock, hown⟩ := h.exists_of_link hrel
  exact hblock.type_ne_flowType hown

/-! ### Links to what was just written -/

/-- Every flow link among `links` joins two of `nodes`, the node of a path and one of an entity:
    from a source to the path, or from the path to a sink. -/
def FlowLinksWithin (nodes : List StoredNode) (links : List Relationship) : Prop :=
  ∀ rel ∈ links, rel.type = flowType →
    ∃ path ∈ nodes, path.hasLabel pathLabel = true ∧ ∃ entity ∈ nodes,
      (entity.hasLabel (label .source) = true ∧ rel.start = entity.id ∧ rel.target = path.id) ∨
      (entity.hasLabel (label .sink) = true ∧ rel.start = path.id ∧ rel.target = entity.id)

instance (nodes : List StoredNode) (links : List Relationship) :
    Decidable (FlowLinksWithin nodes links) :=
  inferInstanceAs (Decidable (∀ rel ∈ links, _))

/-- Both ends of such a flow link are among the nodes. -/
theorem FlowLinksWithin.ends {nodes : List StoredNode} {links : List Relationship}
    (h : FlowLinksWithin nodes links) {path entity : NodeId} {role : Role}
    (hmem : flowLink path entity role ∈ links) : ∃ n ∈ nodes, n.id = entity := by
  have htype : (flowLink path entity role).type = flowType := by cases role <;> rfl
  obtain ⟨a, ha, -, b, hb, hends⟩ := h _ hmem htype
  cases role with
  | source =>
    rcases hends with ⟨-, hstart, -⟩ | ⟨-, hstart, -⟩
    · exact ⟨b, hb, hstart.symm⟩
    · exact ⟨a, ha, hstart.symm⟩
  | sink =>
    rcases hends with ⟨-, -, htarget⟩ | ⟨-, -, htarget⟩
    · exact ⟨a, ha, htarget.symm⟩
    · exact ⟨b, hb, htarget.symm⟩

/-- A node that stands for an entity in a role carries the label of the role. -/
theorem hasLabel_of_standsFor {i : Investigation} {role : Role} {id : NodeId} {n : StoredNode}
    (h : standsFor i role id n = true) : n.hasLabel (label role) = true := by
  rw [standsFor, Handler.isEntity, Bool.and_eq_true, Bool.and_eq_true] at h
  exact h.1.1

/-- A flow link to an entity is within the nodes if the entity is. -/
theorem flowLinksWithin_of_entities {nodes : List StoredNode} {links : List Relationship}
    (h : ∀ rel ∈ links, rel.type = flowType → ∃ path ∈ nodes, path.labels = [pathLabel] ∧
      ∃ role, ∃ entity ∈ nodes, entity.hasLabel (label role) = true ∧
        rel = flowLink path.id entity.id role) : FlowLinksWithin nodes links := by
  intro rel hrel htype
  obtain ⟨path, hpath, hlabels, role, entity, hentity, hlabel, rfl⟩ := h rel hrel htype
  have hpathLabel : path.hasLabel pathLabel = true := by
    rw [StoredNode.hasLabel, hlabels]
    decide
  refine ⟨path, hpath, hpathLabel, entity, hentity, ?_⟩
  cases role with
  | source => exact .inl ⟨hlabel, rfl, rfl⟩
  | sink => exact .inr ⟨hlabel, rfl, rfl⟩

/-! ### The write-back -/

/-- The flow links of paths that are written one after the other, and the entities to which they
    lead.  All of these are the first ones in what the store holds in the end. -/
theorem flowLinks_of_writtenInTurn {r : Rules} {i : Investigation} {stored nodes : List StoredNode}
    {paths : List FlowPath} {links : List Relationship}
    (h : WrittenInTurn (PathBlock r i) stored paths nodes links) :
    (∀ rel ∈ links, rel.type = flowType → r.failingTypes.contains flowType = false ∧
      ∃ path ∈ nodes, path.labels = [pathLabel] ∧ ∃ p ∈ paths, ∃ role entity,
        (stored ++ nodes).find? (standsFor i role (p.endpoint role).nodeId) = some entity ∧
        rel = flowLink path.id entity.id role) ∧
    (r.failingTypes.contains flowType = false → ∀ p ∈ paths, ∃ path ∈ nodes, ∀ role, ∃ entity,
      (stored ++ nodes).find? (standsFor i role (p.endpoint role).nodeId) = some entity ∧
      flowLink path.id entity.id role ∈ links) := by
  constructor
  · intro rel hrel htype
    obtain ⟨before, p, path, own, hbefore, hp, hpath, hblock, hown⟩ := h.exists_of_link hrel
    obtain ⟨ends, hends, hflow⟩ := hblock.mem_flowLinks
    obtain ⟨hfailing, role, hrole⟩ := (hflow rel).mp ⟨hown, htype⟩
    exact ⟨hfailing, path, hpath, hblock.labels, p, hp, role, ends role,
      hbefore.find?_eq_some (hends role), hrole⟩
  · intro hfailing p hp
    obtain ⟨before, path, own, -, hbefore, hpath, hblock, hown⟩ := h.exists_of_item hp
    obtain ⟨ends, hends, hflow⟩ := hblock.mem_flowLinks
    refine ⟨path, hpath, fun role => ⟨ends role, hbefore.find?_eq_some (hends role), ?_⟩⟩
    exact hown _ ((hflow _).mpr ⟨hfailing, role, rfl⟩).1

/-- **When a write-back keeps its flow links to what it created.**  Every flow link leads from or to
    the node of a path that was just written; its other end is the first node in the store that
    stands for the path's source or sink.  So this end was created by the same write-back exactly
    when no node that was there before stands for it. -/
theorem flowLinks_within_iff (i : Investigation) (sources sinks : List Endpoint)
    (paths : List FlowPath) (failedBefore : Nat) (s : Session)
    (hanswers : ∀ role, AnswersFind s.graph role)
    (hroom : s.graph.HasRoomFor (sources.length + sinks.length + paths.length)) :
    let store := s.graph.store
    let store' := ((persistAll i sources sinks paths failedBefore).after s).graph.store
    let written := writtenPaths s.graph.rules sources sinks paths
    ∃ nodes links,
      store'.nodes = store.nodes ++ nodes ∧ store'.relationships = store.relationships ++ links ∧
      (∀ rel ∈ links, rel.type = flowType → ∃ path ∈ nodes, path.labels = [pathLabel] ∧
        ∃ p ∈ written, ∃ role entity,
          store'.nodes.find? (standsFor i role (p.endpoint role).nodeId) = some entity ∧
          rel = flowLink path.id entity.id role) ∧
      (FlowLinksWithin nodes links ↔
        (s.graph.failingTypes.contains flowType = false → ∀ p ∈ written, ∀ role,
          ∀ n ∈ store.nodes, standsFor i role (p.endpoint role).nodeId n = false)) := by
  intro store store' written
  obtain ⟨-, -, -, sourceNodes, sourceLinks, sinkNodes, sinkLinks, pathNodes, pathLinks, hsources,
    hsinks, hpaths, hstores⟩ := persistAll_stores i sources sinks paths failedBefore s hanswers
  obtain ⟨hjoins, hlinked⟩ := flowLinks_of_writtenInTurn hpaths
  have hall : store.nodes ++ sourceNodes ++ sinkNodes ++ pathNodes = store'.nodes := by
    rw [hstores.nodes, List.append_assoc, List.append_assoc, List.append_assoc]
  rw [hall] at hjoins hlinked
  have hroom := hroom.mono (length_written_le hsources hsinks hpaths)
  -- Only paths have flow links.
  have hflow : ∀ rel ∈ sourceLinks ++ sinkLinks ++ pathLinks, rel.type = flowType →
      rel ∈ pathLinks := by
    intro rel hrel htype
    rcases List.mem_append.mp hrel with hrel | hrel
    · rcases List.mem_append.mp hrel with hrel | hrel
      · exact absurd htype (type_ne_flowType_of_writtenInTurn hsources hrel)
      · exact absurd htype (type_ne_flowType_of_writtenInTurn hsinks hrel)
    · exact hrel
  refine ⟨_, _, hstores.nodes, hstores.relationships, ?_, ?_, ?_⟩
  · intro rel hrel htype
    obtain ⟨-, path, hpath, hrest⟩ := hjoins rel (hflow rel hrel htype) htype
    exact ⟨path, List.mem_append_right _ hpath, hrest⟩
  · intro hwithin hfailing p hp role n hn
    obtain ⟨path, -, hentities⟩ := hlinked hfailing p hp
    obtain ⟨entity, hfirst, hlink⟩ := hentities role
    obtain ⟨m, hm, hid⟩ := hwithin.ends (List.mem_append_right _ hlink)
    cases hstands : standsFor i role (p.endpoint role).nodeId n with
    | false => rfl
    | true =>
      -- An old node that stands for the entity comes first, and its identity is not a new one.
      obtain ⟨old, hold⟩ := Option.isSome_iff_exists.mp (List.find?_isSome.mpr ⟨n, hn, hstands⟩)
      rw [hstores.nodes, List.find?_append, hold, Option.some_or] at hfirst
      obtain rfl := Option.some.inj hfirst
      exact absurd hid.symm (hstores.id_ne hroom (List.mem_of_find?_eq_some hold) hm)
  · intro hnone
    refine flowLinksWithin_of_entities fun rel hrel htype => ?_
    obtain ⟨hfailing, path, hpath, hlabels, p, hp, role, entity, hfirst, rfl⟩ :=
      hjoins rel (hflow rel hrel htype) htype
    have hstands := List.find?_some hfirst
    have hmem := List.mem_of_find?_eq_some hfirst
    rw [hstores.nodes] at hmem
    refine ⟨path, List.mem_append_right _ hpath, hlabels, role, entity, ?_,
      hasLabel_of_standsFor hstands, rfl⟩
    rcases List.mem_append.mp hmem with hold | hnew
    · -- An old node does not stand for the end, so the entity is a new one.
      rw [hnone hfailing p hp role entity hold] at hstands
      cases hstands
    · exact hnew

/-- In a graph without entities the first write-back links its path to its own entities. -/
theorem flowLinks_within_first :
    (∀ role, AnswersFind twoFunctions.graph role) ∧ twoFunctions.graph.HasRoomFor 3 ∧
      ∃ nodes links,
        ((persistAll { id := "x" } [loads] [saves] [loadToSave] 0).after
          twoFunctions).graph.store.nodes = twoFunctions.graph.store.nodes ++ nodes ∧
        ((persistAll { id := "x" } [loads] [saves] [loadToSave] 0).after
          twoFunctions).graph.store.relationships = links ∧
        links.length = 4 ∧ FlowLinksWithin nodes links := by
  have hroom : twoFunctions.graph.HasRoomFor 3 := hasRoomFor_twoFunctions.mono (by decide)
  obtain ⟨nodes, links, hnodes, hlinks, -, hwithin⟩ := flowLinks_within_iff { id := "x" } [loads]
    [saves] [loadToSave] 0 twoFunctions answersFind_twoFunctions hroom
  -- The two functions are no entities.
  have hnone : ∀ role id, ∀ n ∈ twoFunctions.graph.store.nodes,
      standsFor { id := "x" } role id n = false := by
    intro role id n hn
    simp only [twoFunctions, List.mem_cons, List.not_mem_nil, or_false] at hn
    rcases hn with rfl | rfl <;> cases role <;> rfl
  have hcount : ((persistAll { id := "x" } [loads] [saves] [loadToSave] 0).after
      twoFunctions).graph.store.relationships.length = 4 := by decide +kernel
  rw [hlinks] at hcount
  exact ⟨answersFind_twoFunctions, hroom, nodes, links, hnodes, hlinks, hcount,
    hwithin.mpr fun _ p _ role => hnone role _⟩

/-- **A second write-back of the same findings** links its path to the entities of the first. -/
theorem flowLinks_escape_second :
    let first := (persistAll { id := "x" } [loads] [saves] [loadToSave] 0).after twoFunctions
    let second := (persistAll { id := "x" } [loads] [saves] [loadToSave] 0).after first
    (∀ role, AnswersFind first.graph role) ∧ first.graph.HasRoomFor 3 ∧
      ¬FlowLinksWithin (second.graph.store.nodes.drop first.graph.store.nodes.length)
        (second.graph.store.relationships.drop first.graph.store.relationships.length) := by
  intro first second
  obtain ⟨-, -, -, _, _, _, _, _, _, -, -, -, hstores⟩ :=
    persistAll_stores { id := "x" } [loads] [saves] [loadToSave] 0 twoFunctions
      answersFind_twoFunctions
  refine ⟨fun role => (answersFind_twoFunctions role).of_rules hstores.rules,
    hasRoomFor_persistAll _ _ _ _ 0 answersFind_twoFunctions hasRoomFor_twoFunctions, ?_⟩
  decide +kernel

end Persistence

end TaintReview
