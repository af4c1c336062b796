import Mathlib.Data.List.Nodup
import Mathlib.Tactic.Choose
import TaintReview.Proofs.Entities

namespace TaintReview

/-!
# What a write-back stores

`persistAll` creates nodes and links, and what becomes of each one depends on the faults of the
graph and on what is in the store by then.  Here each function of the write-back is given a
contract that says what it stores.

* `Rules` — what a graph goes by, which writing never changes;
* `Stores g asked nodes links g'` — the graph `g'` is `g` with nodes and links behind its own;
* `WrittenInTurn` — items are written one after the other, a node for each one and then its
  links, and a later item sees the nodes of the earlier ones;
* `Persistence.EndpointBlock`, `Persistence.PathBlock` — what is written for one item;
* `Persistence.persistAll_stores` — what a whole write-back stores.
-/

/-! ### Rules -/

/-- What a graph goes by: its handlers and its faults. -/
structure Rules where
  handlers : List (String × Handler)
  failingStatements : List String
  withheldLabels : List String
  failingLabels : List String
  failingTypes : List String

/-- The rules of a graph. -/
def Graph.rules (g : Graph) : Rules where
  handlers := g.handlers
  failingStatements := g.failingStatements
  withheldLabels := g.withheldLabels
  failingLabels := g.failingLabels
  failingTypes := g.failingTypes

namespace Rules

/-- Are nodes with the label stored? -/
def keeps (r : Rules) (name : String) : Bool :=
  !r.failingLabels.contains name && !r.withheldLabels.contains name

/-- The relationship that is stored for a link.  Its type must not fail, and both of its ends
    must be there. -/
def link? (r : Rules) (stored : List StoredNode) :
    NodeId × NodeId × String → Option Relationship
  | (start, target, type) =>
    if !r.failingTypes.contains type && stored.any (·.id == start) && stored.any (·.id == target)
    then some { start, target, type, properties := [] } else none

end Rules

/-! ### Graphs that grow -/

/-- Consecutive identities. -/
def identities (first : NodeId) : Nat → List NodeId
  | 0 => []
  | n + 1 => first :: identities (first + 1) n

/-- Identities that go on after others are consecutive with them. -/
theorem identities_add (first : NodeId) (m n : Nat) :
    identities first (m + n) = identities first m ++ identities (first + .ofNat m) n := by
  induction m generalizing first with
  | zero =>
    rw [Nat.zero_add]
    exact congrArg (identities · n) (Int64.add_zero first).symm
  | succ m ih =>
    have hfirst : first + 1 + .ofNat m = first + .ofNat (m + 1) := by
      rw [Nat.add_comm m 1, Int64.ofNat_add, Int64.add_assoc]
      rfl
    rw [Nat.succ_add, identities, ih, hfirst]
    rfl

/-- Below the last identity, counting does not wrap around. -/
theorem toInt_succ (id : NodeId) (h : id.toInt + 1 ≤ Int64.maxValue.toInt) :
    (id + 1).toInt = id.toInt + 1 := by
  have hlow := id.le_toInt
  have hmax : Int64.maxValue.toInt = 9223372036854775807 := by decide
  rw [Int64.toInt_add, Int64.toInt_one, Int.bmod_eq_of_le (by omega) (by omega)]

theorem toInt_add_ofNat (id : NodeId) (n : Nat) (h : id.toInt + n ≤ Int64.maxValue.toInt) :
    (id + .ofNat n).toInt = id.toInt + n := by
  have hlow := id.le_toInt
  have hmax : Int64.maxValue.toInt = 9223372036854775807 := by decide
  have hofNat : (Int64.ofNat n).toInt = Int.bmod n (2 ^ 64) := Int64.toInt_ofNat'
  rw [Int64.toInt_add, hofNat, Int.add_bmod_bmod, Int.bmod_eq_of_le (by omega) (by omega)]

/-- Where they do not run out, consecutive identities increase. -/
theorem bounds_of_mem_identities {first id : NodeId} {n : Nat}
    (h : first.toInt + n ≤ Int64.maxValue.toInt) (hid : id ∈ identities first n) :
    first.toInt ≤ id.toInt ∧ id.toInt < first.toInt + n := by
  induction n generalizing first with
  | zero => cases hid
  | succ n ih =>
    obtain rfl | hid := List.mem_cons.mp hid
    · omega
    · have hnext := toInt_succ first (by omega)
      have hbounds := ih (by omega) hid
      omega

/-- Where they do not run out, consecutive identities differ. -/
theorem nodup_identities {first : NodeId} {n : Nat} (h : first.toInt + n ≤ Int64.maxValue.toInt) :
    (identities first n).Nodup := by
  induction n generalizing first with
  | zero => exact List.nodup_nil
  | succ n ih =>
    have hnext := toInt_succ first (by omega)
    refine List.nodup_cons.mpr ⟨fun hmem => ?_, ih (by omega)⟩
    have hbounds := bounds_of_mem_identities (by omega) hmem
    omega

/-- All nodes of the graph are older than the next one, and there are identities for `n` more. -/
structure Graph.HasRoomFor (g : Graph) (n : Nat) : Prop where
  older : ∀ m ∈ g.store.nodes, m.id < g.nextId
  room : g.nextId.toInt + n ≤ Int64.maxValue.toInt

theorem Graph.HasRoomFor.mono {g : Graph} {m n : Nat} (h : g.HasRoomFor n) (hle : m ≤ n) :
    g.HasRoomFor m :=
  have := h.room
  ⟨h.older, by omega⟩

/-- The second graph is the first one with nodes and relationships behind what it had; nodes with
    the labels `asked` were to be created. -/
structure Stores (g : Graph) (asked : List (List String)) (nodes : List StoredNode)
    (links : List Relationship) (g' : Graph) : Prop where
  attempts : g'.attempts = g.attempts ++ asked
  numbered : nodes.map (·.id) = identities g.nextId nodes.length
  nextId : g'.nextId = g.nextId + .ofNat nodes.length
  nodes : g'.store.nodes = g.store.nodes ++ nodes
  relationships : g'.store.relationships = g.store.relationships ++ links
  rules : g'.rules = g.rules

namespace Stores

variable {g g' g'' : Graph} {asked asked' : List (List String)} {nodes nodes' : List StoredNode}
  {links links' : List Relationship}

/-- A graph with the same store, in which nodes were only asked for. -/
theorem of_store_eq (hattempts : g'.attempts = g.attempts ++ asked) (hstore : g'.store = g.store)
    (hnextId : g'.nextId = g.nextId) (hrules : g'.rules = g.rules) : Stores g asked [] [] g' where
  attempts := hattempts
  nodes := by rw [hstore, List.append_nil]
  relationships := by rw [hstore, List.append_nil]
  numbered := rfl
  nextId := hnextId.trans (Int64.add_zero g.nextId).symm
  rules := hrules

theorem refl (g : Graph) : Stores g [] [] [] g :=
  of_store_eq (List.append_nil _).symm rfl rfl rfl

/-- What two steps add is added in their order, with identities that go on. -/
theorem trans (h : Stores g asked nodes links g') (h' : Stores g' asked' nodes' links' g'') :
    Stores g (asked ++ asked') (nodes ++ nodes') (links ++ links') g'' where
  attempts := by rw [h'.attempts, h.attempts, List.append_assoc]
  nodes := by rw [h'.nodes, h.nodes, List.append_assoc]
  relationships := by rw [h'.relationships, h.relationships, List.append_assoc]
  numbered := by
    rw [List.map_append, h.numbered, h'.numbered, h.nextId, List.length_append, identities_add]
  nextId := by
    rw [h'.nextId, h.nextId, List.length_append, Int64.ofNat_add, Int64.add_assoc]
  rules := by rw [h'.rules, h.rules]

/-- Asking stores nothing. -/
theorem of_reads {s s' : Session} (h : Reads s s') : Stores s.graph [] [] [] s'.graph := by
  obtain ⟨queries, hg⟩ := h.graph
  rw [hg]
  exact of_store_eq (List.append_nil _).symm rfl rfl rfl

/-- The new nodes differ from each other by their identities. -/
theorem nodup (h : Stores g asked nodes links g') (hroom : g.HasRoomFor nodes.length) :
    (nodes.map (·.id)).Nodup := by
  rw [h.numbered]
  exact nodup_identities hroom.room

/-- The new nodes differ from the old ones by their identities. -/
theorem id_ne (h : Stores g asked nodes links g') (hroom : g.HasRoomFor nodes.length)
    {old new : StoredNode} (hold : old ∈ g.store.nodes) (hnew : new ∈ nodes) :
    old.id ≠ new.id := by
  have hmem : new.id ∈ identities g.nextId nodes.length := by
    rw [← h.numbered]
    exact List.mem_map_of_mem hnew
  have hlt := Int64.lt_iff_toInt_lt.mp (hroom.older old hold)
  have hbounds := bounds_of_mem_identities hroom.room hmem
  intro heq
  rw [heq] at hlt
  omega

/-- What is stored leaves room for the rest. -/
theorem hasRoomFor {n : Nat} (h : Stores g asked nodes links g')
    (hroom : g.HasRoomFor (nodes.length + n)) : g'.HasRoomFor n := by
  have hspace := hroom.room
  have hnext : g'.nextId.toInt = g.nextId.toInt + nodes.length := by
    rw [h.nextId, toInt_add_ofNat _ _ (by omega)]
  refine ⟨fun m hm => Int64.lt_iff_toInt_lt.mpr ?_, by omega⟩
  rw [h.nodes] at hm
  -- Old nodes lie below the old next identity, new ones between the old and the new one.
  rcases List.mem_append.mp hm with hold | hnew
  · have hlt := Int64.lt_iff_toInt_lt.mp (hroom.older m hold)
    omega
  · have hmem : m.id ∈ identities g.nextId nodes.length := by
      rw [← h.numbered]
      exact List.mem_map_of_mem hnew
    have hbounds := bounds_of_mem_identities (by omega) hmem
    omega

/-- A new node is told by its identity. -/
theorem eq_of_id_eq (h : Stores g asked nodes links g') (hroom : g.HasRoomFor nodes.length)
    {n new : StoredNode} (hn : n ∈ g.store.nodes ++ nodes) (hnew : new ∈ nodes)
    (hid : n.id = new.id) : n = new := by
  obtain hold | hn := List.mem_append.mp hn
  · exact absurd hid (h.id_ne hroom hold hnew)
  · exact List.inj_on_of_nodup_map (h.nodup hroom) hn hnew hid

end Stores

namespace Graph

/-- A node that the graph keeps gets the next identity. -/
theorem createNode_of_keeps {g : Graph} {name : String} (h : g.rules.keeps name = true)
    (properties : Fields) :
    (g.createNode [name] properties).1 = .ok (some g.nextId) ∧
      Stores g [[name]] [{ id := g.nextId, labels := [name], properties }] []
        (g.createNode [name] properties).2 := by
  obtain ⟨hfailing, hwithheld⟩ := (Bool.and_eq_true _ _).mp h
  rw [Bool.not_eq_true'] at hfailing hwithheld
  have hfailing : ¬[name].any g.failingLabels.contains = true := by
    rw [List.any_cons, List.any_nil, Bool.or_false]
    exact Bool.eq_false_iff.mp hfailing
  have hwithheld : ¬[name].any g.withheldLabels.contains = true := by
    rw [List.any_cons, List.any_nil, Bool.or_false]
    exact Bool.eq_false_iff.mp hwithheld
  rw [createNode, if_neg hfailing, if_neg hwithheld]
  exact ⟨rfl, rfl, rfl, rfl, rfl, (List.append_nil _).symm, rfl⟩

/-- A node that the graph does not keep gets no identity. -/
theorem createNode_of_not_keeps {g : Graph} {name : String} (h : g.rules.keeps name = false)
    (properties : Fields) :
    isAssigned (g.createNode [name] properties).1 = false ∧
      Stores g [[name]] [] [] (g.createNode [name] properties).2 := by
  rw [createNode]
  split
  · exact ⟨rfl, .of_store_eq rfl rfl rfl rfl⟩
  · split
    · exact ⟨rfl, .of_store_eq rfl rfl rfl rfl⟩
    · -- A graph that neither fails nor withholds would keep the node.
      next hfailing hwithheld =>
      rw [List.any_cons, List.any_nil, Bool.or_false, Bool.not_eq_true] at hfailing hwithheld
      rw [Rules.keeps, rules, hfailing, hwithheld] at h
      cases h

end Graph

namespace Persistence

/-! ### Links -/

theorem AnswersFind.of_rules {g g' : Graph} {role : Role} (h : AnswersFind g role)
    (hrules : g'.rules = g.rules) : AnswersFind g' role := by
  have hhandlers : g'.handlers = g.handlers := congrArg Rules.handlers hrules
  rw [AnswersFind, hhandlers]
  exact h

/-- A link stores its relationship, unless it fails or an end is not there. -/
theorem link_stores (start target : NodeId) (type : String) (s : Session) :
    Stores s.graph [] [] (s.graph.rules.link? s.graph.store.nodes (start, target, type)).toList
      ((link start target type).after s).graph := by
  have hgraph : ((link start target type).after s).graph =
      (s.graph.createRelationship start target type []).2 := by
    rw [link, SessionM.after_bind]
    rcases (Session.createRelationship start target type).value s with e | (_ | _) <;> rfl
  rw [hgraph, Graph.createRelationship, Rules.link?]
  cases hfailing : s.graph.failingTypes.contains type with
  | true =>
    rw [if_pos rfl, if_neg (by rw [Graph.rules, hfailing]; exact Bool.false_ne_true)]
    exact Stores.refl s.graph
  | false =>
    have hends : (!s.graph.rules.failingTypes.contains type &&
        s.graph.store.nodes.any (·.id == start) && s.graph.store.nodes.any (·.id == target)) =
        (s.graph.store.hasNode start && s.graph.store.hasNode target) := by
      rw [Graph.rules, hfailing]
      rfl
    rw [if_neg Bool.false_ne_true, hends]
    split
    · exact ⟨(List.append_nil _).symm, rfl, (Int64.add_zero _).symm, (List.append_nil _).symm,
        rfl, rfl⟩
    · exact Stores.refl s.graph

/-- Links store their relationships one after the other.  None of them makes a node, so that all
    see the same ends. -/
theorem linkAll_stores (links : List (NodeId × NodeId × String)) (s : Session) :
    Stores s.graph [] [] (links.filterMap (s.graph.rules.link? s.graph.store.nodes))
      ((linkAll links).after s).graph := by
  induction links generalizing s with
  | nil => exact Stores.refl s.graph
  | cons head rest ih =>
    obtain ⟨start, target, type⟩ := head
    have hfirst := link_stores start target type s
    have hrest := ih ((link start target type).after s)
    rw [hfirst.rules, hfirst.nodes, List.append_nil] at hrest
    have hboth := hfirst.trans hrest
    rw [List.filterMap_cons]
    cases hlink : s.graph.rules.link? s.graph.store.nodes (start, target, type) with
    | none =>
      rw [hlink] at hboth
      exact hboth
    | some r =>
      rw [hlink] at hboth
      exact hboth

end Persistence

/-! ### Written one after the other -/

/-- Items are written one after the other, a node for each one and then its links.
    `block stored a node links` says what is written for the item `a`; `stored` are the nodes that
    are in the store by then, its own included. -/
inductive WrittenInTurn {α : Type}
    (block : List StoredNode → α → StoredNode → List Relationship → Prop) :
    List StoredNode → List α → List StoredNode → List Relationship → Prop
  | nil (stored : List StoredNode) : WrittenInTurn block stored [] [] []
  | cons {stored nodes : List StoredNode} {a : α} {rest : List α} {node : StoredNode}
      {links others : List Relationship} (first : block (stored ++ [node]) a node links)
      (next : WrittenInTurn block (stored ++ [node]) rest nodes others) :
      WrittenInTurn block stored (a :: rest) (node :: nodes) (links ++ others)

namespace WrittenInTurn

variable {α : Type} {block block' : List StoredNode → α → StoredNode → List Relationship → Prop}
  {stored nodes : List StoredNode} {items : List α} {links : List Relationship}

/-- What is written for each item may be described in another way. -/
theorem imp (himp : ∀ stored a node links, block stored a node links → block' stored a node links)
    (h : WrittenInTurn block stored items nodes links) :
    WrittenInTurn block' stored items nodes links := by
  induction h with
  | nil stored => exact .nil stored
  | cons first next ih => exact .cons (himp _ _ _ _ first) ih

theorem single {a : α} {node : StoredNode} (h : block (stored ++ [node]) a node links) :
    WrittenInTurn block stored [a] [node] links := by
  rw [← List.append_nil links]
  exact .cons h (.nil _)

/-- There is one node for each item. -/
theorem length_nodes (h : WrittenInTurn block stored items nodes links) :
    nodes.length = items.length := by
  induction h with
  | nil stored => rfl
  | cons first next ih => rw [List.length_cons, List.length_cons, ih]

/-- Items that are written later see the nodes of the earlier ones. -/
theorem append {items' : List α} {nodes' : List StoredNode} {links' : List Relationship}
    (h : WrittenInTurn block stored items nodes links)
    (h' : WrittenInTurn block (stored ++ nodes) items' nodes' links') :
    WrittenInTurn block stored (items ++ items') (nodes ++ nodes') (links ++ links') := by
  induction h with
  | nil stored =>
    rw [List.append_nil] at h'
    exact h'
  | cons first next ih =>
    rw [List.append_assoc]
    refine .cons first (ih ?_)
    rw [List.append_assoc, List.singleton_append]
    exact h'

/-- Every item has its block.  By then all nodes that were stored at the start are stored, and no
    others than those of items. -/
theorem exists_of_item (h : WrittenInTurn block stored items nodes links) {a : α}
    (ha : a ∈ items) :
    ∃ before node own, stored <+: before ∧ before <+: stored ++ nodes ∧ node ∈ nodes ∧
      block before a node own ∧ ∀ r ∈ own, r ∈ links := by
  induction h with
  | nil stored => cases ha
  | @cons stored nodes b rest node links others first next ih =>
    obtain rfl | ha := List.mem_cons.mp ha
    · exact ⟨_, node, links, List.prefix_append _ _,
        ⟨nodes, by rw [List.append_assoc, List.singleton_append]⟩, List.mem_cons_self, first,
        fun r hr => List.mem_append_left _ hr⟩
    · obtain ⟨before, node', own, hstored, hbefore, hnode, hblock, hown⟩ := ih ha
      rw [List.append_assoc, List.singleton_append] at hbefore
      exact ⟨before, node', own, (List.prefix_append _ _).trans hstored, hbefore,
        List.mem_cons_of_mem _ hnode, hblock, fun r hr => List.mem_append_right _ (hown r hr)⟩

/-- Every node is that of an item. -/
theorem exists_of_node (h : WrittenInTurn block stored items nodes links) {node : StoredNode}
    (hnode : node ∈ nodes) : ∃ before a own, a ∈ items ∧ block before a node own := by
  induction h with
  | nil stored => cases hnode
  | cons first next ih =>
    obtain rfl | hnode := List.mem_cons.mp hnode
    · exact ⟨_, _, _, List.mem_cons_self, first⟩
    · obtain ⟨before, a, own, ha, hblock⟩ := ih hnode
      exact ⟨before, a, own, List.mem_cons_of_mem _ ha, hblock⟩

/-- Every link is in the block of an item. -/
theorem exists_of_link (h : WrittenInTurn block stored items nodes links) {r : Relationship}
    (hr : r ∈ links) : ∃ before a node own, before <+: stored ++ nodes ∧ a ∈ items ∧ node ∈ nodes ∧
      block before a node own ∧ r ∈ own := by
  induction h with
  | nil stored => cases hr
  | @cons stored nodes a rest node links others first next ih =>
    obtain hr | hr := List.mem_append.mp hr
    · exact ⟨_, a, node, links, ⟨nodes, by rw [List.append_assoc, List.singleton_append]⟩,
        List.mem_cons_self, List.mem_cons_self, first, hr⟩
    · obtain ⟨before, b, node', own, hbefore, hb, hnode, hblock, hown⟩ := ih hr
      rw [List.append_assoc, List.singleton_append] at hbefore
      exact ⟨before, b, node', own, hbefore, List.mem_cons_of_mem _ hb,
        List.mem_cons_of_mem _ hnode, hblock, hown⟩

end WrittenInTurn

namespace Persistence

/-! ### All or none -/

/-- All items or none of them. -/
def kept {α : Type} (keeps : Bool) (items : List α) : List α := if keeps then items else []

theorem kept_cons {α : Type} (keeps : Bool) (a : α) (rest : List α) :
    kept keeps (a :: rest) = kept keeps [a] ++ kept keeps rest := by
  cases keeps <;> rfl

theorem length_kept_le {α : Type} (keeps : Bool) (items : List α) :
    (kept keeps items).length ≤ items.length := by
  cases keeps with
  | true => exact Nat.le_refl items.length
  | false => exact Nat.zero_le items.length

/-! ### Endpoints -/

/-- What is written for an endpoint. -/
structure EndpointBlock (r : Rules) (i : Investigation) (role : Role) (stored : List StoredNode)
    (e : Endpoint) (node : StoredNode) (links : List Relationship) : Prop where
  mem : node ∈ stored
  labels : node.labels = [label role]
  properties : node.properties = endpointProperties i.id e
  links : links = (endpointLinks i role e node.id).filterMap (r.link? stored)

/-- An endpoint is asked for once, and written with its links if the graph keeps its node. -/
theorem writeEndpoint_stores (i : Investigation) (role : Role) (e : Endpoint) (s : Session) :
    ((writeEndpoint i role e).value s).written = s.graph.rules.keeps (label role) ∧
      ∃ nodes links,
        WrittenInTurn (EndpointBlock s.graph.rules i role) s.graph.store.nodes
          (kept (s.graph.rules.keeps (label role)) [e]) nodes links ∧
        Stores s.graph [[label role]] nodes links ((writeEndpoint i role e).after s).graph := by
  rw [writeEndpoint, SessionM.value_bind, SessionM.after_bind, Session.value_createNode]
  cases hkeeps : s.graph.rules.keeps (label role) with
  | true =>
    obtain ⟨hvalue, hstores⟩ := Graph.createNode_of_keeps hkeeps (endpointProperties i.id e)
    -- The links are made in the graph that has the new node.
    have hlinks := linkAll_stores (endpointLinks i role e s.graph.nextId)
      ((Session.createNode [label role] (endpointProperties i.id e)).after s)
    rw [Session.after_createNode] at hlinks
    simp only [hstores.rules, hstores.nodes] at hlinks
    rw [hvalue]
    exact ⟨rfl, _, _, .single ⟨List.mem_concat_self, rfl, rfl, rfl⟩, hstores.trans hlinks⟩
  | false =>
    obtain ⟨hvalue, hstores⟩ := Graph.createNode_of_not_keeps hkeeps (endpointProperties i.id e)
    rcases hanswer : (s.graph.createNode [label role] (endpointProperties i.id e)).1 with
      error | (_ | id)
    · exact ⟨rfl, [], [], .nil _, hstores⟩
    · exact ⟨rfl, [], [], .nil _, hstores⟩
    · rw [hanswer] at hvalue
      cases hvalue

/-- Endpoints are asked for one after the other, and written if the graph keeps their nodes. -/
theorem writeEndpoints_stores (i : Investigation) (role : Role) (es : List Endpoint)
    (s : Session) :
    ((writeEndpoints i role es).value s).written =
        (kept (s.graph.rules.keeps (label role)) es).map (·.nodeId) ∧
      ∃ nodes links,
        WrittenInTurn (EndpointBlock s.graph.rules i role) s.graph.store.nodes
          (kept (s.graph.rules.keeps (label role)) es) nodes links ∧
        Stores s.graph (es.map fun _ => [label role]) nodes links
          ((writeEndpoints i role es).after s).graph := by
  induction es generalizing s with
  | nil => cases s.graph.rules.keeps (label role) <;>
      exact ⟨rfl, [], [], .nil _, Stores.refl s.graph⟩
  | cons e rest ih =>
    obtain ⟨hwritten, nodes, links, hfirst, hstores⟩ := writeEndpoint_stores i role e s
    -- The rules are those of the start throughout, and the stored nodes those of the start and the
    -- new ones.
    obtain ⟨hothers, nodes', links', hrest, hstores'⟩ := ih ((writeEndpoint i role e).after s)
    rw [hstores.rules] at hothers
    rw [hstores.rules, hstores.nodes] at hrest
    rw [kept_cons]
    refine ⟨?_, nodes ++ nodes', links ++ links', hfirst.append hrest, hstores.trans hstores'⟩
    simp only [value_writeEndpoints_cons, hwritten, hothers]
    cases s.graph.rules.keeps (label role) <;> rfl

/-! ### Paths -/

/-- Is a graph with these rules able to look up the ends of paths? -/
def finds (r : Rules) : Bool :=
  !r.failingStatements.contains (findStatement .source) &&
    !r.failingStatements.contains (findStatement .sink)

/-- Are paths whose ends stand in the store written by these rules? -/
def writesPaths (r : Rules) : Bool := finds r && r.keeps pathLabel

/-- What is written for a path.  Its ends are the first nodes in the store that stand for its
    source and its sink. -/
structure PathBlock (r : Rules) (i : Investigation) (stored : List StoredNode)
    (p : FlowPath) (node : StoredNode) (links : List Relationship) : Prop where
  mem : node ∈ stored
  labels : node.labels = [pathLabel]
  properties : node.properties = pathProperties i.id p
  links : ∃ ends : Role → StoredNode,
    (∀ role, stored.find? (standsFor i role (p.endpoint role).nodeId) = some (ends role)) ∧
    links = (pathLinks i (ends .source).id (ends .sink).id node.id).filterMap (r.link? stored)

/-- The part of writing a path that comes after its ends were found. -/
def joinPath (i : Investigation) (p : FlowPath) (source sink : NodeId) : ReviewM Outcome := do
  let some path ← createPath i p | pure { written := false, failures := 1 }
  let failures ← linkAll (pathLinks i source sink path)
  pure { written := true, failures }

/-- A path whose ends are found is written between them. -/
theorem tryPath_of_found {i : Investigation} {p : FlowPath} {source sink : NodeId} {s s₁ : Session}
    (hsource : (findEndpoint i .source p.source).value s = .ok (some source))
    (hasked : (findEndpoint i .source p.source).after s = s₁)
    (hsink : (findEndpoint i .sink p.sink).value s₁ = .ok (some sink)) :
    (tryPath i p).value s =
        (joinPath i p source sink).value ((findEndpoint i .sink p.sink).after s₁) ∧
      (tryPath i p).after s =
        (joinPath i p source sink).after ((findEndpoint i .sink p.sink).after s₁) := by
  rw [tryPath, ReviewM.value_bind_of_ok hsource, ReviewM.after_bind_of_ok hsource, hasked]
  dsimp only
  rw [ReviewM.value_bind_of_ok hsink, ReviewM.after_bind_of_ok hsink]
  exact ⟨rfl, rfl⟩

/-- Between the ends a node is stored, and links from one end to it and from it to the other. -/
theorem joinPath_of_keeps {s : Session} (h : s.graph.rules.keeps pathLabel = true)
    (i : Investigation) (p : FlowPath) (source sink : NodeId) :
    (outcomeOf ((joinPath i p source sink).value s)).written = true ∧ ∃ node,
      node.labels = [pathLabel] ∧ node.properties = pathProperties i.id p ∧
      Stores s.graph [[pathLabel]] [node]
        ((pathLinks i source sink node.id).filterMap
          (s.graph.rules.link? (s.graph.store.nodes ++ [node])))
        ((joinPath i p source sink).after s).graph := by
  obtain ⟨hvalue, hstores⟩ := Graph.createNode_of_keeps h (pathProperties i.id p)
  have hlinks := linkAll_stores (pathLinks i source sink s.graph.nextId)
    ((Session.createNode [pathLabel] (pathProperties i.id p)).after s)
  rw [Session.after_createNode] at hlinks
  simp only [hstores.rules, hstores.nodes] at hlinks
  rw [joinPath, createPath, bind_assoc, ReviewM.value_lift_bind, ReviewM.after_lift_bind,
    Session.value_createNode, hvalue]
  exact ⟨rfl, _, rfl, rfl, hstores.trans hlinks⟩

/-- A graph that keeps no paths is asked for the node and stores nothing. -/
theorem joinPath_of_not_keeps {s : Session} (h : s.graph.rules.keeps pathLabel = false)
    (i : Investigation) (p : FlowPath) (source sink : NodeId) :
    (outcomeOf ((joinPath i p source sink).value s)).written = false ∧
      Stores s.graph [[pathLabel]] [] [] ((joinPath i p source sink).after s).graph := by
  obtain ⟨hvalue, hstores⟩ := Graph.createNode_of_not_keeps h (pathProperties i.id p)
  rw [joinPath, createPath, bind_assoc, ReviewM.value_lift_bind, ReviewM.after_lift_bind,
    Session.value_createNode]
  rcases hanswer : (s.graph.createNode [pathLabel] (pathProperties i.id p)).1 with
    error | (_ | id)
  · exact ⟨rfl, hstores⟩
  · exact ⟨rfl, hstores⟩
  · rw [hanswer] at hvalue
    cases hvalue

/-- Writing a path is trying to, with errors counted as failures. -/
theorem writePath_eq_tryPath (i : Investigation) (p : FlowPath) (s : Session) :
    (writePath i p).value s = outcomeOf ((tryPath i p).value s) ∧
      ((writePath i p).after s).graph = ((tryPath i p).after s).graph := by
  rw [writePath, SessionM.after_bind, SessionM.value_bind, ReviewM.value_run, ReviewM.after_run]
  cases (tryPath i p).value s <;> exact ⟨rfl, rfl⟩

/-- An end cannot be looked up where its statement fails. -/
theorem findEndpoint_of_failing {i : Investigation} {role : Role} {s : Session}
    (h : s.graph.failingStatements.contains (findStatement role) = true) (e : Endpoint) :
    ∃ error, (findEndpoint i role e).value s = .error error := by
  obtain ⟨error, hrows⟩ := rows_of_failing h
    [("investigation_id", .string i.id), ("node_id", .ofInt64 e.nodeId)]
  refine ⟨.graph error, ?_⟩
  have hquery : (findEntity i role e.nodeId).value s = .error (.graph error) := by
    rw [findEntity]
    refine ReviewM.value_bind_of_error ?_
    rw [ReviewM.value_query, hrows]
    rfl
  exact ReviewM.value_bind_of_error hquery

/-- A path whose ends cannot be looked up is not written. -/
theorem writePath_of_not_finds {s : Session} (h : finds s.graph.rules = false)
    (i : Investigation) (p : FlowPath) :
    ((writePath i p).value s).written = false ∧
      Stores s.graph [] [] [] ((writePath i p).after s).graph := by
  obtain ⟨hvalue, hgraph⟩ := writePath_eq_tryPath i p s
  rw [hvalue, hgraph, tryPath]
  have hasked := findEndpoint_reads i .source p.source s
  rcases hsource : (findEndpoint i .source p.source).value s with error | (_ | source)
  · rw [ReviewM.value_bind_of_error hsource, ReviewM.after_bind_of_error hsource]
    exact ⟨rfl, .of_reads hasked⟩
  · rw [ReviewM.value_bind_of_ok hsource, ReviewM.after_bind_of_ok hsource]
    exact ⟨rfl, .of_reads hasked⟩
  · -- The source was looked up, so it is the sink that cannot be.
    have hfailing : ((findEndpoint i .source p.source).after s).graph.failingStatements.contains
        (findStatement .sink) = true := by
      obtain ⟨queries, hsame⟩ := hasked.graph
      rw [ReviewM.after_run] at hsame
      rw [finds, Bool.and_eq_false_iff, Bool.not_eq_false', Bool.not_eq_false'] at h
      obtain hsourceFails | hsinkFails := h
      · obtain ⟨error, herror⟩ := findEndpoint_of_failing (i := i) hsourceFails p.source
        cases hsource.symm.trans herror
      · rw [hsame]
        exact hsinkFails
    obtain ⟨error, hsink⟩ := findEndpoint_of_failing (i := i) hfailing p.sink
    rw [ReviewM.value_bind_of_ok hsource, ReviewM.after_bind_of_ok hsource]
    dsimp only
    rw [ReviewM.value_bind_of_error hsink, ReviewM.after_bind_of_error hsink]
    exact ⟨rfl, .of_reads (IsTrans.trans _ _ _ hasked (findEndpoint_reads i .sink p.sink _))⟩

/-- A path both of whose ends stand in the store is written between the first nodes that stand for
    them. -/
theorem writePath_of_finds {s : Session} (h : finds s.graph.rules = true)
    (hanswers : ∀ role, AnswersFind s.graph role) {i : Investigation} {p : FlowPath}
    {ends : Role → StoredNode} (hends : ∀ role,
      s.graph.store.nodes.find? (standsFor i role (p.endpoint role).nodeId) = some (ends role)) :
    ∃ s₁, Reads s s₁ ∧
      (writePath i p).value s =
        outcomeOf ((joinPath i p (ends .source).id (ends .sink).id).value s₁) ∧
      ((writePath i p).after s).graph =
        ((joinPath i p (ends .source).id (ends .sink).id).after s₁).graph := by
  obtain ⟨hvalue, hgraph⟩ := writePath_eq_tryPath i p s
  rw [finds, Bool.and_eq_true, Bool.not_eq_true', Bool.not_eq_true'] at h
  obtain ⟨hsourceFinds, hsinkFinds⟩ := h
  have hsource : (findEndpoint i .source p.source).value s = .ok (some (ends .source).id) := by
    rw [value_findEndpoint hsourceFinds (hanswers .source)]
    exact congrArg (Except.ok ∘ Option.map (·.id)) (hends .source)
  have hasked := findEndpoint_reads i .source p.source s
  rw [ReviewM.after_run] at hasked
  have hsink : (findEndpoint i .sink p.sink).value ((findEndpoint i .source p.source).after s) =
      .ok (some (ends .sink).id) := by
    obtain ⟨queries, hsame⟩ := hasked.graph
    have hstore : ((findEndpoint i .source p.source).after s).graph.store = s.graph.store := by
      rw [hsame]
    rw [value_findEndpoint (by rw [hsame]; exact hsinkFinds) (by rw [hsame]; exact hanswers .sink),
      hstore]
    exact congrArg (Except.ok ∘ Option.map (·.id)) (hends .sink)
  obtain ⟨htryValue, htryAfter⟩ := tryPath_of_found hsource rfl hsink
  refine ⟨_, IsTrans.trans _ _ _ hasked (findEndpoint_reads i .sink p.sink _), ?_, ?_⟩
  · rw [hvalue, htryValue]
    rfl
  · rw [hgraph, htryAfter]
    rfl

/-- A path whose ends stand in the store is asked for once if they can be looked up, and written if
    the graph then keeps its node. -/
theorem writePath_stores {s : Session} (hanswers : ∀ role, AnswersFind s.graph role)
    {i : Investigation} {p : FlowPath} (hends : ∀ role,
      ∃ n ∈ s.graph.store.nodes, standsFor i role (p.endpoint role).nodeId n = true) :
    ((writePath i p).value s).written = writesPaths s.graph.rules ∧
      ∃ nodes links,
        WrittenInTurn (PathBlock s.graph.rules i) s.graph.store.nodes
          (kept (writesPaths s.graph.rules) [p]) nodes links ∧
        Stores s.graph ((kept (finds s.graph.rules) [p]).map fun _ => [pathLabel]) nodes links
          ((writePath i p).after s).graph := by
  rw [writesPaths]
  cases hfinds : finds s.graph.rules with
  | false =>
    obtain ⟨hwritten, hstores⟩ := writePath_of_not_finds hfinds i p
    exact ⟨hwritten, [], [], .nil _, hstores⟩
  | true =>
    have hfound : ∀ role, ∃ n,
        s.graph.store.nodes.find? (standsFor i role (p.endpoint role).nodeId) = some n :=
      fun role => Option.isSome_iff_exists.mp (List.find?_isSome.mpr (hends role))
    -- The first node that stands for an end is the one that the look-up gives.
    choose ends hends using hfound
    obtain ⟨s₁, hasked, hvalue, hafter⟩ := writePath_of_finds hfinds hanswers hends
    have hnothing := Stores.of_reads hasked
    have hnodes : s₁.graph.store.nodes = s.graph.store.nodes := by
      rw [hnothing.nodes, List.append_nil]
    rw [hvalue, hafter]
    cases hkeeps : s.graph.rules.keeps pathLabel with
    | false =>
      obtain ⟨hwritten, hstores⟩ := joinPath_of_not_keeps (hnothing.rules ▸ hkeeps) i p
        (ends .source).id (ends .sink).id
      exact ⟨hwritten, [], [], .nil _, hnothing.trans hstores⟩
    | true =>
      obtain ⟨hwritten, node, hlabels, hproperties, hstores⟩ :=
        joinPath_of_keeps (hnothing.rules ▸ hkeeps) i p (ends .source).id (ends .sink).id
      rw [hnothing.rules, hnodes] at hstores
      refine ⟨hwritten, _, _,
        .single ⟨List.mem_concat_self, hlabels, hproperties, ends, fun role => ?_, rfl⟩,
        hnothing.trans hstores⟩
      rw [List.find?_append, hends role, Option.some_or]

/-- Paths are written one after the other, those whose ends were written and no others. -/
theorem writePaths_stores {i : Investigation} {sources sinks : List NodeId}
    (paths : List FlowPath) {s : Session} (hanswers : ∀ role, AnswersFind s.graph role)
    (hsources : ∀ id ∈ sources, ∃ n ∈ s.graph.store.nodes, standsFor i .source id n = true)
    (hsinks : ∀ id ∈ sinks, ∃ n ∈ s.graph.store.nodes, standsFor i .sink id n = true) :
    ((writePaths i sources sinks paths).value s).written =
        (kept (writesPaths s.graph.rules) (paths.filter (isEligible sources sinks))).length ∧
      ∃ nodes links,
        WrittenInTurn (PathBlock s.graph.rules i) s.graph.store.nodes
          (kept (writesPaths s.graph.rules) (paths.filter (isEligible sources sinks)))
          nodes links ∧
        Stores s.graph
          ((kept (finds s.graph.rules) (paths.filter (isEligible sources sinks))).map
            fun _ => [pathLabel])
          nodes links ((writePaths i sources sinks paths).after s).graph := by
  induction paths generalizing s with
  | nil =>
    rw [List.filter_nil]
    cases writesPaths s.graph.rules <;> cases finds s.graph.rules <;>
      exact ⟨rfl, [], [], .nil _, Stores.refl s.graph⟩
  | cons p rest ih =>
    by_cases heligible : isEligible sources sinks p = true
    · obtain ⟨hsource, hsink⟩ := (Bool.and_eq_true _ _).mp heligible
      -- The endpoint was written, so that a node stands for it.
      have hends : ∀ role, ∃ n ∈ s.graph.store.nodes,
          standsFor i role (p.endpoint role).nodeId n = true
        | .source => hsources _ (List.contains_iff_mem.mp hsource)
        | .sink => hsinks _ (List.contains_iff_mem.mp hsink)
      obtain ⟨hwritten, nodes, links, hfirst, hstores⟩ := writePath_stores hanswers hends
      -- What stood in the store before still does.
      have hkeep : ∀ {role : Role} {id : NodeId},
          (∃ n ∈ s.graph.store.nodes, standsFor i role id n = true) →
          ∃ n ∈ ((writePath i p).after s).graph.store.nodes, standsFor i role id n = true := by
        rintro role id ⟨n, hn, hstands⟩
        rw [hstores.nodes]
        exact ⟨n, List.mem_append_left _ hn, hstands⟩
      obtain ⟨hothers, nodes', links', hrest, hstores'⟩ := ih (s := (writePath i p).after s)
        (fun role => (hanswers role).of_rules hstores.rules)
        (fun id hid => hkeep (hsources id hid)) (fun id hid => hkeep (hsinks id hid))
      rw [hstores.rules] at hothers hstores'
      rw [hstores.rules, hstores.nodes] at hrest
      rw [List.filter_cons_of_pos heligible, writePaths, if_pos heligible, kept_cons,
        kept_cons (finds s.graph.rules), List.map_append]
      refine ⟨?_, nodes ++ nodes', links ++ links', hfirst.append hrest, hstores.trans hstores'⟩
      simp only [SessionM.value_bind, SessionM.value_pure, hwritten, hothers, List.length_append]
      cases writesPaths s.graph.rules <;> rfl
    · obtain ⟨log, hvalue, hafter⟩ := writePaths_skip i rest s heligible
      rw [List.filter_cons_of_neg heligible, hvalue, hafter]
      exact ih (s := { s with log }) hanswers hsources hsinks

/-! ### The whole write-back -/

/-- The endpoints of a role that are written by these rules: all of them or none. -/
def writtenEndpoints (r : Rules) (role : Role) (es : List Endpoint) : List Endpoint :=
  kept (r.keeps (label role)) es

/-- The paths both of whose ends are among the endpoints that are written. -/
def eligiblePaths (r : Rules) (sources sinks : List Endpoint) (paths : List FlowPath) :
    List FlowPath :=
  paths.filter (isEligible ((writtenEndpoints r .source sources).map (·.nodeId))
    ((writtenEndpoints r .sink sinks).map (·.nodeId)))

/-- The paths that are written by these rules: all eligible ones or none. -/
def writtenPaths (r : Rules) (sources sinks : List Endpoint) (paths : List FlowPath) :
    List FlowPath :=
  kept (writesPaths r) (eligiblePaths r sources sinks paths)

/-- At most one node is written for each item. -/
theorem length_written_le {r : Rules} {i : Investigation} {sources sinks : List Endpoint}
    {paths : List FlowPath} {stored stored' stored'' sourceNodes sinkNodes pathNodes :
    List StoredNode} {sourceLinks sinkLinks pathLinks : List Relationship}
    (hsources : WrittenInTurn (EndpointBlock r i .source) stored
      (writtenEndpoints r .source sources) sourceNodes sourceLinks)
    (hsinks : WrittenInTurn (EndpointBlock r i .sink) stored' (writtenEndpoints r .sink sinks)
      sinkNodes sinkLinks)
    (hpaths : WrittenInTurn (PathBlock r i) stored'' (writtenPaths r sources sinks paths)
      pathNodes pathLinks) :
    (sourceNodes ++ sinkNodes ++ pathNodes).length ≤
      sources.length + sinks.length + paths.length := by
  have hkept := length_kept_le (r.keeps (label .source)) sources
  have hkept' := length_kept_le (r.keeps (label .sink)) sinks
  have hkept'' : (writtenPaths r sources sinks paths).length ≤ paths.length :=
    Nat.le_trans (length_kept_le _ _) (List.length_filter_le _ _)
  rw [List.length_append, List.length_append, hsources.length_nodes, hsinks.length_nodes,
    hpaths.length_nodes]
  exact Nat.add_le_add (Nat.add_le_add hkept hkept') hkept''

/-- For every endpoint that is written there is a node that stands for its entity. -/
theorem exists_standsFor {r : Rules} {i : Investigation} {role : Role} {es : List Endpoint}
    {stored nodes : List StoredNode} {links : List Relationship}
    (h : WrittenInTurn (EndpointBlock r i role) stored es nodes links) {id : NodeId}
    (hid : id ∈ es.map (·.nodeId)) : ∃ n ∈ nodes, standsFor i role id n = true := by
  obtain ⟨e, he, rfl⟩ := List.mem_map.mp hid
  obtain ⟨before, node, own, -, -, hnode, hblock, -⟩ := h.exists_of_item he
  exact ⟨node, hnode, standsFor_of_endpoint hblock.labels hblock.properties⟩

/-- **What a write-back stores**: the sources, then the sinks, then the paths, each one with its
    links, as the rules of the graph allow. -/
theorem persistAll_stores (i : Investigation) (sources sinks : List Endpoint)
    (paths : List FlowPath) (failedBefore : Nat) (s : Session)
    (hanswers : ∀ role, AnswersFind s.graph role) :
    let r := s.graph.rules
    let stored := s.graph.store.nodes
    let counts := (persistAll i sources sinks paths failedBefore).value s
    counts.sources = (writtenEndpoints r .source sources).length ∧
    counts.sinks = (writtenEndpoints r .sink sinks).length ∧
    counts.paths = (writtenPaths r sources sinks paths).length ∧
    ∃ sourceNodes sourceLinks sinkNodes sinkLinks pathNodes pathLinks,
      WrittenInTurn (EndpointBlock r i .source) stored (writtenEndpoints r .source sources)
        sourceNodes sourceLinks ∧
      WrittenInTurn (EndpointBlock r i .sink) (stored ++ sourceNodes)
        (writtenEndpoints r .sink sinks) sinkNodes sinkLinks ∧
      WrittenInTurn (PathBlock r i) (stored ++ sourceNodes ++ sinkNodes)
        (writtenPaths r sources sinks paths) pathNodes pathLinks ∧
      Stores s.graph
        ((sources.map fun _ => [label .source]) ++ (sinks.map fun _ => [label .sink]) ++
          ((kept (finds r) (eligiblePaths r sources sinks paths)).map fun _ => [pathLabel]))
        (sourceNodes ++ sinkNodes ++ pathNodes) (sourceLinks ++ sinkLinks ++ pathLinks)
        ((persistAll i sources sinks paths failedBefore).after s).graph := by
  intro r stored counts
  obtain ⟨hwritten, sourceNodes, sourceLinks, hsources, hstores⟩ :=
    writeEndpoints_stores i .source sources s
  obtain ⟨hwritten', sinkNodes, sinkLinks, hsinks, hstores'⟩ :=
    writeEndpoints_stores i .sink sinks ((writeEndpoints i .source sources).after s)
  rw [hstores.rules] at hwritten'
  rw [hstores.rules, hstores.nodes] at hsinks
  have hboth := hstores.trans hstores'
  -- Every path that is eligible has a written endpoint on each side.
  have hfound : ∀ id ∈ (writtenEndpoints r .source sources).map (·.nodeId),
      ∃ n ∈ stored ++ (sourceNodes ++ sinkNodes), standsFor i .source id n = true := by
    intro id hid
    obtain ⟨n, hn, hstands⟩ := exists_standsFor hsources hid
    exact ⟨n, List.mem_append_right _ (List.mem_append_left _ hn), hstands⟩
  have hfound' : ∀ id ∈ (writtenEndpoints r .sink sinks).map (·.nodeId),
      ∃ n ∈ stored ++ (sourceNodes ++ sinkNodes), standsFor i .sink id n = true := by
    intro id hid
    obtain ⟨n, hn, hstands⟩ := exists_standsFor hsinks hid
    exact ⟨n, List.mem_append_right _ (List.mem_append_right _ hn), hstands⟩
  obtain ⟨hcount, pathNodes, pathLinks, hpaths, hstores''⟩ := writePaths_stores paths
    (fun role => (hanswers role).of_rules hboth.rules)
    (hboth.nodes ▸ hfound) (hboth.nodes ▸ hfound')
  rw [hboth.rules] at hcount hstores''
  rw [hboth.rules, hboth.nodes] at hpaths
  rw [← List.append_assoc] at hpaths
  refine ⟨?_, ?_, ?_, sourceNodes, sourceLinks, sinkNodes, sinkLinks, pathNodes, pathLinks,
    hsources, hsinks, hpaths, ?_⟩
  · simp only [counts, value_persistAll, hwritten, List.length_map]
    rfl
  · simp only [counts, value_persistAll, hwritten', List.length_map]
    rfl
  · simp only [counts, value_persistAll, hwritten, hwritten']
    exact hcount
  · obtain ⟨log, hafter⟩ := after_persistAll i sources sinks paths failedBefore s
    simp only [hafter, hwritten, hwritten']
    exact hboth.trans hstores''

/-- A write-back leaves room for the next one. -/
theorem hasRoomFor_persistAll (i : Investigation) (sources sinks : List Endpoint)
    (paths : List FlowPath) (failedBefore : Nat) {s : Session} {n : Nat}
    (hanswers : ∀ role, AnswersFind s.graph role)
    (hroom : s.graph.HasRoomFor (sources.length + sinks.length + paths.length + n)) :
    ((persistAll i sources sinks paths failedBefore).after s).graph.HasRoomFor n := by
  obtain ⟨-, -, -, _, _, _, _, _, _, hsources, hsinks, hpaths, hstores⟩ :=
    persistAll_stores i sources sinks paths failedBefore s hanswers
  have hwritten := length_written_le hsources hsinks hpaths
  exact hstores.hasRoomFor (hroom.mono (Nat.add_le_add_right hwritten n))

/-! ### A small graph -/

/-- Two functions in a graph that looks entities up in its store. -/
def twoFunctions : Session where
  graph :=
    { store :=
        { nodes := [{ id := 1, labels := ["Function"], properties := [] },
            { id := 2, labels := ["Function"], properties := [] }] }
      nextId := 3
      handlers := [(findStatement .source, .entities (label .source)),
        (findStatement .sink, .entities (label .sink))] }

/-- The first function as a source. -/
def loads : Endpoint := { nodeId := 1, name := "load", category := .userInput }

/-- The second function as a sink. -/
def saves : Endpoint := { nodeId := 2, name := "save", category := .databaseWrite }

/-- A flow from the first function to the second. -/
def loadToSave : FlowPath :=
  { source := loads, sink := saves, vulnerabilityType := "SQL Injection" }

theorem answersFind_twoFunctions (role : Role) : AnswersFind twoFunctions.graph role := by
  refine answersFind_of_entities ?_
  cases role with
  | source => exact List.lookup_cons_self
  | sink =>
    have hne : (findStatement .sink == findStatement .source) = false := by decide +kernel
    rw [twoFunctions, List.lookup_cons, hne]
    exact List.lookup_cons_self

/-- There is room for two write-backs of the flow. -/
theorem hasRoomFor_twoFunctions : twoFunctions.graph.HasRoomFor 6 := ⟨by decide, by decide⟩

end Persistence

end TaintReview
