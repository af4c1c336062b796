import TaintReview.Proofs.WriteBack

namespace TaintReview

/-!
# Graphs through their history

A graph is filled with nodes whose identities the caller chooses, it assigns identities of its own,
and it may be told to fail in between.  Here all that can be done to a graph is one type of
operations, and what holds of every graph is proved of one operation and then of a whole history,
that is of a list of them performed on the empty graph.

* `Graph.Sound` — the nodes differ by their identities, all of which lie below the next one;
* `Graph.Grows g g'` — `g'` has what `g` had: identities in use stay in use, the next one never goes
  back, and no relationship is lost;
* `Graph.sound_perform`, `Graph.grows_perform` — one operation;
* `Graph.history_keeps_store` — what this says about histories.
-/

/-! ### Operations -/

/-- What can be done to a graph. -/
inductive Operation where
  | insertNode (n : StoredNode)
  | insertRelationship (start target : NodeId) (type : String)
  | onQuery (statement : String) (handler : Handler)
  | failQuery (statement : String)
  | withholdIds (label : String)
  | failWrites (label : String)
  | failRelationships (type : String)
  | runQuery (statement : String) (parameters : Parameters)
  | createNode (labels : List String) (properties : Fields)
  | createRelationship (start target : NodeId) (type : String) (properties : Fields)

namespace Graph

/-- The graph after an operation. -/
def perform (g : Graph) : Operation → Graph
  | .insertNode n => g.insertNode n
  | .insertRelationship start target type => g.insertRelationship start target type
  | .onQuery statement handler => g.onQuery statement handler
  | .failQuery statement => g.failQuery statement
  | .withholdIds label => g.withholdIds label
  | .failWrites label => g.failWrites label
  | .failRelationships type => g.failRelationships type
  | .runQuery statement parameters => g.noteQuery statement parameters
  | .createNode labels properties => (g.createNode labels properties).2
  | .createRelationship start target type properties =>
    (g.createRelationship start target type properties).2

/-- The graph after operations in their order. -/
def performAll (g : Graph) (ops : List Operation) : Graph := ops.foldl perform g

/-- The identity that an operation assigns. -/
def assigned? (g : Graph) : Operation → Option NodeId
  | .createNode labels properties =>
    match (g.createNode labels properties).1 with
    | .ok id? => id?
    | .error _ => none
  | _ => none

/-- The identities that operations assign, in their order. -/
def assigned (g : Graph) : List Operation → List NodeId
  | [] => []
  | op :: rest => (g.assigned? op).toList ++ (g.perform op).assigned rest

/-- Does the next identity overflow its word? -/
def overflows (g : Graph) : Operation → Bool
  | .insertNode n => g.nextId ≤ n.id && n.id == Int64.maxValue
  | op => (g.assigned? op).isSome && g.nextId == Int64.maxValue

/-- None of the operations overflows. -/
def InRange (g : Graph) : List Operation → Prop
  | [] => True
  | op :: rest => g.overflows op = false ∧ (g.perform op).InRange rest

instance decidableInRange : (g : Graph) → (ops : List Operation) → Decidable (g.InRange ops)
  | _, [] => .isTrue trivial
  | g, op :: rest =>
    have := decidableInRange (g.perform op) rest
    inferInstanceAs (Decidable (g.overflows op = false ∧ (g.perform op).InRange rest))

end Graph

/-- The identity that an operation puts into the graph as the caller chose it. -/
def Operation.inserted? : Operation → Option NodeId
  | .insertNode n => some n.id
  | _ => none

/-- The identities that callers chose. -/
def inserted (ops : List Operation) : List NodeId := ops.filterMap (·.inserted?)

namespace Graph

variable {g g' g'' : Graph} {op : Operation} {ops : List Operation}

theorem performAll_cons (g : Graph) (op : Operation) (rest : List Operation) :
    g.performAll (op :: rest) = (g.perform op).performAll rest := rfl

/-- A history is in range when both of its parts are. -/
theorem inRange_append {first second : List Operation} :
    g.InRange (first ++ second) ↔ g.InRange first ∧ (g.performAll first).InRange second := by
  induction first generalizing g with
  | nil => exact ⟨fun h => ⟨trivial, h⟩, fun h => h.2⟩
  | cons op rest ih =>
    rw [List.cons_append, InRange, InRange, ih, and_assoc, performAll_cons]

/-! ### What an operation can do -/

/-- What an operation does to the contents of a graph. -/
inductive Change (g : Graph) (op : Operation) (g' : Graph) : Prop
  /-- Nothing is stored. -/
  | nothing (store : g'.store = g.store) (nextId : g'.nextId = g.nextId)
  /-- A relationship is stored. -/
  | link (r : Relationship) (store : g'.store = g.store.addRelationship r)
      (nextId : g'.nextId = g.nextId)
  /-- A node of a chosen identity is stored in place of another one. -/
  | insert (n : StoredNode) (chosen : op = .insertNode n) (store : g'.store = g.store.replaceNode n)
      (nextId : g'.nextId = if g.nextId ≤ n.id then n.id + 1 else g.nextId)
  /-- A node is stored under the next identity. -/
  | assign (n : StoredNode) (id : n.id = g.nextId) (assigned : g.assigned? op = some g.nextId)
      (store : g'.store = g.store.addNode n) (nextId : g'.nextId = g.nextId + 1)

/-- Either the next identity is assigned and its node is stored behind the others, or nothing but
    the attempt is recorded. -/
theorem createNode_cases (g : Graph) (labels : List String) (properties : Fields) :
    (g.createNode labels properties).1 = .ok (some g.nextId) ∧
        (g.createNode labels properties).2 =
          { g with
            attempts := g.attempts ++ [labels]
            store := g.store.addNode { id := g.nextId, labels, properties }
            nextId := g.nextId + 1 } ∨
      g.assigned? (.createNode labels properties) = none ∧
        (g.createNode labels properties).2 = { g with attempts := g.attempts ++ [labels] } := by
  rw [assigned?, createNode]
  split
  · exact .inr ⟨rfl, rfl⟩
  · split
    · exact .inr ⟨rfl, rfl⟩
    · exact .inl ⟨rfl, rfl⟩

/-- Either both ends are there and the relationship is stored, or nothing is done. -/
theorem createRelationship_cases (g : Graph) (start target : NodeId) (type : String)
    (properties : Fields) :
    (g.createRelationship start target type properties).1 = .ok true ∧
        (g.store.hasNode start = true ∧ g.store.hasNode target = true) ∧
        (g.createRelationship start target type properties).2 =
          { g with store := g.store.addRelationship { start, target, type, properties } } ∨
      (g.createRelationship start target type properties).1 ≠ .ok true ∧
        (g.createRelationship start target type properties).2 = g := by
  rw [createRelationship]
  split
  · exact .inr ⟨by simp, rfl⟩
  · split
    · next hends => exact .inl ⟨rfl, Bool.and_eq_true_iff.mp hends, rfl⟩
    · exact .inr ⟨by simp, rfl⟩

/-- **What an operation can do** is one of four things. -/
theorem change_perform (g : Graph) (op : Operation) : g.Change op (g.perform op) := by
  cases op with
  | insertNode n => exact .insert n rfl rfl rfl
  | insertRelationship start target type => exact .link _ rfl rfl
  | createNode labels properties =>
    obtain ⟨hvalue, hafter⟩ | ⟨-, hafter⟩ := g.createNode_cases labels properties
    · have hassigned : g.assigned? (.createNode labels properties) = some g.nextId := by
        rw [assigned?, hvalue]
      rw [perform, hafter]
      exact .assign _ rfl hassigned rfl rfl
    · rw [perform, hafter]
      exact .nothing rfl rfl
  | createRelationship start target type properties =>
    obtain ⟨-, -, hafter⟩ | ⟨-, hafter⟩ := g.createRelationship_cases start target type properties
    · rw [perform, hafter]
      exact .link _ rfl rfl
    · rw [perform, hafter]
      exact .nothing rfl rfl
  | onQuery | failQuery | withholdIds | failWrites | failRelationships | runQuery =>
    exact .nothing rfl rfl

/-- Only the next identity is ever assigned, and it is used up by that. -/
theorem nextId_of_assigned? {id : NodeId} (h : g.assigned? op = some id) :
    id = g.nextId ∧ (g.perform op).nextId = g.nextId + 1 := by
  cases op with
  | createNode labels properties =>
    obtain ⟨hvalue, hafter⟩ | ⟨hnone, -⟩ := g.createNode_cases labels properties
    · rw [assigned?, hvalue] at h
      rw [perform, hafter]
      exact ⟨(Option.some.inj h).symm, rfl⟩
    · rw [hnone] at h
      cases h
  | _ => cases h

/-! ### Identities in range -/

/-- An identity below the last one has a successor. -/
theorem toInt_add_one_of_ne {id : NodeId} (h : id ≠ Int64.maxValue) :
    (id + 1).toInt = id.toInt + 1 := by
  have hne : id.toInt ≠ Int64.maxValue.toInt := fun heq => h (Int64.toInt_inj.mp heq)
  have hle := id.toInt_lt
  have hmax : Int64.maxValue.toInt = 9223372036854775807 := by decide
  exact toInt_succ id (by omega)

/-- An identity that is inserted or assigned lies below the next one afterwards, and the next one
    does not go back. -/
theorem nextId_of_insert {n : StoredNode} (h : g.overflows (.insertNode n) = false) :
    n.id < (if g.nextId ≤ n.id then n.id + 1 else g.nextId) ∧
      g.nextId ≤ if g.nextId ≤ n.id then n.id + 1 else g.nextId := by
  simp only [Int64.lt_iff_toInt_lt, Int64.le_iff_toInt_le]
  split
  · next hle =>
    have hmax : n.id ≠ Int64.maxValue := by
      intro heq
      rw [overflows, Bool.and_eq_false_iff, beq_eq_false_iff_ne, decide_eq_false_iff_not] at h
      exact h.elim (absurd (Int64.le_iff_toInt_le.mpr hle)) (absurd heq)
    have hnext := toInt_add_one_of_ne hmax
    omega
  · omega

/-- An identity that is assigned in range lies below the next one. -/
theorem nextId_of_assign (hassigned : (g.assigned? op).isSome = true)
    (h : g.overflows op = false) : g.nextId < g.nextId + 1 := by
  have hmax : g.nextId ≠ Int64.maxValue := by
    cases op with
    | createNode labels properties =>
      rw [overflows, hassigned, Bool.true_and, beq_eq_false_iff_ne] at h
      · exact h
      · nofun
    | _ => cases hassigned
  have hnext := toInt_add_one_of_ne hmax
  rw [Int64.lt_iff_toInt_lt]
  omega

/-! ### Sound graphs -/

/-- The nodes differ by their identities, all of which lie below the next one. -/
structure Sound (g : Graph) : Prop where
  distinct : (g.store.nodes.map (·.id)).Nodup
  older : ∀ n ∈ g.store.nodes, n.id < g.nextId

theorem sound_empty : Sound {} := ⟨List.nodup_nil, List.forall_mem_nil _⟩

/-- **One operation keeps a graph sound.** -/
theorem sound_perform (h : g.Sound) (hrange : g.overflows op = false) : (g.perform op).Sound := by
  cases g.change_perform op with
  | nothing store nextId => exact ⟨store ▸ h.distinct, by rw [store, nextId]; exact h.older⟩
  | link r store nextId => exact ⟨store ▸ h.distinct, by rw [store, nextId]; exact h.older⟩
  | insert n chosen store nextId =>
    subst chosen
    -- A chosen identity can lie beyond the next one, which then follows it.
    obtain ⟨hnew, hold⟩ := nextId_of_insert hrange
    rw [← nextId] at hnew hold
    constructor
    · rw [store, Store.replaceNode, List.map_append, List.map_singleton]
      -- What is left of the old nodes is a part of them, without the identity of the new one.
      refine List.Nodup.append ?_ (List.nodup_singleton n.id) ?_
      · exact h.distinct.sublist (List.filter_sublist.map _)
      · intro id hid hn
        rw [List.mem_singleton] at hn
        obtain ⟨m, hm, rfl⟩ := List.mem_map.mp hid
        exact absurd hn (by simpa using (List.mem_filter.mp hm).2)
    · rw [store]
      intro m hm
      obtain hm | hm := List.mem_append.mp hm
      · exact Int64.lt_of_lt_of_le (h.older m (List.mem_filter.mp hm).1) hold
      · rw [List.mem_singleton.mp hm]
        exact hnew
  | assign n id assigned store nextId =>
    -- An assigned identity is new, since all older ones lie below it.
    have hnext := nextId_of_assign (by rw [assigned]; rfl) hrange
    constructor
    · rw [store, Store.nodes_addNode, List.map_append, List.map_singleton, id]
      refine List.Nodup.append h.distinct (List.nodup_singleton _) ?_
      intro other hother hn
      rw [List.mem_singleton] at hn
      obtain ⟨m, hm, rfl⟩ := List.mem_map.mp hother
      exact Int64.lt_irrefl (hn ▸ h.older m hm)
    · rw [store, nextId, Store.nodes_addNode]
      intro m hm
      obtain hm | hm := List.mem_append.mp hm
      · exact Int64.lt_trans (h.older m hm) hnext
      · rw [List.mem_singleton.mp hm, id]
        exact hnext

/-- Every operation of a history keeps the graph sound. -/
theorem sound_performAll (h : g.Sound) (hrange : g.InRange ops) : (g.performAll ops).Sound := by
  induction ops generalizing g with
  | nil => exact h
  | cons op rest ih => exact ih (sound_perform h hrange.1) hrange.2

/-! ### Growth -/

/-- The second graph has what the first one had: its identities, its relationships, and a next
    identity that did not go back. -/
structure Grows (g g' : Graph) : Prop where
  nextId : g.nextId ≤ g'.nextId
  nodes : ∀ id, g.store.hasNode id = true → g'.store.hasNode id = true
  relationships : g.store.relationships <+: g'.store.relationships

namespace Grows

theorem refl (g : Graph) : Grows g g where
  nextId := Int64.le_refl _
  nodes _ h := h
  relationships := List.prefix_rfl

theorem trans (h : Grows g g') (h' : Grows g' g'') : Grows g g'' where
  nextId := Int64.le_trans h.nextId h'.nextId
  nodes id hid := h'.nodes id (h.nodes id hid)
  relationships := h.relationships.trans h'.relationships

end Grows

/-- A node that is replaced leaves its identity to the new one. -/
theorem hasNode_replaceNode {s : Store} {id : NodeId} (h : s.hasNode id = true) (n : StoredNode) :
    (s.replaceNode n).hasNode id = true := by
  obtain ⟨m, hm, hid⟩ := List.any_eq_true.mp h
  -- Either the new node takes over the identity, or the old one is kept.
  by_cases hn : m.id = n.id
  · refine List.any_eq_true.mpr ⟨n, List.mem_append_right _ List.mem_cons_self, ?_⟩
    rw [← hn]
    exact hid
  · have hkept : m ∈ s.nodes.filter (·.id != n.id) :=
      List.mem_filter.mpr ⟨hm, bne_iff_ne.mpr hn⟩
    exact List.any_eq_true.mpr ⟨m, List.mem_append_left _ hkept, hid⟩

/-- **One operation takes nothing away.** -/
theorem grows_perform (hrange : g.overflows op = false) : Grows g (g.perform op) := by
  cases g.change_perform op with
  | nothing store nextId =>
    exact ⟨nextId ▸ Int64.le_refl _, fun id hid => store ▸ hid, store ▸ List.prefix_rfl⟩
  | link r store nextId =>
    refine ⟨nextId ▸ Int64.le_refl _, fun id hid => store ▸ hid, ?_⟩
    rw [store, Store.relationships_addRelationship]
    exact List.prefix_append _ _
  | insert n chosen store nextId =>
    subst chosen
    refine ⟨nextId ▸ (nextId_of_insert hrange).2, fun id hid => ?_, store ▸ List.prefix_rfl⟩
    rw [store]
    exact hasNode_replaceNode hid n
  | assign n id assigned store nextId =>
    have hnext := nextId_of_assign (by rw [assigned]; rfl) hrange
    refine ⟨nextId ▸ Int64.le_of_lt hnext, fun id hid => ?_, store ▸ List.prefix_rfl⟩
    rw [store, Store.hasNode, Store.nodes_addNode, List.any_append]
    exact Bool.or_eq_true_iff.mpr (.inl hid)

/-- A history takes nothing away. -/
theorem grows_performAll (hrange : g.InRange ops) : Grows g (g.performAll ops) := by
  induction ops generalizing g with
  | nil => exact .refl g
  | cons op rest ih => exact (grows_perform hrange.1).trans (ih hrange.2)

/-! ### Fresh identities -/

/-- An identity that an operation inserts or assigns lies below the next one afterwards. -/
theorem lt_nextId_perform {id : NodeId} (hrange : g.overflows op = false)
    (h : op.inserted? = some id ∨ g.assigned? op = some id) : id < (g.perform op).nextId := by
  obtain hinserted | hassigned := h
  · cases op with
    | insertNode n =>
      cases hinserted
      exact (nextId_of_insert hrange).1
    | _ => cases hinserted
  · obtain ⟨rfl, hnext⟩ := nextId_of_assigned? hassigned
    rw [hnext]
    exact nextId_of_assign (by rw [hassigned]; rfl) hrange

/-- All identities that were ever inserted or assigned lie below the next one. -/
theorem lt_nextId_performAll {id : NodeId} (hrange : g.InRange ops)
    (h : id ∈ inserted ops ∨ id ∈ g.assigned ops) : id < (g.performAll ops).nextId := by
  induction ops generalizing g with
  | nil => exact h.elim nofun nofun
  | cons op rest ih =>
    obtain ⟨hop, hrest⟩ := hrange
    -- The identity comes from the first operation, or from a later one.
    have hcases : (op.inserted? = some id ∨ g.assigned? op = some id) ∨
        (id ∈ inserted rest ∨ id ∈ (g.perform op).assigned rest) := by
      obtain hinserted | hassigned := h
      · rw [inserted, List.mem_filterMap] at hinserted
        obtain ⟨other, hother, hid⟩ := hinserted
        obtain rfl | hother := List.mem_cons.mp hother
        · exact .inl (.inl hid)
        · exact .inr (.inl (List.mem_filterMap.mpr ⟨other, hother, hid⟩))
      · rw [assigned, List.mem_append, Option.mem_toList] at hassigned
        exact hassigned.imp .inr .inr
    obtain hfirst | hlater := hcases
    · exact Int64.lt_of_lt_of_le (lt_nextId_perform hop hfirst) (grows_performAll hrest).nextId
    · exact ih hrest hlater

/-- No identity below the next one is assigned any more. -/
theorem nextId_le_of_mem_assigned {id : NodeId} (hrange : g.InRange ops)
    (h : id ∈ g.assigned ops) : g.nextId ≤ id := by
  induction ops generalizing g with
  | nil => cases h
  | cons op rest ih =>
    obtain ⟨hop, hrest⟩ := hrange
    rw [assigned, List.mem_append, Option.mem_toList] at h
    obtain hfirst | hlater := h
    · rw [(nextId_of_assigned? hfirst).1]
      exact Int64.le_refl _
    · exact Int64.le_trans (grows_perform hop).nextId (ih hrest hlater)

/-! ### Histories -/

/-- **What holds of a graph through its history.**  As long as identities stay in range, the nodes
    of a graph differ by their identities, and these lie below the next one.  At every operation of
    the history:

    * an identity that is assigned lies above all that were inserted or assigned before, and it is
      never assigned again;
    * a creation is recorded as one attempt, and one that assigns no identity leaves the store and
      the next identity as they are;
    * a query, however it is answered, changes nothing but the record of queries;
    * creating a relationship stores the one that was asked for or, when the answer is another one,
      changes nothing; whatever was stored stays, and its two ends are there from then on. -/
theorem history_keeps_store (ops : List Operation) (hrange : InRange {} ops) :
    (performAll {} ops).Sound ∧
    ∀ before op after, ops = before ++ op :: after →
      let g := performAll {} before
      let g' := g.perform op
      (∀ id, g.assigned? op = some id →
        (∀ other, other ∈ inserted before ∨ other ∈ assigned {} before → other < id) ∧
          id ∉ g'.assigned after) ∧
      (∀ labels properties, op = .createNode labels properties →
        g'.attempts = g.attempts ++ [labels] ∧
          (g.assigned? op = none → g'.store = g.store ∧ g'.nextId = g.nextId)) ∧
      (∀ statement parameters, op = .runQuery statement parameters →
        g' = { g with queries := g.queries ++ [{ statement, parameters }] } ∧
          ∀ s : Session, s.graph = g →
            ((Session.runQuery statement parameters).after s).graph = g') ∧
      (∀ start target type properties, op = .createRelationship start target type properties →
        ∃ recorded, g'.store.relationships = g.store.relationships ++ recorded ∧
          ((g.createRelationship start target type properties).1 = .ok true →
            recorded = [{ start, target, type, properties }]) ∧
          ((g.createRelationship start target type properties).1 ≠ .ok true → g' = g) ∧
          ∀ r ∈ recorded, ∀ later, later <+: after →
            let store := (g'.performAll later).store
            r ∈ store.relationships ∧
              store.hasNode r.start = true ∧ store.hasNode r.target = true) := by
  refine ⟨sound_performAll sound_empty hrange, ?_⟩
  rintro before op after rfl
  obtain ⟨hbefore, hop, hafter⟩ := inRange_append.mp hrange
  intro g g'
  refine ⟨?_, ?_, ?_, ?_⟩
  · intro id hid
    obtain ⟨rfl, hnext⟩ := nextId_of_assigned? hid
    refine ⟨fun other hother => lt_nextId_performAll hbefore hother, fun hagain => ?_⟩
    -- What is assigned later lies above the next identity, and this one below it.
    have hlow : g'.nextId ≤ g.nextId := nextId_le_of_mem_assigned hafter hagain
    have hhigh : g.nextId < g'.nextId := lt_nextId_perform hop (.inr hid)
    exact Int64.lt_irrefl (Int64.lt_of_lt_of_le hhigh hlow)
  · rintro labels properties rfl
    obtain ⟨hvalue, hcreated⟩ | ⟨-, hrefused⟩ := g.createNode_cases labels properties
    · refine ⟨congrArg attempts hcreated, fun hnone => ?_⟩
      rw [assigned?, hvalue] at hnone
      cases hnone
    · -- A creation that is refused leaves a trace in the attempts only.
      have hg' : g' = { g with attempts := g.attempts ++ [labels] } := hrefused
      rw [hg']
      exact ⟨rfl, fun _ => ⟨rfl, rfl⟩⟩
  · rintro statement parameters rfl
    refine ⟨rfl, fun s hs => ?_⟩
    rw [Session.graph_runQuery, hs]
    rfl
  · rintro start target type properties rfl
    obtain ⟨hlinked, hends, hcreated⟩ | ⟨hnot, hsame⟩ :=
      g.createRelationship_cases start target type properties
    · have hstore : g'.store = g.store.addRelationship { start, target, type, properties } :=
        congrArg store hcreated
      refine ⟨[{ start, target, type, properties }], ?_, fun _ => rfl,
        fun hnot => absurd hlinked hnot, ?_⟩
      · rw [hstore, Store.relationships_addRelationship]
      · intro r hr later hlater
        obtain rfl := List.mem_singleton.mp hr
        obtain ⟨rest, rfl⟩ := hlater
        have hmem : { start, target, type, properties } ∈ g'.store.relationships := by
          rw [hstore]
          exact List.mem_concat_self
        -- What is stored now is still stored after any later operations.
        have hgrows := grows_performAll (inRange_append.mp hafter).1
        exact ⟨hgrows.relationships.subset hmem, hgrows.nodes start (hstore ▸ hends.1),
          hgrows.nodes target (hstore ▸ hends.2)⟩
    · have hg' : g' = g := hsame
      refine ⟨[], ?_, fun hlinked => absurd hlinked hnot, fun _ => hg', List.forall_mem_nil _⟩
      rw [hg', List.append_nil]

/-- A node is linked to one that the caller puts in place of another later on.  In between a
    creation fails, and a link to a node that is not there is refused. -/
def replacedEnd : List Operation :=
  [.insertNode { id := 10, labels := ["Function"], properties := [] },
   .insertNode { id := -5, labels := ["File"], properties := [] },
   .createNode ["Source"] [],
   .createRelationship 11 10 "REPRESENTS" [],
   .failWrites "Sink",
   .createNode ["Sink"] [],
   .createRelationship 11 12 "FLOWS_TO" [],
   .insertNode { id := 10, labels := ["Method"], properties := [] },
   .createNode ["Source"] []]

/-- The link keeps its ends, the failed creation uses up no identity, and the refused link is not
    stored, even though a node of that identity comes later. -/
theorem history_keeps_store_replacedEnd :
    InRange {} replacedEnd ∧ assigned {} replacedEnd = [11, 12] ∧
      (performAll {} replacedEnd).Sound ∧
      performAll {} (replacedEnd.take 7) = performAll {} (replacedEnd.take 6) ∧
      let store := (performAll {} replacedEnd).store
      { start := 11, target := 10, type := "REPRESENTS", properties := [] } ∈
          store.relationships ∧
        store.hasNode 11 = true ∧ store.hasNode 10 = true := by
  have hrange : InRange {} replacedEnd := by decide
  obtain ⟨hsound, hsteps⟩ := history_keeps_store replacedEnd hrange
  -- The link that is stored is the fourth operation, the one that is refused the seventh.
  obtain ⟨-, -, -, hlinks⟩ := hsteps (replacedEnd.take 3) _ (replacedEnd.drop 4) rfl
  obtain ⟨recorded, -, hlinked, -, hstays⟩ := hlinks 11 10 "REPRESENTS" [] rfl
  obtain ⟨-, -, -, hlinks⟩ := hsteps (replacedEnd.take 6) _ (replacedEnd.drop 7) rfl
  obtain ⟨-, -, -, hrefused, -⟩ := hlinks 11 12 "FLOWS_TO" [] rfl
  refine ⟨hrange, by decide, hsound, hrefused (by decide), ?_⟩
  exact hstays _ (hlinked (by decide) ▸ List.mem_singleton_self _) _ List.prefix_rfl

end Graph

end TaintReview
