namespace TaintReview.Statement

/-!
# Statements

The queries that a review issues, in the query language of the graph, and the labels and
relationship types that it writes.
-/

/-- The investigation of an identity and its code graph. -/
def investigationExists : String :=
  "MATCH (i:Investigation \x7bid: $investigation_id\x7d)
OPTIONAL MATCH (i)-[:HAS_GRAPH]->(g)
RETURN i.id AS investigation_id, id(i) AS node_id, id(g) AS graph_id
LIMIT 1"

/-- The entities whose summary or name holds one of the keywords, offered in the given
    role. -/
def keywordCandidates (role : String) : String :=
  "MATCH (i:Investigation \x7bid: $investigation_id\x7d)-[:HAS_GRAPH]->(g)-[:CONTAINS*]->(n)
WHERE (n:Function OR n:Method OR n:Class)
  AND n.summary IS NOT NULL
  AND any(k IN $keywords WHERE toLower(n.summary) CONTAINS k OR toLower(n.name) CONTAINS k)
OPTIONAL MATCH (f:File)-[:CONTAINS*]->(n)
RETURN id(n) AS node_id, n.name AS name, head(labels(n)) AS kind,
       id(f) AS file_node_id, f.path AS file_path,
       n.start_line AS line_number, n.summary AS description, '" ++ role ++ "' AS role
LIMIT coalesce($limit, 1000)"

/-- Candidates for sources. -/
def keywordSourceCandidates : String := keywordCandidates "source"

/-- Candidates for sinks. -/
def keywordSinkCandidates : String := keywordCandidates "sink"

/-- The code of an entity. -/
def nodeCode : String :=
  "MATCH (n) WHERE id(n) = $node_id
OPTIONAL MATCH (f:File)-[:CONTAINS*]->(n)
RETURN n.code AS code, n.docstring AS docstring, f.path AS file_path"

/-- The shortest call path between two entities. -/
def callPath : String :=
  "MATCH (a), (b) WHERE id(a) = $source_id AND id(b) = $sink_id
MATCH p = shortestPath((a)-[:CALLS*1..10]->(b))
WHERE length(p) <= $max_hops
RETURN [x IN nodes(p) | id(x)] AS path_ids
LIMIT 1"

/-- A persisted source of an entity. -/
def findSourceByNodeId : String :=
  "MATCH (s:Source \x7binvestigation_id: $investigation_id, node_id: $node_id\x7d)
RETURN id(s) AS id
LIMIT 1"

/-- A persisted sink of an entity. -/
def findSinkByNodeId : String :=
  "MATCH (s:Sink \x7binvestigation_id: $investigation_id, node_id: $node_id\x7d)
RETURN id(s) AS id
LIMIT 1"

end TaintReview.Statement
