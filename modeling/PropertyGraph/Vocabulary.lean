/-!
# The vocabulary of properties

Names that the graph itself gives a meaning to, and names that elements commonly carry.

## Main definitions

- `VertexKey`, `RelationKey` — property keys of vertices and of edges
- `Relationship` — common edge labels
- `patternSuffix` — the ending of filter keys that hold a pattern
-/

namespace PropertyGraph

namespace VertexKey

/-- The category of a vertex. -/
def category := "category"
/-- The type of a vertex. -/
def type := "type"
/-- The identity of a vertex. -/
def id := "id"
/-- The name of a vertex. -/
def name := "name"
/-- The state of a vertex. -/
def state := "state"
/-- Set on a vertex that is marked as deleted. -/
def isDeleted := "is_deleted"
/-- Set on a vertex that only stands in for one not seen yet. -/
def isPlaceholder := "is_placeholder"
/-- The time of the last update. -/
def updateTimestamp := "update_timestamp"

end VertexKey

namespace RelationKey

/-- The label of an edge, kept as a property. -/
def relationshipType := "relationship_type"
/-- Set on an edge that is marked as deleted. -/
def isDeleted := "is_deleted"
/-- The time of the last update. -/
def updateTimestamp := "update_timestamp"

end RelationKey

namespace Relationship

/-- The source contains the target. -/
def contains := "contains"
/-- The source runs on the target. -/
def on := "on"
/-- The source is attached to the target. -/
def attached := "attached"
/-- The source causes the target. -/
def causes := "causes"

end Relationship

/-- Filter keys that end so, in any case of letters, hold a pattern. -/
def patternSuffix := ".regex"

/-- The name of a graph that is given none. -/
def defaultGraphName := "entity_graph"

end PropertyGraph
