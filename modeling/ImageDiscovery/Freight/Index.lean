import ImageDiscovery.Freight.Basic

/-!
# The index of freight

The index holds freight by its namespace and name, and for each warehouse which freight came from
it, so that the active freight of a warehouse is found without looking at all of it. A warehouse is
named in the index by its namespace and name with a slash between them.

## Main definitions

* `FreightIndex` — the index.
* `FreightIndex.insert`, `FreightIndex.take`, `FreightIndex.ofList` — changing it.
* `FreightIndex.active` — the active freight of a warehouse.
-/

namespace ImageDiscovery

/-- The namespace and name of freight. -/
structure FreightId where
  ns : String
  name : String
  deriving DecidableEq, Repr

namespace FreightId

/-- By namespace, then by name. -/
protected def compare (a b : FreightId) : Ordering :=
  (Ord.compare a.ns b.ns).then (Ord.compare a.name b.name)

/-- Identifiers with one more at its place, if it is not there already. -/
def insertInto (id : FreightId) : List FreightId → List FreightId
  | [] => [id]
  | d :: ds =>
    match id.compare d with
    | .lt => id :: d :: ds
    | .eq => d :: ds
    | .gt => d :: insertInto id ds

end FreightId

/-- The identifier of freight. -/
def Freight.id (f : Freight) : FreightId := ⟨f.metadata.ns, f.metadata.name⟩

/-- How a warehouse is named in the index. -/
def warehouseKey (ns warehouse : String) : String := ns ++ "/" ++ warehouse

/-- The warehouse of freight as it is named in the index, if it is known. -/
def Freight.warehouseKey? (f : Freight) : Option String :=
  if f.origin.name.isEmpty then none
  else some (warehouseKey f.metadata.ns f.origin.name)

/-- The index of freight. -/
structure FreightIndex where
  /-- Freight by its identifier. -/
  objects : List (FreightId × Freight)
  /-- The identifiers of the freight of each warehouse, in ascending order. -/
  byWarehouse : List (String × List FreightId)

namespace FreightIndex

/-- No freight. -/
def empty : FreightIndex := ⟨[], []⟩

/-- The number of freight objects. -/
def size (i : FreightIndex) : Nat := i.objects.length

/-- There is no freight. -/
def isEmpty (i : FreightIndex) : Bool := i.objects.isEmpty

/-- The freight with an identifier. -/
def find? (i : FreightIndex) (id : FreightId) : Option Freight := i.objects.lookup id

/-- The identifiers of the freight of a warehouse. -/
def idsOf (i : FreightIndex) (key : String) : List FreightId := (i.byWarehouse.lookup key).getD []

/-- The index in which a warehouse has the given identifiers; none of them leaves no trace. -/
def setIds (i : FreightIndex) (key : String) (ids : List FreightId) : FreightIndex :=
  let others := i.byWarehouse.filter (·.1 != key)
  { i with byWarehouse := if ids.isEmpty then others else (key, ids) :: others }

/-- The index without the freight of an identifier. -/
def remove (i : FreightIndex) (id : FreightId) : FreightIndex :=
  match i.find? id with
  | none => i
  | some f =>
    let i : FreightIndex := { i with objects := i.objects.filter (·.1 != id) }
    match f.warehouseKey? with
    | none => i
    | some key => i.setIds key ((i.idsOf key).filter (· != id))

/-- Takes the freight of an identifier out of the index: what was there, and the index without
it. -/
def take (i : FreightIndex) (id : FreightId) : Option Freight × FreightIndex :=
  (i.find? id, i.remove id)

/-- The index with the freight, in place of any other with its identifier. -/
def insert (i : FreightIndex) (f : Freight) : FreightIndex :=
  let i := i.remove f.id
  let i := match f.warehouseKey? with
    | none => i
    | some key => i.setIds key (f.id.insertInto (i.idsOf key))
  { i with objects := (f.id, f) :: i.objects }

/-- The index of a list; later freight replaces earlier freight with the same identifier. -/
def ofList (fs : List Freight) : FreightIndex := fs.foldl insert empty

/-- The active freight of a warehouse, by namespace and name. -/
def active (i : FreightIndex) (ns warehouse : String) : List Freight :=
  ((i.idsOf (warehouseKey ns warehouse)).filterMap i.find?).filter (·.isActive)

end FreightIndex

end ImageDiscovery
