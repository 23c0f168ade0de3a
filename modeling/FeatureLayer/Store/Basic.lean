import FeatureLayer.Domain
import FeatureLayer.Source
import FeatureLayer.Store.View
/-!
A store of named data sources. A source is a list of tables that every connection to it shares; a
table or source that loses its name or place stays alive for those who hold it.
-/

namespace FeatureLayer

inductive TransactionSupport where
  | unsupported
  /-- Only on demand. -/
  | emulated
  | native
  deriving DecidableEq, Repr

/-- The contents of a source's tables at the start of its transaction, in the order of the tables. -/
structure Snapshot where
  contents : List (FidMap Record × Int)

structure DataSource where
  tables : List Nat
  domains : List (Domain Datum)
  transactions : TransactionSupport
  /-- Present while a transaction is active. -/
  snapshot : Option Snapshot
  /-- Results of queries that are not released. -/
  resultSets : Nat

def DataSource.empty : DataSource := ⟨[], [], .unsupported, none, 0⟩

instance : Inhabited DataSource := ⟨.empty⟩

structure Store where
  tables : List FeatureTable
  sources : List DataSource
  registry : List (String × Nat)

structure Connection where
  name : String
  source : Nat
  access : Access
  lastError : String
  deriving DecidableEq, Repr

namespace Connection

def refuse {α : Type} (c : Connection) (reason : Refusal) (method detail : String) :
    Except Error α × Connection :=
  (.error (.refused reason method detail), { c with lastError := detail })

end Connection

namespace Store

def empty : Store := ⟨[], [], []⟩

instance : Inhabited Store := ⟨empty⟩

def table (s : Store) (i : Nat) : FeatureTable := s.tables[i]?.getD default

def setTable (s : Store) (i : Nat) (t : FeatureTable) : Store := { s with tables := s.tables.set i t }

def source (s : Store) (i : Nat) : DataSource := s.sources[i]?.getD default

def setSource (s : Store) (i : Nat) (d : DataSource) : Store :=
  { s with sources := s.sources.set i d }

def addTable (s : Store) (t : FeatureTable) : Nat × Store :=
  (s.tables.length, { s with tables := s.tables ++ [t] })

def find? (s : Store) (name : String) : Option Nat := (s.registry.find? (·.1 = name)).map (·.2)

def create (s : Store) (name : String) : Except Error (Connection × Store) :=
  match s.find? name with
  | some _ => .error (.openFailure name "data source already exists")
  | none =>
    let i := s.sources.length
    .ok (⟨name, i, .readWrite, ""⟩,
      { s with sources := s.sources ++ [.empty], registry := s.registry ++ [(name, i)] })

def remove (s : Store) (name : String) : Bool × Store :=
  ((s.find? name).isSome, { s with registry := s.registry.filter (·.1 ≠ name) })

def connect (s : Store) (name : String) (access : Access) : Except Error Connection :=
  match s.find? name with
  | some i => .ok ⟨name, i, access, ""⟩
  | none => .error (.openFailure name "no such memory data source")

def createLayer (s : Store) (c : Connection) (name : String) (schema : Schema) :
    Except Error (View × Store) :=
  let source := s.source c.source
  if c.access ≠ .readWrite then
    .error (.refused .unsupportedOperation "GDALDatasetCreateLayer"
      "data source is opened read-only")
  else if source.tables.any fun i => Text.sameWord (s.table i).name name then
    .error (.refused .failure "GDALDatasetCreateLayer" s!"layer '{name}' already exists")
  else
    let (i, s) := s.addTable (.make name schema)
    .ok (View.make i c.source true false,
      s.setSource c.source { source with tables := source.tables ++ [i] })

/-- The table of exactly that name, else the first whose name differs in case only. -/
def tableOfName? (s : Store) (source : DataSource) (name : String) : Option Nat :=
  source.tables.find? (fun i => (s.table i).name = name) <|>
    source.tables.find? fun i => Text.sameWord (s.table i).name name

def layerByName (s : Store) (c : Connection) (name : String) : Except Error View :=
  match s.tableOfName? (s.source c.source) name with
  | some i => .ok (View.make i c.source (c.access = .readWrite) false)
  | none => .error (.openFailure c.name s!"layer '{name}' not found")

def layerCount (s : Store) (c : Connection) : Nat := (s.source c.source).tables.length

def setTransactions (s : Store) (c : Connection) (support : TransactionSupport) : Store :=
  s.setSource c.source { s.source c.source with transactions := support }

def addDomain (s : Store) (c : Connection) (d : Domain Datum) : Store :=
  let source := s.source c.source
  s.setSource c.source { source with domains := source.domains.filter (·.name ≠ d.name) ++ [d] }

def domain? (s : Store) (c : Connection) (name : String) : Option (Domain Datum) :=
  (s.source c.source).domains.find? (·.name = name)

def sourceCan (s : Store) (c : Connection) (capability : String) : Bool :=
  match SourceCapability.all.find? fun x => Text.sameWord x.name capability with
  | some .createLayer => c.access = .readWrite
  | some .transactions => (s.source c.source).transactions = .native
  | some .emulatedTransactions => (s.source c.source).transactions = .emulated
  | some .deleteLayer | none => false

def viewCan (s : Store) (v : View) (capability : String) : Bool :=
  if Text.sameWord capability "Transactions" then (s.source v.source).transactions = .native
  else (LayerCapability.ofName? capability).any (v.capabilities (s.table v.table)).contains

def change (s : Store) (v : View) (f : FeatureTable → FeatureTable) : Store :=
  s.setTable v.table (f (s.table v.table))

def write (s : Store) (v : View)
    (act : FeatureTable → View → Except Error Int × View × FeatureTable) :
    Except Error Int × View × Store :=
  let (e, v', t) := act (s.table v.table) v
  (e, v', s.setTable v.table t)

end Store

end FeatureLayer
