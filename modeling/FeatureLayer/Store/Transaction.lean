import FeatureLayer.Store.Basic

namespace FeatureLayer.Store

def contentsOf (s : Store) (d : DataSource) : Snapshot :=
  ⟨d.tables.map fun i => ((s.table i).records, (s.table i).nextFid)⟩

def begin (s : Store) (c : Connection) (force : Bool) : Except Error Unit × Connection × Store :=
  let d := s.source c.source
  let refuse (reason : Refusal) (detail : String) : Except Error Unit × Connection × Store :=
    let (e, c) := c.refuse reason "GDALDatasetStartTransaction" detail
    (e, c, s)
  if d.transactions = .unsupported ∨ (d.transactions = .emulated ∧ !force) then
    refuse .unsupportedOperation "transactions are not supported"
  else if d.snapshot.isSome then refuse .failure "a transaction is already active"
  else (.ok (), c, s.setSource c.source { d with snapshot := some (s.contentsOf d) })

def commit (s : Store) (c : Connection) : Except Error Unit × Connection × Store :=
  let d := s.source c.source
  match d.snapshot with
  | some _ => (.ok (), c, s.setSource c.source { d with snapshot := none })
  | none =>
    let (e, c) := c.refuse .failure "GDALDatasetCommitTransaction" "no transaction is active"
    (e, c, s)

def restore (s : Store) : List (Nat × FidMap Record × Int) → Store
  | [] => s
  | (i, records, nextFid) :: rest =>
    (s.setTable i { s.table i with records, nextFid }).restore rest

/-- Ends the transaction with the tables and contents of its start. -/
def rollback (s : Store) (c : Connection) : Except Error Unit × Connection × Store :=
  let d := s.source c.source
  match d.snapshot with
  | some before =>
    let tables := d.tables.take before.contents.length
    (.ok (), c,
      (s.setSource c.source { d with tables, snapshot := none }).restore (tables.zip before.contents))
  | none =>
    let (e, c) := c.refuse .failure "GDALDatasetRollbackTransaction" "no transaction is active"
    (e, c, s)

end FeatureLayer.Store
