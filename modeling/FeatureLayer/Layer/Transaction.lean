import FeatureLayer.Layer.Basic

namespace FeatureLayer.Layer

variable (f : Faults) (s : Store)

def begin (l : Layer) (force : Bool) : Bool × List Warning × Layer × Store :=
  match l.state with
  | none => (false, [], l, s)
  | some o =>
    if f.sourceCan s o.connection "Transactions" ||
        (force && f.sourceCan s o.connection "EmulatedTransactions") then
      match f.beginOn s o.connection force with
      | (.ok (), connection, s) => (true, [], l.withState { o with connection }, s)
      | (.error e, connection, s) =>
        (false, l.report [.transactionNotStarted e], l.withState { o with connection }, s)
    else (false, l.report [.transactionsUnsupported l.dataSource force], l, s)

def finish (l : Layer) (commit : Bool) : Bool × List Warning × Layer × Store :=
  match l.state with
  | none => (false, [], l, s)
  | some o =>
    match if commit then f.commitOn s o.connection else f.rollbackOn s o.connection with
    | (.ok (), connection, s) => (true, [], l.withState { o with connection }, s)
    | (.error e, connection, s) =>
      (false, l.report [.transactionNotEnded commit e], l.withState { o with connection }, s)

def commit (l : Layer) : Bool × List Warning × Layer × Store := l.finish f s true

def rollback (l : Layer) : Bool × List Warning × Layer × Store := l.finish f s false

end FeatureLayer.Layer
