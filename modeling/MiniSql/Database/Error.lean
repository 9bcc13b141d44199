import MiniSql.ParseError
import MiniSql.Execution

/-!
# Errors of a database

A call fails because the policy rejects what is not handled, because an insertion is refused,
or because a transaction command comes at the wrong time.
-/

namespace MiniSql

/-- Why a statement is not handled: it cannot be read, or has no meaning on its path. -/
inductive Unhandled where
  | unread (e : ParseError)
  | shapeless (s : Shape)
deriving DecidableEq, Repr

/-- The wording of what is not handled. -/
def Unhandled.message : Unhandled → String
  | unread e => e.message
  | shapeless s => s.message

/-- The ways in which transaction commands go wrong. -/
inductive TransactionFault where
  /-- A transaction is asked for while one is open. -/
  | alreadyActive
  /-- A second `BEGIN`. -/
  | nestedBegin
  /-- `COMMIT` or `ROLLBACK` without a transaction. -/
  | noneActive (command : StatementKind)
  /-- A transaction command within a transaction of the other form. -/
  | notAllowed (command : StatementKind)
  /-- A fault reported by a program that runs in a transaction. -/
  | reported (text : String)
deriving DecidableEq, Repr

/-- The wording of a transaction fault. -/
def TransactionFault.message : TransactionFault → String
  | alreadyActive => "cannot start a transaction while another is active"
  | nestedBegin => "cannot BEGIN: a transaction is already active"
  | noneActive command => "cannot " ++ command.name ++ ": no transaction is active"
  | notAllowed command => command.name ++ " is not allowed inside Database::transaction"
  | reported text => text

/-- Why a call fails. -/
inductive DatabaseError where
  | unsupported (sql reason : String)
  | constraintViolation (relation column value : String)
  | storage (e : StorageError)
  | transaction (fault : TransactionFault)
deriving DecidableEq, Repr

namespace DatabaseError

/-- The wording of an error. -/
def message : DatabaseError → String
  | unsupported sql reason => "unsupported statement: " ++ reason ++ " (sql: " ++ sql ++ ")"
  | constraintViolation relation column value =>
    "constraint violation: " ++ relation ++ "." ++ column ++ " already holds '" ++ value ++ "'"
  | storage e => "storage error: " ++ e.message
  | transaction fault => "transaction error: " ++ fault.message

/-- The error that a refused insertion becomes. -/
def ofStorage : StorageError → DatabaseError
  | .uniqueViolation relation column value => constraintViolation relation column value
  | e => storage e

/-- The error is a rejection of what is not handled. -/
def isUnsupported : DatabaseError → Bool
  | unsupported _ _ => true
  | _ => false

end DatabaseError

end MiniSql
