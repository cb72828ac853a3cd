import SurveyPlatform.Audit.Views

/-! # The audit task

`create_audit_log` of `apps/audit/tasks.py`, which a Celery worker runs once for
each task published, and the `audit_logs` table it writes.  What the `inet`
column takes as an address is the database's own: `isAddress`.
-/

namespace SurveyPlatform.Audit

open SurveyPlatform.Library SurveyPlatform.Library.Program SurveyPlatform.Python SurveyPlatform.Surveys

/-! ## Addresses -/

/-- A decimal number up to 255. -/
def isOctet (part : List Char) : Bool :=
  !part.isEmpty && part.length ≤ 3 && part.all isAsciiDigit &&
    part.foldl (fun value digit => 10 * value + asciiDigitValue digit) 0 ≤ 255

/-- `10.0.0.7` -/
def isIPv4Address (chars : List Char) : Bool :=
  let parts := chars.splitOn '.'
  parts.length == 4 && parts.all isOctet

def isHexDigit (c : Char) : Bool :=
  isAsciiDigit c || ('a' ≤ c && c ≤ 'f') || ('A' ≤ c && c ≤ 'F')

/-- Up to four hexadecimal digits. -/
def isHextet (part : List Char) : Bool := !part.isEmpty && part.length ≤ 4 && part.all isHexDigit

/-- How many groups of 16 bits the parts between colons stand for; the last may be an IPv4 address. -/
def countGroups : List (List Char) → Option Nat
  | [] => some 0
  | [last] => if isHextet last then some 1 else if isIPv4Address last then some 2 else none
  | part :: rest => if isHextet part then (countGroups rest).map (· + 1) else none

/-- What stands before and after the first `::`. -/
def splitCompressed : List Char → Option (List Char × List Char)
  | ':' :: ':' :: rest => some ([], rest)
  | c :: rest => (splitCompressed rest).map fun (before, after) => (c :: before, after)
  | [] => none

/-- Nothing between two colons and the end of the text is no group. -/
def groupsOf (chars : List Char) : Option Nat :=
  if chars.isEmpty then some 0 else countGroups (chars.splitOn ':')

/-- `2001:db8::7` -/
def isIPv6Address (chars : List Char) : Bool :=
  match splitCompressed chars with
  | none => groupsOf chars == some 8
  | some (before, after) =>
    -- `::` stands for at least one group, and an IPv4 address comes last
    !before.contains '.' && ((groupsOf before).bind fun m => (groupsOf after).map (m + ·)).any (· ≤ 7)

/-- The usual text forms of IPv4 and IPv6 addresses. -/
def isIpAddress (text : String) : Bool := isIPv4Address text.toList || isIPv6Address text.toList

/-! ## The table -/

structure AuditLog where
  id : Nat
  userId : Option Nat
  action : AuditAction
  modelName : String
  objectId : String
  details : Json
  ipAddress : Option String

instance : Keyed AuditLog := ⟨AuditLog.id⟩

/-- The keys of the users, and the audit entries. -/
structure AuditTables where
  hasUser : Nat → Bool
  auditLogs : Table AuditLog

/-- `inet` takes an address or `NULL`, and the user must be stored. -/
def auditLogConstraints (isAddress : String → Bool) (tables : AuditTables) (row : AuditLog) : Except PyExn Unit := do
  if row.ipAddress.any fun address => !isAddress address then throw .dataError
  else if row.userId.any fun user => !tables.hasUser user then throw .integrityError

/-! ## `create_audit_log` -/

/-- The row of a task; a blank address is stored as `NULL`. -/
def auditLogOf (task : AuditTask) (id : Nat) : AuditLog where
  id := id
  userId := task.userId
  action := task.action
  modelName := task.modelName
  objectId := task.objectId
  details := (task.details.filter Json.truthy).getD (.object [])
  ipAddress := task.ipAddress.filter (· ≠ "")

theorem key_auditLogOf (task : AuditTask) (id : Nat) : key (auditLogOf task id) = id := rfl

/-- What the insert raises is logged and raised again; the task is not tried again. -/
def createAuditLog (isAddress : String → Bool) (task : AuditTask) : EStateM PyExn AuditTables Unit := do
  reading fun tables => auditLogConstraints isAddress tables (auditLogOf task tables.auditLogs.next)
  writing fun tables => { tables with auditLogs := tables.auditLogs.insert (auditLogOf task) (key_auditLogOf task) }

end SurveyPlatform.Audit
