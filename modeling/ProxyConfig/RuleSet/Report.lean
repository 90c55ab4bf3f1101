import ProxyConfig.Files.Path
import ProxyConfig.RuleSet.Tag
import ProxyConfig.Text.Quoted

/-!
# Reports of a synchronization

A run that goes through reports every rule-set that it downloaded or could not download.  A report
with failures counts as an error when a complete synchronization was asked for.
-/

namespace ProxyConfig

open Files

/-- What a synchronization did. -/
structure SyncReport where
  /-- The count of rule-sets that were looked at. -/
  checked : Nat
  downloaded : List RuleSetTag := []
  /-- The rule-sets that could not be downloaded. -/
  missing : List RuleSetTag := []
  /-- The same with the reasons. -/
  failures : List (RuleSetTag × String) := []
deriving Repr, DecidableEq, Inhabited

/-- Why a synchronization fails. -/
inductive SyncError where
  | partialFailure (failed attempted : Nat) (missing : List String)
  /-- The folder of the rule-sets cannot be made. -/
  | folder (error : FileError)
deriving Repr, DecidableEq, Inhabited

/-- The text of an error. -/
def SyncError.message : SyncError → String
  | .partialFailure failed attempted missing =>
    "Failed to download " ++ toString failed ++ "/" ++ toString attempted ++
      " rule-sets, still missing: " ++ Text.quotedList missing
  | .folder e => "Rule-set directory error: " ++ e.message

namespace SyncReport

/-- Nothing failed. -/
def isComplete (r : SyncReport) : Bool :=
  r.failures.isEmpty

/-- The report, if nothing failed. -/
def result (r : SyncReport) : Except SyncError SyncReport :=
  if r.isComplete then .ok r
  else
    .error (.partialFailure r.failures.length (r.failures.length + r.downloaded.length)
      (r.missing.map RuleSetTag.label))

/-- Put an item at its place in an order; items of the same place keep their order. -/
def insertBy {α : Type} (before : α → α → Bool) (a : α) : List α → List α
  | [] => [a]
  | b :: rest => if before b a then b :: insertBy before a rest else a :: b :: rest

/-- Sort a list. -/
def sortBy {α : Type} (before : α → α → Bool) (items : List α) : List α :=
  items.foldr (insertBy before) []

/-- The order of failures: by tag, then by reason. -/
def failurePrecedes (a b : RuleSetTag × String) : Bool :=
  a.1.precedes b.1 || (a.1 = b.1 && a.2 < b.2)

/-- The report of a run that looked at some rule-sets and attempted to download others. -/
def ofResults (checked : Nat) (results : List (RuleSetTag × Except String Unit)) : SyncReport :=
  let succeeded := results.filterMap fun r =>
    match r.2 with
    | .ok _ => some r.1
    | .error _ => none
  let failed := results.filterMap fun r =>
    match r.2 with
    | .ok _ => none
    | .error reason => some (r.1, reason)
  { checked := checked
    downloaded := sortBy RuleSetTag.precedes succeeded
    missing := sortBy RuleSetTag.precedes (failed.map Prod.fst)
    failures := sortBy failurePrecedes failed }

end SyncReport
end ProxyConfig
