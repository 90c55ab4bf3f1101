/-!
# Faults of a value

What is wrong with a value, as a tree that follows its shape: failed checks at a field, faults of a
nested record, and faults of the items of a list.  The tree is shown as one text, or taken apart
into its failed checks with the path to each.
-/

namespace ProxyConfig

/-- A check that failed. -/
structure FailedCheck where
  code : String
  message : Option String
deriving Repr, DecidableEq, Inhabited

/-- What a failed check says: its message, or its code if it has none. -/
def FailedCheck.text (check : FailedCheck) : String :=
  check.message.getD check.code

/-- What is wrong with a field. -/
inductive Fault where
  | checks (failed : List FailedCheck)
  | record (faults : List (String × Fault))
  | items (faults : List (Nat × List (String × Fault)))
deriving Repr, Inhabited

/-- The faulty fields of a record. -/
abbrev Faults := List (String × Fault)

/-- The name under which the checks of a whole record stand. -/
def wholeRecord : String := "__all__"

namespace Faults

/-! ## As text -/

/-- Messages one below the other. -/
def joined (messages : List String) : String :=
  if messages.isEmpty then "Unknown validation error" else "\n".intercalate messages

mutual

/-- The messages of a field. -/
def fieldMessages (name : String) : Fault → List String
  | .checks failed => failed.map fun c => "Field '" ++ name ++ "': " ++ c.text
  | .record faults =>
    ["Struct '" ++ name ++ "' validation failed: " ++ joined (messages faults)]
  | .items faults => itemMessages name faults

/-- The messages of the fields of a record. -/
def messages : List (String × Fault) → List String
  | [] => []
  | (name, fault) :: rest => fieldMessages name fault ++ messages rest

/-- The messages of the items of a list. -/
def itemMessages (name : String) : List (Nat × List (String × Fault)) → List String
  | [] => []
  | (index, faults) :: rest =>
    ("List '" ++ name ++ "' at index " ++ toString index ++ ": " ++ joined (messages faults)) ::
      itemMessages name rest

end

/-- All faults in one text. -/
def text (faults : Faults) : String :=
  joined (messages faults)

/-! ## As single failures -/

mutual

/-- The failed checks of a field, each with its path. -/
def fieldFailures (path : String) : Fault → List (String × FailedCheck)
  | .checks failed => failed.map fun c => (path, c)
  | .record faults => failures (path ++ ".") faults
  | .items faults => itemFailures path faults

/-- The failed checks of a record; `path` stands before the names of its fields. -/
def failures (path : String) : List (String × Fault) → List (String × FailedCheck)
  | [] => []
  | (name, fault) :: rest => fieldFailures (path ++ name) fault ++ failures path rest

/-- The failed checks of a list. -/
def itemFailures (path : String) :
    List (Nat × List (String × Fault)) → List (String × FailedCheck)
  | [] => []
  | (index, faults) :: rest =>
    failures (path ++ "[" ++ toString index ++ "].") faults ++ itemFailures path rest

end

mutual

/-- No record inside the field has more than one faulty field. -/
def fieldIsLinear : Fault → Bool
  | .checks _ => true
  | .record faults => isLinear faults
  | .items faults => itemsAreLinear faults

/-- No record on any level has more than one faulty field, so the text does not depend on an order
of fields. -/
def isLinear : List (String × Fault) → Bool
  | [] => true
  | [(_, fault)] => fieldIsLinear fault
  | _ :: _ :: _ => false

/-- The same for the items of a list. -/
def itemsAreLinear : List (Nat × List (String × Fault)) → Bool
  | [] => true
  | (_, faults) :: rest => isLinear faults && itemsAreLinear rest

end

/-! ## Composition -/

/-- A check of a field. -/
def check (name : String) (holds : Bool) (code message : String) : Faults :=
  if holds then [] else [(name, .checks [⟨code, some message⟩])]

/-- The faults of a nested record. -/
def nested (name : String) (faults : Faults) : Faults :=
  if faults.isEmpty then [] else [(name, .record faults)]

/-- The faulty items among those that follow the first `index` items. -/
def faultyItems {α : Type} (validate : α → Faults) (index : Nat) : List α → List (Nat × Faults)
  | [] => []
  | x :: rest =>
    let faults := validate x
    (if faults.isEmpty then [] else [(index, faults)]) ++ faultyItems validate (index + 1) rest

/-- The faults of the items of a list. -/
def each {α : Type} (name : String) (validate : α → Faults) (items : List α) : Faults :=
  let faults := faultyItems validate 0 items
  if faults.isEmpty then [] else [(name, .items faults)]

/-- Checks of the whole record, which are made only when none of its fields is faulty. -/
def orElseWhole (faults : Faults) (failed : List FailedCheck) : Faults :=
  if !faults.isEmpty then faults
  else if failed.isEmpty then []
  else [(wholeRecord, .checks failed)]

end Faults
end ProxyConfig
