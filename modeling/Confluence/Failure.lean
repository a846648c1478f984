/-!
# Failures

Everything that can go wrong while results are bound, merged and read, as causes. The wording,
the kind and the SQLSTATE of a failure are functions of its cause.
-/

namespace Confluence

/-- Who has to act on a failure: the author of the statement, nobody but a retry may help, or the
maintainers of this library. -/
inductive FailureKind where
  | user
  | transient
  | bug
deriving DecidableEq

inductive Failure where
  /-- The statement and the results it is merged from do not fit together. -/
  | configuration (message : String)
  | typeMismatch (expected got : String)
  /-- A value was asked for where there is no current row. -/
  | prematureAccess (message : String)
  | columnOutOfBounds (index : Nat)
  | unknownColumn (label : String)
  /-- A shard reports that it failed. -/
  | source (shard : Nat) (reason : String)
  | io (message : String)
  | resourceExhausted (reason : String) (retryAfterMs : Nat)
  /-- A promise between parts of this library is broken. -/
  | internalBug (code message context : String)
deriving DecidableEq

namespace Failure

/-- The text that is shown for a failure. -/
def message : Failure → String
  | .configuration m => "Configuration error: " ++ m
  | .typeMismatch expected got => "Type mismatch: expected " ++ expected ++ ", got " ++ got
  | .prematureAccess m => "Premature access: " ++ m
  | .columnOutOfBounds i => "Column index out of bounds: " ++ toString i
  | .unknownColumn label => "Unknown column: " ++ label
  | .source shard reason => "Shard " ++ toString shard ++ " source error: " ++ reason
  | .io m => "IO error: " ++ m
  | .resourceExhausted reason ms =>
    "Resource exhausted: " ++ reason ++ " (retry after " ++ toString ms ++ "ms)"
  | .internalBug code m context =>
    "InternalBug [" ++ code ++ "]: " ++ m ++ " | context: " ++ context

def kind : Failure → FailureKind
  | .configuration _ | .typeMismatch .. | .unknownColumn _ | .columnOutOfBounds _ => .user
  | .source .. | .io _ | .resourceExhausted .. => .transient
  | .prematureAccess _ | .internalBug .. => .bug

/-- The SQLSTATE code that a client of the database sees. -/
def sqlstate : Failure → String
  | .configuration _ => "42000"
  | .typeMismatch .. => "42804"
  | .unknownColumn _ | .columnOutOfBounds _ => "42703"
  | .source .. => "08006"
  | .io _ => "58030"
  | .resourceExhausted .. => "53000"
  | .prematureAccess _ => "24000"
  | .internalBug .. => "XX000"

/-- The same failure, with a note in front of its free text that says where it arose. A failure
that has no free text stays as it is. -/
def within (context : String) : Failure → Failure
  | .configuration m => .configuration (context ++ ": " ++ m)
  | .prematureAccess m => .prematureAccess (context ++ ": " ++ m)
  | .source shard reason => .source shard (context ++ ": " ++ reason)
  | .resourceExhausted reason ms => .resourceExhausted (context ++ ": " ++ reason) ms
  | .internalBug code m c => .internalBug code (context ++ ": " ++ m) c
  | f@(.typeMismatch ..) | f@(.columnOutOfBounds _) | f@(.unknownColumn _) | f@(.io _) => f

def isTransient (f : Failure) : Bool := f.kind = .transient

/-- A note does not change who has to act. -/
@[simp] theorem kind_within (context : String) (f : Failure) :
    (f.within context).kind = f.kind := by
  cases f <;> rfl

@[simp] theorem sqlstate_within (context : String) (f : Failure) :
    (f.within context).sqlstate = f.sqlstate := by
  cases f <;> rfl

@[simp] theorem isTransient_within (context : String) (f : Failure) :
    (f.within context).isTransient = f.isTransient := by
  simp [isTransient]

end Failure

end Confluence
