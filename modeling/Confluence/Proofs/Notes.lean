import Confluence.Source.Shard
import Mathlib.Tactic.Common

/-!
# Notes on failures

On its way up a failure gets a note from every shard that it passes. A note goes in front of the
free text of the failure, if it has one, and changes nothing else. So after any number of notes a
failure is of its kind, shows its SQLSTATE and carries its data, and its text begins with all notes,
the last one first.
-/

namespace Confluence

namespace Failure

/-- The free text of a failure, if it has one. -/
def text? : Failure → Option String
  | .configuration m => some m
  | .prematureAccess m => some m
  | .source _ reason => some reason
  | .resourceExhausted reason _ => some reason
  | .internalBug _ m _ => some m
  | .typeMismatch .. | .columnOutOfBounds _ | .unknownColumn _ | .io _ => none

/-- The same failure with another free text. -/
def withText (text : String) : Failure → Failure
  | .configuration _ => .configuration text
  | .prematureAccess _ => .prematureAccess text
  | .source shard _ => .source shard text
  | .resourceExhausted _ ms => .resourceExhausted text ms
  | .internalBug code _ context => .internalBug code text context
  | f@(.typeMismatch ..) | f@(.columnOutOfBounds _) | f@(.unknownColumn _) | f@(.io _) => f

/-- The same failure with something in front of its free text, if it has one. -/
def prepend (front : String) (f : Failure) : Failure :=
  match f.text? with
  | some text => f.withText (front ++ text)
  | none => f

lemma within_eq_prepend (context : String) (f : Failure) :
    f.within context = f.prepend (context ++ ": ") := by
  cases f <;> rfl

@[simp] lemma prepend_empty (f : Failure) : f.prepend "" = f := by
  cases f <;> simp [prepend, text?, withText]

@[simp] lemma prepend_prepend (front front' : String) (f : Failure) :
    (f.prepend front').prepend front = f.prepend (front ++ front') := by
  cases f <;> simp [prepend, text?, withText, String.append_assoc]

@[simp] lemma text?_prepend (front : String) (f : Failure) :
    (f.prepend front).text? = f.text?.map (front ++ ·) := by
  cases f <;> rfl

@[simp] lemma withText_prepend (front text : String) (f : Failure) :
    (f.prepend front).withText text = f.withText text := by
  cases f <;> rfl

@[simp] lemma kind_prepend (front : String) (f : Failure) : (f.prepend front).kind = f.kind := by
  cases f <;> rfl

@[simp] lemma sqlstate_prepend (front : String) (f : Failure) :
    (f.prepend front).sqlstate = f.sqlstate := by
  cases f <;> rfl

end Failure

/-- The calls on a source whose failures get a note. -/
inductive Stage where
  | advance
  | read
deriving DecidableEq

namespace Stage

def name : Stage → String
  | .advance => "advance"
  | .read => "read"

end Stage

/-- What was called on a shard, and the number of the shard. -/
abbrev Hop := Stage × Nat

/-- The note of a shard, as it stands in front of a text. -/
def Hop.note (h : Hop) : String := "stage=" ++ h.1.name ++ ", shard=" ++ toString h.2 ++ ": "

/-- The notes of several shards in a row. -/
def notes : List Hop → String
  | [] => ""
  | h :: route => Hop.note h ++ notes route

lemma Shard.within_note {σ : Type} (s : Shard σ) (stage : Stage) (f : Failure) :
    f.within (s.note stage.name) = f.prepend (Hop.note (stage, s.number)) := by
  rw [Failure.within_eq_prepend]
  rfl

end Confluence
