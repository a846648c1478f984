import Confluence.Cursor.Open

/-!
# Sessions of a client

A client calls a cursor as often as it likes and in any order. Each call has an answer, and leaves
the cursor as the next call finds it. Nothing can be called on a cursor that was dropped.
-/

namespace Confluence

inductive ClientCall where
  | advance
  | value (i : Nat) (t : SqlType)
  | valueByLabel (label : String) (t : SqlType)
  | currentRow
  | wasNull
  | close
  | drop
deriving DecidableEq

inductive ClientAnswer where
  | advanced (r : Except Failure Bool)
  | value (r : Except Failure Cell)
  | row (r : Except Failure Row)
  | wasNull (r : Except Failure Bool)
  | closed (r : Except Failure Unit)
  | dropped

/-- The answers after which the sources of a cursor are closed: a failure to advance, a transient
failure to read, and any answer to being closed or dropped. -/
def ClientAnswer.isFinal : ClientAnswer → Bool
  | .advanced (.error _) => true
  | .value (.error e) => e.isTransient
  | .row (.error e) => e.isTransient
  | .closed _ => true
  | .dropped => true
  | .advanced (.ok _) | .value (.ok _) | .row (.ok _) | .wasNull _ => false

/-- What a client asks of a cursor: a call, or a question about its columns. -/
inductive ClientRequest where
  | call (call : ClientCall)
  | columnLabel (i : Nat)
  | columnIndex (label : String)
deriving DecidableEq

inductive ClientReply where
  | answer (a : ClientAnswer)
  | columnLabel (r : Except Failure String)
  | columnIndex (i : Option Nat)

namespace Cursor

variable {σ : Type} [RowSource σ]

/-- Answer one call. -/
def answer (c : Cursor σ) : ClientCall → ClientAnswer × Cursor σ
  | .advance => (.advanced c.advance.1, c.advance.2)
  | .value i t => (.value (c.value i t).1, (c.value i t).2)
  | .valueByLabel label t => (.value (c.valueByLabel label t).1, (c.valueByLabel label t).2)
  | .currentRow => (.row c.currentRow.1, c.currentRow.2)
  | .wasNull => (.wasNull c.wasNull, c)
  | .close => (.closed c.close.1, c.close.2)
  | .drop => (.dropped, c.drop)

/-- Answer one call after the other, until the cursor is dropped. -/
def run (c : Cursor σ) : List ClientCall → List ClientAnswer × Cursor σ
  | [] => ([], c)
  | call :: calls =>
    let (a, c) := c.answer call
    if call = .drop then ([a], c)
    else
      let (as, c) := run c calls
      (a :: as, c)

/-- Merge sources and answer calls on the cursor, if it opens. -/
def session (config : Config) (shape : Shape) (sources : List σ) (calls : List ClientCall) :
    Except Failure (List ClientAnswer) :=
  match merge config shape sources with
  | .ok c => .ok (c.run calls).1
  | .error (e, _) => .error e

/-! ### Questions about columns -/

/-- Answer one request. Questions about columns leave the cursor as it is. -/
def serve (c : Cursor σ) : ClientRequest → ClientReply × Cursor σ
  | .call call => (.answer (c.answer call).1, (c.answer call).2)
  | .columnLabel i => (.columnLabel (c.columnLabel i), c)
  | .columnIndex label => (.columnIndex (c.columnIndex? label), c)

/-- Answer one request after the other, until the cursor is dropped. -/
def serveAll (c : Cursor σ) : List ClientRequest → List ClientReply × Cursor σ
  | [] => ([], c)
  | request :: requests =>
    let (a, c) := c.serve request
    if request = .call .drop then ([a], c)
    else
      let (as, c) := serveAll c requests
      (a :: as, c)

end Cursor

end Confluence
