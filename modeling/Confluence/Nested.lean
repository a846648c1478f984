import Confluence.Cursor.Open

/-!
# Nested merges

Sources of depth 0 are leaves; a source of the next depth is a leaf, or a cursor that merges
sources of the depth below. A plan describes such a source before it is opened.
-/

namespace Confluence

/-- Row sources over leaves of type `ℓ` that nest merged cursors up to a depth. -/
def Nested (ℓ : Type) : Nat → Type
  | 0 => ℓ
  | n + 1 => ℓ ⊕ Cursor (Nested ℓ n)

/-- A nested source is a row source, whatever its depth. -/
@[reducible] def Nested.rowSource (ℓ : Type) [RowSource ℓ] : (n : Nat) → RowSource (Nested ℓ n)
  | 0 => inferInstanceAs (RowSource ℓ)
  | n + 1 =>
    have := Nested.rowSource ℓ n
    inferInstanceAs (RowSource (ℓ ⊕ Cursor (Nested ℓ n)))

instance (ℓ : Type) [RowSource ℓ] (n : Nat) : RowSource (Nested ℓ n) := Nested.rowSource ℓ n

namespace Nested

variable {ℓ : Type}

/-- A leaf as a source of any depth. -/
def leaf : (n : Nat) → ℓ → Nested ℓ n
  | 0, l => l
  | _ + 1, l => .inl l

/-- The leaves of a source, from left to right. -/
def leaves : (n : Nat) → Nested ℓ n → List ℓ
  | 0, l => [l]
  | _ + 1, .inl l => [l]
  | n + 1, .inr c => c.shards.flatMap fun s => leaves n s.source

/-- A source that is given up before it was used. Only a cursor answers for its shards, so a leaf
stays as it is. -/
def abandon [RowSource ℓ] : (n : Nat) → Nested ℓ n → Nested ℓ n
  | 0, l => l
  | _ + 1, .inl l => .inl l
  | _ + 1, .inr c => .inr c.drop

end Nested

/-- Parts to merge, and how. -/
structure MergeOf (π : Type) where
  config : Config
  shape : Shape
  parts : List π

/-- What a source of a given depth is to be opened from: a leaf, or parts to merge. -/
def Plan (ℓ : Type) : Nat → Type
  | 0 => ℓ
  | n + 1 => ℓ ⊕ MergeOf (Plan ℓ n)

namespace Plan

variable {ℓ : Type} [RowSource ℓ]

/-- A leaf as a plan of any depth. -/
def leaf : (n : Nat) → ℓ → Plan ℓ n
  | 0, l => l
  | _ + 1, l => .inl l

/-- Open plans from left to right. A failure ends that: the sources opened before it are given up,
and their leaves come with the failure, in front of those of the plan that failed. -/
def openAll {α : Type} {n : Nat} (openOne : α → Except (Failure × List ℓ) (Nested ℓ n)) :
    List α → Except (Failure × List ℓ) (List (Nested ℓ n))
  | [] => .ok []
  | p :: ps =>
    match openOne p with
    | .error e => .error e
    | .ok s =>
      match openAll openOne ps with
      | .error (e, ls) => .error (e, (s.abandon n).leaves n ++ ls)
      | .ok ss => .ok (s :: ss)

/-- Open a merge whose parts are opened by the given function. -/
def openMerge {α : Type} {n : Nat} (openOne : α → Except (Failure × List ℓ) (Nested ℓ n))
    (m : MergeOf α) : Except (Failure × List ℓ) (Cursor (Nested ℓ n)) :=
  match openAll openOne m.parts with
  | .error e => .error e
  | .ok sources =>
    match Cursor.merge m.config m.shape sources with
    | .ok c => .ok c
    | .error (e, sources) => .error (e, sources.flatMap (Nested.leaves n))

/-- Open a source. With a failure come the leaves that were opened. -/
def openSource : (n : Nat) → Plan ℓ n → Except (Failure × List ℓ) (Nested ℓ n)
  | 0, l => .ok l
  | _ + 1, .inl l => .ok (.inl l)
  | n + 1, .inr m =>
    match openMerge (openSource n) m with
    | .ok c => .ok (.inr c)
    | .error e => .error e

end Plan

end Confluence
