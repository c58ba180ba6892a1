import Mathlib.Data.Option.Basic
/-!
# Blocks

A program is read as a list, in which items begin and end blocks. `splitBlock` cuts the list where
the block ends that has been entered. It looks past lists in which all blocks are complete
(`IsBalanced`).
-/

namespace JniBindings

/-- An item of a program can begin a block or end one. -/
inductive Bracket
  | opens
  | closes
  | neither
deriving DecidableEq, Repr

section Blocks

variable {α : Type} (bracket : α → Bracket)

/-- What stands in a block, of which the first bracket has been taken off, and what stands behind
it. So many more blocks have been begun in it. -/
def splitBlock : Nat → List α → Option (List α × List α)
  | _, [] => none
  | depth, x :: xs =>
    match bracket x, depth with
    | .closes, 0 => some ([], xs)
    | .closes, depth + 1 => (splitBlock depth xs).map fun (inside, after) => (x :: inside, after)
    | .opens, depth => (splitBlock (depth + 1) xs).map fun (inside, after) => (x :: inside, after)
    | .neither, depth => (splitBlock depth xs).map fun (inside, after) => (x :: inside, after)

/-- What stands behind a block. -/
def behindBlock (xs : List α) : List α := ((splitBlock bracket 0 xs).map Prod.snd).getD []

/-- Every block that begins in the list ends in it, and the other way round. -/
def IsBalanced (xs : List α) : Prop :=
  ∀ depth rest, splitBlock bracket depth (xs ++ rest)
    = (splitBlock bracket depth rest).map fun (inside, after) => (xs ++ inside, after)

variable {bracket} {x y : α} {xs ys rest : List α}

theorem splitBlock_neither (h : bracket x = .neither) (depth : Nat) (xs : List α) :
    splitBlock bracket depth (x :: xs)
      = (splitBlock bracket depth xs).map fun (inside, after) => (x :: inside, after) := by
  simp only [splitBlock, h]

theorem splitBlock_opens (h : bracket x = .opens) (depth : Nat) (xs : List α) :
    splitBlock bracket depth (x :: xs)
      = (splitBlock bracket (depth + 1) xs).map fun (inside, after) => (x :: inside, after) := by
  simp only [splitBlock, h]

theorem splitBlock_closes (h : bracket x = .closes) (depth : Nat) (xs : List α) :
    splitBlock bracket (depth + 1) (x :: xs)
      = (splitBlock bracket depth xs).map fun (inside, after) => (x :: inside, after) := by
  simp only [splitBlock, h]

theorem splitBlock_closes_zero (h : bracket x = .closes) (xs : List α) :
    splitBlock bracket 0 (x :: xs) = some ([], xs) := by
  simp only [splitBlock, h]

namespace IsBalanced

theorem nil : IsBalanced bracket [] := fun depth rest => by
  rw [List.nil_append]
  exact Option.map_id'.symm

theorem append (hx : IsBalanced bracket xs) (hy : IsBalanced bracket ys) :
    IsBalanced bracket (xs ++ ys) := fun depth rest => by
  rw [List.append_assoc, hx, hy, Option.map_map]
  simp only [Function.comp_def, List.append_assoc]

theorem cons (hx : bracket x = .neither) (h : IsBalanced bracket xs) :
    IsBalanced bracket (x :: xs) := fun depth rest => by
  rw [List.cons_append, splitBlock_neither hx, h, Option.map_map]
  rfl

theorem block (hx : bracket x = .opens) (h : IsBalanced bracket xs) (hy : bracket y = .closes)
    (hys : IsBalanced bracket ys) : IsBalanced bracket (x :: (xs ++ y :: ys)) := by
  intro depth rest
  rw [List.cons_append, List.append_assoc, splitBlock_opens hx, h, List.cons_append,
    splitBlock_closes hy, hys]
  simp only [Option.map_map, Function.comp_def, List.append_assoc, List.cons_append]

theorem flatMap {β : Type} {f : β → List α} {zs : List β}
    (h : ∀ z ∈ zs, IsBalanced bracket (f z)) : IsBalanced bracket (zs.flatMap f) := by
  induction zs with
  | nil => exact nil
  | cons z zs ih =>
    rw [List.flatMap_cons]
    exact (h z List.mem_cons_self).append (ih fun w hw => h w (List.mem_cons_of_mem z hw))

theorem splitBlock_append (h : IsBalanced bracket xs) (hy : bracket y = .closes) (rest : List α) :
    splitBlock bracket 0 (xs ++ y :: rest) = some (xs, rest) := by
  rw [h, splitBlock_closes_zero hy]
  simp

theorem behindBlock_append (h : IsBalanced bracket xs) (hy : bracket y = .closes)
    (rest : List α) : behindBlock bracket (xs ++ y :: rest) = rest := by
  rw [behindBlock, h.splitBlock_append hy]
  rfl

end IsBalanced

end Blocks

end JniBindings
