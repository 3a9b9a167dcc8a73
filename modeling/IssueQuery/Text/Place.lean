import IssueQuery.Text.ByteLength

/-! Places in a text, counted in bytes. A text is cut between two characters only. -/

namespace IssueQuery.Text

def firstPlace? (p : Char → Bool) : List Char → Option Nat
  | [] => none
  | c :: rest => if p c then some 0 else (firstPlace? p rest).map (c.utf8Size + ·)

/-- What stands before a place and what stands from there on. No text is cut inside a character or behind its
end. -/
def cutAt? (place : Nat) : List Char → Option (List Char × List Char)
  | [] => if place = 0 then some ([], []) else none
  | c :: rest =>
    if place = 0 then some ([], c :: rest)
    else if c.utf8Size ≤ place then
      (cutAt? (place - c.utf8Size) rest).map fun (before, after) => (c :: before, after)
    else none

def slice? (start stop : Nat) (text : List Char) : Option (List Char) := do
  let (front, _) ← cutAt? stop text
  let (_, inside) ← cutAt? start front
  return inside

theorem firstPlace?_eq (p : Char → Bool) (text : List Char) :
    firstPlace? p text = (text.dropWhile (!p ·)).head?.map fun _ => byteLength (text.takeWhile (!p ·)) := by
  induction text with
  | nil => rfl
  | cons c rest ih =>
    rw [firstPlace?, List.dropWhile_cons, List.takeWhile_cons]
    cases holds : p c with
    | true => rfl
    | false =>
      rw [if_neg Bool.false_ne_true, ih, Option.map_map]
      rfl

theorem cutAt?_append (before after : List Char) :
    cutAt? (byteLength before) (before ++ after) = some (before, after) := by
  induction before with
  | nil => cases after <;> rfl
  | cons c before ih =>
    have positive := c.utf8Size_pos
    rw [List.cons_append, cutAt?, byteLength, if_neg (by omega), if_pos (Nat.le_add_right _ _),
      Nat.add_sub_cancel_left, ih]
    rfl

theorem slice?_append (before inside after : List Char) :
    slice? (byteLength before) (byteLength (before ++ inside)) (before ++ (inside ++ after)) = some inside := by
  rw [slice?, ← List.append_assoc, cutAt?_append]
  dsimp only [bind, Option.bind]
  rw [cutAt?_append]
  rfl

end IssueQuery.Text
