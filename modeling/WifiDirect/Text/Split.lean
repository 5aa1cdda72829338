/-!
# Splitting text

The parts of a text between occurrences of a separator (`join_split`: nothing else is lost), the cut
at the first occurrence, and the front of a text that fills a given number of UTF-8 bytes.
-/

namespace WifiDirect.Text

/-- The parts between the separators, one more than there are separators. -/
def split (sep : Char) : List Char → List (List Char)
  | [] => [[]]
  | c :: cs =>
    match split sep cs with
    | [] => [[c]]
    | part :: parts => if c = sep then [] :: part :: parts else (c :: part) :: parts

/-- The parts with a separator between any two. -/
def join (sep : Char) : List (List Char) → List Char
  | [] => []
  | [part] => part
  | part :: parts => part ++ sep :: join sep parts

theorem split_ne_nil (sep : Char) (cs : List Char) : split sep cs ≠ [] := by
  cases cs with
  | nil => simp [split]
  | cons c cs =>
    simp only [split]
    split
    · simp
    · split <;> simp

/-- **Splitting loses only the separators.** -/
theorem join_split (sep : Char) (cs : List Char) : join sep (split sep cs) = cs := by
  induction cs with
  | nil => rfl
  | cons c cs ih =>
    rw [split]
    cases h : split sep cs with
    | nil => exact absurd h (split_ne_nil sep cs)
    | cons part parts =>
      rw [h] at ih
      dsimp only
      by_cases hc : c = sep
      · simp [hc, join, ih]
      · rw [if_neg hc]
        cases parts with
        | nil => simp only [join] at ih ⊢; rw [ih]
        | cons p ps => simp only [join, List.cons_append] at ih ⊢; rw [ih]

/-- What stands before and after the first separator, if there is one. -/
def splitOnce? (sep : Char) : List Char → Option (List Char × List Char)
  | [] => none
  | c :: cs =>
    if c = sep then some ([], cs)
    else (splitOnce? sep cs).map fun (front, rest) => (c :: front, rest)

/-- The front of a text that takes `size` bytes in UTF-8, if a character ends there. -/
def takeSize? : Nat → List Char → Option (List Char)
  | 0, _ => some []
  | _ + 1, [] => none
  | size + 1, c :: cs =>
    if c.utf8Size ≤ size + 1 then (takeSize? (size + 1 - c.utf8Size) cs).map (c :: ·) else none

end WifiDirect.Text
