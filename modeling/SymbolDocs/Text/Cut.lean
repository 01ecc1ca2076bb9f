namespace SymbolDocs.Text

def splitOn (sep : Char) : List Char → List (List Char)
  | [] => [[]]
  | c :: r =>
    if c = sep then [] :: splitOn sep r
    else match splitOn sep r with
      | [] => [[c]]
      | s :: ss => (c :: s) :: ss

def cutAtPair (a b : Char) : List Char → Option (List Char × List Char)
  | [] => none
  | [_] => none
  | x :: y :: r =>
    if x = a ∧ y = b then some ([], r)
    else (cutAtPair a b (y :: r)).map fun (s, t) => (x :: s, t)

def cutAt (sep : Char) : List Char → Option (List Char × List Char)
  | [] => none
  | c :: r => if c = sep then some ([], r) else (cutAt sep r).map fun (s, t) => (c :: s, t)

def cutAtLast (sep : Char) : List Char → Option (List Char × List Char)
  | [] => none
  | c :: r =>
    match cutAtLast sep r with
    | some (s, t) => some (c :: s, t)
    | none => if c = sep then some ([], r) else none

/-- Writes `c` for each occurrence of `a` directly followed by `b`; occurrences do not overlap. -/
def replacePair (a b c : Char) : List Char → List Char
  | [] => []
  | [x] => [x]
  | x :: y :: r =>
    if x = a ∧ y = b then c :: replacePair a b c r else x :: replacePair a b c (y :: r)

def replaceChar (a : Char) (t : List Char) (s : List Char) : List Char :=
  s.flatMap fun c => if c = a then t else [c]

def dropStart? : List Char → List Char → Option (List Char)
  | [], t => some t
  | _ :: _, [] => none
  | a :: s, b :: t => if a = b then dropStart? s t else none

def takeBytes? : (n : Nat) → List Char → Option (List Char)
  | 0, _ => some []
  | _ + 1, [] => none
  | n + 1, c :: r =>
    if c.utf8Size ≤ n + 1 then (takeBytes? (n + 1 - c.utf8Size) r).map (c :: ·) else none

def joinWith (sep : String) : List String → String
  | [] => ""
  | [s] => s
  | s :: ss => s ++ sep ++ joinWith sep ss

theorem splitOn_ne_nil (sep : Char) (s : List Char) : splitOn sep s ≠ [] := by
  cases s with
  | nil => simp [splitOn]
  | cons c r =>
    rw [splitOn]
    split
    · simp
    · split <;> simp

end SymbolDocs.Text
