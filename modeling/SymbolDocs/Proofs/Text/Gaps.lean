import SymbolDocs.Proofs.Text.Cut

namespace SymbolDocs.Text

def spaces (k : Nat) : List Char :=
  List.replicate k ' '

@[simp] theorem spaces_zero : spaces 0 = [] := rfl

theorem spaces_succ (k : Nat) : spaces (k + 1) = ' ' :: spaces k := rfl

theorem spaces_append_cons (k : Nat) (s : List Char) : spaces k ++ ' ' :: s = spaces (k + 1) ++ s := by
  rw [spaces, spaces, List.replicate_succ', List.append_assoc, List.singleton_append]

variable {excess : Option Char → Option Char → Nat}

/-- Takes away from each run of spaces as many as `excess` says for its left and its right neighbour.
`k` spaces have been read since the character `left`. -/
def narrow (excess : Option Char → Option Char → Nat) (left : Option Char) (k : Nat) :
    List Char → List Char
  | [] => spaces (k - excess left none)
  | c :: s =>
    if c = ' ' then narrow excess left (k + 1) s
    else spaces (k - excess left (some c)) ++ c :: narrow excess (some c) 0 s

theorem narrow_spaces_append (left : Option Char) (k n : Nat) (s : List Char) :
    narrow excess left k (spaces n ++ s) = narrow excess left (k + n) s := by
  induction n generalizing k with
  | zero => rfl
  | succ n ih =>
    rw [spaces_succ, List.cons_append, narrow, if_pos rfl, ih]
    congr 1
    omega

theorem narrow_run (left : Option Char) (k : Nat) {s : List Char} (hs : s.head? ≠ some ' ') :
    narrow excess left k s = spaces (k - excess left s.head?) ++ narrow excess none 0 s := by
  cases s with
  | nil => simp [narrow]
  | cons c s =>
    have hc : c ≠ ' ' := by simpa using hs
    simp [narrow, hc]

theorem narrow_append (left : Option Char) (k : Nat) {s : List Char} (hne : s ≠ [])
    (hs : s.getLast? ≠ some ' ') (t : List Char) :
    narrow excess left k (s ++ t) = narrow excess left k s ++ narrow excess s.getLast? 0 t := by
  induction s generalizing left k with
  | nil => exact absurd rfl hne
  | cons c s ih =>
    cases s with
    | nil =>
      have hc : c ≠ ' ' := by simpa using hs
      simp [narrow, hc]
    | cons d s =>
      rw [List.getLast?_cons_cons] at hs ⊢
      by_cases hc : c = ' '
      · rw [List.cons_append, narrow, if_pos hc, narrow, if_pos hc]
        exact ih left (k + 1) (List.cons_ne_nil d s) hs
      · rw [List.cons_append, narrow, if_neg hc, narrow, if_neg hc,
          ih (some c) 0 (List.cons_ne_nil d s) hs]
        simp

theorem narrow_around {before behind : List Char} (hbefore : before.getLast? ≠ some ' ')
    (hbehind : behind.head? ≠ some ' ') (k : Nat) :
    narrow excess none 0 (before ++ spaces k ++ behind) =
      narrow excess none 0 before ++ spaces (k - excess before.getLast? behind.head?) ++
        narrow excess none 0 behind := by
  have hrun (left : Option Char) : narrow excess left 0 (spaces k ++ behind) =
      spaces (k - excess left behind.head?) ++ narrow excess none 0 behind := by
    rw [narrow_spaces_append, Nat.zero_add, narrow_run left k hbehind]
  rw [List.append_assoc, List.append_assoc]
  cases before with
  | nil => simpa [narrow] using hrun none
  | cons c s => rw [narrow_append none 0 (List.cons_ne_nil c s) hbefore, hrun]

theorem narrow_narrow (excess' : Option Char → Option Char → Nat) (left : Option Char) (k : Nat)
    (s : List Char) :
    narrow excess' left 0 (narrow excess left k s) =
      narrow (fun l r => excess l r + excess' l r) left k s := by
  induction s generalizing left k with
  | nil =>
    have hrun (n : Nat) : narrow excess' left 0 (spaces n) = narrow excess' left n [] := by
      simpa using narrow_spaces_append left 0 n []
    rw [narrow, hrun, narrow, narrow, Nat.sub_sub]
  | cons c s ih =>
    by_cases hc : c = ' '
    · rw [narrow, if_pos hc, narrow, if_pos hc, ih]
    · rw [narrow, if_neg hc, narrow_spaces_append, narrow, if_neg hc, narrow, if_neg hc, ih,
        Nat.zero_add, Nat.sub_sub]

theorem narrow_sublist (left : Option Char) (k : Nat) (s : List Char) :
    (narrow excess left k s).Sublist (spaces k ++ s) := by
  induction s generalizing left k with
  | nil =>
    rw [List.append_nil]
    apply (List.replicate_sublist_replicate ' ').mpr
    omega
  | cons c s ih =>
    by_cases hc : c = ' '
    · rw [narrow, if_pos hc, hc, spaces_append_cons]
      exact ih left (k + 1)
    · rw [narrow, if_neg hc]
      apply List.Sublist.append
      · apply (List.replicate_sublist_replicate ' ').mpr
        omega
      · exact (ih (some c) 0).cons_cons c

theorem filter_spaces (k : Nat) : (spaces k).filter (· ≠ ' ') = [] := by
  rw [List.filter_eq_nil_iff]
  intro c hc
  simp [List.eq_of_mem_replicate hc]

theorem filter_narrow (left : Option Char) (k : Nat) (s : List Char) :
    (narrow excess left k s).filter (· ≠ ' ') = s.filter (· ≠ ' ') := by
  induction s generalizing left k with
  | nil => exact filter_spaces _
  | cons c s ih =>
    by_cases hc : c = ' '
    · rw [narrow, if_pos hc, ih, List.filter_cons_of_neg (by simpa using hc)]
    · rw [narrow, if_neg hc, List.filter_append, filter_spaces, List.nil_append,
        List.filter_cons_of_pos (by simpa using hc), List.filter_cons_of_pos (by simpa using hc), ih]

structure Narrows (f : List Char → List Char) (excess : Option Char → Option Char → Nat) : Prop where
  nil : f [] = []
  run : ∀ (left : Option Char) (k : Nat) (s : List Char), left ≠ some ' ' → s.head? ≠ some ' ' →
    f (left.toList ++ spaces k ++ s) = left.toList ++ spaces (k - excess left s.head?) ++ f s

theorem Narrows.eq_narrow {f : List Char → List Char} (h : Narrows f excess) (s : List Char) :
    f s = narrow excess none 0 s := by
  have hfrom (left : Option Char) (k : Nat) (hleft : left ≠ some ' ') :
      f (left.toList ++ spaces k ++ s) = left.toList ++ narrow excess left k s := by
    induction s generalizing left k with
    | nil =>
      rw [h.run left k [] hleft (by simp), h.nil, List.append_nil]
      rfl
    | cons c s ih =>
      by_cases hc : c = ' '
      · rw [narrow, if_pos hc, ← ih left (k + 1) hleft, hc, List.append_assoc, List.append_assoc,
          spaces_append_cons]
      · have hrest := ih (some c) 0 (by simpa using hc)
        rw [h.run left k (c :: s) hleft (by simpa using hc), narrow, if_neg hc]
        simpa using hrest
  simpa using hfrom none 0 (by simp)

theorem replacePair_of_ne {a b c x : Char} (h : x ≠ a) (s : List Char) :
    replacePair a b c (x :: s) = x :: replacePair a b c s := by
  cases s with
  | nil => rfl
  | cons y s => rw [replacePair, if_neg (fun heq => h heq.1)]

theorem replacePair_of_head?_ne {a b c : Char} {s : List Char} (h : s.head? ≠ some b) :
    replacePair a b c (a :: s) = a :: replacePair a b c s := by
  cases s with
  | nil => rfl
  | cons y s => rw [replacePair, if_neg (fun heq => h (by simp [heq.2]))]

theorem replacePair_spaces_append {a b c : Char} (h : a ≠ ' ') (k : Nat) (s : List Char) :
    replacePair a b c (spaces k ++ s) = spaces k ++ replacePair a b c s := by
  induction k with
  | zero => rfl
  | succ k ih => rw [spaces_succ, List.cons_append, replacePair_of_ne h.symm, ih, List.cons_append]

theorem narrows_replacePair_behind {a : Char} (ha : a ≠ ' ') :
    Narrows (replacePair a ' ' a) fun left _ => if left = some a then 1 else 0 := by
  refine ⟨rfl, fun left k s hleft hs => ?_⟩
  by_cases h : left = some a
  · rw [h, if_pos rfl]
    cases k with
    | zero => exact replacePair_of_head?_ne hs
    | succ k =>
      have hpair : replacePair a ' ' a (a :: ' ' :: (spaces k ++ s)) =
          a :: replacePair a ' ' a (spaces k ++ s) := by
        rw [replacePair, if_pos ⟨rfl, rfl⟩]
      rw [replacePair_spaces_append ha] at hpair
      simpa [spaces_succ] using hpair
  · rw [if_neg h, Nat.sub_zero]
    cases left with
    | none => exact replacePair_spaces_append ha k s
    | some c =>
      have hc : c ≠ a := by simpa using h
      have hspaces := replacePair_spaces_append (b := ' ') (c := a) ha k s
      simp [replacePair_of_ne hc, hspaces]

theorem replacePair_spaces_before {a : Char} (ha : a ≠ ' ') (k : Nat) {s : List Char}
    (hs : s.head? ≠ some ' ') :
    replacePair ' ' a a (spaces k ++ s) =
      spaces (k - if s.head? = some a then 1 else 0) ++ replacePair ' ' a a s := by
  induction k with
  | zero => simp
  | succ k ih =>
    cases k with
    | zero =>
      cases s with
      | nil => simp [spaces_succ, replacePair]
      | cons y s =>
        by_cases hy : y = a
        · have hkept := replacePair_of_ne (b := a) (c := a) ha s
          simp [spaces_succ, replacePair, hy, hkept]
        · simp [spaces_succ, replacePair, hy]
    | succ k =>
      -- The next space stands between this one and whatever follows the run.
      have hnext : (spaces (k + 1) ++ s).head? ≠ some a := by
        simpa [spaces_succ] using ha.symm
      rw [spaces_succ, List.cons_append, replacePair_of_head?_ne hnext, ih]
      split
      · simp [spaces_succ]
      · simp [spaces_succ]

theorem narrows_replacePair_before {a : Char} (ha : a ≠ ' ') :
    Narrows (replacePair ' ' a a) fun _ right => if right = some a then 1 else 0 := by
  refine ⟨rfl, fun left k s hleft hs => ?_⟩
  have hrun := replacePair_spaces_before ha k hs
  cases left with
  | none => simpa using hrun
  | some c =>
    have hc : c ≠ ' ' := by simpa using hleft
    simp [replacePair_of_ne hc, hrun]

theorem replacePair_eq_self {a b c : Char} {s : List Char} (h : ¬[a, b] <:+: s) :
    replacePair a b c s = s := by
  fun_induction replacePair a b c s with
  | case1 => rfl
  | case2 x => rfl
  | case3 x y s hxy ih =>
    rw [pair_infix_cons_iff] at h
    exact absurd (.inl ⟨hxy.1, s, by rw [hxy.2]⟩) h
  | case4 x y s hxy ih =>
    rw [pair_infix_cons_iff, not_or] at h
    rw [ih h.2]

end SymbolDocs.Text
