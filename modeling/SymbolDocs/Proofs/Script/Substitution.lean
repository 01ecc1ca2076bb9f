import SymbolDocs.Proofs.Script.Regex
import SymbolDocs.Script.Awk.Value
import SymbolDocs.Script.Tool.Sed

namespace SymbolDocs.Script

open Text (Octets)

variable {ignoresCase : Bool} {r : Regex} {s a b : Spot} {all before behind : List (Spot × Spot)}

theorem Regex.Successive.textTo_append (h : r.Successive ignoresCase s ((a, b) :: behind)) :
    s.textTo a ++ (a.textTo b ++ b.after) = s.after := by
  cases h with
  | cons onward isLongest _ =>
    rw [isLongest.onward.textTo_append, onward.textTo_append]

theorem Awk.replacedIn_ampersand (h : r.Successive ignoresCase s all) :
    Awk.replacedIn ['&'] s all = s.after := by
  induction h with
  | nil s => rfl
  | @cons s a b rest onward isLongest behind ih =>
    rw [replacedIn, ih, ← (Regex.Successive.cons onward isLongest behind).textTo_append]
    simp [replacement]

namespace Tool.Sed

variable {sub : Substitution} {index : Nat}

theorem filled_whole (found : Octets) (groups : Spot) :
    filled found groups .keep .keep [.group 0] = found := by
  cases found with
  | nil => rfl
  | cons c found => simp [filled, applyCase]

theorem replaced_whole (h : r.Successive ignoresCase s all)
    (whole : sub.replacement = [.group 0]) : replaced sub index s all = s.after := by
  induction h generalizing index with
  | nil s => rfl
  | @cons s a b rest onward isLongest behind ih =>
    simp only [replaced, whole, filled_whole, ite_self]
    rw [ih, List.append_assoc]
    exact (Regex.Successive.cons onward isLongest behind).textTo_append

theorem replaced_past (h : r.Successive ignoresCase s all) (single : sub.isGlobal = false)
    (past : sub.occurrence < index) : replaced sub index s all = s.after := by
  induction h generalizing index with
  | nil s => rfl
  | @cons s a b rest onward isLongest behind ih =>
    have other : (index == sub.occurrence) = false := by simpa using Nat.ne_of_gt past
    simp only [replaced, single, Bool.false_eq_true, ↓reduceIte, other]
    rw [ih (Nat.lt_succ_of_lt past), List.append_assoc]
    exact (Regex.Successive.cons onward isLongest behind).textTo_append

/-- Where a single match is replaced, the text before it and behind it stays as it is. -/
theorem replaced_single (h : r.Successive ignoresCase s (before ++ (a, b) :: behind))
    (single : sub.isGlobal = false) (this : index + before.length = sub.occurrence) :
    replaced sub index s (before ++ (a, b) :: behind) =
      s.textTo a ++ filled (a.textTo b) b .keep .keep sub.replacement ++ b.after := by
  induction before generalizing s index with
  | nil =>
    cases h with
    | cons _ _ behind =>
      have same : (index == sub.occurrence) = true := by simpa using this
      simp only [List.nil_append, replaced, single, Bool.false_eq_true, ↓reduceIte, same]
      rw [replaced_past behind single (by simp at this; omega)]
  | cons m before ih =>
    obtain ⟨c, d⟩ := m
    cases h with
    | cons onward isLongest behind =>
      have other : (index == sub.occurrence) = false := by simp at this ⊢; omega
      simp only [List.cons_append, replaced, single, Bool.false_eq_true, ↓reduceIte, other]
      rw [ih behind (by simp at this; omega), onward.textTo_textTo isLongest.onward,
        ← (onward.trans isLongest.onward).textTo_textTo behind.onward]
      simp only [List.append_assoc]

end Tool.Sed

end SymbolDocs.Script
