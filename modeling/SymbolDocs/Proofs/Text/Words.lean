import SymbolDocs.Proofs.Text.Trim

namespace SymbolDocs.Text

def words (s : List Char) : List (List Char) :=
  (s.splitOnP isBlank).filter fun w => !w.isEmpty

theorem words_nil : words [] = [] := by
  simp [words]

theorem words_append_cons {c : Char} (hc : isBlank c = true) (s t : List Char) :
    words (s ++ c :: t) = words s ++ words t := by
  rw [words, List.splitOnP_append_cons s t hc, List.filter_append]
  rfl

theorem words_cons {c : Char} (hc : isBlank c = true) (t : List Char) : words (c :: t) = words t := by
  simpa [words_nil] using words_append_cons hc [] t

theorem words_of_blank {s : List Char} (h : ∀ c ∈ s, isBlank c = true) : words s = [] := by
  induction s with
  | nil => exact words_nil
  | cons c s ih =>
    rw [List.forall_mem_cons] at h
    rw [words_cons h.1, ih h.2]

theorem words_of_not_blank {w : List Char} (hne : w ≠ []) (h : ∀ c ∈ w, isBlank c = false) :
    words w = [w] := by
  simp [words, List.splitOnP_eq_singleton h, hne]

def touches (s t : List Char) : Bool :=
  s.getLast?.any (!isBlank ·) && t.head?.any (!isBlank ·)

theorem touches_append {t : List Char} (ht : t ≠ []) (s u : List Char) :
    touches s (t ++ u) = touches s t := by
  rw [touches, touches, List.head?_append_of_ne_nil t ht]

theorem words_append {s t : List Char} (h : touches s t = false) :
    words (s ++ t) = words s ++ words t := by
  rcases List.eq_nil_or_concat' s with rfl | ⟨init, a, rfl⟩
  · simp [words_nil]
  · cases t with
    | nil => simp [words_nil]
    | cons b rest =>
      have hblank : isBlank a = true ∨ isBlank b = true := by
        simpa [touches, or_iff_not_imp_left] using h
      rcases hblank with ha | hb
      · rw [List.append_assoc, List.singleton_append, words_append_cons ha, words_append_cons ha,
          words_nil, List.append_nil]
      · rw [words_append_cons hb, words_cons hb]

theorem words_append_of_blank {t : List Char} (h : ∀ c ∈ t, isBlank c = true) (s : List Char) :
    words (s ++ t) = words s := by
  have ht : touches s t = false := by
    cases t with
    | nil => simp [touches]
    | cons b rest => simp [touches, h b List.mem_cons_self]
  rw [words_append ht, words_of_blank h, List.append_nil]

theorem words_blank_append {s : List Char} (h : ∀ c ∈ s, isBlank c = true) (t : List Char) :
    words (s ++ t) = words t := by
  have hs : touches s t = false := by
    cases hlast : s.getLast? with
    | none => simp [touches, hlast]
    | some a => simp [touches, hlast, h a (List.mem_of_getLast? hlast)]
  rw [words_append hs, words_of_blank h, List.nil_append]

theorem words_trim (s : String) : words (trim s).toList = words s.toList := by
  have hend (l : List Char) : words (l.rdropWhile isBlank) = words l := by
    conv_rhs => rw [← List.rdropWhile_append_rtakeWhile (p := isBlank) (l := l)]
    exact (words_append_of_blank (fun c hc => List.mem_rtakeWhile_imp hc) _).symm
  have hstart (l : List Char) : words (l.dropWhile isBlank) = words l := by
    conv_rhs => rw [← List.takeWhile_append_dropWhile (p := isBlank) (l := l)]
    exact (words_blank_append (fun c hc => List.mem_takeWhile_imp hc) _).symm
  rw [trim, String.toList_ofList, trimChars_eq_rdropWhile, hend, hstart]

theorem exists_last_word {s : List Char} (h : s.getLast?.any (!isBlank ·) = true) :
    ∃ before w, s = before ++ w ∧ w ≠ [] ∧ (∀ c ∈ w, isBlank c = false) ∧
      ∀ t, touches before t = false := by
  obtain ⟨a, ha, hblank⟩ := (Option.any_eq_true _ _).mp h
  refine ⟨s.rdropWhile (!isBlank ·), s.rtakeWhile (!isBlank ·),
    List.rdropWhile_append_rtakeWhile.symm, ?_, ?_, ?_⟩
  · rw [ne_eq, List.rtakeWhile_eq_nil_iff]
    intro hall
    have hne : s ≠ [] := List.ne_nil_of_mem (List.mem_of_getLast? ha)
    rw [List.getLast?_eq_some_getLast hne, Option.some_inj] at ha
    exact hall hne (ha ▸ hblank)
  · intro c hc
    simpa using List.mem_rtakeWhile_imp hc
  · intro t
    rw [touches, Bool.and_eq_false_iff]
    left
    by_cases hne : s.rdropWhile (!isBlank ·) = []
    · simp [hne]
    · have hlast := List.rdropWhile_last_not (!isBlank ·) s hne
      rw [List.getLast?_eq_some_getLast hne, Option.any_some]
      simpa using hlast

theorem exists_first_word {t : List Char} (h : t.head?.any (!isBlank ·) = true) :
    ∃ w after, t = w ++ after ∧ w ≠ [] ∧ (∀ c ∈ w, isBlank c = false) ∧
      ∀ s, touches s after = false := by
  refine ⟨t.takeWhile (!isBlank ·), t.dropWhile (!isBlank ·),
    List.takeWhile_append_dropWhile.symm, ?_, ?_, ?_⟩
  · cases t with
    | nil => simp at h
    | cons b rest => simp_all
  · intro c hc
    simpa using List.mem_takeWhile_imp hc
  · intro s
    have hhead := List.head?_dropWhile_not (!isBlank ·) t
    rw [touches, Bool.and_eq_false_iff]
    right
    cases hafter : (t.dropWhile (!isBlank ·)).head? with
    | none => rfl
    | some b => simpa [hafter] using hhead

theorem words_append_of_touches {s t : List Char} (h : touches s t = true) :
    ∃ ws w u us, words s = ws ++ [w] ∧ words t = u :: us ∧
      words (s ++ t) = ws ++ (w ++ u) :: us := by
  obtain ⟨hs, ht⟩ := Bool.and_eq_true_iff.mp h
  obtain ⟨before, w, rfl, hw, hwblank, hbefore⟩ := exists_last_word hs
  obtain ⟨u, after, rfl, hu, hublank, hafter⟩ := exists_first_word ht
  have hjoined : words (w ++ u) = [w ++ u] := by
    apply words_of_not_blank (by simp [hw])
    exact List.forall_mem_append.mpr ⟨hwblank, hublank⟩
  refine ⟨words before, w, u, words after, ?_, ?_, ?_⟩
  · rw [words_append (hbefore w), words_of_not_blank hw hwblank]
  · rw [words_append (hafter u), words_of_not_blank hu hublank]
    rfl
  · rw [List.append_assoc, words_append (hbefore _), ← List.append_assoc w, words_append (hafter _),
      hjoined]
    rfl

/-- Each of the coarse words is one of the fine words or several of them in a row. -/
def Cuts (fine coarse : List (List Char)) : Prop :=
  ∃ groups : List (List (List Char)), [] ∉ groups ∧ groups.flatten = fine ∧
    groups.map List.flatten = coarse

theorem Cuts.length_le {fine coarse : List (List Char)} (h : Cuts fine coarse) :
    coarse.length ≤ fine.length := by
  obtain ⟨groups, hne, rfl, rfl⟩ := h
  rw [List.length_map]
  induction groups with
  | nil => simp
  | cons g gs ih =>
    obtain ⟨hg, hgs⟩ := not_or.mp (List.mem_cons.not.mp hne)
    have hpos : 0 < g.length := List.length_pos_iff.mpr (Ne.symm hg)
    have hle := ih hgs
    simp only [List.length_cons, List.flatten_cons, List.length_append]
    omega

theorem cuts_words_flatten (ps : List (List Char)) :
    Cuts (ps.flatMap words) (words ps.flatten) := by
  have hwhole (ws : List (List Char)) : [] ∉ ws.map ([·]) ∧ (ws.map ([·])).flatten = ws ∧
      (ws.map ([·])).map List.flatten = ws := by
    refine ⟨by simp, ?_, by simp [Function.comp_def]⟩
    rw [← List.flatMap_def, List.flatMap_singleton']
  induction ps with
  | nil => exact ⟨[], by simp, rfl, by simp [words_nil]⟩
  | cons p ps ih =>
    obtain ⟨groups, hne, hfine, hcoarse⟩ := ih
    rw [List.flatMap_cons, List.flatten_cons]
    cases htouch : touches p ps.flatten with
    | false =>
      obtain ⟨hne', hfine', hcoarse'⟩ := hwhole (words p)
      refine ⟨(words p).map ([·]) ++ groups, ?_, ?_, ?_⟩
      · simp [hne]
      · rw [List.flatten_append, hfine', hfine]
      · rw [List.map_append, hcoarse', hcoarse, words_append htouch]
    | true =>
      obtain ⟨ws, w, u, us, hp, hps, hjoined⟩ := words_append_of_touches htouch
      obtain ⟨hne', hfine', hcoarse'⟩ := hwhole ws
      rw [hps] at hcoarse
      cases groups with
      | nil => cases hcoarse
      | cons g gs =>
        obtain ⟨rfl, hus⟩ := List.cons.inj hcoarse
        refine ⟨ws.map ([·]) ++ (w :: g) :: gs, ?_, ?_, ?_⟩
        · simp_all
        · rw [List.flatten_append, hfine', hp, ← hfine]
          simp
        · rw [List.map_append, hcoarse', hjoined, List.map_cons, hus]
          rfl

theorem flatMap_words_eq_iff {ps : List (List Char)} (h : [] ∉ ps) :
    ps.flatMap words = words ps.flatten ↔ ps.IsChain fun s t => touches s t = false := by
  induction ps with
  | nil => simp [words_nil]
  | cons p ps ih =>
    cases ps with
    | nil => simp
    | cons q ps =>
      obtain ⟨-, hps⟩ := not_or.mp (List.mem_cons.not.mp h)
      obtain ⟨hq, -⟩ := not_or.mp (List.mem_cons.not.mp hps)
      have htouch : touches p (q :: ps).flatten = touches p q := touches_append (Ne.symm hq) p _
      rw [List.isChain_cons_cons, ← ih hps, List.flatMap_cons, List.flatten_cons]
      cases hpq : touches p q with
      | false =>
        rw [words_append (htouch.trans hpq), List.append_cancel_left_eq]
        simp
      | true =>
        -- Two words have become one, and no words have been added to make up for it.
        obtain ⟨ws, w, u, us, hp, hrest, hjoined⟩ := words_append_of_touches (htouch.trans hpq)
        have hle := (cuts_words_flatten (q :: ps)).length_le
        simp only [Bool.true_eq_false, false_and, iff_false]
        intro heq
        have hlength := congrArg List.length heq
        rw [hjoined, hp] at hlength
        rw [hrest] at hle
        simp only [List.length_append, List.length_cons, List.length_nil] at hlength hle
        omega

end SymbolDocs.Text
