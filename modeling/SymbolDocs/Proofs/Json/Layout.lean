import SymbolDocs.Proofs.Json.Reader
/-!
Layouts of JSON texts. Compact and pretty texts spell the same tokens, with or without white space
between them. So each of them is read as the value it was made from, and they differ in nothing but
the white space outside of literals.
-/

namespace SymbolDocs.Json

mutual

def withoutBlanks : List Char → List Char
  | [] => []
  | c :: r =>
    if c = '"' then c :: insideLiteral r
    else if Text.isBlank c then withoutBlanks r
    else c :: withoutBlanks r

def insideLiteral : List Char → List Char
  | [] => []
  | c :: r =>
    if c = '"' then c :: withoutBlanks r
    else if c = '\\' then c :: behindBackslash r
    else c :: insideLiteral r

def behindBackslash : List Char → List Char
  | [] => []
  | c :: r => c :: insideLiteral r

end

def Token.chars : Token → List Char
  | mark c => [c]
  | word cs => cs
  | literal cs => ['"'] ++ cs ++ ['"']

def isPlain (c : Char) : Bool :=
  !isDelimiter c && !Text.isBlank c

def Delimited (r : List Char) : Prop :=
  ∀ c ∈ r.head?, isDelimiter c

theorem delimited_nil : Delimited [] := nofun

theorem delimited_cons {c : Char} (h : isDelimiter c) (r : List Char) : Delimited (c :: r) := by
  intro d hd
  obtain rfl := Option.some.inj hd
  exact h

/-- A text that consists of tokens, with white space between them. -/
inductive Spells : List Token → List Char → Prop where
  | nil : Spells [] []
  | space {c : Char} {ts : List Token} {r : List Char} (hc : isSpace c) (h : Spells ts r) :
      Spells ts (c :: r)
  | mark {c : Char} {ts : List Token} {r : List Char} (hc : isMark c) (h : Spells ts r) :
      Spells (.mark c :: ts) (c :: r)
  | word {cs : List Char} {ts : List Token} {r : List Char} (hne : cs ≠ [])
      (hcs : cs.all isPlain) (hr : Delimited r) (h : Spells ts r) : Spells (.word cs :: ts) (cs ++ r)
  | literal (s : String) {ts : List Token} {r : List Char} (h : Spells ts r) :
      Spells (.literal (contents s) :: ts) (quoteChars s ++ r)

section Tokens

open Scan

theorem tokens?_of_step {s s' : Scan} {c : Char} (h : s.step c = ([], s')) (r : List Char) :
    s.tokens? (c :: r) = s'.tokens? r := by
  rw [tokens?, h]
  exact Option.map_id'

theorem tokens?_backslash (e : Char) (read r : List Char) :
    (inLiteral read).tokens? ('\\' :: e :: r) = (inLiteral (e :: '\\' :: read)).tokens? r := by
  rw [tokens?_of_step rfl, tokens?_of_step rfl]

theorem tokens?_plain {c : Char} (hc : c ≠ '"' ∧ c ≠ '\\') (read r : List Char) :
    (inLiteral read).tokens? (c :: r) = (inLiteral (c :: read)).tokens? r :=
  tokens?_of_step (by simp [step, hc.1, hc.2]) r

theorem tokens?_of_escapes {c : Char} {cs : List Char} (h : Escapes c cs) (read r : List Char) :
    (inLiteral read).tokens? (cs ++ r) = (inLiteral (cs.reverse ++ read)).tokens? r := by
  cases h with
  | plain hquote hbackslash _ => exact tokens?_plain ⟨hquote, hbackslash⟩ read r
  | named => exact tokens?_backslash _ read r
  | coded hx hy =>
    simp only [List.cons_append, List.nil_append]
    rw [tokens?_backslash, tokens?_plain (by decide), tokens?_plain (by decide), tokens?_plain hx,
      tokens?_plain hy]
    rfl

theorem tokens?_contents (cs read r : List Char) :
    (inLiteral read).tokens? (cs.flatMap escapedChar ++ r) =
      (inLiteral ((cs.flatMap escapedChar).reverse ++ read)).tokens? r := by
  induction cs generalizing read with
  | nil => rfl
  | cons c cs ih =>
    rw [List.flatMap_cons, List.append_assoc, tokens?_of_escapes (escapes_escapedChar c), ih,
      List.reverse_append, List.append_assoc]

theorem tokens?_quoteChars (s : String) (r : List Char) :
    between.tokens? (quoteChars s ++ r) =
      (between.tokens? r).map (.literal (contents s) :: ·) := by
  rw [quoteChars, List.append_assoc, List.append_assoc, List.singleton_append,
    tokens?_of_step rfl, tokens?_contents, List.singleton_append, tokens?]
  simp [step, contents]

theorem tokens?_mark {c : Char} (hc : isMark c) (r : List Char) :
    between.tokens? (c :: r) = (between.tokens? r).map (.mark c :: ·) := by
  have hquote : c ≠ '"' := by
    rintro rfl
    exact absurd hc (by decide)
  rw [tokens?]
  simp [step, isDelimiter, delimit, hc, hquote]

theorem tokens?_space {c : Char} (hc : isSpace c) (r : List Char) :
    between.tokens? (c :: r) = between.tokens? r := by
  have hstep : between.step c = ([], between) := by
    simp only [isSpace, Bool.or_eq_true, beq_iff_eq] at hc
    rcases hc with ((rfl | rfl) | rfl) | rfl <;> rfl
  exact tokens?_of_step hstep r

theorem isDelimiter_of_isPlain {c : Char} (h : isPlain c) : isDelimiter c = false := by
  simp [isPlain] at h
  exact h.1

theorem tokens?_inWord {cs : List Char} (hcs : cs.all isPlain) (read r : List Char) :
    (inWord read).tokens? (cs ++ r) = (inWord (cs.reverse ++ read)).tokens? r := by
  induction cs generalizing read with
  | nil => rfl
  | cons c cs ih =>
    rw [List.all_cons, Bool.and_eq_true] at hcs
    have hstep : (inWord read).step c = ([], inWord (c :: read)) := by
      simp [step, isDelimiter_of_isPlain hcs.1]
    rw [List.cons_append, tokens?_of_step hstep, ih hcs.2, List.reverse_cons, List.append_assoc,
      List.singleton_append]

theorem delimit_singleton (c : Char) (t : Token) :
    delimit c [t] = (t :: (delimit c []).1, (delimit c []).2) := by
  unfold delimit
  split_ifs <;> rfl

theorem tokens?_delimited (read : List Char) {r : List Char} (hr : Delimited r) :
    (inWord read).tokens? r = (between.tokens? r).map (.word read.reverse :: ·) := by
  cases r with
  | nil => rfl
  | cons c r =>
    have hc : isDelimiter c = true := hr c rfl
    have hbetween : between.step c = delimit c [] := if_pos hc
    have hword : (inWord read).step c = delimit c [.word read.reverse] := if_pos hc
    rw [tokens?, tokens?, hbetween, hword, delimit_singleton, Option.map_map]
    rfl

theorem tokens?_of_spells {ts : List Token} {r : List Char} (h : Spells ts r) :
    between.tokens? r = some ts := by
  induction h with
  | nil => rfl
  | space hc _ ih => rw [tokens?_space hc, ih]
  | mark hc _ ih => rw [tokens?_mark hc, ih, Option.map_some]
  | @word cs ts r hne hcs hr _ ih =>
    obtain ⟨c, cs, rfl⟩ := List.exists_cons_of_ne_nil hne
    rw [List.all_cons, Bool.and_eq_true] at hcs
    have hstep : between.step c = ([], inWord [c]) := by
      simp [step, isDelimiter_of_isPlain hcs.1]
    rw [List.cons_append, tokens?_of_step hstep, tokens?_inWord hcs.2, tokens?_delimited _ hr, ih]
    simp
  | literal s _ ih => rw [tokens?_quoteChars, ih, Option.map_some]

end Tokens

section Blanks

theorem insideLiteral_of_escapes {c : Char} {cs : List Char} (h : Escapes c cs) (r : List Char) :
    insideLiteral (cs ++ r) = cs ++ insideLiteral r := by
  cases h with
  | plain hquote hbackslash _ => simp [insideLiteral, hquote, hbackslash]
  | named => simp [insideLiteral, behindBackslash]
  | coded hx hy => simp [insideLiteral, behindBackslash, hx, hy]

theorem insideLiteral_contents (cs r : List Char) :
    insideLiteral (cs.flatMap escapedChar ++ r) = cs.flatMap escapedChar ++ insideLiteral r := by
  induction cs with
  | nil => rfl
  | cons c cs ih =>
    rw [List.flatMap_cons, List.append_assoc, insideLiteral_of_escapes (escapes_escapedChar c), ih,
      List.append_assoc]

theorem withoutBlanks_quoteChars (s : String) (r : List Char) :
    withoutBlanks (quoteChars s ++ r) = quoteChars s ++ withoutBlanks r := by
  rw [quoteChars, List.append_assoc, List.append_assoc, List.singleton_append, withoutBlanks,
    if_pos rfl, insideLiteral_contents, List.singleton_append, insideLiteral, if_pos rfl]
  simp

theorem withoutBlanks_cons {c : Char} (hquote : c ≠ '"') (hblank : Text.isBlank c = false)
    (r : List Char) : withoutBlanks (c :: r) = c :: withoutBlanks r := by
  simp [withoutBlanks, hquote, hblank]

theorem withoutBlanks_word {cs : List Char} (hcs : cs.all isPlain) (r : List Char) :
    withoutBlanks (cs ++ r) = cs ++ withoutBlanks r := by
  induction cs with
  | nil => rfl
  | cons c cs ih =>
    rw [List.all_cons, Bool.and_eq_true] at hcs
    have hquote : c ≠ '"' := by
      rintro rfl
      exact absurd hcs.1 (by decide)
    have hblank : Text.isBlank c = false := by
      have hplain := hcs.1
      simp [isPlain] at hplain
      exact hplain.2
    rw [List.cons_append, withoutBlanks_cons hquote hblank, ih hcs.2, List.cons_append]

theorem withoutBlanks_of_spells {ts : List Token} {r : List Char} (h : Spells ts r) :
    withoutBlanks r = ts.flatMap Token.chars := by
  induction h with
  | nil => rfl
  | space hc _ ih =>
    rw [← ih]
    simp only [isSpace, Bool.or_eq_true, beq_iff_eq] at hc
    rcases hc with ((rfl | rfl) | rfl) | rfl <;> rfl
  | @mark c ts r hc _ ih =>
    have hplain : c ≠ '"' ∧ Text.isBlank c = false := by
      simp only [isMark, List.contains_iff_mem, List.mem_cons, List.not_mem_nil, or_false] at hc
      rcases hc with rfl | rfl | rfl | rfl | rfl | rfl <;> exact ⟨by decide, by decide⟩
    rw [withoutBlanks_cons hplain.1 hplain.2, ih]
    rfl
  | word _ hcs _ _ ih =>
    rw [withoutBlanks_word hcs, ih]
    rfl
  | literal s _ ih =>
    rw [withoutBlanks_quoteChars, ih]
    rfl

end Blanks

mutual

theorem chars_tokens (j : Json) : j.tokens.flatMap Token.chars = j.compactChars := by
  match j with
  | .null | .bool true | .bool false => rfl
  | .number _ | .string _ => exact List.append_nil _
  | .array items => simp [tokens, Token.chars, compactChars, chars_itemTokens items]
  | .object fields => simp [tokens, Token.chars, compactChars, chars_fieldTokens fields]

theorem chars_itemTokens (items : List Json) :
    (itemTokens items).flatMap Token.chars = compactItems items := by
  match items with
  | [] => rfl
  | [item] => simp [itemTokens, laterItems, compactItems, chars_tokens item]
  | item :: next :: items =>
    have hrest := chars_itemTokens (next :: items)
    rw [itemTokens] at hrest
    simp [itemTokens, laterItems, compactItems, Token.chars, chars_tokens item, ← hrest]

theorem chars_fieldTokens (fields : List (String × Json)) :
    (fieldTokens fields).flatMap Token.chars = compactFields fields := by
  match fields with
  | [] => rfl
  | [(k, v)] =>
    simp [fieldTokens, laterFields, compactFields, Token.chars, quoteChars, contents,
      chars_tokens v]
  | (k, v) :: (k', v') :: fields =>
    have hrest := chars_fieldTokens ((k', v') :: fields)
    rw [fieldTokens] at hrest
    simp [fieldTokens, laterFields, compactFields, Token.chars, quoteChars, contents,
      chars_tokens v, ← hrest]

end

theorem isPlain_of_isDigit {c : Char} (hc : c.isDigit) : isPlain c := by
  have hrange : 48 ≤ c.toNat ∧ c.toNat ≤ 57 := by
    simpa [Char.isDigit, UInt32.le_iff_toNat_le] using hc
  have hdelimiter : isDelimiter c = false := by
    rw [Bool.eq_false_iff]
    intro hdelimiter
    simp only [isDelimiter, isSpace, isMark, Bool.or_eq_true, beq_iff_eq, List.contains_iff_mem,
      List.mem_cons, List.not_mem_nil, or_false] at hdelimiter
    rcases hdelimiter with
      ((((rfl | rfl) | rfl) | rfl) | (rfl | rfl | rfl | rfl | rfl | rfl)) | rfl <;>
    exact absurd hc (by decide)
  have hblank : Text.isBlank c = false := by
    simp only [Text.isBlank, Bool.or_eq_false_iff, Bool.and_eq_false_iff, decide_eq_false_iff_not,
      beq_eq_false_iff_ne, ne_eq]
    omega
  rw [isPlain, hdelimiter, hblank]
  rfl

theorem spells_newLine (level : Nat) {ts : List Token} {r : List Char} (h : Spells ts r) :
    Spells ts (newLine level ++ r) := by
  refine .space (by decide) ?_
  induction 2 * level with
  | zero => exact h
  | succ n ih => exact .space (by decide) ih

theorem delimited_newLine (level : Nat) (r : List Char) : Delimited (newLine level ++ r) :=
  delimited_cons (by decide) _

-- The induction carries along what follows the value, as a word ends only before a delimiter.
mutual

theorem spells_compact (j : Json) {ts : List Token} {r : List Char} (h : Spells ts r)
    (hr : Delimited r) :
    Spells (j.tokens ++ ts) (j.compactChars ++ r) := by
  match j with
  | .null => exact .word (by decide) (by decide) hr h
  | .bool true => exact .word (by decide) (by decide) hr h
  | .bool false => exact .word (by decide) (by decide) hr h
  | .number n =>
    have hplain : (Nat.toDigits 10 n).all isPlain := List.all_eq_true.mpr fun c hc =>
      isPlain_of_isDigit (Nat.isDigit_of_mem_toDigits (by decide) (by decide) hc)
    exact .word Nat.toDigits_ne_nil hplain hr h
  | .string s => exact .literal s h
  | .array items =>
    have hclose : Spells (.mark ']' :: ts) (']' :: r) := .mark (by decide) h
    have hopen : Spells _ ('[' :: _) :=
      .mark (by decide) (spells_compactItems items hclose (delimited_cons (by decide) r))
    simpa [tokens, compactChars] using hopen
  | .object fields =>
    have hclose : Spells (.mark '\x7d' :: ts) ('\x7d' :: r) := .mark (by decide) h
    have hopen : Spells _ ('\x7b' :: _) :=
      .mark (by decide) (spells_compactFields fields hclose (delimited_cons (by decide) r))
    simpa [tokens, compactChars] using hopen

theorem spells_compactItems (items : List Json) {ts : List Token} {r : List Char}
    (h : Spells ts r) (hr : Delimited r) :
    Spells (itemTokens items ++ ts) (compactItems items ++ r) := by
  match items with
  | [] => exact h
  | [item] => simpa [itemTokens, laterItems, compactItems] using spells_compact item h hr
  | item :: next :: items =>
    have hrest : Spells _ (',' :: _) := .mark (by decide) (spells_compactItems (next :: items) h hr)
    have hfirst := spells_compact item hrest (delimited_cons (by decide) _)
    simpa [itemTokens, laterItems, compactItems] using hfirst

theorem spells_compactFields (fields : List (String × Json)) {ts : List Token} {r : List Char}
    (h : Spells ts r) (hr : Delimited r) :
    Spells (fieldTokens fields ++ ts) (compactFields fields ++ r) := by
  match fields with
  | [] => exact h
  | [(k, v)] =>
    have hvalue : Spells _ (':' :: _) := .mark (by decide) (spells_compact v h hr)
    simpa [fieldTokens, laterFields, compactFields] using hvalue.literal k
  | (k, v) :: (k', v') :: fields =>
    have hrest : Spells _ (',' :: _) :=
      .mark (by decide) (spells_compactFields ((k', v') :: fields) h hr)
    have hvalue : Spells _ (':' :: _) :=
      .mark (by decide) (spells_compact v hrest (delimited_cons (by decide) _))
    simpa [fieldTokens, laterFields, compactFields] using hvalue.literal k

end

mutual

theorem spells_pretty (level : Nat) (j : Json) {ts : List Token} {r : List Char}
    (h : Spells ts r) (hr : Delimited r) :
    Spells (j.tokens ++ ts) (j.prettyChars level ++ r) := by
  match j with
  | .null | .bool true | .bool false | .number _ | .string _ => exact spells_compact _ h hr
  | .array [] => exact spells_compact (.array []) h hr
  | .array (item :: items) =>
    have hclose : Spells (.mark ']' :: ts) (newLine level ++ ']' :: r) :=
      spells_newLine level (.mark (by decide) h)
    have hopen : Spells _ ('[' :: _) :=
      .mark (by decide) (spells_prettyItems (level + 1) (item :: items) hclose
        (delimited_newLine level _))
    simpa [tokens, prettyChars] using hopen
  | .object [] => exact spells_compact (.object []) h hr
  | .object (field :: fields) =>
    have hclose : Spells (.mark '\x7d' :: ts) (newLine level ++ '\x7d' :: r) :=
      spells_newLine level (.mark (by decide) h)
    have hopen : Spells _ ('\x7b' :: _) :=
      .mark (by decide) (spells_prettyFields (level + 1) (field :: fields) hclose
        (delimited_newLine level _))
    simpa [tokens, prettyChars] using hopen

theorem spells_prettyItems (level : Nat) (items : List Json) {ts : List Token} {r : List Char}
    (h : Spells ts r) (hr : Delimited r) :
    Spells (itemTokens items ++ ts) (prettyItems level items ++ r) := by
  match items with
  | [] => exact h
  | [item] =>
    simpa [itemTokens, laterItems, prettyItems] using
      spells_newLine level (spells_pretty level item h hr)
  | item :: next :: items =>
    have hrest : Spells _ (',' :: _) :=
      .mark (by decide) (spells_prettyItems level (next :: items) h hr)
    have hfirst := spells_pretty level item hrest (delimited_cons (by decide) _)
    simpa [itemTokens, laterItems, prettyItems] using spells_newLine level hfirst

theorem spells_prettyFields (level : Nat) (fields : List (String × Json)) {ts : List Token}
    {r : List Char} (h : Spells ts r) (hr : Delimited r) :
    Spells (fieldTokens fields ++ ts) (prettyFields level fields ++ r) := by
  match fields with
  | [] => exact h
  | [(k, v)] =>
    have hvalue : Spells _ (':' :: ' ' :: _) :=
      .mark (by decide) (.space (by decide) (spells_pretty level v h hr))
    simpa [fieldTokens, laterFields, prettyFields] using spells_newLine level (hvalue.literal k)
  | (k, v) :: (k', v') :: fields =>
    have hrest : Spells _ (',' :: _) :=
      .mark (by decide) (spells_prettyFields level ((k', v') :: fields) h hr)
    have hvalue : Spells _ (':' :: ' ' :: _) :=
      .mark (by decide) (.space (by decide)
        (spells_pretty level v hrest (delimited_cons (by decide) _)))
    simpa [fieldTokens, laterFields, prettyFields] using spells_newLine level (hvalue.literal k)

end

theorem spells_render (j : Json) (isPretty : Bool) :
    Spells j.tokens (j.render isPretty).toList := by
  cases isPretty with
  | false => simpa [render, compact] using spells_compact j .nil delimited_nil
  | true => simpa [render, pretty] using spells_pretty 0 j .nil delimited_nil

theorem parse?_render (j : Json) (isPretty : Bool) : parse? (j.render isPretty) = some j := by
  rw [parse?, tokens?_of_spells (spells_render j isPretty), Option.bind_some, ofTokens?_tokens]

example : (parse? "[1,]").isNone ∧ (parse? "[01]").isNone ∧ (parse? "[1] 2").isNone := by
  decide +kernel

theorem withoutBlanks_render (j : Json) (isPretty : Bool) :
    String.ofList (withoutBlanks (j.render isPretty).toList) = j.render false := by
  rw [withoutBlanks_of_spells (spells_render j isPretty), chars_tokens]
  rfl

end SymbolDocs.Json
