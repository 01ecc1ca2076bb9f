import Mathlib.Tactic.SplitIfs
import SymbolDocs.Json.Basic
import SymbolDocs.Text.Blank
import SymbolDocs.Text.Digits

namespace SymbolDocs.Json

def isSpace (c : Char) : Bool :=
  c == ' ' || c == '\t' || c == '\n' || c == '\r'

def isMark (c : Char) : Bool :=
  ['[', ']', '\x7b', '\x7d', ',', ':'].contains c

def isDelimiter (c : Char) : Bool :=
  isSpace c || isMark c || c == '"'

inductive Token where
  | mark (c : Char)
  | word (cs : List Char)
  | literal (cs : List Char)
  deriving DecidableEq, Repr

inductive Scan where
  | between
  | inWord (read : List Char)
  | inLiteral (read : List Char)
  | escaped (read : List Char)

namespace Scan

def delimit (c : Char) (before : List Token) : List Token × Scan :=
  if c = '"' then (before, inLiteral [])
  else if isMark c then (before ++ [.mark c], between)
  else (before, between)

def step : Scan → Char → List Token × Scan
  | between, c => if isDelimiter c then delimit c [] else ([], inWord [c])
  | inWord read, c =>
    if isDelimiter c then delimit c [.word read.reverse] else ([], inWord (c :: read))
  | inLiteral read, c =>
    if c = '"' then ([.literal read.reverse], between)
    else if c = '\\' then ([], escaped read)
    else ([], inLiteral (c :: read))
  | escaped read, c => ([], inLiteral (c :: '\\' :: read))

def finish? : Scan → Option (List Token)
  | between => some []
  | inWord read => some [.word read.reverse]
  | inLiteral _ | escaped _ => none

def tokens? : Scan → List Char → Option (List Token)
  | s, [] => s.finish?
  | s, c :: r => (tokens? (s.step c).2 r).map ((s.step c).1 ++ ·)

end Scan

def escape? (c : Char) : Option Char :=
  if c = '"' ∨ c = '\\' ∨ c = '/' then some c
  else if c = 'b' then some '\x08'
  else if c = 't' then some '\t'
  else if c = 'n' then some '\n'
  else if c = 'f' then some '\x0c'
  else if c = 'r' then some '\r'
  else none

def codes? : List Char → Option (List Nat)
  | [] => some []
  | c :: r =>
    if c ≠ '\\' then if c.toNat < 0x20 then none else (codes? r).map (c.toNat :: ·)
    else match r with
      | [] => none
      | e :: r =>
        if e ≠ 'u' then (escape? e).bind fun c => (codes? r).map (c.toNat :: ·)
        else match r with
          | x :: y :: z :: w :: r =>
            (Text.hexadecimal? [x, y, z, w]).bind fun code => (codes? r).map (code :: ·)
          | _ => none

def isHighSurrogate (code : Nat) : Bool :=
  0xD800 ≤ code && code < 0xDC00

def isLowSurrogate (code : Nat) : Bool :=
  0xDC00 ≤ code && code < 0xE000

def chars? : List Nat → Option (List Char)
  | [] => some []
  | code :: codes =>
    if isHighSurrogate code then
      match codes with
      | low :: codes' =>
        if isLowSurrogate low then
          (chars? codes').map
            (Char.ofNat (0x10000 + (code - 0xD800) * 0x400 + (low - 0xDC00)) :: ·)
        else none
      | [] => none
    else if isLowSurrogate code then none
    else (chars? codes).map (Char.ofNat code :: ·)

def text? (literal : List Char) : Option String :=
  ((codes? literal).bind chars?).map String.ofList

def natural? (word : List Char) : Option Nat :=
  if word.head? = some '0' ∧ word ≠ ['0'] then none else Text.decimal? word

def word? (word : List Char) : Option Json :=
  if word = "null".toList then some .null
  else if word = "true".toList then some (.bool true)
  else if word = "false".toList then some (.bool false)
  else (natural? word).map .number

inductive Frame where
  | items (before : List Json)
  | fields (before : List (String × Json)) (key : String)

/-- What has been put together, and so what may come next. -/
inductive Position where
  | value (stack : List Frame)
  | firstItem (stack : List Frame)
  | firstKey (stack : List Frame)
  | key (stack : List Frame) (before : List (String × Json))
  | colon (stack : List Frame) (before : List (String × Json)) (key : String)
  | after (stack : List Frame) (value : Json)

namespace Position

def beginValue (stack : List Frame) : Token → Option Position
  | .mark c =>
    if c = '[' then some (firstItem stack)
    else if c = '\x7b' then some (firstKey stack)
    else none
  | .word cs => (word? cs).map (after stack)
  | .literal cs => (text? cs).map fun s => after stack (.string s)

def beginField (stack : List Frame) (before : List (String × Json)) : Token → Option Position
  | .literal cs => (text? cs).map (colon stack before)
  | _ => none

def feed : Position → Token → Option Position
  | value stack, t => beginValue stack t
  | firstItem stack, t =>
    if t = .mark ']' then some (after stack (.array [])) else beginValue (.items [] :: stack) t
  | firstKey stack, t =>
    if t = .mark '\x7d' then some (after stack (.object [])) else beginField stack [] t
  | key stack before, t => beginField stack before t
  | colon stack before k, t =>
    if t = .mark ':' then some (value (.fields before k :: stack)) else none
  | after (.items before :: stack) v, t =>
    if t = .mark ',' then some (value (.items (v :: before) :: stack))
    else if t = .mark ']' then some (after stack (.array (v :: before).reverse))
    else none
  | after (.fields before k :: stack) v, t =>
    if t = .mark ',' then some (key stack ((k, v) :: before))
    else if t = .mark '\x7d' then some (after stack (.object ((k, v) :: before).reverse))
    else none
  | after [] _, _ => none

def result? : Position → Option Json
  | after [] v => some v
  | _ => none

end Position

def ofTokens? (tokens : List Token) : Option Json :=
  (tokens.foldlM Position.feed (.value [])).bind Position.result?

def parse? (text : String) : Option Json :=
  (Scan.between.tokens? text.toList).bind ofTokens?

section Literals

def contents (s : String) : List Char :=
  s.toList.flatMap escapedChar

theorem hexadecimal?_control : ∀ n < 0x20,
    Text.hexadecimal? ['0', '0', Nat.digitChar (n / 16), Nat.digitChar (n % 16)] = some n := by
  decide

theorem digitChar_ne : ∀ n < 16, n.digitChar ≠ '"' ∧ n.digitChar ≠ '\\' := by
  decide

inductive Escapes (c : Char) : List Char → Prop where
  | plain (hquote : c ≠ '"') (hbackslash : c ≠ '\\') (hcontrol : ¬c.toNat < 0x20) : Escapes c [c]
  | named {e : Char} (hu : e ≠ 'u') (he : escape? e = some c) : Escapes c ['\\', e]
  | coded {x y : Char} (hx : x ≠ '"' ∧ x ≠ '\\') (hy : y ≠ '"' ∧ y ≠ '\\')
      (hhex : Text.hexadecimal? ['0', '0', x, y] = some c.toNat) :
      Escapes c ['\\', 'u', '0', '0', x, y]

theorem escapes_escapedChar (c : Char) : Escapes c (escapedChar c) := by
  unfold escapedChar
  iterate 7
    split
    · next h =>
      subst h
      exact .named (by decide) (by decide)
  split
  · next hcontrol =>
    exact .coded (digitChar_ne _ (by omega)) (digitChar_ne _ (by omega))
      (hexadecimal?_control _ hcontrol)
  · exact .plain (by assumption) (by assumption) (by assumption)

theorem codes?_of_escapes {c : Char} {cs : List Char} (h : Escapes c cs) (r : List Char) :
    codes? (cs ++ r) = (codes? r).map (c.toNat :: ·) := by
  cases h with
  | plain _ hbackslash hcontrol =>
    rw [List.singleton_append, codes?.eq_def]
    simp only [hbackslash, hcontrol, ne_eq, not_false_eq_true, if_true, if_false]
  | named hu he =>
    rw [List.cons_append, List.singleton_append, codes?.eq_def]
    simp only [hu, he, ne_eq, not_true_eq_false, not_false_eq_true, if_true, if_false,
      Option.bind_some]
  | coded _ _ hhex =>
    rw [codes?.eq_def]
    simp only [List.cons_append, List.nil_append, hhex, ne_eq, not_true_eq_false, if_false,
      Option.bind_some]

theorem codes?_contents (s : String) : codes? (contents s) = some (s.toList.map Char.toNat) := by
  unfold contents
  induction s.toList with
  | nil => rfl
  | cons c cs ih => 
    rw [List.flatMap_cons, codes?_of_escapes (escapes_escapedChar c), ih, List.map_cons,
      Option.map_some]

theorem chars?_map_toNat (cs : List Char) : chars? (cs.map Char.toNat) = some cs := by
  induction cs with
  | nil => rfl
  | cons c cs ih =>
    have hvalid : c.toNat < 0xD800 ∨ 0xDFFF < c.toNat ∧ c.toNat < 0x110000 := c.valid
    have hhigh : isHighSurrogate c.toNat = false := by
      simp [isHighSurrogate]
      omega
    have hlow : isLowSurrogate c.toNat = false := by
      simp [isLowSurrogate]
      omega
    rw [List.map_cons, chars?.eq_def]
    simp [hhigh, hlow, ih]

theorem text?_contents (s : String) : text? (contents s) = some s := by
  rw [text?, codes?_contents, Option.bind_some, chars?_map_toNat, Option.map_some,
    String.ofList_toList]

example : text? "\\ud83d\\ude00\\/".toList = some "😀/" := by decide +kernel

example : text? "\\ud83d\\/".toList = none := by decide +kernel

end Literals

section Words

theorem decimalDigit?_digitChar : ∀ d < 10, Text.decimalDigit? d.digitChar = some d := by
  decide

theorem exists_mapM_toDigits (n : Nat) :
    ∃ ds, (Nat.toDigits 10 n).mapM Text.decimalDigit? = some ds ∧ Text.ofDigits 10 ds = n := by
  induction n using Nat.strongRecOn with
  | ind n ih =>
    by_cases hn : n < 10
    · refine ⟨[n], ?_, Nat.zero_add n⟩
      rw [Nat.toDigits_of_lt_base hn, List.mapM_cons, decimalDigit?_digitChar n hn]
      rfl
    · obtain ⟨ds, hds, hvalue⟩ := ih (n / 10) (by omega)
      refine ⟨ds ++ [n % 10], ?_, ?_⟩
      · rw [Nat.toDigits_of_base_le (by decide) (by omega), List.mapM_append, hds, List.mapM_cons,
          decimalDigit?_digitChar _ (by omega)]
        rfl
      · unfold Text.ofDigits at hvalue ⊢
        rw [List.foldl_append, hvalue]
        exact Nat.div_add_mod n 10

theorem head?_toDigits_ne {n : Nat} (hn : n ≠ 0) : (Nat.toDigits 10 n).head? ≠ some '0' := by
  induction n using Nat.strongRecOn with
  | ind n ih =>
    by_cases hsmall : n < 10
    · have hdigit : ∀ d < 10, d ≠ 0 → d.digitChar ≠ '0' := by decide
      rw [Nat.toDigits_of_lt_base hsmall]
      simpa using hdigit n hsmall hn
    · have hhead := ih (n / 10) (by omega) (by omega)
      rw [Nat.toDigits_of_base_le (by decide) (by omega), List.head?_append]
      cases h : (Nat.toDigits 10 (n / 10)).head? with
      | none => exact absurd (List.head?_eq_none_iff.mp h) Nat.toDigits_ne_nil
      | some c =>
        rw [h] at hhead
        exact hhead

theorem natural?_toDigits (n : Nat) : natural? (Nat.toDigits 10 n) = some n := by
  obtain ⟨ds, hds, hvalue⟩ := exists_mapM_toDigits n
  have hzero : ¬((Nat.toDigits 10 n).head? = some '0' ∧ Nat.toDigits 10 n ≠ ['0']) := by
    rintro ⟨hhead, hne⟩
    have hn : n ≠ 0 := by
      rintro rfl
      exact hne rfl
    exact head?_toDigits_ne hn hhead
  have hempty : (Nat.toDigits 10 n).isEmpty = false := by
    rw [List.isEmpty_eq_false_iff]
    exact Nat.toDigits_ne_nil
  rw [natural?, if_neg hzero, Text.decimal?, Text.numeral?, hempty, hds]
  simp [hvalue]

theorem word?_toDigits (n : Nat) : word? (Nat.toDigits 10 n) = some (.number n) := by
  have hdigits : ∀ c ∈ Nat.toDigits 10 n, c.isDigit := fun c hc =>
    Nat.isDigit_of_mem_toDigits (by decide) (by decide) hc
  have hne {w : List Char} (hw : w.all Char.isDigit = false) : Nat.toDigits 10 n ≠ w := by
    rintro rfl
    rw [List.all_eq_true.mpr hdigits] at hw
    cases hw
  rw [word?, if_neg (hne (by decide)), if_neg (hne (by decide)), if_neg (hne (by decide)),
    natural?_toDigits]
  rfl

end Words

mutual

def tokens : Json → List Token
  | array items => .mark '[' :: (itemTokens items ++ [.mark ']'])
  | object fields => .mark '\x7b' :: (fieldTokens fields ++ [.mark '\x7d'])
  | string s => [.literal (contents s)]
  | value => [.word (scalarChars value)]

def itemTokens : List Json → List Token
  | [] => []
  | item :: items => tokens item ++ laterItems items

def laterItems : List Json → List Token
  | [] => []
  | item :: items => .mark ',' :: (tokens item ++ laterItems items)

def fieldTokens : List (String × Json) → List Token
  | [] => []
  | (key, value) :: fields =>
    .literal (contents key) :: .mark ':' :: (tokens value ++ laterFields fields)

def laterFields : List (String × Json) → List Token
  | [] => []
  | (key, value) :: fields =>
    .mark ',' :: .literal (contents key) :: .mark ':' :: (tokens value ++ laterFields fields)

end

namespace Position

theorem foldlM_cons_of_feed {p p' : Position} {t : Token} (h : feed p t = some p')
    (ts : List Token) : (t :: ts).foldlM feed p = ts.foldlM feed p' := by
  rw [List.foldlM_cons, h]
  rfl

theorem feed_word {cs : List Char} {v : Json} (h : word? cs = some v) (stack : List Frame) :
    feed (value stack) (.word cs) = some (after stack v) := by
  rw [feed, beginValue, h, Option.map_some]

theorem feed_literal (stack : List Frame) (s : String) :
    feed (value stack) (.literal (contents s)) = some (after stack (.string s)) := by
  rw [feed, beginValue, text?_contents, Option.map_some]

theorem feed_key (stack : List Frame) (before : List (String × Json)) (k : String) :
    feed (key stack before) (.literal (contents k)) = some (colon stack before k) := by
  rw [feed, beginField, text?_contents, Option.map_some]

theorem feed_firstKey (stack : List Frame) (k : String) :
    feed (firstKey stack) (.literal (contents k)) = some (colon stack [] k) := by
  rw [feed.eq_def]
  exact feed_key stack [] k

theorem foldlM_firstItem (j : Json) (stack : List Frame) (ts : List Token) :
    (j.tokens ++ ts).foldlM feed (firstItem stack) =
      (j.tokens ++ ts).foldlM feed (value (.items [] :: stack)) := by
  obtain ⟨t, ts', hts, ht⟩ : ∃ t ts', j.tokens = t :: ts' ∧ t ≠ .mark ']' := by
    cases j <;> exact ⟨_, _, rfl, by simp⟩
  have hfeed : feed (firstItem stack) t = feed (value (.items [] :: stack)) t := if_neg ht
  rw [hts, List.cons_append, List.foldlM_cons, List.foldlM_cons, hfeed]

-- The induction is on the value, for whatever is open around it and whatever follows.
mutual

theorem foldlM_tokens (j : Json) (stack : List Frame) (ts : List Token) :
    (j.tokens ++ ts).foldlM feed (value stack) = ts.foldlM feed (after stack j) := by
  match j with
  | .null => exact foldlM_cons_of_feed (feed_word (by rfl) stack) ts
  | .bool true => exact foldlM_cons_of_feed (feed_word (by rfl) stack) ts
  | .bool false => exact foldlM_cons_of_feed (feed_word (by rfl) stack) ts
  | .number n => exact foldlM_cons_of_feed (feed_word (word?_toDigits n) stack) ts
  | .string s => exact foldlM_cons_of_feed (feed_literal stack s) ts
  | .array [] => rfl
  | .array (item :: items) =>
    simp only [tokens, itemTokens, List.cons_append, List.append_assoc, List.nil_append]
    rw [foldlM_cons_of_feed rfl, foldlM_firstItem, foldlM_tokens item, foldlM_laterItems items]
    rfl
  | .object [] => rfl
  | .object ((k, v) :: fields) =>
    simp only [tokens, fieldTokens, List.cons_append, List.append_assoc, List.nil_append]
    rw [foldlM_cons_of_feed rfl, foldlM_cons_of_feed (feed_firstKey stack k),
      foldlM_cons_of_feed rfl, foldlM_tokens v, foldlM_laterFields fields]
    rfl

theorem foldlM_laterItems (items before : List Json) (v : Json) (stack : List Frame)
    (ts : List Token) :
    (laterItems items ++ .mark ']' :: ts).foldlM feed (after (.items before :: stack) v) =
      ts.foldlM feed (after stack (.array ((v :: before).reverse ++ items))) := by
  match items with
  | [] =>
    rw [laterItems, List.nil_append, foldlM_cons_of_feed rfl, List.append_nil]
  | item :: items =>
    rw [laterItems, List.cons_append, List.append_assoc, foldlM_cons_of_feed rfl,
      foldlM_tokens item, foldlM_laterItems items]
    simp

theorem foldlM_laterFields (fields before : List (String × Json)) (k : String) (v : Json)
    (stack : List Frame) (ts : List Token) :
    (laterFields fields ++ .mark '\x7d' :: ts).foldlM feed (after (.fields before k :: stack) v) =
      ts.foldlM feed (after stack (.object (((k, v) :: before).reverse ++ fields))) := by
  match fields with
  | [] =>
    rw [laterFields, List.nil_append, foldlM_cons_of_feed rfl, List.append_nil]
  | (k', v') :: fields =>
    simp only [laterFields, List.cons_append, List.append_assoc]
    rw [foldlM_cons_of_feed rfl, foldlM_cons_of_feed (feed_key stack _ k'), foldlM_cons_of_feed rfl,
      foldlM_tokens v', foldlM_laterFields fields]
    simp

end

end Position

theorem ofTokens?_tokens (j : Json) : ofTokens? j.tokens = some j := by
  have hread := Position.foldlM_tokens j [] []
  rw [List.append_nil, List.foldlM_nil] at hread
  rw [ofTokens?, hread]
  rfl

end SymbolDocs.Json
