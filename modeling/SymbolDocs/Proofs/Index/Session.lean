import Mathlib.Data.List.Induction
import Mathlib.Data.List.Infix
import SymbolDocs.Proofs.Index.Caching
/-!
Runs of calls on an opened index while its files change. The documents that are kept are those that
the files held when each was first loaded, and apart from that they cannot be noticed: every call
gives what it would give without a cache, on files where these documents stand in place of what is
there now.
-/

namespace SymbolDocs

open Xml (Element)

inductive Call where
  | load (refid : String)
  | collect (identifier : String)
  | resolve (refid kindref : String)
  | names

inductive Answer where
  | document (document : Element)
  | symbol (symbol : Symbol)
  | name (name : String)
  | names (names : List (String × String))

inductive Step where
  | change (files : FileSystem)
  | call (call : Call)

structure Session where
  files : FileSystem
  cache : Cache

/-- The files as they are now, and all loads so far that have given a document, the first one first,
each with the files as they were then. -/
structure History where
  files : FileSystem
  loads : List (String × FileSystem)

namespace Index

variable (index : Index)

def call (fs : FileSystem) : Call → Lookup Answer
  | .load refid => .document <$> index.load fs refid
  | .collect identifier => .symbol <$> index.collect fs identifier
  | .resolve refid kindref => .name <$> MonadExcept.ofExcept (index.resolve refid kindref)
  | .names => pure (.names index.compoundNames)

def callAfresh (documents : Documents) (depth : Nat) : Call → Reading Answer
  | .load refid => .document <$> documents.load refid
  | .collect identifier => .symbol <$> index.collectAfresh documents depth identifier
  | .resolve refid kindref => .name <$> MonadExcept.ofExcept (index.resolve refid kindref)
  | .names => pure (.names index.compoundNames)

def answer (s : Session) (call : Call) : Except Error Answer :=
  ((index.call s.files call).outcome s.cache).1

def step (s : Session) : Step → Session
  | .change files => { s with files }
  | .call call => { s with cache := ((index.call s.files call).outcome s.cache).2 }

def session (files : FileSystem) (steps : List Step) : Session :=
  steps.foldl index.step ⟨files, []⟩

def seen (s : Session) : Documents :=
  s.cache.over (index.documents s.files)

def snapshot? (h : History) (refid : String) : Option Element :=
  (h.loads.find? fun l => l.1 == refid).bind fun l => (index.documents l.2 refid).toOption

def overlay (h : History) : Documents :=
  (index.documents h.files).under (index.snapshot? h)

def afresh (depth : Nat) (h : History) (call : Call) : Except Error Answer × List String :=
  (index.callAfresh (index.overlay h) depth call).outcome []

def record (depth : Nat) (h : History) : Step → History
  | .change files => { h with files }
  | .call call => { h with
      loads := h.loads ++ (index.afresh depth h call).2.map fun refid => (refid, h.files) }

def history (depth : Nat) (files : FileSystem) (steps : List Step) : History :=
  steps.foldl (index.record depth) ⟨files, []⟩

theorem mirrors_call {fs : FileSystem} {seen : Documents} (hacyclic : seen.Acyclic) {depth : Nat}
    (hdepth : ∀ refid document, seen refid = .ok document → seen.Within depth document)
    (call : Call) :
    Mirrors (index.documents fs) seen (index.call fs call) (index.callAfresh seen depth call) := by
  cases call with
  | load refid => exact (index.mirrors_load fs seen refid).map _
  | collect identifier => exact (index.mirrors_collect fs hacyclic hdepth identifier).map _
  | resolve refid kindref => exact (mirrors_ofExcept _).map _
  | names => exact mirrors_pure _

structure Agrees (s : Session) (h : History) : Prop where
  files : s.files = h.files
  get? : ∀ refid, s.cache.get? refid = index.snapshot? h refid
  loads : ∀ l ∈ h.loads, (s.cache.get? l.1).isSome

theorem Agrees.over_eq {s : Session} {h : History} (hagrees : index.Agrees s h) :
    index.seen s = index.overlay h := by
  rw [seen, Cache.over, overlay, hagrees.files, funext hagrees.get?]

theorem agrees_opened (files : FileSystem) : index.Agrees ⟨files, []⟩ ⟨files, []⟩ :=
  ⟨rfl, fun _ => rfl, nofun⟩

theorem Agrees.change {s : Session} {h : History} (hagrees : index.Agrees s h)
    (files : FileSystem) : index.Agrees { s with files } { h with files } :=
  ⟨rfl, hagrees.get?, hagrees.loads⟩

theorem find?_map_files (loaded : List String) (files : FileSystem) (refid : String) :
    ((loaded.map fun r => (r, files)).find? fun l => l.1 == refid) =
      if refid ∈ loaded then some (refid, files) else none := by
  induction loaded with
  | nil => rfl
  | cons r rs ih =>
    rw [List.map_cons, List.find?_cons, ih]
    by_cases hr : r = refid
    · simp [hr]
    · rw [beq_eq_false_iff_ne.mpr hr]
      simp [Ne.symm hr]

theorem Agrees.load {s : Session} {h : History} (hagrees : index.Agrees s h) {cache : Cache}
    {loaded : List String} (hadds : Adds (index.documents s.files) s.cache cache loaded) :
    index.Agrees ⟨s.files, cache⟩ ⟨h.files, h.loads ++ loaded.map fun r => (r, h.files)⟩ := by
  refine ⟨hagrees.files, fun refid => ?_, ?_⟩
  · change cache.get? refid = _
    rw [hadds.get?, hagrees.get?, snapshot?, snapshot?, List.find?_append, find?_map_files,
      hagrees.files]
    cases hfind : h.loads.find? fun l => l.1 == refid with
    | none =>
      by_cases hloaded : refid ∈ loaded <;> simp [hloaded]
    | some l =>
      -- The first load on record gave a document, so what comes later does not count.
      have hl : l.1 = refid := by simpa using List.find?_some hfind
      have hkept := hagrees.loads l (List.mem_of_find?_eq_some hfind)
      rw [hagrees.get?, snapshot?, hl, hfind] at hkept
      obtain ⟨document, hdocument⟩ := Option.isSome_iff_exists.mp hkept
      rw [Option.some_or, hdocument, Option.some_or]
  · intro l hl
    rcases List.mem_append.mp hl with hl | hl
    · change (cache.get? l.1).isSome
      rw [hadds.get?, Option.isSome_or, hagrees.loads l hl, Bool.true_or]
    · obtain ⟨refid, hrefid, rfl⟩ := List.mem_map.mp hl
      exact hadds.kept refid hrefid

theorem Agrees.call {s : Session} {h : History} (hagrees : index.Agrees s h)
    (hacyclic : (index.overlay h).Acyclic) (depth : Nat)
    (hdepth : ∀ refid document, index.overlay h refid = .ok document →
      (index.overlay h).Within depth document) (call : Call) :
    index.answer s call = (index.afresh depth h call).1 ∧
      Adds (index.documents s.files) s.cache (index.step s (.call call)).cache
        (index.afresh depth h call).2 ∧
      index.Agrees (index.step s (.call call)) (index.record depth h (.call call)) := by
  obtain ⟨result, cache, loaded, hcall, hafresh, hadds⟩ :=
    index.mirrors_call hacyclic hdepth call s.cache [] hagrees.over_eq
  rw [List.nil_append] at hafresh
  have hanswer : index.answer s call = result := by rw [answer, hcall]
  have hcache : (index.step s (.call call)).cache = cache := by rw [step, hcall]
  rw [hanswer, hcache, afresh, hafresh]
  refine ⟨rfl, hadds, ?_⟩
  rw [step, hcall, record, afresh, hafresh]
  exact hagrees.load index hadds

theorem session_concat (files : FileSystem) (steps : List Step) (step : Step) :
    index.session files (steps ++ [step]) = index.step (index.session files steps) step := by
  rw [session, List.foldl_concat]
  rfl

theorem history_concat (depth : Nat) (files : FileSystem) (steps : List Step) (step : Step) :
    index.history depth files (steps ++ [step]) =
      index.record depth (index.history depth files steps) step := by
  rw [history, List.foldl_concat]
  rfl

def AcyclicCalls (files : FileSystem) (steps : List Step) : Prop :=
  ∀ before call, before ++ [Step.call call] <+: steps →
    (index.seen (index.session files before)).Acyclic

def ShallowCalls (depth : Nat) (files : FileSystem) (steps : List Step) : Prop :=
  ∀ before call, before ++ [Step.call call] <+: steps → ∀ refid document,
    index.seen (index.session files before) refid = .ok document →
      (index.seen (index.session files before)).Within depth document

theorem exists_shallowCalls {files : FileSystem} {steps : List Step}
    (h : index.AcyclicCalls files steps) :
    ∃ n, ∀ depth, n ≤ depth → index.ShallowCalls depth files steps := by
  induction steps using List.reverseRecOn with
  | nil =>
    refine ⟨0, fun depth _ before call hpart => ?_⟩
    simp at hpart
  | append_singleton steps step ih =>
    obtain ⟨n, hn⟩ := ih fun before call hpart =>
      h before call (hpart.trans (List.prefix_append steps [step]))
    -- Each call asks for so much depth only, and so do all calls together.
    let s := index.session files steps
    refine ⟨max n (nestingLimit s.files s.cache index.root),
      fun depth hdepth before call hpart => ?_⟩
    rcases List.prefix_concat_iff.mp hpart with hlast | hearlier
    · obtain ⟨rfl, -⟩ := List.append_inj' hlast rfl
      intro refid document hdocument
      exact (within_nestingLimit (h before call hpart) hdocument index.root).mono
        (Nat.le_trans (Nat.le_max_right _ _) hdepth)
    · exact hn depth (Nat.le_trans (Nat.le_max_left _ _) hdepth) before call hearlier

section Run

variable {index} {files : FileSystem} {steps : List Step} {depth : Nat}

theorem agrees_session (hacyclic : index.AcyclicCalls files steps)
    (hshallow : index.ShallowCalls depth files steps) {before : List Step}
    (hbefore : before <+: steps) :
    index.Agrees (index.session files before) (index.history depth files before) := by
  induction before using List.reverseRecOn with
  | nil => exact index.agrees_opened files
  | append_singleton before step ih =>
    have hagrees := ih ((List.prefix_append before [step]).trans hbefore)
    rw [session_concat, history_concat]
    cases step with
    | change files => exact hagrees.change index files
    | call call =>
      have hseen : index.seen (index.session files before) = _ := hagrees.over_eq
      exact (hagrees.call index (hseen ▸ hacyclic before call hbefore) depth
        (hseen ▸ hshallow before call hbefore) call).2.2

theorem call_session (hacyclic : index.AcyclicCalls files steps)
    (hshallow : index.ShallowCalls depth files steps) {before : List Step} {call : Call}
    (hcall : before ++ [Step.call call] <+: steps) :
    index.answer (index.session files before) call =
        (index.afresh depth (index.history depth files before) call).1 ∧
      Adds (index.documents (index.session files before).files) (index.session files before).cache
        (index.session files (before ++ [Step.call call])).cache
        (index.afresh depth (index.history depth files before) call).2 := by
  have hagrees := agrees_session hacyclic hshallow ((List.prefix_append before _).trans hcall)
  have hseen : index.seen (index.session files before) = _ := hagrees.over_eq
  have hstep := hagrees.call index (hseen ▸ hacyclic before call hcall) depth
    (hseen ▸ hshallow before call hcall) call
  rw [session_concat]
  exact ⟨hstep.1, hstep.2.1⟩

theorem get?_session_append (hacyclic : index.AcyclicCalls files steps)
    (hshallow : index.ShallowCalls depth files steps) {before later : List Step}
    (hlater : before ++ later <+: steps) {refid : String} {document : Element}
    (h : (index.session files before).cache.get? refid = some document) :
    (index.session files (before ++ later)).cache.get? refid = some document := by
  induction later using List.reverseRecOn with
  | nil => rwa [List.append_nil]
  | append_singleton later step ih =>
    rw [← List.append_assoc] at hlater ⊢
    have hkept := ih ((List.prefix_append _ [step]).trans hlater)
    cases step with
    | change files =>
      rw [session_concat]
      exact hkept
    | call call =>
      rw [(call_session hacyclic hshallow hlater).2.get?, hkept, Option.some_or]

theorem answer_eq_of_documents (hacyclic : index.AcyclicCalls files steps)
    (hshallow : index.ShallowCalls depth files steps) {before : List Step} {call : Call}
    (hcall : before ++ [Step.call call] <+: steps) {files' : FileSystem}
    (hfiles : index.documents files' = index.seen (index.session files before)) :
    index.answer (index.session files before) call = index.answer ⟨files', []⟩ call := by
  have hagrees := agrees_session hacyclic hshallow ((List.prefix_append before _).trans hcall)
  -- The index that has kept nothing is at the start of a run of its own.
  have hopened := index.agrees_opened files'
  have hoverlay : index.overlay ⟨files', []⟩ =
      index.overlay (index.history depth files before) := hfiles.trans hagrees.over_eq
  have hacyclic' : (index.overlay ⟨files', []⟩).Acyclic := by
    rw [hoverlay, ← hagrees.over_eq]
    exact hacyclic before call hcall
  have hdepth' : ∀ refid document, index.overlay ⟨files', []⟩ refid = .ok document →
      (index.overlay ⟨files', []⟩).Within depth document := by
    rw [hoverlay, ← hagrees.over_eq]
    exact hshallow before call hcall
  have hfresh := (hopened.call index hacyclic' depth hdepth' call).1
  rw [(call_session hacyclic hshallow hcall).1, hfresh, afresh, afresh, hoverlay]

theorem seen_session_of_calls (hacyclic : index.AcyclicCalls files steps)
    (hshallow : index.ShallowCalls depth files steps) {before : List Step}
    (hbefore : before <+: steps) (hcalls : ∀ step ∈ before, ∃ call, step = .call call) :
    index.seen (index.session files before) = index.documents files := by
  induction before using List.reverseRecOn with
  | nil => rfl
  | append_singleton before step ih =>
    rw [List.forall_mem_append] at hcalls
    obtain ⟨call, rfl⟩ := hcalls.2 step (List.mem_singleton_self step)
    have hseen := ih ((List.prefix_append before _).trans hbefore) hcalls.1
    have hadds := (call_session hacyclic hshallow hbefore).2
    rw [session_concat] at hadds ⊢
    exact hadds.over_eq.trans hseen

end Run

/-- What is kept are snapshots, and otherwise it makes no difference that they are kept. The run
without a cache puts no limit on nesting that matters: any `depth` will do that is large enough. -/
theorem session_eq_history (files : FileSystem) (steps : List Step)
    (hacyclic : index.AcyclicCalls files steps) :
    ∃ n, ∀ depth, n ≤ depth → ∀ before, before <+: steps →
      let s := index.session files before
      let h := index.history depth files before
      (∀ refid, s.cache.get? refid = index.snapshot? h refid) ∧
      (∀ later, before ++ later <+: steps → ∀ refid document,
        s.cache.get? refid = some document →
          (index.session files (before ++ later)).cache.get? refid = some document) ∧
      ∀ call, before ++ [Step.call call] <+: steps →
        (∀ refid document,
          (index.session files (before ++ [Step.call call])).cache.get? refid = some document →
            s.cache.get? refid = some document ∨
              refid ∈ (index.afresh depth h call).2 ∧
                index.documents s.files refid = .ok document) ∧
        index.answer s call = (index.afresh depth h call).1 ∧
        (∀ files', index.documents files' = index.overlay h →
          index.answer s call = index.answer ⟨files', []⟩ call) ∧
        ((∀ step ∈ before, ∃ earlier, step = .call earlier) →
          index.answer s call = index.answer ⟨files, []⟩ call) := by
  obtain ⟨n, hn⟩ := index.exists_shallowCalls hacyclic
  refine ⟨n, fun depth hdepth before hbefore => ?_⟩
  have hshallow := hn depth hdepth
  have hagrees := agrees_session hacyclic hshallow hbefore
  refine ⟨hagrees.get?, fun later hlater refid document hkept =>
    get?_session_append hacyclic hshallow hlater hkept, fun call hcall => ?_⟩
  obtain ⟨hanswer, hadds⟩ := call_session hacyclic hshallow hcall
  refine ⟨fun refid document hget => ?_, hanswer, fun files' hfiles => ?_, fun hcalls => ?_⟩
  · rw [hadds.get?, Option.or_eq_some_iff] at hget
    rcases hget with hold | ⟨-, hnew⟩
    · exact .inl hold
    · split at hnew
      · next hloaded => exact .inr ⟨hloaded, toOption_eq_some.mp hnew⟩
      · cases hnew
  · exact answer_eq_of_documents hacyclic hshallow hcall (hfiles.trans hagrees.over_eq.symm)
  · have hsame := seen_session_of_calls hacyclic hshallow hbefore hcalls
    exact answer_eq_of_documents hacyclic hshallow hcall hsame.symm

def nestedIndex : Index :=
  ⟨"/x", .mk "doxygenindex" [] "" [.mk "compound" [("refid", "a"), ("kind", "struct")] ""
    [.mk "name" [] "A" [] ""] ""] ""⟩

def outerText : String :=
  "<d><compounddef><innerclass refid=\"b\"/></compounddef></d>"

def innerText : String :=
  "<d><compounddef/></d>"

def rewrittenText : String :=
  "<d><compounddef><innerclass refid=\"a\"/></compounddef></d>"

def nestedFiles (inner : String) : FileSystem :=
  ⟨[(["x"], .directory), (["x", "a.xml"], .file outerText.toUTF8 false),
    (["x", "b.xml"], .file inner.toUTF8 false)], []⟩

def compoundTree (inner : List Element) : Element :=
  .mk "d" [] "" [.mk "compounddef" [] "" inner ""] ""

def innerClass (refid : String) : Element :=
  .mk "innerclass" [("refid", refid)] "" [] ""

theorem parse_outer : Xml.parseDocument outerText = .ok (compoundTree [innerClass "b"]) := by
  rfl

theorem parse_inner : Xml.parseDocument innerText = .ok (compoundTree []) := by
  rfl

theorem parse_rewritten :
    Xml.parseDocument rewrittenText = .ok (compoundTree [innerClass "a"]) := by
  rfl

theorem documents_outer (inner : String) :
    nestedIndex.documents (nestedFiles inner) "a" = .ok (compoundTree [innerClass "b"]) :=
  readDocument_eq_ok outerText rfl parse_outer

theorem documents_inner :
    nestedIndex.documents (nestedFiles innerText) "b" = .ok (compoundTree []) :=
  readDocument_eq_ok innerText rfl parse_inner

theorem documents_rewritten :
    nestedIndex.documents (nestedFiles rewrittenText) "b" = .ok (compoundTree [innerClass "a"]) :=
  readDocument_eq_ok rewrittenText rfl parse_rewritten

theorem acyclic_nested {fs : FileSystem} {cache : Cache}
    (houter : cache.over (nestedIndex.documents fs) "a" = .ok (compoundTree [innerClass "b"]))
    (hinner : cache.over (nestedIndex.documents fs) "b" = .ok (compoundTree []))
    (hpool : innerPool fs cache ⊆ ["a", "b"]) :
    (cache.over (nestedIndex.documents fs)).Acyclic := by
  refine Documents.acyclic_of_rank (fun r => if r = "b" then 0 else if r = "a" then 1 else 2) ?_
  rintro outer inner ⟨document, hdocument, hmem⟩
  have hinside := hpool (innerRefids_subset_innerPool hdocument hmem)
  by_cases hb : outer = "b"
  · subst hb
    obtain rfl := Except.ok.inj (hinner.symm.trans hdocument)
    cases hmem
  by_cases ha : outer = "a"
  · subst ha
    obtain rfl := Except.ok.inj (houter.symm.trans hdocument)
    obtain rfl : inner = "b" := List.mem_singleton.mp hmem
    decide
  · simp only [List.mem_cons, List.not_mem_nil, or_false] at hinside
    rcases hinside with rfl | rfl <;> simp [ha, hb]

def nestedSteps : List Step :=
  [.call (.load "b"), .change (nestedFiles rewrittenText), .call (.collect "A")]

theorem session_nested :
    nestedIndex.session (nestedFiles innerText) [.call (.load "b")] =
      ⟨nestedFiles innerText, [("b", compoundTree [])]⟩ := by
  have hload : (nestedIndex.load (nestedFiles innerText) "b").outcome [] =
      (.ok (compoundTree []), [("b", compoundTree [])]) :=
    nestedIndex.outcome_load_of_ok _ rfl documents_inner
  have hcall : (nestedIndex.call (nestedFiles innerText) (.load "b")).outcome [] =
      (.ok (.document (compoundTree [])), [("b", compoundTree [])]) := by
    rw [call, map_eq_pure_bind, Lookup.outcome_bind_ok hload]
    rfl
  change Session.mk (nestedFiles innerText)
    ((nestedIndex.call (nestedFiles innerText) (.load "b")).outcome []).2 = _
  rw [hcall]

theorem innerPool_nested_subset {inner : String} {document : Element}
    (hparse : Xml.parseDocument inner = .ok document) (hinner : innerRefids document ⊆ ["a", "b"])
    {cache : Cache} (hcache : ∀ d ∈ cache, innerRefids d.2 = []) :
    innerPool (nestedFiles inner) cache ⊆ ["a", "b"] := by
  have hkept : (cache.flatMap fun d => innerRefids d.2) = [] := List.flatMap_eq_nil_iff.mpr hcache
  have hfiles : ((nestedFiles inner).entries.flatMap fun e =>
      (e.2.document?.map innerRefids).getD []) = "b" :: innerRefids document := by
    simp only [nestedFiles, List.flatMap_cons, List.flatMap_nil, Entry.document?_file, hparse,
      parse_outer]
    rw [List.append_nil]
    rfl
  rw [innerPool, hkept, hfiles, List.nil_append]
  exact List.cons_subset.mpr ⟨by decide, hinner⟩

theorem acyclicCalls_nested : nestedIndex.AcyclicCalls (nestedFiles innerText) nestedSteps := by
  rintro before call ⟨rest, hrest⟩
  match before with
  | [] =>
    exact acyclic_nested (documents_outer innerText) documents_inner
      (innerPool_nested_subset parse_inner (by decide) nofun)
  | [_] => cases hrest
  | [_, _] =>
    cases hrest
    have hsession := nestedIndex.session_concat (nestedFiles innerText) [.call (.load "b")]
      (.change (nestedFiles rewrittenText))
    rw [session_nested] at hsession
    rw [show nestedIndex.session (nestedFiles innerText)
      [.call (.load "b"), .change (nestedFiles rewrittenText)] = _ from hsession]
    refine acyclic_nested (documents_outer rewrittenText) rfl
      (innerPool_nested_subset parse_rewritten (by decide) ?_)
    intro d hd
    obtain rfl := List.mem_singleton.mp hd
    rfl
  | _ :: _ :: _ :: _ =>
    have hlength := congrArg List.length hrest
    simp [nestedSteps] at hlength

theorem session_eq_history_nested :
    nestedIndex.AcyclicCalls (nestedFiles innerText) nestedSteps ∧
      nestedIndex.documents (nestedFiles rewrittenText) "b" = .ok (compoundTree [innerClass "a"]) ∧
      (nestedIndex.session (nestedFiles innerText) nestedSteps).cache.get? "b" =
        some (compoundTree []) := by
  refine ⟨acyclicCalls_nested, documents_rewritten, ?_⟩
  obtain ⟨n, hn⟩ := nestedIndex.session_eq_history _ _ acyclicCalls_nested
  obtain ⟨-, hkept, -⟩ := hn n (Nat.le_refl n) [.call (.load "b")] ⟨_, rfl⟩
  exact hkept _ (List.prefix_refl _) "b" (compoundTree []) (by rw [session_nested]; rfl)

end Index

end SymbolDocs
