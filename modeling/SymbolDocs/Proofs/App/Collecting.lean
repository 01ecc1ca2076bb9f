import SymbolDocs.App
import SymbolDocs.Program.Launcher
import SymbolDocs.Proofs.Description.PlainText
import SymbolDocs.Proofs.Index.Caching
/-!
Collecting several symbols in one run. The documents that are kept between them make no difference:
every identifier gets what it would get alone, and the first that fails decides how the run ends.
-/

namespace SymbolDocs

namespace Json

theorem ofList_compactItems (items : List Json) :
    String.ofList (compactItems items) = Text.joinWith "," (items.map compact) := by
  induction items with
  | nil => rfl
  | cons item items ih =>
    cases items with
    | nil => rfl
    | cons next items =>
      rw [compactItems, List.map_cons, Text.joinWith_cons (by simp), ← ih]
      simp only [String.ofList_append, compact]

theorem compact_array (items : List Json) :
    (array items).compact = "[" ++ Text.joinWith "," (items.map compact) ++ "]" := by
  rw [compact, compactChars, ← ofList_compactItems]
  simp only [String.ofList_append]

end Json

namespace Index

theorem over_nil (documents : Documents) : Cache.over [] documents = documents := rfl

theorem outcome_collect_of_over (index : Index) {fs : FileSystem}
    (hacyclic : (index.documents fs).Acyclic) {cache : Cache}
    (hcache : cache.over (index.documents fs) = index.documents fs) (identifier : String) :
    ∃ cache', (index.collect fs identifier).outcome cache =
        (((index.collect fs identifier).outcome []).1, cache') ∧
      cache'.over (index.documents fs) = index.documents fs := by
  have hdepth : ∀ refid document, index.documents fs refid = .ok document →
      (index.documents fs).Within (nestingLimit fs [] index.root) document :=
    fun refid document hdocument =>
      @within_nestingLimit index fs [] hacyclic refid document hdocument index.root
  have hmirrors := index.mirrors_collect fs hacyclic hdepth identifier
  obtain ⟨result, cache', loaded, hkept, hread, hadds⟩ := hmirrors cache [] hcache
  obtain ⟨result₀, cache₀, loaded₀, hnone, hread₀, -⟩ := hmirrors [] [] (over_nil _)
  have hsame : result = result₀ := (Prod.mk.inj (hread.symm.trans hread₀)).1
  refine ⟨cache', ?_, hadds.over_eq.trans hcache⟩
  rw [hkept, hnone, hsame]

end Index

def Invocation.collecting (invocation : Invocation) (xmlDir : Option String)
    (identifiers : List String) : Invocation :=
  { invocation with command := .collect identifiers xmlDir false }

namespace App

section Index

variable (index : Index) (fs : FileSystem) (v : Visibility)

def symbolOf (identifier : String) : Except Failure Symbol :=
  ((((index.collect fs identifier).outcome []).1).mapError (.collecting identifier)).map (·.shown v)

theorem symbolOf_eq_error {identifier : String} {failure : Failure}
    (h : symbolOf index fs v identifier = .error failure) :
    ∃ e, ((index.collect fs identifier).outcome []).1 = .error e ∧
      failure = .collecting identifier e := by
  unfold symbolOf at h
  cases hresult : ((index.collect fs identifier).outcome []).1 with
  | ok symbol =>
    rw [hresult] at h
    cases h
  | error e =>
    rw [hresult] at h
    exact ⟨e, rfl, (Except.error.inj h).symm⟩

theorem fst_collectAll (hacyclic : (index.documents fs).Acyclic) (identifiers : List String)
    {cache : Cache} (hcache : cache.over (index.documents fs) = index.documents fs) :
    ((collectAll index fs v identifiers).run.run cache).1 =
      identifiers.mapM (symbolOf index fs v) := by
  induction identifiers generalizing cache with
  | nil => rfl
  | cons identifier identifiers ih =>
    obtain ⟨cache', hcollect, hcache'⟩ := index.outcome_collect_of_over hacyclic hcache identifier
    have hfirst := run_adapt hcollect (Failure.collecting identifier)
    -- The rest starts with more documents kept, but over the same files.
    have hrest := ih hcache'
    rw [collectAll, List.mapM_cons, symbolOf]
    cases hresult : ((index.collect fs identifier).outcome []).1 with
    | error e =>
      rw [hresult] at hfirst
      rw [run_bind_error hfirst]
      rfl
    | ok symbol =>
      rw [hresult] at hfirst
      rw [run_bind_ok hfirst]
      rcases hrun : (collectAll index fs v identifiers).run.run cache' with ⟨_ | symbols, cache''⟩
      · rw [hrun] at hrest
        rw [run_bind_error hrun, ← hrest]
        rfl
      · rw [hrun] at hrest
        rw [run_bind_ok hrun, ← hrest]
        rfl

theorem collect_eq_map_mapM (hacyclic : (index.documents fs).Acyclic) (identifiers : List String) :
    collect index fs v identifiers false =
      (identifiers.mapM (symbolOf index fs v)).map fun symbols =>
        (symbolsJson symbols).compact ++ "\n" := by
  rw [collect, fst_collectAll index fs v hacyclic identifiers (Index.over_nil _)]
  cases identifiers.mapM (symbolOf index fs v) <;> rfl

end Index

section Request

variable (world : World) (invocation : Invocation) (xmlDir : Option String)

def answer (identifier : String) : Except Failure Symbol := do
  let settings ← loadSettings world invocation
  let index ← openIndex world.files settings xmlDir
  symbolOf index world.files settings.render identifier

def AcyclicIndex : Prop :=
  ∀ settings index, loadSettings world invocation = .ok settings →
    openIndex world.files settings xmlDir = .ok index → (index.documents world.files).Acyclic

variable {world invocation xmlDir}

theorem answer_of_open {settings : Settings} {index : Index}
    (hsettings : loadSettings world invocation = .ok settings)
    (hindex : openIndex world.files settings xmlDir = .ok index) (identifier : String) :
    answer world invocation xmlDir identifier =
      symbolOf index world.files settings.render identifier := by
  simp only [answer, hsettings, bind, Except.bind, hindex]

theorem snd_perform_collecting (launch : Launcher) (identifiers : List String) :
    (perform launch world (invocation.collecting xmlDir identifiers)).2 =
      loadSettings world invocation >>= fun settings =>
        openIndex world.files settings xmlDir >>= fun index =>
          collect index world.files settings.render identifiers false := by
  have hsame : loadSettings world (invocation.collecting xmlDir identifiers) =
      loadSettings world invocation := rfl
  unfold perform
  rw [hsame]
  cases loadSettings world invocation <;> rfl

theorem snd_perform_eq_map_mapM (hacyclic : AcyclicIndex world invocation xmlDir)
    {identifiers : List String} (hne : identifiers ≠ []) (launch : Launcher) :
    (perform launch world (invocation.collecting xmlDir identifiers)).2 =
      (identifiers.mapM (answer world invocation xmlDir)).map fun symbols =>
        (symbolsJson symbols).compact ++ "\n" := by
  obtain ⟨identifier, rest, rfl⟩ := List.exists_cons_of_ne_nil hne
  rw [snd_perform_collecting]
  cases hsettings : loadSettings world invocation with
  | error e =>
    rw [List.mapM_cons, answer, hsettings]
    rfl
  | ok settings =>
    cases hindex : openIndex world.files settings xmlDir with
    | error e =>
      simp only [List.mapM_cons, answer, hsettings, bind, Except.bind, hindex]
      rfl
    | ok index =>
      rw [funext (answer_of_open hsettings hindex),
        ← collect_eq_map_mapM index _ _ (hacyclic settings index hsettings hindex)]
      simp only [bind, Except.bind, hindex]

theorem report_collecting (hacyclic : AcyclicIndex world invocation xmlDir)
    {arguments identifiers : List String} (hne : identifiers ≠ [])
    (hparse : CommandLine.parse arguments = .ok (invocation.collecting xmlDir identifiers))
    (launch : Launcher) :
    (run launch world arguments).2 = .ofOutcome
      ((identifiers.mapM (answer world invocation xmlDir)).map fun symbols =>
        (symbolsJson symbols).compact ++ "\n") := by
  rw [run, hparse, ← snd_perform_eq_map_mapM hacyclic hne launch]

def Report.line (text : String) : Report :=
  ⟨0, text ++ "\n", none⟩

theorem Report.code_ofOutcome {x : Except Failure String} :
    (Report.ofOutcome x).code = 0 ↔ ∃ text, x = .ok text := by
  cases x with
  | ok text => exact ⟨fun _ => ⟨text, rfl⟩, fun _ => rfl⟩
  | error e =>
    unfold Report.ofOutcome
    split <;> simp_all

theorem Report.output_ofOutcome_error (e : Failure) :
    (Report.ofOutcome (.error e)).output = "" := by
  unfold Report.ofOutcome
  split <;> simp_all

theorem Report.ofOutcome_collecting (identifier : String) (e : Error) :
    Report.ofOutcome (.error (.collecting identifier e)) = ⟨1, "", some
      ("doxymark error: failed to collect '" ++ identifier ++ "': " ++ chain e ++ "\n")⟩ := by
  have hmessage : (Failure.collecting identifier e).message =
      "failed to collect '" ++ identifier ++ "': " ++ chain e := rfl
  have hbegin : "doxymark error: failed to collect '" =
      "doxymark error: " ++ "failed to collect '" := by decide
  rw [Report.ofOutcome, hmessage, hbegin]
  · simp only [String.append_assoc]
  · simp

theorem report_alone (hacyclic : AcyclicIndex world invocation xmlDir) {arguments : List String}
    {identifier : String}
    (hparse : CommandLine.parse arguments = .ok (invocation.collecting xmlDir [identifier]))
    (launch : Launcher) :
    (run launch world arguments).2 = .ofOutcome
      ((answer world invocation xmlDir identifier).map fun symbol =>
        symbol.toJson.compact ++ "\n") := by
  rw [report_collecting hacyclic (List.cons_ne_nil _ _) hparse]
  cases h : answer world invocation xmlDir identifier <;> simp [h, List.mapM_cons] <;> rfl

theorem code_alone (hacyclic : AcyclicIndex world invocation xmlDir) {arguments : List String}
    {identifier : String}
    (hparse : CommandLine.parse arguments = .ok (invocation.collecting xmlDir [identifier]))
    (launch : Launcher) :
    (run launch world arguments).2.code = 0 ↔
      ∃ symbol, answer world invocation xmlDir identifier = .ok symbol := by
  rw [report_alone hacyclic hparse, Report.code_ofOutcome, exists_map_eq_ok]

theorem compact_symbolsJson {symbols : List Symbol} (h : 2 ≤ symbols.length) :
    (symbolsJson symbols).compact =
      "[" ++ Text.joinWith "," (symbols.map fun symbol => symbol.toJson.compact) ++ "]" := by
  have harray : symbolsJson symbols = .array (symbols.map Symbol.toJson) := by
    match symbols with
    | _ :: _ :: _ => rfl
  rw [harray, Json.compact_array, List.map_map]
  rfl

theorem reports_alone (hacyclic : AcyclicIndex world invocation xmlDir)
    {identifiers : List String} {alone : String → List String}
    (halone : ∀ identifier ∈ identifiers,
      CommandLine.parse (alone identifier) = .ok (invocation.collecting xmlDir [identifier]))
    {symbols : List Symbol}
    (hsymbols : identifiers.mapM (answer world invocation xmlDir) = .ok symbols)
    (launch : Launcher) :
    identifiers.map (fun identifier => (run launch world (alone identifier)).2) =
      symbols.map fun symbol => Report.line symbol.toJson.compact := by
  calc identifiers.map (fun identifier => (run launch world (alone identifier)).2)
      = (identifiers.map (answer world invocation xmlDir)).map fun x =>
          .ofOutcome (x.map fun symbol => symbol.toJson.compact ++ "\n") := by
        rw [List.map_map]
        exact List.map_congr_left fun identifier hmem =>
          report_alone hacyclic (halone identifier hmem) launch
    _ = symbols.map fun symbol => Report.line symbol.toJson.compact := by
        rw [mapM_eq_ok_iff.mp hsymbols, List.map_map]
        rfl

theorem report_of_mapM_ok (hacyclic : AcyclicIndex world invocation xmlDir)
    {arguments identifiers : List String} (hmany : 2 ≤ identifiers.length)
    (hparse : CommandLine.parse arguments = .ok (invocation.collecting xmlDir identifiers))
    {symbols : List Symbol}
    (hsymbols : identifiers.mapM (answer world invocation xmlDir) = .ok symbols)
    (launch : Launcher) :
    (run launch world arguments).2 = Report.line
      ("[" ++ Text.joinWith "," (symbols.map fun symbol => symbol.toJson.compact) ++ "]") := by
  have hlength : identifiers.length = symbols.length := by
    simpa using congrArg List.length (mapM_eq_ok_iff.mp hsymbols)
  have hne : identifiers ≠ [] := by
    rintro rfl
    simp at hmany
  rw [report_collecting hacyclic hne hparse, hsymbols, ← compact_symbolsJson (hlength ▸ hmany)]
  rfl

theorem report_of_first_error (hacyclic : AcyclicIndex world invocation xmlDir)
    {arguments before after : List String} {identifier : String}
    (hparse : CommandLine.parse arguments =
      .ok (invocation.collecting xmlDir (before ++ identifier :: after)))
    (hbefore : ∀ earlier ∈ before, ∃ symbol,
      answer world invocation xmlDir earlier = .ok symbol)
    {failure : Failure} (hfails : answer world invocation xmlDir identifier = .error failure)
    (launch : Launcher) :
    (run launch world arguments).2 = .ofOutcome (.error failure) := by
  rw [report_collecting hacyclic (by simp) hparse, mapM_of_error hbefore hfails after]
  rfl

/-- Several identifiers together get what each of them gets alone, in an array; if one of them gets
nothing alone, the first such decides. -/
theorem report_together_eq (launch : Launcher)
    (hacyclic : AcyclicIndex world invocation xmlDir) (identifiers : List String)
    (hmany : 2 ≤ identifiers.length) (together : List String)
    (htogether : CommandLine.parse together = .ok (invocation.collecting xmlDir identifiers))
    (alone : String → List String)
    (halone : ∀ identifier ∈ identifiers,
      CommandLine.parse (alone identifier) = .ok (invocation.collecting xmlDir [identifier])) :
    ((∀ identifier ∈ identifiers, (run launch world (alone identifier)).2.code = 0) →
      ∃ symbols : List Symbol,
        identifiers.map (fun identifier => (run launch world (alone identifier)).2) =
            symbols.map (fun symbol => Report.line symbol.toJson.compact) ∧
          (run launch world together).2 = Report.line
            ("[" ++ Text.joinWith "," (symbols.map fun symbol => symbol.toJson.compact) ++ "]")) ∧
      ∀ before identifier after, identifiers = before ++ identifier :: after →
        (∀ earlier ∈ before, (run launch world (alone earlier)).2.code = 0) →
        (run launch world (alone identifier)).2.code ≠ 0 →
        (run launch world together).2 = (run launch world (alone identifier)).2 ∧
          (run launch world together).2.output = "" ∧
          ∀ settings index, loadSettings world invocation = .ok settings →
            openIndex world.files settings xmlDir = .ok index →
            ∃ e, ((index.collect world.files identifier).outcome []).1 = .error e ∧
              (run launch world together).2 = ⟨1, "", some ("doxymark error: failed to collect '" ++
                identifier ++ "': " ++ chain e ++ "\n")⟩ := by
  have hcode : ∀ identifier ∈ identifiers, (run launch world (alone identifier)).2.code = 0 ↔
      ∃ symbol, answer world invocation xmlDir identifier = .ok symbol := fun identifier hmem =>
    code_alone hacyclic (halone identifier hmem) launch
  constructor
  · intro hcodes
    obtain ⟨symbols, hsymbols⟩ := exists_mapM_eq_ok_iff.mpr fun identifier hmem =>
      (hcode identifier hmem).mp (hcodes identifier hmem)
    exact ⟨symbols, reports_alone hacyclic halone hsymbols launch,
      report_of_mapM_ok hacyclic hmany htogether hsymbols launch⟩
  · rintro before identifier after rfl hbefore hfails
    have hmem : identifier ∈ before ++ identifier :: after := by simp
    have hanswered : ∀ earlier ∈ before, ∃ symbol,
        answer world invocation xmlDir earlier = .ok symbol := fun earlier hearlier =>
      (hcode earlier (List.mem_append_left _ hearlier)).mp (hbefore earlier hearlier)
    cases hanswer : answer world invocation xmlDir identifier with
    | ok symbol => exact absurd ((hcode identifier hmem).mpr ⟨symbol, hanswer⟩) hfails
    | error failure =>
      rw [report_of_first_error hacyclic htogether hanswered hanswer,
        report_alone hacyclic (halone identifier hmem), hanswer]
      refine ⟨rfl, Report.output_ofOutcome_error failure, ?_⟩
      intro settings index hsettings hindex
      rw [answer_of_open hsettings hindex] at hanswer
      obtain ⟨e, he, rfl⟩ := symbolOf_eq_error _ _ _ hanswer
      exact ⟨e, he, Report.ofOutcome_collecting identifier e⟩

end Request

def unionIndexText : String :=
  "<i><compound refid='b'><name>B</name></compound></i>"

def unionText : String :=
  "<d><compounddef kind='union'><compoundname>B</compoundname>" ++
    "<innerclass refid='c'/></compounddef></d>"

def innerUnionText : String :=
  "<d><compounddef kind='union'><compoundname>C</compoundname></compounddef></d>"

def unionWorld : World where
  files := ⟨[(["x"], .directory), (["x", "b.xml"], .file unionText.toUTF8 false),
    (["x", "c.xml"], .file innerUnionText.toUTF8 false),
    (["x", "index.xml"], .file unionIndexText.toUTF8 false)], []⟩
  environment := []

def unionInvocation : Invocation :=
  ⟨.list none, false, false, none⟩

def unionRequest (identifiers : List String) : List String :=
  ["collect", "--xml-dir=/x"] ++ identifiers

def unionTree (name : String) (inner : List Xml.Element) : Xml.Element :=
  .mk "d" [] "" [.mk "compounddef" [("kind", "union")] ""
    (.mk "compoundname" [] name [] "" :: inner) ""] ""

theorem parse_innerUnionText : Xml.parseDocument innerUnionText = .ok (unionTree "C" []) := by
  rfl

theorem innerPool_unionWorld : Index.innerPool unionWorld.files [] = ["c"] := by
  have hindex : Xml.parseDocument unionIndexText = .ok (.mk "i" [] "" [.mk "compound"
      [("refid", "b")] "" [.mk "name" [] "B" [] ""] ""] "") := by
    rfl
  have houter : Xml.parseDocument unionText =
      .ok (unionTree "B" [.mk "innerclass" [("refid", "c")] "" [] ""]) := by
    rfl
  simp only [Index.innerPool, unionWorld, List.flatMap_cons, List.flatMap_nil,
    Entry.document?_file, hindex, houter, parse_innerUnionText]
  rfl

theorem acyclicIndex_unionWorld : AcyclicIndex unionWorld unionInvocation (some "/x") := by
  intro settings index _ hindex
  obtain ⟨root, -, hroot⟩ := bind_eq_ok.mp (mapError_eq_ok.mp hindex)
  obtain rfl := Except.ok.inj hroot
  refine Documents.acyclic_of_rank (fun refid => if refid = "c" then 0 else 1) ?_
  rintro outer inner ⟨document, hdocument, hmem⟩
  have hseen := (congrFun (Index.over_nil _) outer).trans hdocument
  have hpool := Index.innerRefids_subset_innerPool hseen hmem
  rw [innerPool_unionWorld, List.mem_singleton] at hpool
  subst hpool
  by_cases houter : outer = "c"
  · subst houter
    have hinner : readDocument unionWorld.files (Path.join "/x" ("c" ++ ".xml")) =
        .ok (unionTree "C" []) := readDocument_eq_ok innerUnionText (by rfl) parse_innerUnionText
    obtain rfl := Except.ok.inj (hinner.symm.trans hdocument)
    cases hmem
  · simp [houter]

theorem report_together_unionWorld :
    AcyclicIndex unionWorld unionInvocation (some "/x") ∧
      (∃ symbols : List Symbol,
        ["B", "B"].map (fun identifier =>
            (run Launcher.scripts unionWorld (unionRequest [identifier])).2) =
          symbols.map (fun symbol => Report.line symbol.toJson.compact) ∧
        (run Launcher.scripts unionWorld (unionRequest ["B", "B"])).2 = Report.line
          ("[" ++ Text.joinWith "," (symbols.map fun symbol => symbol.toJson.compact) ++ "]")) ∧
      (run Launcher.scripts unionWorld (unionRequest ["B", "X", "Y"])).2 =
        ⟨1, "", some "doxymark error: failed to collect 'X': Unknown identifier 'X'\n"⟩ := by
  have hunion : (run Launcher.scripts unionWorld (unionRequest ["B"])).2.code = 0 := by
    decide +kernel
  have hunknown : (run Launcher.scripts unionWorld (unionRequest ["X"])).2 =
      ⟨1, "", some "doxymark error: failed to collect 'X': Unknown identifier 'X'\n"⟩ := by
    decide +kernel
  have hboth := report_together_eq Launcher.scripts acyclicIndex_unionWorld ["B", "B"] (by decide)
    (unionRequest ["B", "B"]) (by decide) (fun identifier => unionRequest [identifier]) (by decide)
  have hfails := report_together_eq Launcher.scripts acyclicIndex_unionWorld ["B", "X", "Y"]
    (by decide) (unionRequest ["B", "X", "Y"]) (by decide)
    (fun identifier => unionRequest [identifier]) (by decide)
  refine ⟨acyclicIndex_unionWorld, hboth.1 (by simpa using hunion), ?_⟩
  obtain ⟨hsame, -⟩ := hfails.2 ["B"] "X" ["Y"] rfl (by simpa using hunion) (by simp [hunknown])
  rw [hsame, hunknown]

end App

end SymbolDocs
