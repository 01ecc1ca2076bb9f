import SymbolDocs.Files.FileSystem
import SymbolDocs.Proofs.Outcome
import SymbolDocs.Proofs.Text.Cut

namespace SymbolDocs.Path

open Text (splitOn joinWith)

def enter (here : List String) (name : String) : List String :=
  if name = ".." then here.dropLast else here ++ [name]

def place (here : List String) (path : String) : List String :=
  (names path).foldl enter (if isAbsolute path then [] else here)

structure IsName (name : String) : Prop where
  ne_empty : name ≠ ""
  ne_dot : name ≠ "."
  noSlash : '/' ∉ name.toList

theorem isName_of_mem_names {path name : String} (h : name ∈ names path) : IsName name := by
  obtain ⟨hmem, hkept⟩ := List.mem_filter.mp h
  obtain ⟨piece, hpiece, rfl⟩ := List.mem_map.mp hmem
  simp only [Bool.and_eq_true, bne_iff_ne, ne_eq] at hkept
  refine ⟨hkept.1, hkept.2, ?_⟩
  rw [String.toList_ofList]
  exact Text.not_mem_of_mem_splitOn hpiece

theorem names_of_isName {name : String} (h : IsName name) : names name = [name] := by
  rw [names, pieces, Text.splitOn_of_not_mem h.noSlash]
  simp [h.ne_empty, h.ne_dot]

theorem names_empty : names "" = [] := by decide

theorem names_append_slash (a b : String) : names (a ++ "/" ++ b) = names a ++ names b := by
  have hsplit : splitOn '/' (a ++ "/" ++ b).toList = splitOn '/' a.toList ++ splitOn '/' b.toList := by
    rw [String.toList_append, String.toList_append, List.append_assoc]
    exact Text.splitOn_append_cons '/' a.toList b.toList
  simp only [names, pieces, hsplit, List.map_append, List.filter_append]

theorem names_slash_append (path : String) : names ("/" ++ path) = names path := by
  have h := names_append_slash "" path
  rwa [String.empty_append, names_empty, List.nil_append] at h

theorem names_append_endSlash (path : String) : names (path ++ "/") = names path := by
  have h := names_append_slash path ""
  rwa [String.append_empty, names_empty, List.append_nil] at h

theorem names_joinWith {ns : List String} (h : ∀ n ∈ ns, IsName n) :
    names (joinWith "/" ns) = ns := by
  induction ns with
  | nil => exact names_empty
  | cons n ns ih =>
    rw [List.forall_mem_cons] at h
    by_cases hns : ns = []
    · rw [hns, joinWith]
      exact names_of_isName h.1
    · rw [Text.joinWith_cons hns, names_append_slash, names_of_isName h.1, ih h.2]
      rfl

theorem root_cases (path : String) : root path = "/" ∨ root path = "//" := by
  rw [root]
  split
  · exact .inl rfl
  · exact .inr rfl
  · exact .inl rfl

theorem names_root_append {start : String} (h : start = "/" ∨ start = "//") (path : String) :
    isAbsolute (start ++ path) = true ∧ names (start ++ path) = names path := by
  rcases h with rfl | rfl
  · refine ⟨?_, names_slash_append path⟩
    rw [isAbsolute, String.toList_append]
    rfl
  · have htwo : "//" ++ path = "/" ++ ("/" ++ path) := by
      rw [← String.append_assoc]
      rfl
    constructor
    · rw [isAbsolute, String.toList_append]
      rfl
    · rw [htwo, names_slash_append, names_slash_append]

theorem names_endSlash {whole : String} (h : isAbsolute whole = true) (ending : Bool) :
    isAbsolute (if ending then whole ++ "/" else whole) = true ∧
      names (if ending then whole ++ "/" else whole) = names whole := by
  cases ending with
  | false => exact ⟨h, rfl⟩
  | true =>
    refine ⟨?_, names_append_endSlash whole⟩
    have hhead : whole.toList.head? = some '/' := by simpa [isAbsolute] using h
    simp [isAbsolute, List.head?_append, hhead]

theorem names_absolute {cwd : List String} (hcwd : ∀ n ∈ cwd, IsName n) {path whole : String}
    (h : absolute cwd path = .ok whole) :
    isAbsolute whole = true ∧
      names whole = if isAbsolute path then names path else cwd ++ names path := by
  have hnames : ∀ n ∈ if isAbsolute path then names path else cwd ++ names path, IsName n := by
    intro n hn
    split at hn
    · exact isName_of_mem_names hn
    · rcases List.mem_append.mp hn with hn | hn
      · exact hcwd n hn
      · exact isName_of_mem_names hn
  have hstart : (if isAbsolute path then root path else "/") = "/" ∨
      (if isAbsolute path then root path else "/") = "//" := by
    split
    · exact root_cases path
    · exact .inl rfl
  rw [absolute] at h
  split at h
  · cases h
  · obtain rfl := Except.ok.inj h
    obtain ⟨habsolute, hjoined⟩ := names_root_append hstart
      (joinWith "/" (if isAbsolute path then names path else cwd ++ names path))
    rw [names_joinWith hnames] at hjoined
    obtain ⟨hwhole, hsame⟩ := names_endSlash habsolute _
    exact ⟨hwhole, hsame.trans hjoined⟩

theorem place_absolute {cwd path whole : String} (h : absolute (names cwd) path = .ok whole)
    (there : List String) : place there whole = place (place [] cwd) path := by
  have hcwd : ∀ n ∈ names cwd, IsName n := fun n hn => isName_of_mem_names hn
  obtain ⟨habsolute, hnames⟩ := names_absolute hcwd h
  have hhere : place [] cwd = (names cwd).foldl enter [] := by
    rw [place]
    split <;> rfl
  rw [place, habsolute, if_pos rfl, hnames, hhere, place]
  by_cases hpath : isAbsolute path = true
  · rw [if_pos hpath, if_pos hpath]
  · rw [if_neg hpath, if_neg hpath, List.foldl_append]

structure Route where
  up : Nat := 0
  down : List String := []

def Route.enter (r : Route) (name : String) : Route :=
  if name = ".." then
    if r.down = [] then { r with up := r.up + 1 } else { r with down := r.down.dropLast }
  else { r with down := r.down ++ [name] }

def Route.lead (r : Route) (here : List String) : List String :=
  here.take (here.length - r.up) ++ r.down

def route (path : String) : Route :=
  (names path).foldl Route.enter {}

theorem Route.lead_enter (r : Route) (name : String) (here : List String) :
    (r.enter name).lead here = Path.enter (r.lead here) name := by
  rw [Route.enter, Path.enter]
  by_cases hup : name = ".."
  · rw [if_pos hup, if_pos hup]
    by_cases hdown : r.down = []
    · have hmin : min (min (here.length - r.up) here.length - 1) (here.length - r.up) =
          here.length - (r.up + 1) := by omega
      simp only [hdown, if_true, Route.lead, List.append_nil, List.dropLast_eq_take,
        List.length_take, List.take_take, hmin]
    · rw [if_neg hdown]
      exact (List.dropLast_append_of_ne_nil hdown).symm
  · rw [if_neg hup, if_neg hup, Route.lead, Route.lead, List.append_assoc]

theorem place_eq_lead {path : String} (h : isAbsolute path = false) (here : List String) :
    place here path = (route path).lead here := by
  have hfold (ns : List String) (r : Route) :
      (ns.foldl Route.enter r).lead here = ns.foldl Path.enter (r.lead here) := by
    induction ns generalizing r with
    | nil => rfl
    | cons n ns ih => rw [List.foldl_cons, ih, Route.lead_enter, List.foldl_cons]
  have hnone : Route.lead {} here = here := by simp [Route.lead]
  rw [place, h, route, hfold, hnone]
  rfl

theorem Route.lead_lead_eq_iff (r : Route) (here : List String) :
    r.lead (r.lead here) = r.lead here ↔
      r.down.length = r.up ∨ here.length ≤ r.up ∧ r.down.length ≤ r.up := by
  have hlength : (r.lead here).length = here.length - r.up + r.down.length := by
    simp [Route.lead]
  rw [Route.lead, hlength]
  constructor
  · intro h
    have hlengths := congrArg List.length h
    simp only [List.length_append, List.length_take, hlength] at hlengths
    omega
  · intro h
    have hback : here.length - r.up + r.down.length - r.up =
        (here.take (here.length - r.up)).length := by
      rw [List.length_take]
      omega
    rw [hback, Route.lead, List.take_left]

/-- A path leads back to the place it has led to if it leads from the root, down as far as up, or up to
the root and not further down. -/
theorem place_place_eq_iff (here : List String) (path : String) :
    place (place here path) path = place here path ↔
      isAbsolute path = true ∨ (route path).down.length = (route path).up ∨
        here.length ≤ (route path).up ∧ (route path).down.length ≤ (route path).up := by
  cases h : isAbsolute path with
  | true => simp [place, h]
  | false => simp [place_eq_lead h, Route.lead_lead_eq_iff]

end SymbolDocs.Path

namespace SymbolDocs.FileSystem

theorem follow_eq_foldl {fs : FileSystem} {here there pieces : List String}
    (h : fs.follow here pieces = .ok there) :
    there = (pieces.filter fun p => p != "" && p != ".").foldl Path.enter here := by
  induction pieces generalizing here with
  | nil => exact (Except.ok.inj h).symm
  | cons piece pieces ih =>
    rw [follow] at h
    split at h
    · cases h
    · cases h
    · split at h
      · next hstays =>
        rw [List.filter_cons_of_neg (by simpa [or_iff_not_imp_left] using hstays)]
        exact ih h
      · next hstays =>
        rw [List.filter_cons_of_pos (by simpa using hstays), List.foldl_cons, Path.enter]
        split at h
        · next hup =>
          rw [if_pos hup]
          exact ih h
        · next hup =>
          rw [if_neg hup]
          split at h
          · cases h
          · exact ih h

theorem eq_place_of_locate {fs : FileSystem} {path : String} {there : List String}
    (h : fs.locate path = .ok there) : there = Path.place fs.cwd path := by
  rw [locate] at h
  split at h
  · cases h
  · split at h
    · cases h
    · split at h
      · cases h
      · exact follow_eq_foldl h

end SymbolDocs.FileSystem
