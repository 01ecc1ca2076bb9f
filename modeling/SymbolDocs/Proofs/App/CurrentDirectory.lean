import SymbolDocs.App
import SymbolDocs.Program.Launcher
import SymbolDocs.Proofs.Outcome

namespace SymbolDocs

namespace FileSystem

variable {fs fs' : FileSystem} {path : String}

theorem cwd_makeDirectory (h : fs.makeDirectory path = .ok fs') : fs'.cwd = fs.cwd := by
  obtain ⟨there, -, h⟩ := bind_eq_ok.mp h
  split at h
  · simp at h
  · split at h
    · exact Except.ok.inj h ▸ rfl
    · simp at h
    · simp at h

theorem cwd_ensureDirectory (h : fs.ensureDirectory path = .ok fs') : fs'.cwd = fs.cwd := by
  unfold ensureDirectory at h
  split at h
  · next made =>
    obtain rfl := Except.ok.inj h
    exact cwd_makeDirectory made
  · split at h
    · exact Except.ok.inj h ▸ rfl
    · simp at h

theorem cwd_makeWithParents {outer : List String} (h : fs.makeWithParents path outer = .ok fs') :
    fs'.cwd = fs.cwd := by
  induction outer generalizing path fs' with
  | nil => exact cwd_ensureDirectory h
  | cons parent outer ih =>
    unfold makeWithParents at h
    split at h
    · obtain ⟨between, made, h⟩ := bind_eq_ok.mp h
      rw [cwd_ensureDirectory h, ih made]
    · exact cwd_ensureDirectory h

theorem cwd_makeDirectories (h : fs.makeDirectories path = .ok fs') : fs'.cwd = fs.cwd := by
  unfold makeDirectories at h
  split at h
  · exact Except.ok.inj h ▸ rfl
  · exact cwd_makeWithParents h

end FileSystem

/-- What programs do to the files leaves the one who launches them where it is. -/
def Launcher.KeepsDirectory (launch : Launcher) : Prop :=
  ∀ env fs request outcome, launch env fs request = .ok outcome → outcome.files.cwd = fs.cwd

theorem Launcher.keepsDirectory_scripts : scripts.KeepsDirectory := by
  intro env fs request outcome h
  unfold scripts at h
  split at h
  · simp at h
  · obtain ⟨there, -, h⟩ := bind_eq_ok.mp h
    obtain ⟨entry, -, h⟩ := bind_eq_ok.mp h
    split at h
    · simp at h
    · split at h
      · simp at h
      · obtain ⟨found, -, h⟩ := bind_eq_ok.mp h
        obtain ⟨s, -, h⟩ := bind_eq_ok.mp h
        exact Except.ok.inj h ▸ rfl

namespace Extraction

variable {α β : Type}

def Stays (job : Job α) : Prop := ∀ fs, (job.run.run fs).2.cwd = fs.cwd

theorem stays_bind {x : Job α} {f : α → Job β} (first : Stays x) (rest : ∀ a, Stays (f a)) :
    Stays (x >>= f) := by
  intro fs
  have here := first fs
  rcases h : x.run.run fs with ⟨e | a, fs'⟩
  · rw [run_bind_error h]
    rwa [h] at here
  · rw [run_bind_ok h, rest a fs']
    rwa [h] at here

theorem run_get_bind (f : FileSystem → Job α) (fs : FileSystem) :
    (get >>= f).run.run fs = (f fs).run.run fs := rfl

theorem run_set_bind (fs fs' : FileSystem) (f : PUnit → Job α) :
    (set fs' >>= f).run.run fs = (f ⟨⟩).run.run fs' := rfl

theorem stays_get : Stays (get : Job FileSystem) := fun _ => rfl

theorem stays_throw (e : Error) : Stays (throw e : Job α) := fun _ => rfl

theorem stays_ofExcept (x : Except Error α) : Stays (MonadExcept.ofExcept x : Job α) := by
  cases x <;> exact fun _ => rfl

theorem stays_change {step : FileSystem → Except OsError FileSystem}
    (stays : ∀ fs fs', step fs = .ok fs' → fs'.cwd = fs.cwd) : Stays (change step) := by
  intro fs
  unfold change
  rw [run_get_bind]
  cases h : step fs with
  | error cause => rfl
  | ok fs' => exact stays fs fs' h

theorem stays_complete {launch : Launcher} (keeps : launch.KeepsDirectory) (env : Environment)
    (request : Launch) : Stays (complete launch env request) := by
  intro fs
  unfold complete
  rw [run_get_bind]
  cases h : launch env fs request with
  | error cause => rfl
  | ok outcome =>
    dsimp only
    rw [run_set_bind, ← keeps env fs request outcome h]
    split <;> rfl

theorem stays_run {launch : Launcher} (keeps : launch.KeepsDirectory) (env : Environment)
    (s : ExtractionSettings) : Stays (run launch env s) := by
  refine stays_bind (stays_change fun _ _ => FileSystem.cwd_makeDirectories) fun _ => ?_
  refine stays_bind stays_get fun fs => ?_
  split
  · exact stays_throw _
  · exact stays_bind (stays_complete keeps env _) fun _ =>
      stays_bind stays_get fun _ => stays_ofExcept _

end Extraction

namespace App

variable {launch : Launcher}

theorem cwd_perform (keeps : launch.KeepsDirectory) (world : World) (invocation : Invocation) :
    (perform launch world invocation).1.cwd = world.files.cwd := by
  unfold perform
  split
  · rfl
  · split
    · unfold extract
      dsimp only
      split
      · rfl
      · exact Extraction.stays_run keeps _ _ _
    · rfl
    · rfl

theorem cwd_run (keeps : launch.KeepsDirectory) (world : World) (arguments : List String) :
    (run launch world arguments).1.cwd = world.files.cwd := by
  unfold run
  split
  · rfl
  · exact cwd_perform keeps world _

end App

end SymbolDocs
