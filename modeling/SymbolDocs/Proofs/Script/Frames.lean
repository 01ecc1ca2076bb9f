import SymbolDocs.Script.Run
import Mathlib.Data.List.Basic

namespace SymbolDocs.Script

open Text (Octets)

namespace Act

variable {α β : Type} (s : Shell)

theorem run_bind (x : Act α) (f : α → Act β) : (x >>= f) s =
    match x s with
    | (.ok a, t) => f a t
    | (.error e, t) => (.error e, t) := by
  have step : (x >>= f) s = ExceptT.bindCont f (x s).1 (x s).2 := rfl
  rw [step]
  obtain ⟨a | a, t⟩ := x s <;> rfl

theorem run_get : (get : Act Shell) s = (.ok s, s) := rfl

theorem run_set (t : Shell) : (set t : Act PUnit) s = (.ok ⟨⟩, t) := rfl

theorem run_modify (f : Shell → Shell) : (modify f : Act PUnit) s = (.ok ⟨⟩, f s) := rfl

theorem run_observe (x : Act α) : observe x s = (.ok (x s).1, (x s).2) := rfl

end Act

open Act

/-- Nothing of the shell itself has changed: its variables, functions, channels and so on, and the
directory that it is in. -/
structure KeepsShell (s t : Shell) : Prop where
  cwd : t.files.cwd = s.files.cwd
  eq : t = { s with
    files := t.files
    streams := t.streams
    documents := t.documents
    status := t.status
    killer := t.killer }

/-- What belongs to the call of a function is as it was. -/
structure Returned (s t : Shell) : Prop where
  arguments : t.arguments = s.arguments
  loops : t.loops = s.loops
  frames : t.frames = s.frames
  optionOffset : t.optionOffset = s.optionOffset

namespace KeepsShell

theorem refl (s : Shell) : KeepsShell s s := ⟨rfl, rfl⟩

theorem trans {s t u : Shell} (h : KeepsShell s t) (h' : KeepsShell t u) : KeepsShell s u := by
  refine ⟨h'.cwd.trans h.cwd, ?_⟩
  have eq := h'.eq
  rw [h.eq] at eq
  exact eq

theorem bind {α β : Type} {x : Act α} {f : α → Act β} {s : Shell} (first : KeepsShell s (x s).2)
    (rest : ∀ a t, KeepsShell t (f a t).2) : KeepsShell s ((x >>= f) s).2 := by
  rw [run_bind]
  cases h : x s with
  | mk result t =>
    rw [h] at first
    cases result with
    | error e => exact first
    | ok a => exact first.trans (rest a t)

theorem returned {s t : Shell} (h : KeepsShell s t) : Returned s t := by
  rw [h.eq]
  exact ⟨rfl, rfl, rfl, rfl⟩

theorem observe {α : Type} {x : Act α} {s : Shell} (h : KeepsShell s (x s).2) :
    KeepsShell s (observe x s).2 := h

end KeepsShell

section

variable (s : Shell)

theorem keepsShell_setStatus (status : Nat) : KeepsShell s (setStatus status s).2 := ⟨rfl, rfl⟩

theorem keepsShell_writeStream (number : Nat) (text : Octets) :
    KeepsShell s (writeStream number text s).2 := by
  simp only [writeStream, run_bind, run_get]
  cases s.streams[number]? with
  | none => exact .refl s
  | some stream =>
    cases stream with
    | nowhere | source => exact .refl s
    | sink pieces size =>
      simp only [run_bind, run_set]
      split <;> exact ⟨rfl, rfl⟩
    | file place position isAppended =>
      dsimp only
      rcases s.files.entry? place with _ | _ | _
      · exact .refl s
      · exact .refl s
      · exact ⟨rfl, rfl⟩

theorem keepsShell_write (channel : Nat) (text : Octets) :
    KeepsShell s (write channel text s).2 := by
  unfold write
  split
  · exact .refl s
  · simp only [run_bind, run_get]
    cases s.stream? channel with
    | none => exact .refl s
    | some number => exact keepsShell_writeStream s number text

theorem keepsShell_warn (message : Octets) : KeepsShell s (warn message s).2 :=
  keepsShell_write s 2 _

theorem exists_abort_eq {α : Type} (message : Octets) :
    ∃ e t, (abort message : Act α) s = (.error e, t) ∧ KeepsShell s t := by
  have keeps := keepsShell_warn s message
  simp only [abort, run_bind]
  cases h : warn message s with
  | mk result t =>
    rw [h] at keeps
    cases result with
    | error e => exact ⟨e, t, rfl, keeps⟩
    | ok => exact ⟨.fails, _, rfl, keeps.trans (keepsShell_setStatus t 2)⟩

end

section

variable (run : Runner) (s : Shell)

theorem exists_inCopy_eq (input : Option Octets) (isCaptured : Bool) (act : Act Unit) :
    ∃ inner, (inCopy run input isCaptured act s).2 = s.afterCopy inner := by
  simp only [inCopy, run_bind, run_get, run_set, run_modify, run_observe]
  generalize (atEnd run _).2 = inner
  refine ⟨inner, ?_⟩
  split <;> rfl

theorem keepsShell_inCopy (input : Option Octets) (isCaptured : Bool) (act : Act Unit) :
    KeepsShell s (inCopy run input isCaptured act s).2 := by
  obtain ⟨inner, eq⟩ := exists_inCopy_eq run s input isCaptured act
  rw [eq]
  exact ⟨rfl, rfl⟩

theorem keepsShell_runStages (input : Option Octets) (stages : List Command) :
    KeepsShell s (runStages run input stages s).2 := by
  induction stages generalizing input s with
  | nil => exact .refl s
  | cons stage stages ih =>
    cases stages with
    | nil => exact (keepsShell_inCopy run s input false (run stage)).bind fun _ => .refl
    | cons next stages =>
      exact (keepsShell_inCopy run s input true (run stage)).bind fun text t => ih t (some text)

theorem keepsShell_mindFailure : KeepsShell s (mindFailure s).2 := by
  simp only [mindFailure, run_bind, run_get]
  split <;> exact .refl s

theorem keepsShell_pipeline (stages : List Command) :
    KeepsShell s (runCommand run (.pipeline stages) s).2 :=
  (keepsShell_runStages run s none stages).bind fun _ => keepsShell_mindFailure

theorem keepsShell_startShell (name : Octets) (args : List Octets) :
    KeepsShell s (startShell run name args s).2 :=
  (keepsShell_inCopy run s none false _).observe.bind fun _ => .refl

theorem keepsShell_runRunner (start : Start) (tool : String) (args : List Octets) :
    KeepsShell s (runRunner run start tool args s).2 :=
  (keepsShell_inCopy run s none false _).observe.bind fun _ => .refl

theorem returned_callFunction (body : Command) (arguments : List Octets) :
    Returned s (callFunction run body arguments s).2 := by
  simp only [callFunction, run_bind, run_get]
  split
  · obtain ⟨e, t, eq, keeps⟩ := exists_abort_eq (α := PUnit) s (Octets.ofText
      s!"Maximum function recursion depth ({maxCalls}) reached")
    rw [run_bind, abortWith, eq]
    exact keeps.returned
  · simp only [run_bind, run_set, run_observe, run_modify]
    generalize run body _ = ended
    obtain ⟨(_ | _ | _ | _ | _) | _, t⟩ := ended <;> exact ⟨rfl, rfl, rfl, rfl⟩

end

namespace Shell

variable (s : Shell) (c d : Nat)

theorem stream?_closeChannel :
    (s.closeChannel c).stream? d = if d = c then none else s.stream? d := by
  simp only [stream?, closeChannel, List.find?_filter]
  split
  · next same =>
    subst same
    simp
  · next other =>
    congr 2
    funext e
    by_cases h : e.1 = d <;> simp [h, other]

theorem stream?_setChannel (number : Nat) :
    (s.setChannel c number).stream? d = if d = c then some number else s.stream? d := by
  have closed := stream?_closeChannel s c d
  simp only [stream?, closeChannel] at closed
  simp only [stream?, setChannel, List.find?_cons]
  by_cases h : d = c
  · simp [h]
  · have other : (c == d) = false := by simpa using Ne.symm h
    simp only [other, closed, h, if_false]

/-- What has been saved of a channel is what it is given back. -/
theorem stream?_restored (t : Shell) (os : List Opening) :
    (t.restored (s.saved os)).stream? d =
      if d ∈ os.map Opening.channel then s.stream? d else t.stream? d := by
  induction os generalizing t with
  | nil => rfl
  | cons o os ih =>
    have opened : s.saved (o :: os) = (o.channel, s.stream? o.channel) :: s.saved os := rfl
    rw [opened]
    cases h : s.stream? o.channel with
    | none =>
      have step : t.restored ((o.channel, none) :: s.saved os) =
          (t.closeChannel o.channel).restored (s.saved os) := rfl
      rw [step, ih, stream?_closeChannel]
      by_cases here : d = o.channel <;> simp [here, h]
    | some n =>
      have step : t.restored ((o.channel, some n) :: s.saved os) =
          (t.setChannel o.channel n).restored (s.saved os) := rfl
      rw [step, ih, stream?_setChannel]
      by_cases here : d = o.channel <;> simp [here, h]

end Shell

theorem stream?_redirecting {os : List Opening} {failed act : Act Unit} {s : Shell} {c : Nat}
    (keeps : ∀ t, (failed t).2.stream? c = t.stream? c) (mem : c ∈ os.map Opening.channel) :
    (redirecting os failed act s).2.stream? c = s.stream? c := by
  have given (t : Shell) : (t.restored (s.saved os)).stream? c = s.stream? c := by
    rw [Shell.stream?_restored, if_pos mem]
  simp only [redirecting, run_bind, run_get, run_observe]
  cases (os.forM Opening.apply s).1 with
  | error e =>
    change (failed _).2.stream? c = _
    rw [keeps, given]
  | ok =>
    simp only [run_bind, run_observe, run_modify]
    cases (act (os.forM Opening.apply s).2).1 with
    | error e => exact given _
    | ok => exact given _

end SymbolDocs.Script
