import Mathlib.Data.List.Chain
import SymbolDocs.Description.Compose

namespace SymbolDocs.Description

def joins : Description → Description → Bool
  | text _, text _ => true
  | list (some s) _, list (some t) _ => s == t
  | _, _ => false

def Apart (d e : Description) : Prop :=
  joins d e = false

instance (d e : Description) : Decidable (Apart d e) :=
  inferInstanceAs (Decidable (_ = _))

theorem fuse?_eq_none_iff (d e : Description) : fuse? d e = none ↔ Apart d e := by
  unfold Apart
  fun_cases fuse? d e <;> simp_all [joins]

theorem fuse?_eq_some {d e f : Description} (h : fuse? d e = some f) :
    (∃ s t, d = text s ∧ e = text t ∧ f = text (s ++ " " ++ t)) ∨
      ∃ title xs ys, d = list (some title) xs ∧ e = list (some title) ys ∧
        f = list (some title) (xs ++ ys) := by
  revert h
  fun_cases fuse? d e with
  | case1 s t =>
    intro h
    exact .inl ⟨s, t, rfl, rfl, (Option.some.inj h).symm⟩
  | case2 xs title ys =>
    intro h
    exact .inr ⟨title, xs, ys, rfl, rfl, (Option.some.inj h).symm⟩
  | case3 s t xs ys hne => simp
  | case4 => simp

theorem joins_fused_right {d e f : Description} (h : fuse? d e = some f) (a : Description) :
    joins a f = joins a d := by
  rcases fuse?_eq_some h with ⟨s, t, rfl, rfl, rfl⟩ | ⟨title, xs, ys, rfl, rfl, rfl⟩
  · cases a with
    | list title zs => cases title <;> rfl
    | _ => rfl
  · cases a with
    | list title' zs => cases title' <;> rfl
    | _ => rfl

theorem push_concat (ds : List Description) (last next : Description) :
    push (ds ++ [last]) next = ds ++ push [last] next := by
  induction ds with
  | nil => rfl
  | cons d ds ih =>
    cases ds with
    | nil => rfl
    | cons e ds => exact congrArg (d :: ·) ih

theorem push_of_fuse {last next fused : Description} (h : fuse? last next = some fused)
    (ds : List Description) : push (ds ++ [last]) next = ds ++ [fused] := by
  rw [push_concat, push, h]

theorem push_of_apart {last next : Description} (h : Apart last next) (ds : List Description) :
    push (ds ++ [last]) next = ds ++ [last, next] := by
  rw [push_concat, push, (fuse?_eq_none_iff last next).mpr h]

theorem push_cases (ds : List Description) (next : Description) :
    ((∀ last, ds.getLast? = some last → Apart last next) ∧ push ds next = ds ++ [next]) ∨
      ∃ init last fused, ds = init ++ [last] ∧ fuse? last next = some fused ∧
        push ds next = init ++ [fused] := by
  rcases List.eq_nil_or_concat' ds with rfl | ⟨init, last, rfl⟩
  · exact .inl ⟨by simp, rfl⟩
  · cases hf : fuse? last next with
    | some fused => exact .inr ⟨init, last, fused, rfl, hf, push_of_fuse hf init⟩
    | none =>
      have ha := (fuse?_eq_none_iff last next).mp hf
      refine .inl ⟨?_, by rw [push_of_apart ha, List.append_assoc]; rfl⟩
      intro d hd
      rw [List.getLast?_concat, Option.some_inj] at hd
      exact hd ▸ ha

theorem push_push_of_fuse {d e f : Description} (h : fuse? d e = some f) (ds : List Description) :
    push (push ds d) e = push ds f := by
  rcases push_cases ds d with ⟨ha, hp⟩ | ⟨init, last, g, rfl, hg, hp⟩
  · rw [hp, push_of_fuse h]
    rcases List.eq_nil_or_concat' ds with rfl | ⟨init, last, rfl⟩
    · rfl
    · have hlast : Apart last f := by
        rw [Apart, joins_fused_right h]
        exact ha last List.getLast?_concat
      rw [push_of_apart hlast, List.append_assoc]
      rfl
  · -- Three in a row belong together, and joining them is associative.
    rw [hp]
    rcases fuse?_eq_some h with ⟨s, t, rfl, rfl, rfl⟩ | ⟨title, xs, ys, rfl, rfl, rfl⟩
    · rcases fuse?_eq_some hg with ⟨r, _, rfl, ⟨⟩, rfl⟩ | ⟨_, _, _, _, ⟨⟩, _⟩
      rw [push_of_fuse rfl, push_of_fuse rfl]
      simp only [String.append_assoc]
    · rcases fuse?_eq_some hg with ⟨_, _, _, ⟨⟩, _⟩ | ⟨_, zs, _, rfl, ⟨⟩, rfl⟩
      have hfuse (as bs : List Description) : fuse? (list (some title) as) (list (some title) bs) =
          some (list (some title) (as ++ bs)) := if_pos rfl
      rw [push_of_fuse (hfuse _ _), push_of_fuse (hfuse _ _), List.append_assoc]

theorem isChain_push {ds : List Description} (h : ds.IsChain Apart) (next : Description) :
    (push ds next).IsChain Apart := by
  rcases push_cases ds next with ⟨ha, hp⟩ | ⟨init, last, fused, rfl, hf, hp⟩
  · rw [hp]
    refine h.append (List.isChain_singleton next) ?_
    intro d hd e he
    rw [List.head?_singleton, Option.mem_some_iff] at he
    exact he ▸ ha d hd
  · rw [hp, List.isChain_append]
    obtain ⟨hinit, -, hlast⟩ := List.isChain_append.mp h
    refine ⟨hinit, List.isChain_singleton fused, ?_⟩
    intro d hd e he
    rw [List.head?_singleton, Option.mem_some_iff] at he
    rw [← he, Apart, joins_fused_right hf]
    exact hlast d hd last rfl

theorem forall_mem_push {P : Description → Prop} {ds : List Description} {next : Description}
    (hfuse : ∀ d e f, P d → P e → fuse? d e = some f → P f) (hds : ∀ d ∈ ds, P d) (hn : P next) :
    ∀ d ∈ push ds next, P d := by
  rcases push_cases ds next with ⟨-, hp⟩ | ⟨init, last, fused, rfl, hf, hp⟩
  · rw [hp]
    exact List.forall_mem_append.mpr ⟨hds, List.forall_mem_singleton.mpr hn⟩
  · rw [hp]
    obtain ⟨hinit, hlast⟩ := List.forall_mem_append.mp hds
    have hfused := hfuse last next fused (List.forall_mem_singleton.mp hlast) hn hf
    exact List.forall_mem_append.mpr ⟨hinit, List.forall_mem_singleton.mpr hfused⟩

theorem merge_eq_push {d : Description} (h : tidy d = some d) (ds : List Description) :
    merge ds d = push ds d := by
  rw [merge, h]

theorem isChain_merge {ds : List Description} (h : ds.IsChain Apart) (next : Description) :
    (merge ds next).IsChain Apart := by
  unfold merge
  split
  · exact h
  · exact isChain_push h _

theorem forall_mem_merge {P : Description → Prop} {ds : List Description} {next : Description}
    (hfuse : ∀ d e f, P d → P e → fuse? d e = some f → P f) (hds : ∀ d ∈ ds, P d)
    (hn : ∀ d, tidy next = some d → P d) : ∀ d ∈ merge ds next, P d := by
  unfold merge
  split
  · exact hds
  · next d hd => exact forall_mem_push hfuse hds (hn d hd)

theorem compose_append (xs ys : List Description) :
    compose (xs ++ ys) = ys.foldl merge (compose xs) := by
  rw [compose, List.foldl_append, compose]

theorem compose_concat (ds : List Description) (d : Description) :
    compose (ds ++ [d]) = merge (compose ds) d := by
  rw [compose_append, List.foldl_cons, List.foldl_nil]

theorem isChain_compose (ds : List Description) : (compose ds).IsChain Apart := by
  induction ds using List.reverseRecOn with
  | nil => exact List.isChain_nil
  | append_singleton ds d ih =>
    rw [compose_concat]
    exact isChain_merge ih d

theorem forall_mem_compose {P : Description → Prop} {ds : List Description}
    (hfuse : ∀ d e f, P d → P e → fuse? d e = some f → P f)
    (hds : ∀ d ∈ ds, ∀ e, tidy d = some e → P e) : ∀ d ∈ compose ds, P d := by
  induction ds using List.reverseRecOn with
  | nil => simp [compose]
  | append_singleton ds d ih =>
    rw [compose_concat]
    obtain ⟨hinit, hlast⟩ := List.forall_mem_append.mp hds
    exact forall_mem_merge hfuse (ih hinit) (List.forall_mem_singleton.mp hlast)

theorem compose_eq_self {ds : List Description} (hc : ds.IsChain Apart)
    (ht : ∀ d ∈ ds, tidy d = some d) : compose ds = ds := by
  induction ds using List.reverseRecOn with
  | nil => rfl
  | append_singleton ds d ih =>
    obtain ⟨hinit, -, hlast⟩ := List.isChain_append.mp hc
    obtain ⟨htds, htd⟩ := List.forall_mem_append.mp ht
    rw [compose_concat, ih hinit htds, merge_eq_push (htd d List.mem_cons_self)]
    rcases push_cases ds d with ⟨-, hp⟩ | ⟨init, last, fused, rfl, hf, -⟩
    · exact hp
    · have ha := hlast last (by simp) d rfl
      rw [(fuse?_eq_none_iff last d).mpr ha] at hf
      cases hf

end SymbolDocs.Description
