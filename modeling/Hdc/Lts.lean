import Mathlib.Data.List.Basic

/- Transition systems given by a step function, with no program attached. A
   step takes an action in a state, or is not enabled there. `Reaches step ok`
   relates the states connected by steps that all meet a side condition `ok`, and
   `Reaches.invariant` is the induction over such runs; `Reaches.map` carries runs
   over to a system that simulates the first; `run` executes a list of actions, and
   `Reaches.of_run` turns an execution into a run. `Inevitable` is for what every run comes to,
   by an order that its steps go down. `Follow` is for what a run has left behind: an order in
   which its events may come.

   A step may also have output. `emitted` is all a machine puts out over a list of
   inputs, of which it passes over those it does not take; `emitted_eq_iff` compares two
   machines, one of which does what the other does until it falls silent. -/
namespace Lts
variable {σ ι : Type}

/-- The states reached from `s` by steps that all meet `ok`. -/
inductive Reaches (step : σ → ι → Option σ) (ok : σ → ι → Prop) (s : σ) : σ → Prop
  | refl : Reaches step ok s s
  | tail {t u : σ} {a : ι} : Reaches step ok s t → ok t a → step t a = some u →
      Reaches step ok s u

/-- The side condition that every step meets. -/
def anyStep (_ : σ) (_ : ι) : Prop := True

instance (s : σ) (a : ι) : Decidable (anyStep s a) := inferInstanceAs (Decidable True)

section
variable {step : σ → ι → Option σ} {ok : σ → ι → Prop}

/-- What holds at the start and is kept by every step that meets the condition
holds in every reached state. -/
theorem Reaches.invariant {inv : σ → Prop}
    (hstep : ∀ {s a s'}, inv s → ok s a → step s a = some s' → inv s')
    {s s' : σ} (h : Reaches step ok s s') (hs : inv s) : inv s' := by
  induction h with
  | refl => exact hs
  | tail _ hok hst ih => exact hstep ih hok hst

theorem Reaches.single {s s' : σ} (a : ι) (hok : ok s a) (hst : step s a = some s') :
    Reaches step ok s s' :=
  .tail .refl hok hst

theorem Reaches.trans {s t u : σ} (h : Reaches step ok s t) (h' : Reaches step ok t u) :
    Reaches step ok s u := by
  induction h' with
  | refl => exact h
  | tail _ hok hst ih => exact ih.tail hok hst

theorem Reaches.mono {ok' : σ → ι → Prop} (hok : ∀ t a, ok t a → ok' t a) {s s' : σ}
    (h : Reaches step ok s s') : Reaches step ok' s s' := by
  induction h with
  | refl => exact .refl
  | tail _ ha hst ih => exact ih.tail (hok _ _ ha) hst

/-- An invariant may be assumed of the states a run passes through. -/
theorem Reaches.with_invariant {inv : σ → Prop}
    (hstep : ∀ {s a s'}, inv s → ok s a → step s a = some s' → inv s')
    {s s' : σ} (h : Reaches step ok s s') (hs : inv s) :
    Reaches step (fun t a => inv t ∧ ok t a) s s' := by
  induction h with
  | refl => exact .refl
  | tail hrun hok hst ih => exact ih.tail ⟨hrun.invariant hstep hs, hok⟩ hst

/-- A simulation: where every step is a step of another system or none, under a view
of the states, runs are seen as runs. -/
theorem Reaches.map {τ κ : Type} {step' : τ → κ → Option τ} {ok' : τ → κ → Prop} (view : σ → τ)
    (hsim : ∀ {s a s'}, ok s a → step s a = some s' → view s' = view s ∨
      ∃ b, ok' (view s) b ∧ step' (view s) b = some (view s'))
    {s s' : σ} (h : Reaches step ok s s') : Reaches step' ok' (view s) (view s') := by
  induction h with
  | refl => exact .refl
  | tail _ hok hst ih =>
    rcases hsim hok hst with hsame | ⟨b, hok', hst'⟩
    · rw [hsame]
      exact ih
    · exact ih.tail hok' hst'

end

/-- The state after a list of actions, each of them enabled and meeting `ok`. -/
def run (step : σ → ι → Option σ) (ok : σ → ι → Prop) [∀ s a, Decidable (ok s a)] :
    σ → List ι → Option σ
  | s, [] => some s
  | s, a :: as => if ok s a then (step s a).bind (run step ok · as) else none

theorem run_cons {step : σ → ι → Option σ} {ok : σ → ι → Prop} [∀ s a, Decidable (ok s a)] {s t : σ} {a : ι}
    (hok : ok s a) (hst : step s a = some t) (as : List ι) : run step ok s (a :: as) = run step ok t as := by
  rw [run, if_pos hok, hst]
  rfl

/-- The first action of an execution, and the rest. -/
theorem run_cons_some {step : σ → ι → Option σ} {ok : σ → ι → Prop} [∀ s a, Decidable (ok s a)]
    {s s' : σ} {a : ι} {as : List ι} (h : run step ok s (a :: as) = some s') :
    ok s a ∧ ∃ t, step s a = some t ∧ run step ok t as = some s' := by
  rw [run] at h
  split at h
  · rename_i hok
    exact ⟨hok, Option.bind_eq_some_iff.mp h⟩
  · cases h

theorem run_append_some {step : σ → ι → Option σ} {ok : σ → ι → Prop} [∀ s a, Decidable (ok s a)]
    {s s' : σ} {as bs : List ι} (h : run step ok s (as ++ bs) = some s') :
    ∃ t, run step ok s as = some t ∧ run step ok t bs = some s' := by
  induction as generalizing s with
  | nil => exact ⟨s, rfl, h⟩
  | cons a as ih =>
    obtain ⟨hok, t, hst, hrun⟩ := run_cons_some h
    obtain ⟨u, hfirst, hrest⟩ := ih hrun
    exact ⟨u, (run_cons hok hst as).trans hfirst, hrest⟩

theorem Reaches.of_run {step : σ → ι → Option σ} {ok : σ → ι → Prop} [∀ s a, Decidable (ok s a)]
    {as : List ι} {s s' : σ} (h : run step ok s as = some s') : Reaches step ok s s' := by
  induction as generalizing s with
  | nil =>
    cases h
    exact .refl
  | cons a as ih =>
    obtain ⟨hok, t, hst, hrun⟩ := run_cons_some h
    exact (Reaches.single a hok hst).trans (ih hrun)

/-! Runs that come to something. -/

section
variable {step : σ → ι → Option σ} {may must : σ → ι → Prop} {goal : σ → Prop}

/-- A step that meets the condition can be taken. -/
def Enabled (step : σ → ι → Option σ) (ok : σ → ι → Prop) (s : σ) : Prop :=
  ∃ a s', ok s a ∧ step s a = some s'

/-- A state with `goal` is come to whichever of the steps that `may` be taken are: as long as it has
not been, there is one that `must` be taken if no other is. -/
inductive Inevitable (step : σ → ι → Option σ) (may must : σ → ι → Prop) (goal : σ → Prop) :
    σ → Prop
  | now {s : σ} : goal s → Inevitable step may must goal s
  | later {s : σ} : Enabled step must s →
      (∀ a s', may s a → step s a = some s' → Inevitable step may must goal s') →
      Inevitable step may must goal s

/-- Where up to the goal every step keeps an invariant and goes down a well-founded order, and there
is always one that must be taken, the goal is come to. -/
theorem Inevitable.of_wellFounded (inv : σ → Prop) {lt : σ → σ → Prop} (hwf : WellFounded lt)
    (hstep : ∀ {s a s'}, inv s → ¬ goal s → may s a → step s a = some s' → inv s' ∧ lt s' s)
    (hlive : ∀ {s}, inv s → ¬ goal s → Enabled step must s) {s : σ} (hs : inv s) :
    Inevitable step may must goal s := by
  induction s using hwf.induction with
  | h s ih =>
    by_cases hgoal : goal s
    · exact .now hgoal
    · apply Inevitable.later (hlive hs hgoal)
      intro a s' hmay hst
      obtain ⟨hs', hlt⟩ := hstep hs hgoal hmay hst
      exact ih s' hlt hs'

theorem Inevitable.mono {goal' : σ → Prop} (hgoal : ∀ {s}, goal s → goal' s) {s : σ}
    (h : Inevitable step may must goal s) : Inevitable step may must goal' s := by
  induction h with
  | now hs => exact .now (hgoal hs)
  | later hlive _ ih => exact .later hlive ih

/-- In particular some run comes to it. -/
theorem Inevitable.exists_reaches (hmay : ∀ s a, must s a → may s a) {s : σ}
    (h : Inevitable step may must goal s) : ∃ s', Reaches step may s s' ∧ goal s' := by
  induction h with
  | now hs => exact ⟨_, .refl, hs⟩
  | later hlive _ ih =>
    obtain ⟨a, s', hmust, hst⟩ := hlive
    obtain ⟨t, hrun, ht⟩ := ih a s' (hmay _ a hmust) hst
    exact ⟨t, (Reaches.single a (hmay _ a hmust) hst).trans hrun, ht⟩

end

/-! Histories. -/

/-- Every entry of a list may stand after those in front of it. -/
def Follow {α : Type} (may : List α → α → Prop) (l : List α) : Prop :=
  ∀ before e after, l = before ++ e :: after → may before e

theorem Follow.nil {α : Type} {may : List α → α → Prop} : Follow may [] := by
  intro before e after h
  simp at h

theorem Follow.concat {α : Type} {may : List α → α → Prop} {l : List α} {e : α}
    (h : Follow may l) (he : may l e) : Follow may (l ++ [e]) := by
  intro before d after heq
  rcases List.eq_nil_or_concat after with rfl | ⟨after, last, rfl⟩
  · obtain ⟨rfl, hlast⟩ := List.append_inj' heq rfl
    cases hlast
    exact he
  · rw [List.concat_eq_append, ← List.cons_append, ← List.append_assoc] at heq
    obtain ⟨rfl, -⟩ := List.append_inj' heq rfl
    exact h before d after rfl

/-! Machines with output. -/

section
variable {ο : Type} {step step' : σ → ι → Option (σ × List ο)}

def emitted (step : σ → ι → Option (σ × List ο)) : σ → List ι → List ο
  | _, [] => []
  | s, a :: as =>
    match step s a with
    | some (s', out) => out ++ emitted step s' as
    | none => emitted step s as

theorem emitted_cons {s s' : σ} {a : ι} {out : List ο} (h : step s a = some (s', out))
    (as : List ι) : emitted step s (a :: as) = out ++ emitted step s' as := by
  rw [emitted, h]

theorem emitted_cons_none {s : σ} {a : ι} (h : step s a = none) (as : List ι) :
    emitted step s (a :: as) = emitted step s as := by
  rw [emitted, h]

/-- Nothing more is put out. -/
def Silent (step : σ → ι → Option (σ × List ο)) (s : σ) : Prop := ∀ as, emitted step s as = []

/-- States that only lead to each other, without output, are silent. -/
theorem Silent.of_invariant {inv : σ → Prop}
    (hstep : ∀ {s a s' out}, inv s → step s a = some (s', out) → out = [] ∧ inv s')
    {s : σ} (hs : inv s) : Silent step s := by
  intro as
  induction as generalizing s with
  | nil => rfl
  | cons a as ih =>
    cases h : step s a with
    | none =>
      rw [emitted_cons_none h]
      exact ih hs
    | some r =>
      obtain ⟨hout, hinv⟩ := hstep hs h
      rw [emitted_cons h, hout]
      exact ih hinv

/-- What the first machine does on an input, next to the second: the same, without a
`marked` output; or nothing more, as the second; or nothing more, where the second puts
out something marked. -/
inductive Follows (step step' : σ → ι → Option (σ × List ο)) (marked : ο → Prop) (s : σ) (a : ι) :
    Prop
  | same (heq : step s a = step' s a)
    (hout : ∀ s' out, step' s a = some (s', out) → ∀ o ∈ out, ¬ marked o)
  | halt {s₁ s₂ : σ} (h : step s a = some (s₁, [])) (hsilent : Silent step s₁)
    (h' : step' s a = some (s₂, [])) (hsilent' : Silent step' s₂)
  | cut {s₁ s₂ : σ} {out : List ο} (h : step s a = some (s₁, [])) (hsilent : Silent step s₁)
    (h' : step' s a = some (s₂, out)) (hmarked : ∃ o ∈ out, marked o)

/-- Two machines put out the same exactly if the one that is not cut short puts out nothing
that the other is cut short at. -/
theorem emitted_eq_iff {marked : ο → Prop} (h : ∀ s a, Follows step step' marked s a)
    (s : σ) (as : List ι) :
    emitted step s as = emitted step' s as ↔ ∀ o ∈ emitted step' s as, ¬ marked o := by
  induction as generalizing s with
  | nil => simp [emitted]
  | cons a as ih =>
    cases h s a with
    | same heq hout =>
      cases hst : step' s a with
      | none =>
        rw [emitted_cons_none hst, emitted_cons_none (heq.trans hst)]
        exact ih s
      | some r =>
        rw [emitted_cons hst, emitted_cons (heq.trans hst), List.append_right_inj, ih r.1]
        simp only [List.mem_append]
        constructor
        · rintro hrest o (ho | ho)
          · exact hout _ _ hst o ho
          · exact hrest o ho
        · intro hall o ho
          exact hall o (.inr ho)
    | halt h hsilent h' hsilent' =>
      rw [emitted_cons h, emitted_cons h', hsilent as, hsilent' as]
      simp
    | cut h hsilent h' hmarked =>
      obtain ⟨o, ho, hm⟩ := hmarked
      rw [emitted_cons h, emitted_cons h', hsilent as]
      constructor
      · intro heq
        have hnil := List.append_eq_nil_iff.mp heq.symm
        rw [hnil.1] at ho
        cases ho
      · intro hall
        exact absurd hm (hall o (List.mem_append_left _ ho))

end

end Lts
