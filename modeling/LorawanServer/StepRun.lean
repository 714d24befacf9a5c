import Mathlib

/-!
# Runs of a deterministic system and what holds along them

A run folds a step function over a finite list of events. A property of one
step, stated over the state before it and its event, holds along a run when it
holds at every split of the event list. Step lemmas lift to runs here once,
with or without an invariant, and so does the bookkeeping of a measure that
every step raises by what it credits.
-/

namespace LorawanServer.StepRun

variable {σ ε ω : Type*}

/-- State after a finite list of events. -/
def run (step : σ → ε → σ) (state : σ) (events : List ε) : σ := events.foldl step state

/-- Nothing happens in the empty run. -/
@[simp] theorem run_nil (step : σ → ε → σ) (state : σ) : run step state []=state := rfl

/-- The first event acts first. -/
@[simp] theorem run_cons (step : σ → ε → σ) (state : σ) (event : ε) (events : List ε) :
    run step state (event::events)=run step (step state event) events := rfl

/-- The events of a first part act before those of a second. -/
theorem run_append (step : σ → ε → σ) (state : σ) (first second : List ε) :
    run step state (first++second)=run step (run step state first) second := List.foldl_append

/-- Invariant rule: what holds first and is kept by every step of the run holds
after it. -/
theorem run_invariant {step : σ → ε → σ} {inv : σ → Prop} {events : List ε}
    (hstep : ∀ e∈events,∀ s,inv s → inv (step s e)) {state : σ} (hinit : inv state) :
    inv (run step state events) := by
  induction events generalizing state with
  | nil => exact hinit
  | cons event events ih =>
    rw [run_cons]
    apply ih
    · exact fun e he => hstep e (List.mem_cons_of_mem _ he)
    · exact hstep event List.mem_cons_self state hinit

/-- The property holds at every step of the run. -/
def Along (step : σ → ε → σ) (property : σ → ε → Prop) (state : σ) (events : List ε) : Prop :=
  ∀ before event after,events=before++event::after → property (run step state before) event

/-- Nothing is asked of the empty run. -/
theorem along_nil (step : σ → ε → σ) (property : σ → ε → Prop) (state : σ) :
    Along step property state [] := by
  intro before event after h
  exact absurd h.symm (List.append_ne_nil_of_right_ne_nil _ (List.cons_ne_nil _ _))

/-- The first step and the rest of the run. -/
theorem along_cons_iff (step : σ → ε → σ) (property : σ → ε → Prop) (state : σ) (event : ε)
    (events : List ε) :
    Along step property state (event::events) ↔
      property state event ∧ Along step property (step state event) events := by
  constructor
  · intro h
    refine ⟨h [] event events rfl,fun before next after hs => ?_⟩
    have hp := h (event::before) next after (by rw [hs]; rfl)
    rwa [run_cons] at hp
  · rintro ⟨hfirst,hrest⟩ before next after hs
    cases before with
    | nil =>
      obtain ⟨rfl,rfl⟩ := List.cons.inj hs
      exact hfirst
    | cons head before =>
      obtain ⟨rfl,htail⟩ := List.cons.inj hs
      rw [run_cons]
      exact hrest before next after htail

/-- A step lemma lifts to the run: what the condition gives at one step holds
at every step of a run whose steps all meet the condition. -/
theorem Along.imp {step : σ → ε → σ} {condition property : σ → ε → Prop} {state : σ} {events : List ε}
    (hc : Along step condition state events) (h : ∀ s e,condition s e → property s e) :
    Along step property state events :=
  fun before event after hs => h _ _ (hc before event after hs)

/-- An invariant that every step under the condition keeps is available at
every step of the run. -/
theorem Along.with_invariant {step : σ → ε → σ} {condition : σ → ε → Prop} {inv : σ → Prop} {state : σ}
    {events : List ε} (hc : Along step condition state events) (hinit : inv state)
    (hstep : ∀ s e,inv s → condition s e → inv (step s e)) :
    Along step (fun s e => inv s ∧ condition s e) state events := by
  induction events generalizing state with
  | nil => exact along_nil step _ state
  | cons event events ih =>
    obtain ⟨hfirst,hrest⟩ := (along_cons_iff step condition state event events).mp hc
    exact (along_cons_iff step _ state event events).mpr
      ⟨⟨hinit,hfirst⟩,ih hrest (hstep state event hinit hfirst)⟩

/-- An invariant that every step under the condition keeps holds after a run
whose steps all meet the condition. -/
theorem Along.run_invariant {step : σ → ε → σ} {condition : σ → ε → Prop} {inv : σ → Prop} {state : σ}
    {events : List ε} (hc : Along step condition state events) (hinit : inv state)
    (hstep : ∀ s e,inv s → condition s e → inv (step s e)) : inv (run step state events) := by
  induction events generalizing state with
  | nil => exact hinit
  | cons event events ih =>
    obtain ⟨hfirst,hrest⟩ := (along_cons_iff step condition state event events).mp hc
    exact ih hrest (hstep state event hinit hfirst)

/-- The property holds along the front of a run. -/
theorem Along.front {step : σ → ε → σ} {property : σ → ε → Prop} {state : σ} {first second : List ε}
    (h : Along step property state (first++second)) : Along step property state first :=
  fun before event after hs => h before event (after++second) (by
    rw [hs,List.append_assoc,List.cons_append])

/-- The property holds along the back of a run, from where the front ends. -/
theorem Along.back {step : σ → ε → σ} {property : σ → ε → Prop} {state : σ} {first second : List ε}
    (h : Along step property state (first++second)) : Along step property (run step state first) second := by
  intro before event after hs
  have hp := h (first++before) event after (by rw [hs,List.append_assoc])
  rwa [run_append] at hp

/-- Outputs of a run, one for each event in order. -/
def outputs (step : σ → ε → σ) (output : σ → ε → ω) : σ → List ε → List ω
  | _,[] => []
  | state,event::events => output state event::outputs step output (step state event) events

/-- Accumulation rule: a measure that every step raises by what it credits is,
after the run, its first value and all credits. -/
theorem Along.accumulate {step : σ → ε → σ} {measure : σ → ℕ} {credit : σ → ε → ℕ} {state : σ}
    {events : List ε} (h : Along step (fun s e => measure (step s e)=measure s+credit s e) state events) :
    measure (run step state events)=measure state+(outputs step credit state events).sum := by
  induction events generalizing state with
  | nil => rfl
  | cons event events ih =>
    obtain ⟨hfirst,hrest⟩ := (along_cons_iff _ _ _ _ _).mp h
    rw [run_cons,ih hrest,hfirst,outputs,List.sum_cons,Nat.add_assoc]

/-- Credits of two kinds add up separately. -/
theorem outputs_sum_add (step : σ → ε → σ) (first : ε → ℕ) (second : σ → ε → ℕ) (state : σ)
    (events : List ε) :
    (outputs step (fun s e => first e+second s e) state events).sum=
      (events.map first).sum+(outputs step second state events).sum := by
  induction events generalizing state with
  | nil => rfl
  | cons event events ih =>
    rw [outputs,List.sum_cons,ih,List.map_cons,List.sum_cons,outputs,List.sum_cons]
    omega

end LorawanServer.StepRun
