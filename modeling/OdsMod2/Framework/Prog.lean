import Mathlib.Tactic.TypeStar

/-!
# Programs over an effect signature

Code whose only way to touch the world is a fixed set of calls is a tree: it returns, it throws,
or it makes a call and goes on with the answer, which may itself be an exception (`Prog`). One
such tree is enough for every way of running it.

* **Handlers** say what a call may answer and do (`Handler`). They are relations, so a call may
  have several outcomes: a clock reads any time, a disk may fail.
* **Runs.** `Steps H p s p' s'` reaches the residual program `p'` in state `s'` after some calls
  of `p` have been made; stopping there is a crash. `ParSteps` interleaves two programs call by
  call. Both have executable counterparts for concrete handlers (`Prog.run`, `interleave`).
* **Reasoning.** `wp H Permits p Q s` says that `p`, started in `s`, makes only calls that
  `Permits` allows in the state they are made in, and that its outcome satisfies `Q`. The rules
  follow the program constructors (`wp_bind`, `wp_attempt`, ...), and `Steps.invariant` carries
  what the permitted calls preserve to every configuration reached.
-/

universe u v

/-- A program over the calls `Op`, where `Resp op` is what `op` answers. -/
inductive Prog {Op : Type u} (Resp : Op → Type v) (ε α : Type v) : Type (max u v)
  | ret (a : α)
  | fail (e : ε)
  | call (op : Op) (k : Except ε (Resp op) → Prog Resp ε α)

namespace Prog

variable {Op : Type} {Resp : Op → Type} {ε α β σ : Type}

/-! ### Building programs -/

/-- Sequencing; an exception skips the rest. -/
def bind : Prog Resp ε α → (α → Prog Resp ε β) → Prog Resp ε β
  | ret a, f => f a
  -- the rest of the program is dropped
  | fail e, _ => fail e
  -- the call stays in front, whatever it answers
  | call op k, f => call op fun answer => (k answer).bind f

instance : Monad (Prog Resp ε) where
  pure := ret
  bind := bind

/-- A result that is already known: return it or throw it. -/
def ofExcept : Except ε α → Prog Resp ε α
  | .ok a => ret a
  | .error e => fail e

/-- Make one call; an exception it answers is thrown. -/
def perform (op : Op) : Prog Resp ε (Resp op) :=
  call op ofExcept

/-- Run a program and catch whatever it throws. -/
def attempt : Prog Resp ε α → Prog Resp ε (Except ε α)
  | ret a => ret (.ok a)
  | fail e => ret (.error e)
  | call op k => call op fun answer => (k answer).attempt

/-- The outcome of a program that has no call left to make. -/
def outcome : Prog Resp ε α → Option (Except ε α)
  | ret a => some (.ok a)
  | fail e => some (.error e)
  | call _ _ => none

/-! ### Running programs -/

/-- What the calls may answer, and what they do to the state. -/
abbrev Handler (Resp : Op → Type) (ε σ : Type) :=
  (op : Op) → σ → Except ε (Resp op) → σ → Prop

/-- The configurations a program reaches when it runs alone. -/
inductive Steps (H : Handler Resp ε σ) (p : Prog Resp ε α) (s : σ) :
    Prog Resp ε α → σ → Prop
  | refl : Steps H p s p s
  | call {op : Op} {k : Except ε (Resp op) → Prog Resp ε α} {s' s'' : σ}
      {answer : Except ε (Resp op)} :
      Steps H p s (.call op k) s' → H op s' answer s'' → Steps H p s (k answer) s''

/-- A run to the end. -/
def Runs (H : Handler Resp ε σ) (p : Prog Resp ε α) (s : σ) (result : Except ε α) (s' : σ) :
    Prop :=
  ∃ p', Steps H p s p' s' ∧ p'.outcome = some result

/-- The configurations two programs reach when their calls interleave. -/
inductive ParSteps (HL HR : Handler Resp ε σ) (p : Prog Resp ε α) (q : Prog Resp ε β) (s : σ) :
    Prog Resp ε α → Prog Resp ε β → σ → Prop
  | refl : ParSteps HL HR p q s p q s
  | left {op : Op} {k : Except ε (Resp op) → Prog Resp ε α} {q' : Prog Resp ε β} {s' s'' : σ}
      {answer : Except ε (Resp op)} :
      ParSteps HL HR p q s (.call op k) q' s' → HL op s' answer s'' →
      ParSteps HL HR p q s (k answer) q' s''
  | right {op : Op} {p' : Prog Resp ε α} {k : Except ε (Resp op) → Prog Resp ε β} {s' s'' : σ}
      {answer : Except ε (Resp op)} :
      ParSteps HL HR p q s p' (.call op k) s' → HR op s' answer s'' →
      ParSteps HL HR p q s p' (k answer) s''

/-- A handler that decides every call. -/
abbrev Server (Resp : Op → Type) (ε σ : Type) :=
  (op : Op) → σ → Except ε (Resp op) × σ

/-- The run of a program against a server. -/
def run (serve : Server Resp ε σ) : Prog Resp ε α → σ → Except ε α × σ
  | ret a, s => (.ok a, s)
  | fail e, s => (.error e, s)
  | call op k, s => (k (serve op s).1).run serve (serve op s).2

/-- The first `n` calls of that run. -/
def runFor (serve : Server Resp ε σ) : Nat → Prog Resp ε α → σ → Prog Resp ε α × σ
  | 0, p, s => (p, s)
  | n + 1, call op k, s => runFor serve n (k (serve op s).1) (serve op s).2
  | _ + 1, p, s => (p, s)
termination_by structural n => n

/-- The interleaving of two programs against two servers: each entry of the schedule lets the
left (`true`) or the right program make its next call. -/
def interleave (serveL serveR : Server Resp ε σ) :
    List Bool → Prog Resp ε α → Prog Resp ε β → σ → Prog Resp ε α × Prog Resp ε β × σ
  | [], p, q, s => (p, q, s)
  -- the left program makes one call, the right one waits
  | true :: schedule, call op k, q, s =>
    interleave serveL serveR schedule (k (serveL op s).1) q (serveL op s).2
  | false :: schedule, p, call op k, s =>
    interleave serveL serveR schedule p (k (serveR op s).1) (serveR op s).2
  -- a program that has ended lets its turn pass
  | _ :: schedule, p, q, s => interleave serveL serveR schedule p q s

theorem Steps.trans {H : Handler Resp ε σ} {p p' p'' : Prog Resp ε α} {s s' s'' : σ}
    (h : Steps H p s p' s') (h' : Steps H p' s' p'' s'') : Steps H p s p'' s'' := by
  -- the second part is peeled off call by call, from its end
  induction h' with
  | refl => exact h
  | call _ hH ih => exact ih.call hH

/-- The first half of a sequence runs inside it. -/
theorem Steps.bind {H : Handler Resp ε σ} {p p' : Prog Resp ε α} {s s' : σ}
    (h : Steps H p s p' s') (f : α → Prog Resp ε β) : Steps H (p >>= f) s (p' >>= f) s' := by
  induction h with
  | refl => exact .refl
  | @call op k _ _ answer _ hH ih =>
    exact Steps.call (k := fun answer => k answer >>= f) ih hH

theorem Runs.bind {H : Handler Resp ε σ} {p : Prog Resp ε α} {f : α → Prog Resp ε β}
    {s s' s'' : σ} {a : α} {r : Except ε β} (h : Runs H p s (.ok a) s')
    (h' : Runs H (f a) s' r s'') : Runs H (p >>= f) s r s'' := by
  obtain ⟨p', hsteps, hout⟩ := h
  obtain ⟨q', hrest, hout'⟩ := h'
  cases p' with
  | ret a' =>
    obtain rfl := Except.ok.inj (Option.some.inj hout)
    exact ⟨q', (hsteps.bind f).trans hrest, hout'⟩
  | fail e => cases Option.some.inj hout
  | call op k => cases hout

theorem Runs.bind_error {H : Handler Resp ε σ} {p : Prog Resp ε α} {s s' : σ} {e : ε}
    (h : Runs H p s (.error e) s') (f : α → Prog Resp ε β) :
    Runs H (p >>= f) s (.error e) s' := by
  obtain ⟨p', hsteps, hout⟩ := h
  cases p' with
  | ret a => cases Option.some.inj hout
  | fail e' =>
    obtain rfl := Except.error.inj (Option.some.inj hout)
    exact ⟨_, hsteps.bind f, rfl⟩
  | call op k => cases hout

/-- A server that refines a handler runs as the handler allows. -/
theorem run_runs {H : Handler Resp ε σ} {serve : Server Resp ε σ}
    (hserve : ∀ op s, H op s (serve op s).1 (serve op s).2) (p : Prog Resp ε α) (s : σ) :
    Runs H p s (p.run serve s).1 (p.run serve s).2 := by
  induction p generalizing s with
  | ret a => exact ⟨_, .refl, rfl⟩
  | fail e => exact ⟨_, .refl, rfl⟩
  | call op k ih =>
    -- one call, then the run of the continuation from where it left off
    obtain ⟨p', hsteps, hout⟩ := ih (serve op s).1 (serve op s).2
    have hfirst : Steps H (.call op k) s (k (serve op s).1) (serve op s).2 :=
      Steps.call .refl (hserve op s)
    exact ⟨p', hfirst.trans hsteps, hout⟩

/-- Stopped after some calls, it has made some steps. -/
theorem runFor_steps {H : Handler Resp ε σ} {serve : Server Resp ε σ}
    (hserve : ∀ op s, H op s (serve op s).1 (serve op s).2) (n : Nat) (p : Prog Resp ε α) (s : σ) :
    Steps H p s (runFor serve n p s).1 (runFor serve n p s).2 := by
  induction n generalizing p s with
  | zero => exact .refl
  | succ n ih =>
    cases p with
    | ret a => exact .refl
    | fail e => exact .refl
    | call op k =>
      have hfirst : Steps H (.call op k) s (k (serve op s).1) (serve op s).2 :=
        Steps.call .refl (hserve op s)
      exact hfirst.trans (ih _ _)

theorem interleave_parSteps {HL HR : Handler Resp ε σ} {serveL serveR : Server Resp ε σ}
    (hL : ∀ op s, HL op s (serveL op s).1 (serveL op s).2)
    (hR : ∀ op s, HR op s (serveR op s).1 (serveR op s).2) {p : Prog Resp ε α}
    {q : Prog Resp ε β} {s : σ} (schedule : List Bool) :
    ∀ {p' q' s'}, ParSteps HL HR p q s p' q' s' →
      ParSteps HL HR p q s (interleave serveL serveR schedule p' q' s').1
        (interleave serveL serveR schedule p' q' s').2.1
        (interleave serveL serveR schedule p' q' s').2.2 := by
  -- the configuration reached so far is the accumulator, so it is general in the induction
  induction schedule with
  | nil =>
    intro p' q' s' h
    exact h
  | cons turn schedule ih =>
    intro p' q' s' h
    cases turn with
    | true =>
      cases p' with
      | ret a => exact ih h
      | fail e => exact ih h
      | call op k => exact ih (h.left (hL op s'))
    | false =>
      cases q' with
      | ret a => cases p' <;> exact ih h
      | fail e => cases p' <;> exact ih h
      | call op k => cases p' <;> exact ih (h.right (hR op s'))

/-! ### Reasoning -/

/-- Started in `s`, every call of the program is one that `Permits` allows, and the outcome
satisfies `Q`. -/
def wp (H : Handler Resp ε σ) (Permits : σ → Op → Prop) :
    Prog Resp ε α → (Except ε α → σ → Prop) → σ → Prop
  | ret a, Q, s => Q (.ok a) s
  | fail e, Q, s => Q (.error e) s
  | call op k, Q, s =>
    Permits s op ∧ ∀ answer s', H op s answer s' → (k answer).wp H Permits Q s'

section Rules

variable {H : Handler Resp ε σ} {Permits Permits' : σ → Op → Prop}

theorem wp_mono {p : Prog Resp ε α} {Q Q' : Except ε α → σ → Prop} {s : σ}
    (h : p.wp H Permits Q s) (hQ : ∀ r s', Q r s' → Q' r s') : p.wp H Permits Q' s := by
  induction p generalizing s with
  | ret a => exact hQ _ _ h
  | fail e => exact hQ _ _ h
  | call op k ih => exact ⟨h.1, fun answer s' hH => ih answer (h.2 answer s' hH)⟩

theorem wp_permits {p : Prog Resp ε α} {Q : Except ε α → σ → Prop} {s : σ}
    (h : p.wp H Permits Q s) (hpermits : ∀ s op, Permits s op → Permits' s op) :
    p.wp H Permits' Q s := by
  induction p generalizing s with
  | ret a => exact h
  | fail e => exact h
  | call op k ih => exact ⟨hpermits s op h.1, fun answer s' hH => ih answer (h.2 answer s' hH)⟩

/-- Two judgements about one program hold together. -/
theorem wp_and {p : Prog Resp ε α} {Q Q' : Except ε α → σ → Prop} {s : σ}
    (h : p.wp H Permits Q s) (h' : p.wp H Permits' Q' s) :
    p.wp H (fun s op => Permits s op ∧ Permits' s op) (fun r s' => Q r s' ∧ Q' r s') s := by
  induction p generalizing s with
  | ret a => exact ⟨h, h'⟩
  | fail e => exact ⟨h, h'⟩
  | call op k ih =>
    exact ⟨⟨h.1, h'.1⟩, fun answer s' hH => ih answer (h.2 answer s' hH) (h'.2 answer s' hH)⟩

/-- The continuation of a sequence, as a postcondition of its first half. -/
def seqPost (H : Handler Resp ε σ) (Permits : σ → Op → Prop) (f : α → Prog Resp ε β)
    (Q : Except ε β → σ → Prop) : Except ε α → σ → Prop
  | .ok a, s => (f a).wp H Permits Q s
  | .error e, s => Q (.error e) s

theorem wp_bind {p : Prog Resp ε α} {f : α → Prog Resp ε β} {Q : Except ε β → σ → Prop} {s : σ}
    (h : p.wp H Permits (seqPost H Permits f Q) s) : (p >>= f).wp H Permits Q s := by
  induction p generalizing s with
  | ret a => exact h
  | fail e => exact h
  | call op k ih => exact ⟨h.1, fun answer s' hH => ih answer (h.2 answer s' hH)⟩

theorem wp_attempt {p : Prog Resp ε α} {Q : Except ε (Except ε α) → σ → Prop} {s : σ}
    (h : p.wp H Permits (fun r s' => Q (.ok r) s') s) : p.attempt.wp H Permits Q s := by
  induction p generalizing s with
  | ret a => exact h
  | fail e => exact h
  | call op k ih => exact ⟨h.1, fun answer s' hH => ih answer (h.2 answer s' hH)⟩

/-- A known result needs no call. -/
theorem wp_ofExcept {r : Except ε α} {Q : Except ε α → σ → Prop} {s : σ} (h : Q r s) :
    (ofExcept r : Prog Resp ε α).wp H Permits Q s := by
  cases r with
  | ok a => exact h
  | error e => exact h

/-- Every outcome that is judged is that of a run. -/
theorem wp_runs (p : Prog Resp ε α) (s : σ) :
    p.wp H (fun _ _ => True) (fun r s' => Runs H p s r s') s := by
  induction p generalizing s with
  | ret a => exact ⟨_, .refl, rfl⟩
  | fail e => exact ⟨_, .refl, rfl⟩
  | call op k ih =>
    refine ⟨trivial, fun answer s' hH => wp_mono (ih answer s') ?_⟩
    rintro r s'' ⟨p', hsteps, hout⟩
    have hfirst : Steps H (.call op k) s (k answer) s' := Steps.call .refl hH
    exact ⟨p', hfirst.trans hsteps, hout⟩

/-- What comes after `p` may be replayed by one of several programs, so the sequence may. -/
theorem wp_bind_runs {ι : Type} [Inhabited ι] (p : Prog Resp ε α) {f : α → Prog Resp ε β}
    {g : ι → α → Prog Resp ε β} (s : σ)
    (hf : ∀ a s', (f a).wp H (fun _ _ => True) (fun r s'' => ∃ i, Runs H (g i a) s' r s'') s') :
    (p >>= f).wp H (fun _ _ => True) (fun r s' => ∃ i, Runs H (p >>= g i) s r s') s := by
  refine wp_bind (wp_mono (wp_runs p s) fun r s' hp => ?_)
  cases r with
  | error e => exact ⟨default, hp.bind_error _⟩
  | ok a =>
    refine wp_mono (hf a s') ?_
    rintro r s'' ⟨i, hruns⟩
    exact ⟨i, hp.bind hruns⟩

/-- One call, then its answer as the result. -/
theorem wp_perform {op : Op} {Q : Except ε (Resp op) → σ → Prop} {s : σ} (hop : Permits s op)
    (h : ∀ answer s', H op s answer s' → Q answer s') :
    (perform op : Prog Resp ε (Resp op)).wp H Permits Q s :=
  ⟨hop, fun answer s' hH => wp_ofExcept (h answer s' hH)⟩

end Rules

/-! ### Soundness -/

theorem Steps.wp {H : Handler Resp ε σ} {Permits : σ → Op → Prop} {p p' : Prog Resp ε α}
    {s s' : σ} {Q : Except ε α → σ → Prop} (h : p.wp H Permits Q s)
    (hsteps : Steps H p s p' s') : p'.wp H Permits Q s' := by
  induction hsteps with
  | refl => exact h
  | call _ hH ih =>
    -- the judgement about the call contains one about its continuation
    exact ih.2 _ _ hH

/-- **Invariants.** What the permitted calls preserve holds in every state reached. -/
theorem Steps.invariant {H : Handler Resp ε σ} {Permits : σ → Op → Prop} {p p' : Prog Resp ε α}
    {s s' : σ} {Q : Except ε α → σ → Prop} (I : σ → Prop)
    (hI : ∀ op s answer s', I s → Permits s op → H op s answer s' → I s')
    (h : p.wp H Permits Q s) (hs : I s) (hsteps : Steps H p s p' s') : I s' := by
  induction hsteps with
  | refl => exact hs
  | call hreached hH ih =>
    -- the call about to be made is permitted, because the residual program still is judged
    have hpermits := (hreached.wp h).1
    exact hI _ _ _ _ ih hpermits hH

/-- A program that has ended meets its postcondition. -/
theorem wp_outcome {H : Handler Resp ε σ} {Permits : σ → Op → Prop} {p : Prog Resp ε α} {s : σ}
    {Q : Except ε α → σ → Prop} {r : Except ε α} (h : p.wp H Permits Q s)
    (hout : p.outcome = some r) : Q r s := by
  cases p with
  | ret a =>
    obtain rfl := Option.some.inj hout
    exact h
  | fail e =>
    obtain rfl := Option.some.inj hout
    exact h
  | call op k => cases hout

end Prog
