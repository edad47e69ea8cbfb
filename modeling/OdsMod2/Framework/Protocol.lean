import OdsMod2.Framework.Prog

/-!
# Protocols and histories

Which call a program makes next depends on the answers it has seen and on nothing else. A
`Protocol` says so without the program: a phase, how each answered call moves it, and which calls
a phase permits. `Protocol.Obeys p Q phase` is the weakest precondition of `p` over the phases
alone, with every answer possible, so it is proved once for a program and holds against every
world.

To use it, runs are recorded. `observe` adds to the state the history of the calls made so far,
each with its actor, its answer and the states around it. The phase of an actor is a function of
the history (`Protocol.phase`), other actors do not move it, and `Steps.obeys` and
`ParSteps.obeys` say that in every configuration reached the rest of the program obeys from the
phase the history gives. An invariant of a run then needs one argument for each kind of permitted
call, made with the phase as its context.
-/

namespace Prog

variable {Op : Type} {Resp : Op → Type} {ε α β σ Phase Actor : Type}

/-- A typestate for programs: phases, the effect of an answered call, and what may be called. -/
structure Protocol (Resp : Op → Type) (ε Phase : Type) where
  start : Phase
  next : Phase → (op : Op) → Except ε (Resp op) → Phase
  Permits : Phase → Op → Prop

/-- The phases as a world in which a call may answer anything. -/
def Protocol.track (P : Protocol Resp ε Phase) : Handler Resp ε Phase :=
  fun op phase answer phase' => phase' = P.next phase op answer

/-- Every call of the program is permitted in its phase; the outcome satisfies `Q`. -/
def Protocol.Obeys (P : Protocol Resp ε Phase) (p : Prog Resp ε α)
    (Q : Except ε α → Phase → Prop) (phase : Phase) : Prop :=
  p.wp P.track P.Permits Q phase

theorem Protocol.obeys_perform {P : Protocol Resp ε Phase} {op : Op}
    {Q : Except ε (Resp op) → Phase → Prop} {phase : Phase} (hop : P.Permits phase op)
    (h : ∀ answer, Q answer (P.next phase op answer)) :
    P.Obeys (perform op : Prog Resp ε (Resp op)) Q phase := by
  refine wp_perform hop fun answer phase' hphase => ?_
  rw [show phase' = P.next phase op answer from hphase]
  exact h answer

/-! ### Histories -/

/-- One call of a run. -/
structure Event (Resp : Op → Type) (ε σ Actor : Type) where
  actor : Actor
  op : Op
  answer : Except ε (Resp op)
  before : σ
  after : σ

/-- A state with the history of the calls that led to it. -/
structure Observed (Resp : Op → Type) (ε σ Actor : Type) where
  world : σ
  history : List (Event Resp ε σ Actor)

/-- The start of a recorded run. -/
def Observed.start (world : σ) : Observed Resp ε σ Actor := ⟨world, []⟩

/-- The state after one more call. -/
def Observed.snoc (o : Observed Resp ε σ Actor) (actor : Actor) (op : Op)
    (answer : Except ε (Resp op)) (world : σ) : Observed Resp ε σ Actor :=
  ⟨world, o.history ++ [⟨actor, op, answer, o.world, world⟩]⟩

@[simp] theorem Observed.snoc_world (o : Observed Resp ε σ Actor) (actor : Actor) (op : Op)
    (answer : Except ε (Resp op)) (world : σ) : (o.snoc actor op answer world).world = world :=
  rfl

@[simp] theorem Observed.snoc_history (o : Observed Resp ε σ Actor) (actor : Actor) (op : Op)
    (answer : Except ε (Resp op)) (world : σ) :
    (o.snoc actor op answer world).history
      = o.history ++ [⟨actor, op, answer, o.world, world⟩] :=
  rfl

/-- The calls of `actor`, recorded. -/
def observe (H : Handler Resp ε σ) (actor : Actor) : Handler Resp ε (Observed Resp ε σ Actor) :=
  fun op o answer o' => ∃ world, H op o.world answer world ∧ o' = o.snoc actor op answer world

/-- The calls of `actor` against a server, recorded. -/
def observeServer (serve : Server Resp ε σ) (actor : Actor) :
    Server Resp ε (Observed Resp ε σ Actor) :=
  fun op o => ((serve op o.world).1, o.snoc actor op (serve op o.world).1 (serve op o.world).2)

theorem observeServer_observe {H : Handler Resp ε σ} {serve : Server Resp ε σ}
    (hserve : ∀ op s, H op s (serve op s).1 (serve op s).2) (actor : Actor) (op : Op)
    (o : Observed Resp ε σ Actor) :
    observe H actor op o (observeServer serve actor op o).1 (observeServer serve actor op o).2 :=
  ⟨_, hserve op o.world, rfl⟩

/-- Recording a run changes nothing about it. -/
theorem Steps.observed {H : Handler Resp ε σ} {p p' : Prog Resp ε α} {s s' : σ} (actor : Actor)
    (hsteps : Steps H p s p' s') :
    ∃ o', Steps (observe H actor) p (Observed.start s) p' o' ∧ o'.world = s' := by
  induction hsteps with
  | refl => exact ⟨_, .refl, rfl⟩
  | call _ hH ih =>
    -- the next event is recorded after the history of the run so far
    obtain ⟨o', hreached, rfl⟩ := ih
    exact ⟨_, hreached.call ⟨_, hH, rfl⟩, rfl⟩

theorem wp_observed {H : Handler Resp ε σ} {Permits : σ → Op → Prop} {p : Prog Resp ε α}
    {Q : Except ε α → σ → Prop} {actor : Actor} {o : Observed Resp ε σ Actor}
    (h : p.wp H Permits Q o.world) :
    p.wp (observe H actor) (fun o op => Permits o.world op) (fun r o => Q r o.world) o := by
  induction p generalizing o with
  | ret a => exact h
  | fail e => exact h
  | call op k ih =>
    refine ⟨h.1, ?_⟩
    -- a recorded call is a call of the world
    rintro answer o' ⟨world, hH, rfl⟩
    exact ih answer (h.2 answer world hH)

/-- The next call of a program, recorded, where an exception needs no further argument. -/
theorem wp_observed_next {H : Handler Resp ε σ} {Permits : Observed Resp ε σ Actor → Op → Prop}
    {op : Op} {f : Resp op → Prog Resp ε β} {Q : Except ε β → Observed Resp ε σ Actor → Prop}
    {actor : Actor} {o : Observed Resp ε σ Actor} (hop : Permits o op)
    (herror : ∀ e o', Q (.error e) o')
    (h : ∀ answer world, H op o.world (.ok answer) world →
      (f answer).wp (observe H actor) Permits Q (o.snoc actor op (.ok answer) world)) :
    ((perform op : Prog Resp ε (Resp op)) >>= f).wp (observe H actor) Permits Q o := by
  refine wp_bind (wp_perform hop ?_)
  rintro answer o' ⟨world, hH, rfl⟩
  cases answer with
  | error e => exact herror e _
  | ok answer => exact h answer world hH

/-- The events of a recorded run are calls the handler answered. -/
theorem Steps.served {H : Handler Resp ε σ} {p p' : Prog Resp ε α} {actor : Actor} {s : σ}
    {o' : Observed Resp ε σ Actor} (hsteps : Steps (observe H actor) p (Observed.start s) p' o') :
    ∀ e ∈ o'.history, H e.op e.before e.answer e.after := by
  induction hsteps with
  | refl =>
    intro e he
    exact absurd he List.not_mem_nil
  | call _ hH ih =>
    obtain ⟨world, hH, rfl⟩ := hH
    intro e he
    rcases List.mem_append.mp he with hold | hnew
    · exact ih e hold
    · -- the event just recorded is the call just answered
      rw [List.mem_singleton.mp hnew]
      exact hH

/-- A property of every event of a history, given the history before it. -/
def EveryEvent (J : List (Event Resp ε σ Actor) → Event Resp ε σ Actor → Prop)
    (history : List (Event Resp ε σ Actor)) : Prop :=
  ∀ before e after, history = before ++ e :: after → J before e

/-- A place in a list extended by one is the new place or one of the old ones. -/
theorem snoc_eq_split {τ : Type} {list before after : List τ} {last e : τ}
    (h : list ++ [last] = before ++ e :: after) :
    after = [] ∧ before = list ∧ e = last ∨
      ∃ after', after = after' ++ [last] ∧ list = before ++ e :: after' := by
  rcases List.eq_nil_or_concat after with rfl | ⟨after', last', rfl⟩
  · -- nothing follows the place: it is the new one
    obtain ⟨rfl, hlast⟩ := List.append_inj' h rfl
    obtain rfl := List.head_eq_of_cons_eq hlast
    exact .inl ⟨rfl, rfl, rfl⟩
  · -- something follows it, and ends in the new entry
    rw [List.concat_eq_append] at h ⊢
    rw [← List.cons_append, ← List.append_assoc] at h
    obtain ⟨hlist, hlast⟩ := List.append_inj' h rfl
    obtain rfl := List.head_eq_of_cons_eq hlast
    exact .inr ⟨after', rfl, hlist⟩

section EveryEvent

variable {J : List (Event Resp ε σ Actor) → Event Resp ε σ Actor → Prop}

theorem EveryEvent.nil : EveryEvent J [] := by
  intro before e after h
  exact absurd h.symm (List.append_ne_nil_of_right_ne_nil _ (List.cons_ne_nil _ _))

theorem EveryEvent.snoc {history : List (Event Resp ε σ Actor)} {e : Event Resp ε σ Actor}
    (h : EveryEvent J history) (he : J history e) : EveryEvent J (history ++ [e]) := by
  intro before e' after heq
  rcases snoc_eq_split heq with ⟨-, rfl, rfl⟩ | ⟨after', -, hold⟩
  · exact he
  · exact h before e' after' hold

end EveryEvent

/-- The state after a recorded history. -/
def lastWorld (start : σ) (history : List (Event Resp ε σ Actor)) : σ :=
  (history.getLast?.map Event.after).getD start

@[simp] theorem lastWorld_snoc (start : σ) (history : List (Event Resp ε σ Actor))
    (e : Event Resp ε σ Actor) : lastWorld start (history ++ [e]) = e.after := by
  unfold lastWorld
  rw [List.getLast?_append, List.getLast?_singleton]
  rfl

/-! ### The phase of an actor -/

section Phase

variable [DecidableEq Actor]

/-- The phase the calls of `actor` have led to. -/
def Protocol.phase (P : Protocol Resp ε Phase) (actor : Actor)
    (history : List (Event Resp ε σ Actor)) : Phase :=
  history.foldl
    (fun phase e => if e.actor = actor then P.next phase e.op e.answer else phase) P.start

theorem Protocol.phase_snoc (P : Protocol Resp ε Phase) (actor : Actor)
    (history : List (Event Resp ε σ Actor)) (e : Event Resp ε σ Actor) :
    P.phase actor (history ++ [e])
      = if e.actor = actor then P.next (P.phase actor history) e.op e.answer
        else P.phase actor history := by
  unfold Protocol.phase
  rw [List.foldl_append]
  rfl

@[simp] theorem Protocol.phase_snoc_self (P : Protocol Resp ε Phase)
    (o : Observed Resp ε σ Actor) (actor : Actor) (op : Op) (answer : Except ε (Resp op))
    (world : σ) :
    P.phase actor (o.snoc actor op answer world).history
      = P.next (P.phase actor o.history) op answer := by
  rw [Observed.snoc_history, Protocol.phase_snoc, if_pos rfl]

/-- The calls of another actor do not move the phase. -/
theorem Protocol.phase_snoc_other (P : Protocol Resp ε Phase) (o : Observed Resp ε σ Actor)
    {actor other : Actor} (hne : other ≠ actor) (op : Op) (answer : Except ε (Resp op))
    (world : σ) :
    P.phase actor (o.snoc other op answer world).history = P.phase actor o.history := by
  rw [Observed.snoc_history, Protocol.phase_snoc, if_neg hne]

/-- A program that obeys does so against every world. -/
theorem Protocol.Obeys.observed {P : Protocol Resp ε Phase} {H : Handler Resp ε σ}
    {p : Prog Resp ε α} {Q : Except ε α → Phase → Prop} {actor : Actor}
    {o : Observed Resp ε σ Actor} (h : P.Obeys p Q (P.phase actor o.history)) :
    p.wp (observe H actor) (fun o op => P.Permits (P.phase actor o.history) op)
      (fun r o => Q r (P.phase actor o.history)) o := by
  induction p generalizing o with
  | ret a => exact h
  | fail e => exact h
  | call op k ih =>
    refine ⟨h.1, ?_⟩
    rintro answer o' ⟨world, -, rfl⟩
    refine ih answer ?_
    -- what the world did to the state is of no account, only the answer moves the phase
    rw [Protocol.phase_snoc_self]
    exact h.2 answer _ rfl

theorem Steps.obeys {P : Protocol Resp ε Phase} {H : Handler Resp ε σ} {p p' : Prog Resp ε α}
    {Q : Except ε α → Phase → Prop} {actor : Actor} {o o' : Observed Resp ε σ Actor}
    (h : P.Obeys p Q (P.phase actor o.history))
    (hsteps : Steps (observe H actor) p o p' o') : P.Obeys p' Q (P.phase actor o'.history) := by
  induction hsteps with
  | refl => exact h
  | call _ hH ih =>
    obtain ⟨world, -, rfl⟩ := hH
    rw [Protocol.phase_snoc_self]
    exact ih.2 _ _ rfl

/-- **Two actors.** Each program obeys its own protocol, whatever the other does. -/
theorem ParSteps.obeys {Phase' : Type} {P : Protocol Resp ε Phase} {P' : Protocol Resp ε Phase'}
    {HL HR : Handler Resp ε σ} {p p' : Prog Resp ε α} {q q' : Prog Resp ε β}
    {Q : Except ε α → Phase → Prop} {Q' : Except ε β → Phase' → Prop} {left right : Actor}
    (hne : left ≠ right) {o o' : Observed Resp ε σ Actor}
    (hp : P.Obeys p Q (P.phase left o.history)) (hq : P'.Obeys q Q' (P'.phase right o.history))
    (hsteps : ParSteps (observe HL left) (observe HR right) p q o p' q' o') :
    P.Obeys p' Q (P.phase left o'.history) ∧ P'.Obeys q' Q' (P'.phase right o'.history) := by
  induction hsteps with
  | refl => exact ⟨hp, hq⟩
  | left _ hH ih =>
    -- the left phase moves by the call, the right one stays
    obtain ⟨world, -, rfl⟩ := hH
    rw [Protocol.phase_snoc_self, Protocol.phase_snoc_other _ _ hne]
    exact ⟨ih.1.2 _ _ rfl, ih.2⟩
  | right _ hH ih =>
    obtain ⟨world, -, rfl⟩ := hH
    rw [Protocol.phase_snoc_self, Protocol.phase_snoc_other _ _ hne.symm]
    exact ⟨ih.1, ih.2.2 _ _ rfl⟩

/-- An invariant of one actor's runs: it is enough that the permitted calls preserve it. -/
theorem Steps.obeys_invariant {P : Protocol Resp ε Phase} {H : Handler Resp ε σ}
    {p p' : Prog Resp ε α} {Q : Except ε α → Phase → Prop} {actor : Actor}
    {o o' : Observed Resp ε σ Actor} (I : Observed Resp ε σ Actor → Prop)
    (hI : ∀ o op answer world, I o → P.Permits (P.phase actor o.history) op →
      H op o.world answer world → I (o.snoc actor op answer world))
    (h : P.Obeys p Q (P.phase actor o.history)) (ho : I o)
    (hsteps : Steps (observe H actor) p o p' o') : I o' := by
  refine hsteps.invariant I ?_ h.observed ho
  rintro op o answer o' hIo hop ⟨world, hH, rfl⟩
  exact hI o op answer world hIo hop hH

/-- An invariant of two actors' runs: it is enough that the permitted calls of each preserve
it. -/
theorem ParSteps.obeys_invariant {Phase' : Type} {P : Protocol Resp ε Phase}
    {P' : Protocol Resp ε Phase'} {HL HR : Handler Resp ε σ} {p p' : Prog Resp ε α}
    {q q' : Prog Resp ε β} {Q : Except ε α → Phase → Prop} {Q' : Except ε β → Phase' → Prop}
    {left right : Actor} (hne : left ≠ right) {o o' : Observed Resp ε σ Actor}
    (I : Observed Resp ε σ Actor → Prop)
    (hleft : ∀ o op answer world, I o → P.Permits (P.phase left o.history) op →
      HL op o.world answer world → I (o.snoc left op answer world))
    (hright : ∀ o op answer world, I o → P'.Permits (P'.phase right o.history) op →
      HR op o.world answer world → I (o.snoc right op answer world))
    (hp : P.Obeys p Q (P.phase left o.history)) (hq : P'.Obeys q Q' (P'.phase right o.history))
    (ho : I o) (hsteps : ParSteps (observe HL left) (observe HR right) p q o p' q' o') : I o' := by
  -- in every configuration reached both residual programs still obey, so the call is permitted
  induction hsteps with
  | refl => exact ho
  | left hreached hH ih =>
    obtain ⟨world, hH, rfl⟩ := hH
    have hpermits := (hreached.obeys hne hp hq).1.1
    exact hleft _ _ _ _ ih hpermits hH
  | right hreached hH ih =>
    obtain ⟨world, hH, rfl⟩ := hH
    have hpermits := (hreached.obeys hne hp hq).2.1
    exact hright _ _ _ _ ih hpermits hH

/-! ### Recorded runs, event by event -/

/-- The event follows its history: it begins where that ended, with a call that was permitted and
that the handler answered. -/
structure Follows (P : Protocol Resp ε Phase) (H : Handler Resp ε σ) (actor : Actor) (start : σ)
    (before : List (Event Resp ε σ Actor)) (e : Event Resp ε σ Actor) : Prop where
  actor_eq : e.actor = actor
  before_eq : e.before = lastWorld start before
  permits : P.Permits (P.phase actor before) e.op
  served : H e.op e.before e.answer e.after

/-- In the run of a program that obeys, alone, every event follows its history. -/
theorem Steps.follows {P : Protocol Resp ε Phase} {H : Handler Resp ε σ} {p p' : Prog Resp ε α}
    {Q : Except ε α → Phase → Prop} {actor : Actor} {start : σ} {o' : Observed Resp ε σ Actor}
    (h : P.Obeys p Q P.start)
    (hsteps : Steps (observe H actor) p (Observed.start start) p' o') :
    o'.world = lastWorld start o'.history ∧
      EveryEvent (Follows P H actor start) o'.history := by
  refine hsteps.obeys_invariant
    (fun o => o.world = lastWorld start o.history ∧ EveryEvent (Follows P H actor start) o.history)
    ?_ h ⟨rfl, EveryEvent.nil⟩
  rintro o op answer world ⟨hworld, hevents⟩ hpermits hserved
  rw [Observed.snoc_history, Observed.snoc_world, lastWorld_snoc]
  exact ⟨rfl, hevents.snoc ⟨rfl, hworld, hpermits, hserved⟩⟩

end Phase

end Prog
