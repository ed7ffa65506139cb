import Marionette.TimerQueue
import Mathlib.Data.List.MinMax
import Mathlib.Data.List.Range

/-!
# The timer queue as a ledger

A timer queue keeps its timers in the order in which they will fire, and forgets those that have fired or were
cancelled.  A ledger is the plain account of the same calls: it writes timers down in the order in which they
are scheduled, crosses them out when they fire or are cancelled, forgets none, and looks through all of them
for the next one to fire.  The queue gives the answers that the ledger gives, whatever is called and in
whichever order: the clock may jump, delays may be zero, and timers scheduled late may be due early.

## Main definitions

* `TimerCall`, `TimerAnswer` — what a queue can be asked, and its answers.
* `Ledger` — all the timers that were scheduled, and what became of them.
* `Ledger.earliest?` — the next timer to fire, by looking through all that wait.
* `Ledger.Fits` — the ledger is an account of a queue.

## Main results

* `Ledger.Fits.call` — a call gets the same answer from both, and the ledger still fits.
* `Ledger.grows_trace` — the clock does not go back, and nothing is crossed out twice or taken back.
* `TimerQueue.refines_ledger` — a queue is its ledger.
-/

namespace Marionette

/-! ### Calls -/

/-- A call of a timer queue. -/
inductive TimerCall
  | schedule (wakeup : Wakeup) (delay : Nat)
  | cancel (token : TimerToken)
  | advanceTo (time : Nat)
  | advanceBy (span : Nat)
  | popDue
  deriving DecidableEq, Repr

/-- What a call of a timer queue gives back. -/
inductive TimerAnswer
  | done
  | scheduled (token : TimerToken)
  | popped (due? : Option (TimerToken × Wakeup))
  deriving DecidableEq, Repr

/-- The token that an answer gives out. -/
def TimerAnswer.issued? : TimerAnswer → Option TimerToken
  | .scheduled token => some token
  | _ => none

/-- The timer that an answer takes out. -/
def TimerAnswer.popped? : TimerAnswer → Option (TimerToken × Wakeup)
  | .popped due? => due?
  | _ => none

/-- The answers to calls made one after the other, and what is there after them. -/
def TimerCall.trace {S : Type} (answer : S → TimerCall → TimerAnswer × S) (s : S) :
    List TimerCall → List TimerAnswer × S
  | [] => ([], s)
  | c :: cs => ((answer s c).1 :: (trace answer (answer s c).2 cs).1, (trace answer (answer s c).2 cs).2)

theorem TimerCall.trace_append {S : Type} (answer : S → TimerCall → TimerAnswer × S) (s : S)
    (cs ds : List TimerCall) : trace answer s (cs ++ ds) =
      ((trace answer s cs).1 ++ (trace answer (trace answer s cs).2 ds).1,
        (trace answer (trace answer s cs).2 ds).2) := by
  induction cs generalizing s with
  | nil => rfl
  | cons c cs ih => simp only [List.cons_append, trace, ih]

/-- The answer to a call, and the queue after it. -/
def TimerQueue.call (q : TimerQueue) : TimerCall → TimerAnswer × TimerQueue
  | .schedule wakeup delay => (.scheduled (q.schedule wakeup delay).1, (q.schedule wakeup delay).2)
  | .cancel token => (.done, q.cancel token)
  | .advanceTo time => (.done, q.advanceTo time)
  | .advanceBy span => (.done, q.advanceBy span)
  | .popDue =>
    match q.popDue? with
    | none => (.popped none, q)
    | some (t, q') => (.popped (some (t.token, t.wakeup)), q')

/-! ### The ledger -/

/-- All the timers that were scheduled, in that order, and what became of them. -/
structure Ledger where
  clock : Nat := 0
  scheduled : List Timer := []
  /-- The timers that still wait, in the order in which they were scheduled. -/
  live : List Timer := []
  /-- The timers that fired, each with what the clock showed then. -/
  popped : List (Timer × Nat) := []
  cancelled : List Timer := []
  deriving DecidableEq

namespace Ledger

/-- The timer to fire next: of those that are due, the one due first, and of several the one that was
scheduled first. -/
def earliest? (L : Ledger) : Option Timer := (L.live.filter (·.due ≤ L.clock)).argmin (·.due)

/-- The answer to a call, and what is in the ledger after it. -/
def call (L : Ledger) : TimerCall → TimerAnswer × Ledger
  | .schedule wakeup delay =>
    let t : Timer := ⟨L.clock + delay, ⟨L.scheduled.length⟩, wakeup⟩
    (.scheduled t.token, { L with scheduled := L.scheduled ++ [t], live := L.live ++ [t] })
  | .cancel token =>
    (.done,
      { L with
        live := L.live.filter fun t => t.token ≠ token
        cancelled := L.cancelled ++ L.live.filter fun t => t.token = token })
  | .advanceTo time => (.done, { L with clock := max L.clock time })
  | .advanceBy span => (.done, { L with clock := L.clock + span })
  | .popDue =>
    match L.earliest? with
    | none => (.popped none, L)
    | some t =>
      (.popped (some (t.token, t.wakeup)),
        { L with live := L.live.erase t, popped := L.popped ++ [(t, L.clock)] })

/-- A ledger is an account of a queue: it shows the same time, the queue has given out one token for each
timer in the ledger, what waits in one waits in the other, and each timer has met one fate. -/
structure Fits (L : Ledger) (q : TimerQueue) : Prop where
  now_eq : q.now = L.clock
  tokens : L.scheduled.map (·.token.index) = List.range q.issued
  pending : q.pending.Perm L.live
  live : L.live.Sublist L.scheduled
  fates : (L.popped.map (·.1) ++ L.cancelled ++ L.live).Perm L.scheduled
  punctual : ∀ p ∈ L.popped, p.1.due ≤ p.2

variable {L L' : Ledger} {q q' : TimerQueue}

theorem fits_empty : Fits {} TimerQueue.empty :=
  ⟨rfl, rfl, .refl _, .refl _, .refl _, fun _ h => nomatch h⟩

/-! ### Which timer is next -/

namespace Fits

/-- As many timers as tokens. -/
theorem length_scheduled (h : L.Fits q) : L.scheduled.length = q.issued := by
  simpa using congrArg List.length h.tokens

/-- Timers are written down in the order of their tokens. -/
theorem pairwise_scheduled (h : L.Fits q) :
    L.scheduled.Pairwise fun t u => t.token.index < u.token.index := by
  rw [← List.pairwise_map (f := fun t : Timer => t.token.index) (R := (· < ·)), h.tokens]
  exact List.pairwise_lt_range

theorem pairwise_live (h : L.Fits q) : L.live.Pairwise fun t u => t.token.index < u.token.index :=
  h.pairwise_scheduled.sublist h.live

/-- No two timers have one token. -/
theorem nodup_tokens (h : L.Fits q) : (L.scheduled.map (·.token)).Nodup := by
  refine List.pairwise_map.2 (h.pairwise_scheduled.imp fun hlt heq => ?_)
  rw [heq] at hlt
  exact Nat.lt_irrefl _ hlt

/-- What fires before all others is what comes first among those due first. -/
theorem argmin_eq {ts : List Timer} {t : Timer}
    (hts : ts.Pairwise fun t u => t.token.index < u.token.index) (ht : t ∈ ts)
    (hfirst : ∀ u ∈ ts, u = t ∨ t.Before u) : ts.argmin (·.due) = some t := by
  refine List.argmin_eq_some_iff.2 ⟨ht, fun u hu => ?_, fun u hu hdue => ?_⟩
  · rcases hfirst u hu with rfl | hlt | ⟨heq, -⟩
    · exact Nat.le_refl _
    · exact Nat.le_of_lt hlt
    · exact Nat.le_of_eq heq
  · rcases hfirst u hu with rfl | hbefore
    · exact Nat.le_refl _
    refine Nat.le_of_not_lt fun hidx => ?_
    -- `u` would come first in the list, and so have the smaller token
    have hlt := List.pairwise_iff_getElem.1 hts _ _ (List.idxOf_lt_length_iff.2 hu)
      (List.idxOf_lt_length_iff.2 ht) hidx
    rw [List.getElem_idxOf, List.getElem_idxOf] at hlt
    simp only [Timer.Before] at hbefore
    omega

/-- The queue pops the timer that the ledger finds. -/
theorem earliest?_eq_some (h : L.Fits q) {t : Timer} (hpop : q.popDue? = some (t, q')) :
    L.earliest? = some t := by
  obtain ⟨hdue, hpending, hbefore⟩ := TimerQueue.le_of_popDue? hpop
  refine argmin_eq (h.pairwise_live.sublist List.filter_sublist) ?_ fun u hu => ?_
  · have hmem : t ∈ L.live := h.pending.mem_iff.1 (hpending ▸ List.mem_cons_self)
    exact List.mem_filter.2 ⟨hmem, decide_eq_true (h.now_eq ▸ hdue)⟩
  · have hmem := h.pending.mem_iff.2 (List.mem_filter.1 hu).1
    rw [hpending] at hmem
    exact (List.mem_cons.1 hmem).imp_right (hbefore u)

/-- The queue pops nothing where the ledger finds nothing. -/
theorem earliest?_eq_none (h : L.Fits q) (hpop : q.popDue? = none) : L.earliest? = none := by
  refine List.argmin_eq_none.2 (List.filter_eq_nil_iff.2 fun t ht hdue => ?_)
  have hlater := TimerQueue.lt_due_of_popDue?_eq_none hpop (h.pending.mem_iff.2 ht)
  rw [h.now_eq] at hlater
  exact Nat.not_le.2 hlater (of_decide_eq_true hdue)

theorem map_popDue? (h : L.Fits q) : q.popDue?.map (·.1) = L.earliest? := by
  rcases hpop : q.popDue? with _ | ⟨t, q'⟩
  · exact (h.earliest?_eq_none hpop).symm
  · exact (h.earliest?_eq_some hpop).symm

/-- The queue shows the least due time of all that wait. -/
theorem nextDue?_eq (h : L.Fits q) : q.nextDue? = (L.live.map (·.due)).min? := by
  rcases hq : q.pending with _ | ⟨t, ts⟩
  · have hnil : L.live = [] := List.nil_perm.1 (hq ▸ h.pending)
    simp [TimerQueue.nextDue?, hq, hnil]
  · have hmin : (L.live.map (·.due)).min? = some t.due := by
      refine List.min?_eq_some_iff.2 ⟨?_, fun d hd => ?_⟩
      · exact List.mem_map_of_mem (h.pending.mem_iff.1 (hq ▸ List.mem_cons_self))
      · obtain ⟨u, hu, rfl⟩ := List.mem_map.1 hd
        exact TimerQueue.due_le_of_mem hq (h.pending.mem_iff.2 hu)
    simp [TimerQueue.nextDue?, hq, hmin]

/-! ### One call -/

variable {wakeup : Wakeup} {delay : Nat}

theorem schedule (h : L.Fits q) :
    (L.call (.schedule wakeup delay)).1 = .scheduled (q.schedule wakeup delay).1 ∧
      (L.call (.schedule wakeup delay)).2.Fits (q.schedule wakeup delay).2 := by
  have hlen := h.length_scheduled
  refine ⟨by simp [call, hlen, TimerQueue.nextToken],
    { now_eq := h.now_eq
      tokens := ?_
      pending := ?_
      live := h.live.append (.refl _)
      fates := ?_
      punctual := h.punctual }⟩
  · simp [call, hlen, h.tokens, TimerQueue.schedule, List.range_succ]
  · refine (TimerQueue.place_perm _ _).trans ?_
    rw [h.now_eq, TimerQueue.nextToken, ← hlen]
    exact (h.pending.cons _).trans (List.perm_append_singleton _ _).symm
  · simpa only [call, List.append_assoc] using h.fates.append_right [_]

theorem cancel (h : L.Fits q) (token : TimerToken) :
    (L.call (.cancel token)).2.Fits (q.cancel token) where
  now_eq := h.now_eq
  tokens := h.tokens
  pending := h.pending.filter _
  live := List.filter_sublist.trans h.live
  fates := by
    refine List.Perm.trans ?_ h.fates
    simp only [call, List.append_assoc]
    refine ((List.Perm.append_left _ ?_).append_left _)
    simpa using List.filter_append_perm (fun t : Timer => decide (t.token = token)) L.live
  punctual := h.punctual

/-- What is popped is crossed out in the ledger. -/
theorem popDue (h : L.Fits q) {t : Timer} (hpop : q.popDue? = some (t, q')) :
    { L with live := L.live.erase t, popped := L.popped ++ [(t, L.clock)] : Ledger }.Fits q' := by
  obtain ⟨hdue, hpending, -⟩ := TimerQueue.le_of_popDue? hpop
  obtain ⟨hnow, hissued⟩ := TimerQueue.now_of_popDue? hpop
  have hmem : t ∈ L.live := h.pending.mem_iff.1 (hpending ▸ List.mem_cons_self)
  have hperm : L.live.Perm (t :: L.live.erase t) := List.perm_cons_erase hmem
  exact
    { now_eq := hnow.trans h.now_eq
      tokens := h.tokens.trans (congrArg _ hissued.symm)
      pending := List.Perm.cons_inv ((hpending ▸ h.pending).trans hperm)
      live := List.erase_sublist.trans h.live
      fates := by
        refine List.Perm.trans ?_ ((List.Perm.append_left _ hperm.symm).trans h.fates)
        simp only [List.map_append, List.map_cons, List.map_nil, List.append_assoc, List.singleton_append]
        exact List.Perm.append_left _ List.perm_middle.symm
      punctual := fun p hp => by
        rcases List.mem_append.1 hp with hp | hp
        · exact h.punctual p hp
        · obtain rfl := List.mem_singleton.1 hp
          exact h.now_eq ▸ hdue }

/-- A call gets the same answer from queue and ledger, and the ledger still fits. -/
theorem call (h : L.Fits q) (c : TimerCall) :
    (q.call c).1 = (L.call c).1 ∧ (L.call c).2.Fits (q.call c).2 := by
  cases c with
  | schedule wakeup delay => exact ⟨h.schedule.1.symm, h.schedule.2⟩
  | cancel token => exact ⟨rfl, h.cancel token⟩
  | advanceTo time => exact ⟨rfl, { h with now_eq := congrArg (max · time) h.now_eq }⟩
  | advanceBy span => exact ⟨rfl, { h with now_eq := congrArg (· + span) h.now_eq }⟩
  | popDue =>
    rcases hpop : q.popDue? with _ | ⟨t, q'⟩
    · simp only [TimerQueue.call, Ledger.call, hpop, h.earliest?_eq_none hpop]
      exact ⟨trivial, h⟩
    · simp only [TimerQueue.call, Ledger.call, hpop, h.earliest?_eq_some hpop]
      exact ⟨trivial, h.popDue hpop⟩

end Fits

/-! ### Many calls -/

/-- How a ledger goes on while it gives some answers: nothing is crossed out twice or taken back. -/
structure Grows (L : Ledger) (answers : List TimerAnswer) (L' : Ledger) : Prop where
  clock_le : L.clock ≤ L'.clock
  scheduled : ∃ ts, L'.scheduled = L.scheduled ++ ts ∧ answers.filterMap (·.issued?) = ts.map (·.token)
  popped : ∃ ps, L'.popped = L.popped ++ ps ∧
    answers.filterMap (·.popped?) = ps.map fun p => (p.1.token, p.1.wakeup)
  cancelled : L.cancelled <+: L'.cancelled

theorem Grows.refl (L : Ledger) : L.Grows [] L :=
  ⟨Nat.le_refl _, ⟨[], by simp⟩, ⟨[], by simp⟩, List.prefix_refl _⟩

theorem Grows.trans {L₁ L₂ L₃ : Ledger} {as bs : List TimerAnswer} (h : L₁.Grows as L₂)
    (h' : L₂.Grows bs L₃) : L₁.Grows (as ++ bs) L₃ := by
  obtain ⟨ts, hts, has⟩ := h.scheduled
  obtain ⟨ts', hts', hbs⟩ := h'.scheduled
  obtain ⟨ps, hps, has'⟩ := h.popped
  obtain ⟨ps', hps', hbs'⟩ := h'.popped
  exact
    { clock_le := h.clock_le.trans h'.clock_le
      scheduled := ⟨ts ++ ts', by simp [hts, hts', has, hbs]⟩
      popped := ⟨ps ++ ps', by simp [hps, hps', has', hbs']⟩
      cancelled := h.cancelled.trans h'.cancelled }

/-- A call that gives out no token and takes out no timer writes nothing down and crosses out no fired one. -/
theorem Grows.of_quiet {L L' : Ledger} {a : TimerAnswer} (hclock : L.clock ≤ L'.clock)
    (hscheduled : L'.scheduled = L.scheduled) (hpopped : L'.popped = L.popped)
    (hcancelled : L.cancelled <+: L'.cancelled) (hissued : a.issued? = none) (hdue : a.popped? = none) :
    L.Grows [a] L' :=
  ⟨hclock, ⟨[], by simp [hscheduled, hissued]⟩, ⟨[], by simp [hpopped, hdue]⟩, hcancelled⟩

theorem grows_call (L : Ledger) (c : TimerCall) : L.Grows [(L.call c).1] (L.call c).2 := by
  cases c with
  | schedule wakeup delay =>
    exact ⟨Nat.le_refl _, ⟨[_], rfl, rfl⟩, ⟨[], (List.append_nil _).symm, rfl⟩, List.prefix_refl _⟩
  | cancel token => exact .of_quiet (Nat.le_refl _) rfl rfl (List.prefix_append _ _) rfl rfl
  | advanceTo time => exact .of_quiet (Nat.le_max_left _ _) rfl rfl (List.prefix_refl _) rfl rfl
  | advanceBy span => exact .of_quiet (Nat.le_add_right _ _) rfl rfl (List.prefix_refl _) rfl rfl
  | popDue =>
    rcases hnext : L.earliest? with _ | t
    · simp only [call, hnext]
      exact .of_quiet (Nat.le_refl _) rfl rfl (List.prefix_refl _) rfl rfl
    · simp only [call, hnext]
      exact ⟨Nat.le_refl _, ⟨[], (List.append_nil _).symm, rfl⟩, ⟨[(t, L.clock)], rfl, rfl⟩,
        List.prefix_refl _⟩

theorem grows_trace (L : Ledger) (cs : List TimerCall) :
    L.Grows (TimerCall.trace call L cs).1 (TimerCall.trace call L cs).2 := by
  induction cs generalizing L with
  | nil => exact .refl L
  | cons c cs ih => exact (L.grows_call c).trans (ih _)

/-- Queue and ledger give the same answers to any calls, and the ledger fits after them. -/
theorem Fits.trace (h : L.Fits q) (cs : List TimerCall) :
    (TimerCall.trace TimerQueue.call q cs).1 = (TimerCall.trace Ledger.call L cs).1 ∧
      (TimerCall.trace Ledger.call L cs).2.Fits (TimerCall.trace TimerQueue.call q cs).2 := by
  induction cs generalizing L q with
  | nil => exact ⟨rfl, h⟩
  | cons c cs ih =>
    obtain ⟨hanswer, hfits⟩ := h.call c
    obtain ⟨hanswers, hrest⟩ := ih hfits
    exact ⟨congrArg₂ _ hanswer hanswers, hrest⟩

/-! ### One fate for each timer -/

namespace Fits

/-- No token is in two places, or twice in one. -/
theorem nodup_fates (h : L.Fits q) : ((L.popped.map (·.1.token)) ++ L.cancelled.map (·.token) ++
    L.live.map (·.token)).Nodup := by
  have hnodup := (h.fates.map (·.token)).nodup_iff.2 h.nodup_tokens
  simpa only [List.map_append, List.map_map, Function.comp_def] using hnodup

/-- A token that was given out and waits no more has been popped or cancelled. -/
theorem mem_of_not_live (h : L.Fits q) {token : TimerToken} (hmem : token ∈ L.scheduled.map (·.token))
    (hlive : token ∉ L.live.map (·.token)) :
    token ∈ L.popped.map (·.1.token) ∨ token ∈ L.cancelled.map (·.token) := by
  rw [← (h.fates.map (·.token)).mem_iff] at hmem
  simp only [List.map_append, List.map_map, List.mem_append] at hmem
  exact hmem.resolve_right hlive

/-- Cancelling a token that does not wait changes nothing. -/
theorem cancel_eq_self (h : L.Fits q) {token : TimerToken} (hlive : token ∉ L.live.map (·.token)) :
    q.cancel token = q := by
  have hpending : q.pending.filter (fun t => t.token ≠ token) = q.pending :=
    List.filter_eq_self.2 fun t ht => decide_eq_true fun htoken =>
      hlive (List.mem_map.2 ⟨t, h.pending.mem_iff.1 ht, htoken⟩)
  cases q
  simp only [TimerQueue.cancel, TimerQueue.mk.injEq, true_and]
  exact hpending

/-- A token that was popped, was cancelled or was never given out does not wait. -/
theorem not_live (h : L.Fits q) {token : TimerToken}
    (hgone : token ∈ L.popped.map (·.1.token) ∨ token ∈ L.cancelled.map (·.token) ∨
      token ∉ L.scheduled.map (·.token)) : token ∉ L.live.map (·.token) := by
  intro hlive
  have hdisjoint := (List.nodup_append.1 h.nodup_fates).2.2
  rcases hgone with hp | hc | hs
  · exact hdisjoint _ (List.mem_append_left _ hp) _ hlive rfl
  · exact hdisjoint _ (List.mem_append_right _ hc) _ hlive rfl
  · exact hs ((h.live.map _).subset hlive)

/-- A token that was given out and waits no more is never popped again. -/
theorem never_popped (h : L.Fits q) {token : TimerToken} (hmem : token ∈ L.scheduled.map (·.token))
    (hlive : token ∉ L.live.map (·.token)) (cs : List TimerCall) :
    ∀ p ∈ (TimerCall.trace TimerQueue.call q cs).1.filterMap (·.popped?), p.1 ≠ token := by
  obtain ⟨hanswers, hfits⟩ := h.trace cs
  obtain ⟨-, -, ⟨ps, hps, hpopped⟩, ⟨cancelled, hcancelled⟩⟩ := L.grows_trace cs
  have hnodup := hfits.nodup_fates
  rw [hps, ← hcancelled, List.map_append, List.map_append] at hnodup
  rw [hanswers, hpopped]
  rintro _ hpair rfl
  obtain ⟨p, hp, rfl⟩ := List.mem_map.1 hpair
  have hnew : p.1.token ∈ ps.map (·.1.token) := List.mem_map_of_mem hp
  have hdisjoint := List.nodup_append.1 (List.nodup_append.1 hnodup).1
  rcases h.mem_of_not_live hmem hlive with hold | hold
  · exact (List.nodup_append.1 hdisjoint.1).2.2 _ hold _ hnew rfl
  · exact hdisjoint.2.2 _ (List.mem_append_right _ hnew) _ (List.mem_append_left _ hold) rfl

end Fits

/-- All that a ledger says of a queue that gave some answers. -/
structure Describes (L : Ledger) (answers : List TimerAnswer) (q : TimerQueue) : Prop where
  /-- The tokens that were given out are those of the timers in the ledger. -/
  issued : answers.filterMap (·.issued?) = L.scheduled.map (·.token)
  /-- No two of them are equal. -/
  distinct : (L.scheduled.map (·.token)).Nodup
  /-- The timers that were taken out are those that the ledger crosses out as fired. -/
  popped : answers.filterMap (·.popped?) = L.popped.map fun p => (p.1.token, p.1.wakeup)
  /-- None of them fired before it was due. -/
  punctual : ∀ p ∈ L.popped, p.1.due ≤ p.2
  /-- Each timer was popped, was cancelled or still waits, and only one of the three, once. -/
  fates : (L.popped.map (·.1) ++ L.cancelled ++ q.pending).Perm L.scheduled
  pending : q.pending.Perm L.live
  size_eq : q.size = L.live.length
  now_eq : q.now = L.clock
  popDue?_eq : q.popDue?.map (·.1) = L.earliest?
  popDue?_eq_none_iff : q.popDue? = none ↔ ∀ t ∈ L.live, L.clock < t.due
  nextDue?_eq : q.nextDue? = (L.live.map (·.due)).min?
  /-- A token that was popped, was cancelled or was never given out can be cancelled without effect. -/
  cancel_eq_self : ∀ token, token ∈ L.popped.map (·.1.token) ∨ token ∈ L.cancelled.map (·.token) ∨
    token ∉ L.scheduled.map (·.token) → q.cancel token = q

theorem Fits.describes (h : L.Fits q) {answers : List TimerAnswer} (hgrows : Grows {} answers L) :
    L.Describes answers q := by
  obtain ⟨-, ⟨ts, hts, hissued⟩, ⟨ps, hps, hpopped⟩, -⟩ := hgrows
  have hnone : q.popDue? = none ↔ ∀ t ∈ L.live, L.clock < t.due := by
    rw [← Option.map_eq_none_iff, h.map_popDue?, earliest?, List.argmin_eq_none, List.filter_eq_nil_iff]
    simp
  exact
    { issued := by rw [hissued, hts, List.nil_append]
      distinct := h.nodup_tokens
      popped := by rw [hpopped, hps, List.nil_append]
      punctual := h.punctual
      fates := (List.Perm.append_left _ h.pending).trans h.fates
      pending := h.pending
      size_eq := h.pending.length_eq
      now_eq := h.now_eq
      popDue?_eq := h.map_popDue?
      popDue?_eq_none_iff := hnone
      nextDue?_eq := h.nextDue?_eq
      cancel_eq_self := fun _ hgone => h.cancel_eq_self (h.not_live hgone) }

/-- A ledger with nothing in it, after some calls, and its answers. -/
def run (cs : List TimerCall) : List TimerAnswer × Ledger := TimerCall.trace call {} cs

end Ledger

namespace TimerQueue

/-- A queue with no timer, after some calls, and its answers. -/
def run (cs : List TimerCall) : List TimerAnswer × TimerQueue := TimerCall.trace call empty cs

/-- **A queue is its ledger.**  Whatever is called, the queue gives the answers of the ledger, and the ledger
says what is in the queue, what will be popped next and what became of every timer.  Calls that follow leave
what is in the ledger as it is, and a timer that is cancelled is not popped by any of them. -/
theorem refines_ledger (cs ds : List TimerCall) :
    (run cs).1 = (Ledger.run cs).1 ∧
      (Ledger.run cs).2.Describes (run cs).1 (run cs).2 ∧
      (Ledger.run cs).2.Grows (TimerCall.trace call (run cs).2 ds).1 (Ledger.run (cs ++ ds)).2 ∧
      ∀ token ∈ (run cs).1.filterMap (·.issued?),
        ∀ p ∈ (TimerCall.trace call ((run cs).2.cancel token) ds).1.filterMap (·.popped?), p.1 ≠ token := by
  obtain ⟨hanswers, hfits⟩ := Ledger.fits_empty.trace cs
  have hdescribes := hfits.describes (hanswers ▸ Ledger.grows_trace {} cs)
  refine ⟨hanswers, hdescribes, ?_, fun token htoken => ?_⟩
  · rw [run, (hfits.trace ds).1, Ledger.run, Ledger.run, TimerCall.trace_append]
    exact Ledger.grows_trace _ ds
  · have hissued : token ∈ (Ledger.run cs).2.scheduled.map (·.token) := hdescribes.issued ▸ htoken
    refine (hfits.cancel token).never_popped hissued ?_ ds
    simp [Ledger.call]

/-- Three timers, two of them due first and together, of which one has fired. -/
def Sample.timerCalls : List TimerCall :=
  [.schedule .advance 800, .schedule .advance 500, .schedule .restart 500, .advanceTo 500, .popDue]

theorem refines_ledger_sample :
    (run Sample.timerCalls).1.filterMap (·.popped?) = [(⟨1⟩, .advance)] ∧
      (run Sample.timerCalls).2.popDue?.map (·.1) = some ⟨500, ⟨2⟩, .restart⟩ ∧
      (run Sample.timerCalls).2.cancel ⟨1⟩ = (run Sample.timerCalls).2 ∧
      ∀ p ∈ (TimerCall.trace call ((run Sample.timerCalls).2.cancel ⟨0⟩)
        [.advanceBy 300, .popDue, .popDue]).1.filterMap (·.popped?), p.1 ≠ ⟨0⟩ := by
  obtain ⟨-, hdescribes, -, hcancelled⟩ :=
    refines_ledger Sample.timerCalls [.advanceBy 300, .popDue, .popDue]
  exact ⟨by decide, hdescribes.popDue?_eq.trans (by decide), hdescribes.cancel_eq_self ⟨1⟩ (.inl (by decide)),
    hcancelled ⟨0⟩ (by decide)⟩

end TimerQueue

end Marionette
