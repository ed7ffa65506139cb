/-!
# Timers on a virtual clock

Timers wait for a point of time on a clock that moves only when it is told to.  They fire in the order of
their due times, and in the order of scheduling where these are equal.  Times are milliseconds.

The range of the clock ends at its horizon.  A sum of times that is not before it is no time, and whoever asks
for it gets no answer.

## Main definitions

* `TimerToken`, `Wakeup`, `Timer`, `TimerQueue`.
* `TimerQueue.schedule`, `cancel`, `advanceTo`, `advanceBy`, `popDue?`, `nextDue?`.
* `TimerQueue.horizon`, `InRange` — where the clock's range ends, and that no time is beyond it.
* `TimerQueue.schedule?`, `advanceBy?` — the two sums of times, which have an answer in range only.

## Main results

* `TimerQueue.mem_pending_schedule` — scheduling adds one timer and keeps the others.
* `TimerQueue.mem_pending_cancel` — cancelling takes out the timer of the token and no other.
* `TimerQueue.le_of_popDue?` — what is popped is due and was the first to be.
-/

namespace Marionette

/-- The name of a scheduled timer. -/
structure TimerToken where
  index : Nat
  deriving DecidableEq, Repr

/-- What to do when a timer fires. -/
inductive Wakeup
  /-- Apply the next step of the run. -/
  | advance
  /-- Compile and start a repeat run. -/
  | restart
  deriving DecidableEq, Repr

/-- A timer that waits. -/
structure Timer where
  due : Nat
  token : TimerToken
  wakeup : Wakeup
  deriving DecidableEq, Repr

/-- Whether `a` fires before `b`. -/
def Timer.Before (a b : Timer) : Prop := a.due < b.due ∨ a.due = b.due ∧ a.token.index < b.token.index

/-- A clock and the timers that wait on it, the next one first. -/
structure TimerQueue where
  now : Nat := 0
  /-- The number of timers scheduled so far; it names the next one. -/
  issued : Nat := 0
  pending : List Timer := []
  ordered : pending.Pairwise Timer.Before := by exact .nil
  token_lt : ∀ t ∈ pending, t.token.index < issued := by simp

namespace TimerQueue

/-- The clock at zero with no timer. -/
def empty : TimerQueue := {}

instance : Inhabited TimerQueue := ⟨empty⟩

/-- The first millisecond beyond the range of the clock, which counts whole seconds in 64 bits. -/
def horizon : Nat := UInt64.size * 1000

/-! ### Looking -/

/-- The number of timers that wait. -/
def size (q : TimerQueue) : Nat := q.pending.length

/-- Whether no timer waits. -/
def isEmpty (q : TimerQueue) : Bool := q.pending.isEmpty

/-- When the next timer is due. -/
def nextDue? (q : TimerQueue) : Option Nat := q.pending.head?.map (·.due)

/-! ### Scheduling -/

/-- Put a timer behind those that are due no later. -/
def place (t : Timer) : List Timer → List Timer
  | [] => [t]
  | u :: us => if u.due ≤ t.due then u :: place t us else t :: u :: us

@[simp] theorem mem_place {t u : Timer} {us : List Timer} : u ∈ place t us ↔ u = t ∨ u ∈ us := by
  induction us with
  | nil => simp [place]
  | cons v us ih =>
    rw [place]
    split
    · simp [ih, or_left_comm]
    · simp

theorem place_perm (t : Timer) (us : List Timer) : (place t us).Perm (t :: us) := by
  induction us with
  | nil => exact .refl _
  | cons u us ih =>
    rw [place]
    split
    · exact (ih.cons u).trans (.swap t u us)
    · exact .refl _

theorem ordered_place {t : Timer} {us : List Timer} (h : us.Pairwise Timer.Before)
    (ht : ∀ u ∈ us, u.token.index < t.token.index) : (place t us).Pairwise Timer.Before := by
  induction us with
  | nil => simp [place]
  | cons v us ih =>
    obtain ⟨hv, hus⟩ := List.pairwise_cons.1 h
    rw [place]
    split
    · next hle =>
      refine List.pairwise_cons.2
        ⟨fun u hu => ?_, ih hus fun u hu => ht u (List.mem_cons_of_mem _ hu)⟩
      rcases mem_place.1 hu with rfl | hu
      · have := ht v List.mem_cons_self
        simp only [Timer.Before]
        omega
      · exact hv u hu
    · next hlt =>
      refine List.pairwise_cons.2 ⟨fun u hu => ?_, h⟩
      rcases List.mem_cons.1 hu with rfl | hu
      · exact .inl (by omega)
      · have := hv u hu
        simp only [Timer.Before] at this ⊢
        omega

/-- The token of the next timer. -/
def nextToken (q : TimerQueue) : TimerToken := ⟨q.issued⟩

/-- Schedule a timer `delay` from now, however far that is: `schedule?` is the call with the horizon in it. -/
def schedule (q : TimerQueue) (wakeup : Wakeup) (delay : Nat) : TimerToken × TimerQueue :=
  (q.nextToken,
    { now := q.now
      issued := q.issued + 1
      pending := place ⟨q.now + delay, q.nextToken, wakeup⟩ q.pending
      ordered := ordered_place q.ordered q.token_lt
      token_lt := fun t ht => by
        rcases mem_place.1 ht with rfl | ht
        · exact Nat.lt_succ_self _
        · exact Nat.lt_succ_of_lt (q.token_lt t ht) })

@[simp] theorem fst_schedule (q : TimerQueue) (wakeup : Wakeup) (delay : Nat) :
    (q.schedule wakeup delay).1 = q.nextToken := rfl

/-- Take out the timer of a token, if it still waits. -/
def cancel (q : TimerQueue) (token : TimerToken) : TimerQueue :=
  { now := q.now
    issued := q.issued
    pending := q.pending.filter fun t => t.token ≠ token
    ordered := q.ordered.filter _
    token_lt := fun t ht => q.token_lt t (List.mem_filter.1 ht).1 }

theorem mem_pending_schedule (q : TimerQueue) (wakeup : Wakeup) (delay : Nat) (t : Timer) :
    t ∈ (q.schedule wakeup delay).2.pending ↔
      t = ⟨q.now + delay, q.nextToken, wakeup⟩ ∨ t ∈ q.pending := mem_place

theorem mem_pending_cancel (q : TimerQueue) (token : TimerToken) (t : Timer) :
    t ∈ (q.cancel token).pending ↔ t ∈ q.pending ∧ t.token ≠ token := by
  simp [cancel, List.mem_filter]

/-! ### The clock -/

/-- Move the clock on to `time`; it never goes back. -/
def advanceTo (q : TimerQueue) (time : Nat) : TimerQueue := { q with now := max q.now time }

/-- A clock that shows the time already, or a later one, stays where it is. -/
theorem advanceTo_of_le {q : TimerQueue} {time : Nat} (h : time ≤ q.now) : q.advanceTo time = q := by
  rw [advanceTo, Nat.max_eq_left h]

/-- Move the clock on by `span`, however far that is: `advanceBy?` is the call with the horizon in it. -/
def advanceBy (q : TimerQueue) (span : Nat) : TimerQueue := { q with now := q.now + span }

/-- Take out the first timer, if it is due. -/
def popDue? (q : TimerQueue) : Option (Timer × TimerQueue) :=
  match h : q.pending with
  | [] => none
  | t :: ts =>
    if t.due ≤ q.now then
      some (t,
        { now := q.now
          issued := q.issued
          pending := ts
          ordered := (List.pairwise_cons.1 (h ▸ q.ordered)).2
          token_lt := fun u hu => q.token_lt u (h ▸ List.mem_cons_of_mem _ hu) })
    else none

/-- What is popped is due, and every other timer fires later. -/
theorem le_of_popDue? {q q' : TimerQueue} {t : Timer} (h : q.popDue? = some (t, q')) :
    t.due ≤ q.now ∧ q.pending = t :: q'.pending ∧ ∀ u ∈ q'.pending, t.Before u := by
  rw [popDue?.eq_def] at h
  split at h
  · cases h
  · next t' ts hp =>
    split at h
    · next hdue =>
      simp only [Option.some.injEq, Prod.mk.injEq] at h
      obtain ⟨rfl, rfl⟩ := h
      exact ⟨hdue, hp, (List.pairwise_cons.1 (hp ▸ q.ordered)).1⟩
    · cases h

/-- Taking a timer out neither moves the clock nor gives out a token. -/
theorem now_of_popDue? {q q' : TimerQueue} {t : Timer} (h : q.popDue? = some (t, q')) :
    q'.now = q.now ∧ q'.issued = q.issued := by
  rw [popDue?.eq_def] at h
  split at h
  · cases h
  · split at h
    · simp only [Option.some.injEq, Prod.mk.injEq] at h
      obtain ⟨-, rfl⟩ := h
      exact ⟨rfl, rfl⟩
    · cases h

/-- The first timer can be taken out when it is due. -/
theorem exists_popDue? {q : TimerQueue} {t : Timer} {ts : List Timer} (h : q.pending = t :: ts)
    (hdue : t.due ≤ q.now) : ∃ q', q.popDue? = some (t, q') := by
  rw [popDue?.eq_def]
  split
  · next hnil => rw [h] at hnil; cases hnil
  · next t' ts' hcons =>
    obtain rfl : t' = t := (List.cons.inj (hcons.symm.trans h)).1
    rw [if_pos hdue]
    exact ⟨_, rfl⟩

/-- The first timer is due no later than any other. -/
theorem due_le_of_mem {q : TimerQueue} {t u : Timer} {ts : List Timer} (h : q.pending = t :: ts)
    (hu : u ∈ q.pending) : t.due ≤ u.due := by
  rw [h, List.mem_cons] at hu
  rcases hu with rfl | hu
  · exact Nat.le_refl _
  · have hbefore : t.Before u := (List.pairwise_cons.1 (h ▸ q.ordered)).1 u hu
    rcases hbefore with hlt | ⟨heq, -⟩
    · exact Nat.le_of_lt hlt
    · exact Nat.le_of_eq heq

/-- A timer can be taken out when any is due. -/
theorem exists_popDue?_of_mem {q : TimerQueue} {t : Timer} (ht : t ∈ q.pending) (hdue : t.due ≤ q.now) :
    ∃ u q', q.popDue? = some (u, q') := by
  rcases hq : q.pending with _ | ⟨u, us⟩
  · rw [hq] at ht
    cases ht
  · obtain ⟨q', hpop⟩ := exists_popDue? hq (Nat.le_trans (due_le_of_mem hq ht) hdue)
    exact ⟨u, q', hpop⟩

/-- Where no timer can be taken out, all are due later. -/
theorem lt_due_of_popDue?_eq_none {q : TimerQueue} (h : q.popDue? = none) {t : Timer}
    (ht : t ∈ q.pending) : q.now < t.due := by
  refine Nat.lt_of_not_le fun hdue => ?_
  obtain ⟨u, q', hpop⟩ := exists_popDue?_of_mem ht hdue
  cases h.symm.trans hpop

/-- No timer can be taken out when the first is not due yet. -/
theorem popDue?_eq_none_iff {q : TimerQueue} :
    q.popDue? = none ↔ ∀ t ∈ q.pending.head?, q.now < t.due := by
  rw [popDue?.eq_def]
  split
  · next hnil => simp [hnil]
  · next t ts hcons => split <;> simp_all

/-- When the clock shows the next due time, a timer can be taken out. -/
theorem exists_popDue?_advanceTo {q : TimerQueue} {t : Timer} {ts : List Timer}
    (h : q.pending = t :: ts) : ∃ q', (q.advanceTo t.due).popDue? = some (t, q') :=
  exists_popDue? (q := q.advanceTo t.due) h (Nat.le_max_right _ _)

/-! ### The range of the clock -/

/-- Every time that the clock has shown or is to show is before its horizon. -/
structure InRange (q : TimerQueue) : Prop where
  now_lt : q.now < horizon
  due_lt : ∀ t ∈ q.pending, t.due < horizon

theorem inRange_iff {q : TimerQueue} :
    q.InRange ↔ q.now < horizon ∧ ∀ t ∈ q.pending, t.due < horizon :=
  ⟨fun h => ⟨h.now_lt, h.due_lt⟩, fun h => ⟨h.1, h.2⟩⟩

instance (q : TimerQueue) : Decidable q.InRange := decidable_of_decidable_of_iff inRange_iff.symm

/-- Schedule a timer `delay` from now, unless that is beyond the horizon. -/
def schedule? (q : TimerQueue) (wakeup : Wakeup) (delay : Nat) : Option (TimerToken × TimerQueue) :=
  if q.now + delay < horizon then some (q.schedule wakeup delay) else none

/-- Move the clock on by `span`, unless that is beyond the horizon. -/
def advanceBy? (q : TimerQueue) (span : Nat) : Option TimerQueue :=
  if q.now + span < horizon then some (q.advanceBy span) else none

/-- Of a queue in range, the sum decides whether a new timer is. -/
theorem InRange.schedule_iff {q : TimerQueue} (h : q.InRange) (wakeup : Wakeup) (delay : Nat) :
    (q.schedule wakeup delay).2.InRange ↔ q.now + delay < horizon := by
  constructor
  · intro hrange
    exact hrange.due_lt _ ((q.mem_pending_schedule wakeup delay _).mpr (.inl rfl))
  · intro hdue
    refine ⟨h.now_lt, fun t ht => ?_⟩
    rcases (q.mem_pending_schedule wakeup delay t).mp ht with rfl | ht
    · exact hdue
    · exact h.due_lt t ht

end TimerQueue

end Marionette
