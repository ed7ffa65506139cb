import Marionette.Proofs.Playback.Reachable
import Mathlib.Logic.Relation

/-!
# Whose timers wait

A player shares its queue with others.  They set timers, take their own out again and move the clock, and
they may tell the player of any token at any time; only the pending one is told of after it was popped, and
then at once.  So nobody but the player and the clock touches the player's timers.  Then the queue holds one
timer of a player that plays, the pending one, and none of a player that is idle.  Ending cancels nothing,
but whoever ends was woken by the timer or has cancelled it, so no timer stays behind.

No token is given out twice.  A timer that was taken, or whose run was stopped, has no effect ever after.

## Main definitions

* `Shared` — a player and a queue, with a record of the tokens that the player was given.
* `Shared.Step`, `Shared.Leads` — what may happen next, and what may come of it.
* `Playback.Handles` — what a call does with the pending timer.

## Main results

* `Playback.handles_call` — every call keeps the timer, sets it, takes it or cancels it.
* `Shared.Kept.step` — one timer of the player waits while it plays, and none while it is idle.
* `Shared.Spent.inert_of_leads` — a token that is not pending any more never has an effect again.
* `Shared.timers_of_leads` — both, of everything that may happen.
-/

namespace Marionette

/-! ### Tokens and queues -/

namespace TimerQueue

variable {q q' : TimerQueue}

/-- The tokens that were given out between `q` and `q'`. -/
def givenOut (q q' : TimerQueue) : List TimerToken :=
  (List.range' q.issued (q'.issued - q.issued)).map TimerToken.mk

theorem givenOut_of_issued_eq (h : q'.issued = q.issued) : q.givenOut q' = [] := by
  simp [givenOut, h]

theorem givenOut_schedule (q : TimerQueue) (wakeup : Wakeup) (delay : Nat) :
    q.givenOut (q.schedule wakeup delay).2 = [q.nextToken] := by
  simp [givenOut, schedule, nextToken]

/-- No timer has the token that is given out next. -/
theorem ne_nextToken {t : Timer} (h : t ∈ q.pending) : t.token ≠ q.nextToken := by
  intro heq
  have hlt := q.token_lt t h
  rw [heq] at hlt
  exact Nat.lt_irrefl _ hlt

/-- A timer that a filter leaves out does not show behind the filter. -/
theorem filter_place_of_eq_false {p : Timer → Bool} {t : Timer} (ht : p t = false) (us : List Timer) :
    (place t us).filter p = us.filter p := by
  induction us with
  | nil => simp [place, ht]
  | cons u us ih =>
    rw [place]
    split
    · simp [List.filter_cons, ih]
    · simp [List.filter_cons_of_neg, ht]

/-- A timer that a filter lets through stands alone behind the filter if none does that was there. -/
theorem filter_place_of_filter_eq_nil {p : Timer → Bool} {t : Timer} (ht : p t = true) {us : List Timer}
    (hus : us.filter p = []) : (place t us).filter p = [t] := by
  induction us with
  | nil => simp [place, ht]
  | cons u us ih =>
    obtain ⟨hu, hus'⟩ : p u = false ∧ us.filter p = [] := by
      rcases hu : p u with _ | _
      · rw [List.filter_cons_of_neg (by simp [hu])] at hus
        exact ⟨rfl, hus⟩
      · rw [List.filter_cons_of_pos hu] at hus
        cases hus
    rw [place]
    split
    · rw [List.filter_cons_of_neg (by simp [hu]), ih hus']
    · rw [List.filter_cons_of_pos ht, hus]

end TimerQueue

/-! ### What a call does with the timer -/

namespace Playback

variable {σ : Type} [Display σ] {pb pb' : Playback σ}

/-- The call tells the player of its pending timer. -/
def Wakes (p : Player) (c : Call) : Prop :=
  ∃ token, c = .onTimer token ∧ p.pendingToken? = some token

/-- The call takes the pending timer from the player: it tells of it, or it stops. -/
def Releases (p : Player) (c : Call) (token : TimerToken) : Prop :=
  p.pendingToken? = some token ∧ (c = .onTimer token ∨ c = .stop)

/-- Only a stop and the news of a timer can release it. -/
theorem not_releases {p : Player} {c : Call} {token : TimerToken} (hstop : c ≠ .stop)
    (htold : c ≠ .onTimer token) : ¬ Releases p c token := by
  rintro ⟨-, htold' | hstop'⟩
  · exact htold htold'
  · exact hstop hstop'

/-- What a call does with the pending timer. -/
inductive Handles (pb : Playback σ) (c : Call) (pb' : Playback σ) : Prop
  | keeps (hpending : pb'.player.pending? = pb.player.pending?) (htimers : pb'.timers = pb.timers)
    (hkept : ∀ token, ¬ Releases pb.player c token)
  /-- A timer is set where none is, or in place of the one that was told of. -/
  | sets (wakeup : Wakeup) (delay : Nat) (hfree : pb.player.pending? = none ∨ Wakes pb.player c)
    (hpending : pb'.player.pending? = some (pb.timers.nextToken, wakeup))
    (htimers : pb'.timers = (pb.timers.schedule wakeup delay).2)
  /-- The timer that was told of is the last one. -/
  | ends (hwakes : Wakes pb.player c) (hpending : pb'.player.pending? = none)
    (htimers : pb'.timers = pb.timers)
  | cancels (token : TimerToken) (wakeup : Wakeup) (hold : pb.player.pending? = some (token, wakeup))
    (hpending : pb'.player.pending? = none) (htimers : pb'.timers = pb.timers.cancel token)

/-- What the pending timer leads to has a timer that was set just now, or none. -/
theorem Woken.handles {run : Run} {actors : List ActorId} {s : Snapshot} {c : Call}
    (h : Woken pb run actors s pb') (hwakes : Wakes pb.player c) : pb.Handles c pb' := by
  cases h with
  | moved s' hs hs' heq hplays =>
    rw [heq]
    exact .sets .advance _ (.inr hwakes) (by rw [player_arm]; rfl) rfl
  | asked s' hs hs' hcap heq hplays =>
    rw [heq]
    exact .sets .restart _ (.inr hwakes) (by rw [player_arm]; rfl) rfl
  | ended s' hs hsnap hend heq hrests =>
    rw [heq]
    exact .ends hwakes rfl rfl
  | repeated out first hs hout heq hplays =>
    rw [heq]
    exact .sets .advance _ (.inr hwakes) rfl rfl

theorem handles_onTimer (h : pb.player.Sound) (token : TimerToken) :
    pb.Handles (.onTimer token) (pb.call (.onTimer token)) := by
  by_cases htoken : pb.player.pendingToken? = some token
  · obtain ⟨run, actors, s, hplays⟩ := h.playsAt htoken
    exact (woken_of_playsAt hplays).handles ⟨token, rfl, htoken⟩
  · rw [call, onTimer_of_ne pb htoken]
    refine .keeps rfl rfl ?_
    rintro token' ⟨hpending, htold | hstop⟩
    · cases htold
      exact htoken hpending
    · cases hstop

theorem handles_play (h : pb.player.Sound) (flow : Flow) :
    pb.Handles (.play flow) (pb.call (.play flow)) := by
  have hkept : ∀ token, ¬ Releases pb.player (.play flow) token := fun token =>
    not_releases nofun nofun
  rw [call]
  rcases hrunning : pb.player.isRunning with _ | _
  · rcases hne : (pb.compile flow).1.isEmpty with _ | _
    · obtain ⟨pb', hplay, hstarts⟩ := exists_starts hrunning hne
      obtain ⟨first, hstart, hplays⟩ := hstarts.exists_playsAt
      have hrests : pb.player.pending? = none := by
        rcases h with ⟨h, -⟩ | ⟨run, actors, s, token, h, -⟩
        · exact h.pending_eq
        · exact absurd (hrunning.symm.trans h.isRunning_eq) Bool.false_ne_true
      rw [hplay]
      refine .sets .advance pb.player.stepDelay (.inl hrests) ?_ ?_
      · rw [hstart, player_arm]
        rfl
      · have hpending : ((pb.compile flow).2.begun flow (pb.compile flow).1 first).player.pending? =
            none := hrests
        rw [hstart, timers_arm _ hpending]
        rfl
    · rw [play_of_isEmpty hrunning hne]
      exact .keeps rfl rfl hkept
  · rw [play, hrunning]
    exact .keeps rfl rfl hkept

theorem handles_stop (h : pb.player.Sound) : pb.Handles .stop (pb.call .stop) := by
  rcases h with ⟨h, -⟩ | ⟨run, actors, s, token, h, -⟩
  · rw [call, stop_of_idle pb h.isRunning_eq]
    refine .keeps rfl rfl ?_
    rintro token ⟨hpending, -⟩
    rw [Player.pendingToken?, h.pending_eq] at hpending
    cases hpending
  · refine .cancels token s.wakeup h.pending_eq ?_ ?_
    · simp [call, stop, h.isRunning_eq, Player.note]
    · simp [call, stop, h.isRunning_eq, disarm, h.pending_eq]

/-- **Every call keeps the pending timer, sets it, takes it or cancels it**, and does nothing else to the
queue. -/
theorem handles_call (h : pb.player.Sound) (c : Call) : pb.Handles c (pb.call c) := by
  cases c with
  | play flow => exact handles_play h flow
  | stop => exact handles_stop h
  | onTimer token => exact handles_onTimer h token
  | compile flow => exact .keeps rfl rfl fun token => not_releases nofun nofun
  | takeEvents => exact .keeps rfl rfl fun token => not_releases nofun nofun

end Playback

/-! ### A queue that is shared -/

/-- A player and the queue that it shares with others. -/
structure Shared where
  player : Player
  timers : TimerQueue
  /-- The tokens that the player was given for its timers. -/
  own : List TimerToken := []
  /-- The pending timer was popped, and the player was not told of it yet. -/
  popped : Bool := false

namespace Shared

variable {σ : Type} [Display σ]

/-- The player in front of a display. -/
def facing (w : Shared) (display : σ) : Playback σ :=
  { player := w.player, display, timers := w.timers }

/-- The player and the queue after a call.  The tokens that were given out meanwhile are the player's. -/
def after (w : Shared) (pb : Playback σ) : Shared :=
  { player := pb.player, timers := pb.timers, own := w.own ++ w.timers.givenOut pb.timers }

/-- A call on the player in front of a display. -/
def call (w : Shared) (display : σ) (c : Call) : Shared := w.after ((w.facing display).call c)

/-- What may happen next. -/
inductive Step (w : Shared) : Shared → Prop
  /-- A call on the player, in front of any display.  It is told of its pending timer exactly when that has
  been popped, and until then of nothing else. -/
  | call {σ : Type} [Display σ] (display : σ) (c : Call)
      (h : w.popped = true ↔ Playback.Wakes w.player c) : Step w (w.call display c)
  /-- The pending timer is popped. -/
  | pop (t : Timer) (timers : TimerQueue) (hpop : w.timers.popDue? = some (t, timers))
      (ht : w.player.pendingToken? = some t.token) : Step w { w with timers, popped := true }
  /-- Others pop a timer of theirs. -/
  | popOther (t : Timer) (timers : TimerQueue) (hpop : w.timers.popDue? = some (t, timers))
      (ht : t.token ∉ w.own) : Step w { w with timers }
  /-- Others set a timer. -/
  | schedule (wakeup : Wakeup) (delay : Nat) :
      Step w { w with timers := (w.timers.schedule wakeup delay).2 }
  /-- Others cancel a token, but none of the player's. -/
  | cancel (token : TimerToken) (h : token ∉ w.own) :
      Step w { w with timers := w.timers.cancel token }
  /-- The clock moves. -/
  | clock (time : Nat) : Step w { w with timers := w.timers.advanceTo time }

/-- What may come of `w`. -/
def Leads : Shared → Shared → Prop := Relation.ReflTransGen Step

/-- The player's timers that wait in the queue. -/
def waiting (w : Shared) : List Timer := w.timers.pending.filter fun t => t.token ∈ w.own

/-- The player's timers are those it knows of: the pending one waits in the queue until it is popped, and no
other one does. -/
structure Kept (w : Shared) : Prop where
  sound : w.player.Sound
  own_lt : ∀ token ∈ w.own, token.index < w.timers.issued
  pending_mem : ∀ token, w.player.pendingToken? = some token → token ∈ w.own
  waiting_eq : w.waiting.map (fun t => (t.token, t.wakeup)) =
    if w.popped then [] else w.player.pending?.toList

variable {w w' : Shared}

omit [Display σ] in
theorem nextToken_notMem (h : w.Kept) : w.timers.nextToken ∉ w.own := fun hmem =>
  Nat.lt_irrefl _ (h.own_lt _ hmem)

/-- Where no timer of the player waits, a timer that it sets waits alone. -/
theorem waiting_of_schedule {player : Player} (h : w.waiting = []) (wakeup : Wakeup) (delay : Nat) :
    waiting { player, timers := (w.timers.schedule wakeup delay).2, own := w.own ++ [w.timers.nextToken] } =
      [⟨w.timers.now + delay, w.timers.nextToken, wakeup⟩] := by
  refine TimerQueue.filter_place_of_filter_eq_nil (by simp) ?_
  rw [← h]
  refine List.filter_congr ?_
  intro t ht
  simp [TimerQueue.ne_nextToken ht]

/-- Nothing of the player waits when it has no timer, or when that was popped. -/
theorem Kept.waiting_eq_nil (h : w.Kept) (hnone : w.player.pending? = none ∨ w.popped = true) :
    w.waiting = [] := by
  have heq := h.waiting_eq
  rcases hnone with hnone | hpopped
  · rw [hnone] at heq
    simpa using heq
  · rw [hpopped] at heq
    simpa using heq

/-- Cancelling the pending timer leaves none of the player's. -/
theorem waiting_of_cancel (h : w.Kept) {token : TimerToken} {wakeup : Wakeup}
    (hpending : w.player.pending? = some (token, wakeup)) :
    waiting { w with timers := w.timers.cancel token } = [] := by
  have hmap := h.waiting_eq
  rw [hpending] at hmap
  refine List.filter_eq_nil_iff.mpr ?_
  intro t ht hown
  obtain ⟨hmem, hne⟩ := (TimerQueue.mem_pending_cancel _ _ _).mp ht
  have hin : (t.token, t.wakeup) ∈ w.waiting.map fun t => (t.token, t.wakeup) :=
    List.mem_map_of_mem (List.mem_filter.mpr ⟨hmem, hown⟩)
  rw [hmap] at hin
  split at hin
  · cases hin
  · rw [Option.toList_some, List.mem_singleton] at hin
    exact hne (congrArg Prod.fst hin)

omit [Display σ] in
/-- **A call keeps what the player knows of its timers.** -/
theorem Kept.after (h : w.Kept) {display : σ} {c : Call}
    (hc : w.popped = true ↔ Playback.Wakes w.player c) {pb : Playback σ} (hsound : pb.player.Sound)
    (hhandles : (w.facing display).Handles c pb) : (w.after pb).Kept := by
  obtain ⟨player, display', timers⟩ := pb
  cases hhandles with
  | keeps hpending htimers hkept =>
    obtain rfl : timers = w.timers := htimers
    have hpending : player.pending? = w.player.pending? := hpending
    have hpopped : w.popped = false := by
      refine Bool.eq_false_iff.mpr fun hpopped => ?_
      obtain ⟨token, htold, htoken⟩ := hc.mp hpopped
      exact hkept token ⟨htoken, .inl htold⟩
    have hwaiting := h.waiting_eq
    rw [hpopped] at hwaiting
    rw [Shared.after, TimerQueue.givenOut_of_issued_eq rfl, List.append_nil]
    refine ⟨hsound, h.own_lt, ?_, ?_⟩
    · intro token htoken
      rw [Player.pendingToken?, hpending] at htoken
      exact h.pending_mem token htoken
    · rw [hpending]
      exact hwaiting
  | sets wakeup delay hfree hpending htimers =>
    obtain rfl : timers = (w.timers.schedule wakeup delay).2 := htimers
    have hpending : player.pending? = some (w.timers.nextToken, wakeup) := hpending
    rw [Shared.after, TimerQueue.givenOut_schedule]
    refine ⟨hsound, ?_, ?_, ?_⟩
    · intro token htoken
      rcases List.mem_append.mp htoken with hmem | hmem
      · exact Nat.lt_succ_of_lt (h.own_lt token hmem)
      · rw [List.mem_singleton.mp hmem]
        exact Nat.lt_succ_self _
    · intro token htoken
      rw [Player.pendingToken?, hpending] at htoken
      rw [← Option.some.inj htoken]
      exact List.mem_append_right _ (List.mem_singleton_self _)
    · rw [waiting_of_schedule (h.waiting_eq_nil (hfree.imp_right hc.mpr)), hpending]
      rfl
  | ends hwakes hpending htimers =>
    obtain rfl : timers = w.timers := htimers
    have hpending : player.pending? = none := hpending
    rw [Shared.after, TimerQueue.givenOut_of_issued_eq rfl, List.append_nil]
    refine ⟨hsound, h.own_lt, ?_, ?_⟩
    · intro token htoken
      rw [Player.pendingToken?, hpending] at htoken
      cases htoken
    · rw [hpending]
      exact congrArg (List.map _) (h.waiting_eq_nil (.inr (hc.mpr hwakes)))
  | cancels token wakeup hold hpending htimers =>
    obtain rfl : timers = w.timers.cancel token := htimers
    have hpending : player.pending? = none := hpending
    have hnone : w.timers.givenOut (w.timers.cancel token) = [] := TimerQueue.givenOut_of_issued_eq rfl
    rw [Shared.after, hnone, List.append_nil]
    refine ⟨hsound, h.own_lt, ?_, ?_⟩
    · intro token' htoken'
      rw [Player.pendingToken?, hpending] at htoken'
      cases htoken'
    · rw [hpending]
      exact congrArg (List.map _) (waiting_of_cancel h hold)

theorem Kept.handles_call (h : w.Kept) (display : σ) (c : Call) :
    (w.facing display).Handles c ((w.facing display).call c) :=
  have hsound : (w.facing display).player.Sound := h.sound
  Playback.handles_call hsound c

theorem Kept.call (h : w.Kept) (display : σ) {c : Call}
    (hc : w.popped = true ↔ Playback.Wakes w.player c) : (w.call display c).Kept := by
  have hsound : (w.facing display).player.Sound := h.sound
  exact h.after hc (Playback.sound_call hsound c) (h.handles_call display c)

/-- What others do to the queue keeps what the player knows of its timers. -/
theorem Kept.timers (h : w.Kept) {timers : TimerQueue} (hissued : w.timers.issued ≤ timers.issued)
    (hwaiting : ({ w with timers } : Shared).waiting = w.waiting) : ({ w with timers } : Shared).Kept :=
  ⟨h.sound, fun token htoken => Nat.lt_of_lt_of_le (h.own_lt token htoken) hissued, h.pending_mem,
    hwaiting ▸ h.waiting_eq⟩

/-- **Whatever happens, the player's timers are those it knows of.** -/
theorem Kept.step (h : w.Kept) (hstep : w.Step w') : w'.Kept := by
  cases hstep with
  | call display c hc => exact h.call display hc
  | pop t timers hpop ht =>
    have hhead : w.waiting = t :: waiting { w with timers } := by
      rw [waiting, waiting, (TimerQueue.le_of_popDue? hpop).2.1,
        List.filter_cons_of_pos (by simpa using h.pending_mem t.token ht)]
    refine ⟨h.sound, ?_, h.pending_mem, ?_⟩
    · rw [(TimerQueue.now_of_popDue? hpop).2]
      exact h.own_lt
    · have hmap := h.waiting_eq
      rw [hhead, List.map_cons] at hmap
      split at hmap
      · cases hmap
      · rcases hpending : w.player.pending? with _ | own
        · rw [hpending] at hmap
          cases hmap
        · rw [hpending] at hmap
          exact (List.cons.inj hmap).2
  | popOther t timers hpop ht =>
    refine h.timers (Nat.le_of_eq (TimerQueue.now_of_popDue? hpop).2.symm) ?_
    rw [waiting, waiting, (TimerQueue.le_of_popDue? hpop).2.1,
      List.filter_cons_of_neg (by simpa using ht)]
  | schedule wakeup delay =>
    exact h.timers (Nat.le_succ _)
      (TimerQueue.filter_place_of_eq_false (by simpa using nextToken_notMem h) _)
  | cancel token htoken =>
    refine h.timers (Nat.le_refl _) ?_
    change (w.timers.pending.filter _).filter _ = _
    rw [List.filter_filter]
    refine List.filter_congr ?_
    intro t _
    by_cases hown : t.token ∈ w.own
    · have hne : t.token ≠ token := fun heq => htoken (heq ▸ hown)
      simp [hown, hne]
    · simp [hown]
  | clock time => exact h.timers (Nat.le_refl _) rfl

theorem Kept.leads (h : w.Kept) (hleads : w.Leads w') : w'.Kept := by
  induction hleads with
  | refl => exact h
  | tail _ hstep ih => exact ih.step hstep

/-! ### Tokens that are spent -/

/-- A token of the player that is not the pending one. -/
structure Spent (w : Shared) (token : TimerToken) : Prop where
  index_lt : token.index < w.timers.issued
  pendingToken?_ne : w.player.pendingToken? ≠ some token

/-- A token has no effect: the player answers that it ignored it, and nothing at all has changed. -/
def Inert (w : Shared) (token : TimerToken) : Prop :=
  ∀ (σ : Type) [Display σ] (display : σ),
    (w.facing display).onTimer token = (false, w.facing display)

theorem inert_of_ne {token : TimerToken} (h : w.player.pendingToken? ≠ some token) : w.Inert token :=
  fun _ _ display => Playback.onTimer_of_ne (w.facing display) h

omit [Display σ] in
/-- A token that the player has not, or that is taken from it, is never given out again. -/
theorem spent_after {token : TimerToken} (hlt : token.index < w.timers.issued) {display : σ} {c : Call}
    {pb : Playback σ} (hhandles : (w.facing display).Handles c pb)
    (h : w.player.pendingToken? ≠ some token ∨ Playback.Releases w.player c token) :
    (w.after pb).Spent token := by
  obtain ⟨player, display', timers⟩ := pb
  cases hhandles with
  | keeps hpending htimers hkept =>
    obtain rfl : timers = w.timers := htimers
    have hpending : player.pending? = w.player.pending? := hpending
    refine ⟨hlt, ?_⟩
    rw [Shared.after, Player.pendingToken?, hpending]
    exact h.resolve_right (hkept token)
  | sets wakeup delay hfree hpending htimers =>
    obtain rfl : timers = (w.timers.schedule wakeup delay).2 := htimers
    have hpending : player.pending? = some (w.timers.nextToken, wakeup) := hpending
    refine ⟨Nat.lt_succ_of_lt hlt, ?_⟩
    rw [Shared.after, Player.pendingToken?, hpending]
    intro heq
    obtain rfl : w.timers.nextToken = token := Option.some.inj heq
    exact Nat.lt_irrefl _ hlt
  | ends hwakes hpending htimers =>
    obtain rfl : timers = w.timers := htimers
    have hpending : player.pending? = none := hpending
    refine ⟨hlt, ?_⟩
    rw [Shared.after, Player.pendingToken?, hpending]
    exact (Option.some_ne_none _).symm
  | cancels old wakeup hold hpending htimers =>
    obtain rfl : timers = w.timers.cancel old := htimers
    have hpending : player.pending? = none := hpending
    refine ⟨hlt, ?_⟩
    rw [Shared.after, Player.pendingToken?, hpending]
    exact (Option.some_ne_none _).symm

theorem Spent.step {token : TimerToken} (h : w.Spent token) (hkept : w.Kept) (hstep : w.Step w') :
    w'.Spent token := by
  cases hstep with
  | call display c hc =>
    exact spent_after h.index_lt (hkept.handles_call display c)
      (.inl h.pendingToken?_ne)
  | pop t timers hpop ht =>
    exact ⟨(TimerQueue.now_of_popDue? hpop).2.symm ▸ h.index_lt, h.pendingToken?_ne⟩
  | popOther t timers hpop ht =>
    exact ⟨(TimerQueue.now_of_popDue? hpop).2.symm ▸ h.index_lt, h.pendingToken?_ne⟩
  | schedule wakeup delay => exact ⟨Nat.lt_succ_of_lt h.index_lt, h.pendingToken?_ne⟩
  | cancel token' htoken' => exact ⟨h.index_lt, h.pendingToken?_ne⟩
  | clock time => exact ⟨h.index_lt, h.pendingToken?_ne⟩

/-- **A spent token stays spent**, also when other flows are played later. -/
theorem Spent.inert_of_leads {token : TimerToken} (hkept : w.Kept) (h : w.Spent token)
    (hleads : w.Leads w') : w'.Inert token := by
  have hspent : w'.Spent token := by
    induction hleads with
    | refl => exact h
    | tail hleads hstep ih => exact ih.step (hkept.leads hleads) hstep
  exact inert_of_ne hspent.pendingToken?_ne

/-- A call that takes the pending timer from the player spends its token. -/
theorem Kept.spent_call (h : w.Kept) (display : σ) {c : Call} {token : TimerToken}
    (hreleases : Playback.Releases w.player c token) : (w.call display c).Spent token :=
  spent_after (h.own_lt token (h.pending_mem token hreleases.1))
    (h.handles_call display c) (.inr hreleases)

/-! ### Everything that may happen -/

theorem kept_new (registry : Registry) (config : Config) (source : RandomSource) (timers : TimerQueue) :
    Kept { player := { registry, config, source }, timers } :=
  { sound := .rests ⟨rfl, rfl, rfl⟩ trivial
    own_lt := by simp
    pending_mem := by simp [Player.pendingToken?]
    waiting_eq := by simp [waiting] }

/-- The pending token has an effect. -/
theorem fst_onTimer_of_eq (display : σ) {token : TimerToken}
    (h : w.player.pendingToken? = some token) : ((w.facing display).onTimer token).1 = true := by
  obtain ⟨⟨own, wakeup⟩, hpending, rfl⟩ := Option.map_eq_some_iff.mp h
  have hpending : (w.facing display).player.pending? = some (own, wakeup) := hpending
  simp [Playback.onTimer, hpending]

/-- **Whose timers wait, and which tokens have an effect.**  Begin with a new player and any queue.  Unless a
popped timer is yet to be told of, one timer of the player waits while it plays, the pending one, and none
while it is idle.  Every token but the pending one has no effect.  The pending one has, once: when the player
is told of it, or stops, it has no effect whatever comes later, and neither has any that was given to the
player before. -/
theorem timers_of_leads (registry : Registry) (config : Config) (source : RandomSource)
    (timers : TimerQueue) {w : Shared}
    (h : Leads { player := { registry, config, source }, timers } w) :
    (w.popped = false →
      (w.player.isRunning = true →
        ∃ t, w.waiting = [t] ∧ w.player.pending? = some (t.token, t.wakeup)) ∧
      (w.player.isRunning = false → w.waiting = [])) ∧
    (∀ token, w.player.pendingToken? ≠ some token → w.Inert token) ∧
    (∀ token ∈ w.own, w.player.pendingToken? ≠ some token → ∀ w', w.Leads w' → w'.Inert token) ∧
    ∀ {σ : Type} [Display σ] (display : σ) (token : TimerToken),
      w.player.pendingToken? = some token →
        ((w.facing display).onTimer token).1 = true ∧
        (w.popped = true → ∀ w', (w.call display (.onTimer token)).Leads w' → w'.Inert token) ∧
        (w.popped = false → ∀ w', (w.call display .stop).Leads w' → w'.Inert token) := by
  have hkept : w.Kept := (kept_new registry config source timers).leads h
  refine ⟨fun hpopped => ⟨fun hrunning => ?_, fun hidle => ?_⟩, fun token hne => inert_of_ne hne,
    fun token hmem hne w' hleads => ?_, fun {σ} _ display token htoken =>
      ⟨fst_onTimer_of_eq display htoken, fun hpopped w' hleads => ?_, fun hpopped w' hleads => ?_⟩⟩
  · have hwaiting := hkept.waiting_eq
    rw [hpopped] at hwaiting
    rcases hkept.sound with ⟨hrests, -⟩ | ⟨run, actors, s, token, hplays, -⟩
    · exact absurd (hrests.isRunning_eq.symm.trans hrunning) Bool.false_ne_true
    · rw [hplays.pending_eq] at hwaiting ⊢
      obtain ⟨t, ht, heq⟩ := List.map_eq_singleton_iff.mp hwaiting
      exact ⟨t, ht, congrArg some heq.symm⟩
  · rcases hkept.sound with ⟨hrests, -⟩ | ⟨run, actors, s, token, hplays, -⟩
    · exact hkept.waiting_eq_nil (.inl hrests.pending_eq)
    · exact absurd (hidle.symm.trans hplays.isRunning_eq) Bool.false_ne_true
  · exact Spent.inert_of_leads hkept ⟨hkept.own_lt token hmem, hne⟩ hleads
  · have hwakes : w.popped = true ↔ Playback.Wakes w.player (.onTimer token) :=
      iff_of_true hpopped ⟨token, rfl, htoken⟩
    exact Spent.inert_of_leads (hkept.call display hwakes)
      (hkept.spent_call display ⟨htoken, .inl rfl⟩) hleads
  · have hwakes : w.popped = true ↔ Playback.Wakes w.player .stop := by
      rw [hpopped]
      refine iff_of_false Bool.false_ne_true ?_
      rintro ⟨token', htold, -⟩
      cases htold
    exact Spent.inert_of_leads (hkept.call display hwakes)
      (hkept.spent_call display ⟨htoken, .inr rfl⟩) hleads

end Shared

namespace Sample

/-- Someone else has set a timer where the sample is to be played. -/
def shared : Shared :=
  { player := (idle none).player, timers := (TimerQueue.empty.schedule .advance 700).2 }

/-- The sample is played.  The first timer of the player has the second token. -/
def sharing : Shared := shared.call stage (.play flow)

end Sample

/-- The timer of the sample waits beside that of someone else until it is popped, and has no effect after the
player was told of it. -/
theorem Shared.timers_of_leads_sample :
    Sample.shared.Leads Sample.sharing ∧ Sample.sharing.popped = false ∧
      (∃ t, Sample.sharing.waiting = [t] ∧
        Sample.sharing.player.pending? = some (t.token, t.wakeup)) ∧
      ∃ due : Shared, Sample.sharing.Leads due ∧ due.popped = true ∧
        due.player.pendingToken? = some ⟨1⟩ ∧
        ((due.facing Sample.stage).onTimer ⟨1⟩).1 = true ∧
        ∀ w', (due.call Sample.stage (.onTimer ⟨1⟩)).Leads w' → w'.Inert ⟨1⟩ := by
  have hpending : Sample.sharing.timers.pending = [⟨500, ⟨1⟩, .advance⟩, ⟨700, ⟨0⟩, .advance⟩] := by
    decide
  obtain ⟨timers, hpop⟩ := TimerQueue.exists_popDue?_advanceTo hpending
  have hplayed : Sample.shared.Leads Sample.sharing := .single <|
    .call Sample.stage (.play Sample.flow) <|
      iff_of_false Bool.false_ne_true fun ⟨_, htold, _⟩ => by cases htold
  have hdue : Sample.sharing.Leads { Sample.sharing with timers, popped := true } :=
    .tail (.single (.clock 500)) (.pop _ timers hpop rfl)
  have hwaits := (timers_of_leads _ _ _ _ hplayed).1 rfl
  have htold := (timers_of_leads _ _ _ _ (hplayed.trans hdue)).2.2.2 Sample.stage ⟨1⟩ rfl
  exact ⟨hplayed, rfl, hwaits.1 rfl, _, hdue, rfl, rfl, htold.1, htold.2.1 rfl⟩

end Marionette
