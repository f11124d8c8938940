import OtlpClient.Processor.Coherence

/-!
# Processor — wake-ups

`_wake` is cleared before the lock is taken, while other tasks hold it, submit and are cancelled.

* `Wakeful`: a full batch has the event set, or is one the background task is on its way to.
* `InOrder`: the signals a flush has still to come to are those after the one it is at.
* `no_lost_wakeup`: both, in every run.
-/

namespace OtlpClient.Processor

variable {α : Type} {m : Nat} {maxBatch : Int}

/-- A flush that is here will still come to the signal. -/
def WillDrain (kind : SignalKind) (pc : FlushPc α) : Prop :=
  pc = .acquiring ∨ ∃ k batch rest, pc = .exporting k batch rest ∧ kind ∈ rest

/-- While the background task has not ended, a queue that holds a full batch has the event set, or
the background task is in a flush that will still come to it. -/
def Wakeful (maxBatch : Int) (s : State α m) : Prop :=
  s.background ≠ .finished → ∀ kind ∈ signals, maxBatch ≤ (s.queue kind).items.length →
    s.wake = true ∨ s.background = .flushing ∧ WillDrain kind (s.flush .background)

/-- A full batch is not empty. -/
theorem ne_nil_of_full (hm : 1 ≤ maxBatch) {items : List α} (h : maxBatch ≤ items.length) :
    items ≠ [] := by
  rintro rfl
  rw [List.length_nil] at h
  omega

/-! ### What a submission does to a queue -/

theorem appendAll_wake (kind : SignalKind) : ∀ (records : List α) (s : State α m),
    (appendAll kind s records).1.wake = s.wake
  | [], _ => rfl
  | record :: records, s => appendAll_wake kind records (append kind s record)

theorem appendAll_queue_of_ne {kind k : SignalKind} (hk : k ≠ kind) :
    ∀ (records : List α) (s : State α m), (appendAll kind s records).1.queue k = s.queue k
  | [], _ => rfl
  | record :: records, s =>
      (appendAll_queue_of_ne hk records (append kind s record)).trans
        (Function.update_of_ne hk _ _)

/-- A submission leaves the event set, and sets it where it fills a batch. -/
theorem wakeful_submit {s : State α m} (h : Wakeful maxBatch s) (kind : SignalKind)
    (records : List α) : Wakeful maxBatch (submit maxBatch kind records s).1 := by
  obtain ⟨queue, submitted, dropped, wake, he⟩ := submit_frame maxBatch kind records s
  have hback : (submit maxBatch kind records s).1.background = s.background := by rw [he]
  have hflush : (submit maxBatch kind records s).1.flush = s.flush := by rw [he]
  intro hlive k hk hlen
  rw [hback] at hlive ⊢
  rw [hflush]
  by_cases hc : s.closed = true
  · unfold submit at hlen ⊢
    rw [if_pos hc] at hlen ⊢
    exact h hlive k hk hlen
  · unfold submit at hlen ⊢
    rw [if_neg hc] at hlen ⊢
    dsimp only at hlen ⊢
    rw [appendAll_wake]
    by_cases heq : k = kind
    · subst heq
      rw [decide_eq_true hlen, Bool.or_true]
      exact Or.inl rfl
    · rw [appendAll_queue_of_ne heq] at hlen
      rcases h hlive k hk hlen with hw | hd
      · exact Or.inl (by rw [hw, Bool.true_or])
      · exact Or.inr hd

/-! ### What a flush does to the queues -/

/-- Nothing that the event is about has changed, but for queues that were emptied. -/
theorem Wakeful.keep {s s' : State α m} (hm : 1 ≤ maxBatch) (h : Wakeful maxBatch s)
    (hb : s'.background = s.background ∨ s'.background = .finished)
    (hf : s'.flush .background = s.flush .background) (hw : s'.wake = s.wake)
    (hq : ∀ kind, s'.queue kind = s.queue kind ∨ (s'.queue kind).items = []) :
    Wakeful maxBatch s' := by
  intro hlive kind hk hlen
  have hsame : s'.background = s.background := hb.resolve_right hlive
  rcases hq kind with hq | hq
  · rw [hq] at hlen
    rw [hw, hf, hsame]
    exact h (hsame ▸ hlive) kind hk hlen
  · exact absurd hq (ne_nil_of_full hm hlen)

/-- The loop of `flush` empties a queue or none, and keeps the event. -/
theorem resume_empties (s : State α m) (t : Task) (kinds : List SignalKind) :
    (resume s t kinds).1.wake = s.wake ∧ ∀ kind, (resume s t kinds).1.queue kind = s.queue kind ∨
      ((resume s t kinds).1.queue kind).items = [] := by
  unfold resume
  cases nextBatch s.queue kinds with
  | none =>
      refine ⟨?_, fun kind => Or.inl ?_⟩
      · cases t <;> rfl
      · dsimp only
        rw [returned_queue]
  | some next =>
      refine ⟨rfl, fun kind => ?_⟩
      change Function.update s.queue next.1 .empty kind = s.queue kind ∨
        (Function.update s.queue next.1 .empty kind).items = []
      by_cases hk : kind = next.1
      · rw [hk, Function.update_self]
        exact Or.inr rfl
      · exact Or.inl (Function.update_of_ne hk _ _)

/-- The loop of `flush`, in another task than the background task. -/
theorem wakeful_resume_other {s : State α m} (hm : 1 ≤ maxBatch) (h : Wakeful maxBatch s)
    {t : Task} (ht : t ≠ .background) (kinds : List SignalKind) :
    Wakeful maxBatch (resume s t kinds).1 := by
  obtain ⟨hw, hq⟩ := resume_empties s t kinds
  refine h.keep hm (Or.inl ?_) ?_ hw hq
  · unfold resume
    cases nextBatch s.queue kinds with
    | some next => rfl
    | none =>
        cases t with
        | background => exact absurd rfl ht
        | exit => rfl
        | caller n => rfl
  · unfold resume
    cases nextBatch s.queue kinds with
    | some next => exact Function.update_of_ne (Ne.symm ht) _ _
    | none =>
        dsimp only
        rw [returned_flush]
        exact Function.update_of_ne (Ne.symm ht) _ _

/-- The loop of `flush` in the background task: the signals it passes are empty, and those it does
not pass were not to be drained before. -/
theorem wakeful_resume_background {s : State α m} (hm : 1 ≤ maxBatch)
    (hb : s.background = .flushing) {kinds : List SignalKind}
    (h : ∀ kind ∈ signals, maxBatch ≤ (s.queue kind).items.length → s.wake = true ∨ kind ∈ kinds) :
    Wakeful maxBatch (resume s .background kinds).1 := by
  intro _ kind hk hlen
  obtain ⟨hw, hq⟩ := resume_empties s .background kinds
  rw [hw]
  rcases hq kind with hq | hq
  · rw [hq] at hlen
    rcases h kind hk hlen with hw | hmem
    · exact Or.inl hw
    · unfold resume at hq ⊢
      cases hn : nextBatch s.queue kinds with
      | none => exact absurd (nextBatch_none hn kind hmem) (ne_nil_of_full hm hlen)
      | some next =>
          obtain ⟨k, rest⟩ := next
          obtain ⟨before, rfl, hbefore, hne⟩ := nextBatch_some hn
          rw [hn] at hq
          dsimp only at hq ⊢
          refine Or.inr ⟨hb, Or.inr ⟨k, (s.queue k).items, rest, Function.update_self _ _ _, ?_⟩⟩
          rcases List.mem_append.mp hmem with hm' | hm'
          · exact absurd (hbefore kind hm') (ne_nil_of_full hm hlen)
          · rcases List.mem_cons.mp hm' with rfl | hm'
            · -- The queue that was drained now holds less than a batch.
              rw [Function.update_self] at hq
              rw [← hq] at hlen
              exact absurd rfl (ne_nil_of_full hm hlen)
            · exact hm'
  · exact absurd hq (ne_nil_of_full hm hlen)

/-! ### Every step -/

theorem wakeful_step (hm : 1 ≤ maxBatch) {s s' : State α m} {a : Action α} {es : List (Event α)}
    (hs : Step maxBatch s a s' es) (hc : Coherent s) (h : Wakeful maxBatch s) :
    Wakeful maxBatch s' := by
  have hsame : ∀ kind, s.queue kind = s.queue kind ∨ (s.queue kind).items = [] :=
    fun _ => Or.inl rfl
  have hflush : ∀ (t : Task) (pc : FlushPc α), t ≠ .background →
      Function.update s.flush t pc .background = s.flush .background :=
    fun _ _ ht => Function.update_of_ne (Ne.symm ht) _ _
  cases hs with
  | @submit _ kind records hk => exact wakeful_submit h kind records
  | enter hb _ =>
      intro _ kind hk hlen
      rcases h (by rw [hb]; nofun) kind hk hlen with hw | ⟨hf, -⟩
      · exact Or.inl hw
      · rw [hb] at hf
        cases hf
  | start hb _ =>
      intro _ kind hk hlen
      rcases h (by rw [hb]; nofun) kind hk hlen with hw | ⟨hf, -⟩
      · exact Or.inl hw
      · rw [hb] at hf
        cases hf
  | wakeUp hb _ =>
      -- The event is cleared, and the lock is awaited.
      have hself : Function.update s.flush .background .acquiring .background = .acquiring :=
        Function.update_self _ _ _
      exact fun _ kind _ _ => Or.inr ⟨rfl, Or.inl hself⟩
  | @call _ n hf => exact h.keep hm (Or.inl rfl) (hflush (.caller n) .acquiring nofun) rfl hsame
  | @acquire _ t hf hct hl =>
      by_cases ht : t = .background
      · subst ht
        -- The pass begins: every queue is still to come.
        exact wakeful_resume_background (s := { s with lock := some .background }) hm
          ((hc.flushing (by rw [hf]; nofun)).1 rfl) fun kind hk _ => Or.inr hk
      · exact wakeful_resume_other (s := { s with lock := some t }) hm h ht signals
  | @finish _ t kind batch rest result hf hr =>
      obtain ⟨exported, dropped, failures, error, hset⟩ := settle_frame s batch result
      rw [hset]
      by_cases ht : t = .background
      · subst ht
        have hb := (hc.flushing (t := .background) (by rw [hf]; nofun)).1 rfl
        refine wakeful_resume_background (s := { s with
          exported := exported, dropped := dropped, consecutiveFailures := failures,
          lastError := error, cancelling := Function.update s.cancelling .background false })
          hm hb fun k hk hlen => ?_
        -- The event is set, or the queue is one this pass has still to come to.
        rcases h (by rw [hb]; nofun) k hk hlen with hw | ⟨-, hd | ⟨k', b, r, hd, hmem⟩⟩
        · exact Or.inl hw
        · rw [hf] at hd
          cases hd
        · rw [hf] at hd
          cases hd
          exact Or.inr hmem
      · exact wakeful_resume_other (s := { s with
          exported := exported, dropped := dropped, consecutiveFailures := failures,
          lastError := error, cancelling := Function.update s.cancelling t false }) hm h ht rest
  | @abort _ t kind batch rest hf =>
      cases t with
      | background => exact fun hlive => absurd rfl hlive
      | exit => exact h.keep hm (Or.inl rfl) (hflush .exit .idle nofun) rfl hsame
      | caller n => exact h.keep hm (Or.inl rfl) (hflush (.caller n) .idle nofun) rfl hsame
  | cancel ht =>
      obtain ⟨cancelling, he⟩ := cancel_frame s _
      rw [he]
      exact h
  | deliver _ _ => exact fun hlive => absurd rfl hlive
  | @deliverAcquiring _ t hf hct =>
      cases t with
      | background => exact fun hlive => absurd rfl hlive
      | exit => exact h.keep hm (Or.inl rfl) (hflush .exit .idle nofun) rfl hsame
      | caller n => exact h.keep hm (Or.inl rfl) (hflush (.caller n) .idle nofun) rfl hsame
  | exitBlock he =>
      rcases exitBlock_frame s with ⟨-, heq⟩ | ⟨cancelling, heq, -⟩
      · rw [heq]
        exact h.keep hm (Or.inl rfl) (hflush .exit .acquiring nofun) rfl hsame
      · rw [heq]
        exact h
  | join he hb => exact fun hlive => absurd hb hlive

/-! ### The order of a flush -/

/-- The signals a flush has still to come to are those after the one it is at. -/
def InOrder (flush : Task → FlushPc α) : Prop :=
  ∀ t kind batch rest, flush t = .exporting kind batch rest → kind :: rest <:+ signals

theorem InOrder.update {flush : Task → FlushPc α} (h : InOrder flush) (t : Task) {pc : FlushPc α}
    (hpc : ∀ kind batch rest, pc = .exporting kind batch rest → kind :: rest <:+ signals) :
    InOrder (Function.update flush t pc) := by
  intro t' kind batch rest hf
  by_cases heq : t' = t
  · subst heq
    rw [Function.update_self] at hf
    exact hpc kind batch rest hf
  · rw [Function.update_of_ne heq] at hf
    exact h t' kind batch rest hf

theorem inOrder_resume {s : State α m} {t : Task} {kinds : List SignalKind} (h : InOrder s.flush)
    (hk : kinds <:+ signals) : InOrder (resume s t kinds).1.flush := by
  unfold resume
  cases hn : nextBatch s.queue kinds with
  | none =>
      dsimp only
      rw [returned_flush]
      exact h.update t nofun
  | some next =>
      obtain ⟨k, rest⟩ := next
      obtain ⟨before, rfl, -, -⟩ := nextBatch_some hn
      refine h.update t fun kind batch rest' he => ?_
      cases he
      exact (List.suffix_append _ _).trans hk

theorem inOrder_step {s s' : State α m} {a : Action α} {es : List (Event α)}
    (hs : Step maxBatch s a s' es) (hc : Coherent s) (h : InOrder s.flush) : InOrder s'.flush := by
  rcases hs.cases hc with ⟨kind, records, hk, rfl, -⟩ | ⟨hq, -⟩ | ⟨t, -, -, rfl, -⟩ |
    ⟨t, kind, batch, rest, result, s₁, hf, -, rfl, rfl, -⟩ | ⟨t, kind, batch, rest, hf, rfl, -⟩
  · obtain ⟨queue, submitted, dropped, wake, he⟩ := submit_frame maxBatch kind records s
    rw [he]
    exact h
  · exact fun t kind batch rest hf => h t kind batch rest ((hq.exporting _ _ _ _).mp hf)
  · exact inOrder_resume (s := { s with lock := some t }) h (List.suffix_refl _)
  · obtain ⟨exported, dropped, failures, error, hset⟩ := settle_frame s batch result
    rw [hset]
    have hrest : rest <:+ signals := (List.suffix_cons kind rest).trans (h t kind batch rest hf)
    exact inOrder_resume (s := { s with
      exported := exported, dropped := dropped, consecutiveFailures := failures,
      lastError := error, cancelling := Function.update s.cancelling t false }) h hrest
  · rw [leaveFlush, left_flush]
    obtain ⟨exported, dropped, failures, error, hset⟩ := settle_frame s batch .cancelled
    rw [hset]
    exact h.update t nofun

/-! ### The law -/

/-- **No wake-up is lost.**  At every suspension point of every run, while the background task lives:
where a queue holds a full batch the event is set, or the background task is past its wait and waits
for the lock, or exports a signal that comes before this one in the order of the queues. -/
theorem no_lost_wakeup (hm : 1 ≤ maxBatch) {s : State α m} {tr : List (Event α)}
    (hr : Run maxBatch s tr) (hlive : IsLive s .background) {kind : SignalKind}
    (hk : kind ∈ signals) (hfull : maxBatch ≤ (s.queue kind).items.length) :
    s.wake = true ∨ s.background = .flushing ∧ (s.flush .background = .acquiring ∨
      ∃ k batch rest, s.flush .background = .exporting k batch rest ∧
        k :: rest <:+ signals ∧ kind ∈ rest) := by
  have hinv : Wakeful maxBatch s ∧ InOrder s.flush := by
    refine Machine.Run.invariant (I := fun s _ => Wakeful maxBatch s ∧ InOrder s.flush) hr
      ⟨?_, nofun⟩ fun _ _ _ _ _ hr h hs => ⟨wakeful_step hm hs (run_coherent hr) h.1,
        inOrder_step hs (run_coherent hr) h.2⟩
    intro _ kind _ hlen
    exact absurd rfl (ne_nil_of_full hm hlen)
  rcases hinv.1 hlive.2 kind hk hfull with hw | ⟨hb, ha | ⟨k, batch, rest, hf, hmem⟩⟩
  · exact Or.inl hw
  · exact Or.inr ⟨hb, Or.inl ha⟩
  · exact Or.inr ⟨hb, Or.inr ⟨k, batch, rest, hf, hinv.2 _ _ _ _ hf, hmem⟩⟩

/-- The background task waits, and a full batch is submitted. -/
def wokenOne : State Nat 1 :=
  (submit 1 .logs [7] { (init : State Nat 1) with background := .waiting }).1

theorem wokenOne_run : Run 1 wokenOne [.accepted .logs 7] := by
  have h₀ : Run 1 (init : State Nat 1) [] := .start
  have h₁ := (h₀.next (.enter rfl rfl)).next (.start rfl rfl)
  exact h₁.next (@Step.submit _ _ _ { (init : State Nat 1) with background := .waiting } .logs [7]
    (by decide))

theorem no_lost_wakeup_wokenOne : wokenOne.wake = true ∨ wokenOne.background = .flushing ∧
    (wokenOne.flush .background = .acquiring ∨ ∃ k batch rest,
      wokenOne.flush .background = .exporting k batch rest ∧ k :: rest <:+ signals ∧
        .logs ∈ rest) :=
  no_lost_wakeup (by decide) wokenOne_run ⟨nofun, nofun⟩ (by decide) (by decide)

end OtlpClient.Processor
