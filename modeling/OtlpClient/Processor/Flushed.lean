import OtlpClient.Processor.Board
import OtlpClient.Processor.Cancellation
import OtlpClient.Processor.Order
import OtlpClient.Processor.Wakeup

/-!
# Processor — what a flush has done when it returns

A flush waits for the lock, behind exports of other tasks, while records are submitted and dropped.

* `Step.own`: a step leaves a task in `flush` alone, or is that task's.
* `flush_flushes`: when a flush returns, what was queued when it was called has left the queues.
-/

namespace OtlpClient.Processor

variable {α : Type} {m : Nat} {maxBatch : Int}

/-! ### The steps of one task -/

/-- A step leaves a task in `flush` where it is, or is its own: it goes on with the loop, from the
lock or from the end of an export, or is left by `CancelledError`. -/
theorem Step.own {s s' : State α m} {a : Action α} {es : List (Event α)} {t : Task}
    (hs : Step maxBatch s a s' es) (hc : Coherent s) (hf : s.flush t ≠ .idle) :
    (s'.flush t = s.flush t ∧ ∀ e ∈ es, ¬ e.Ends t) ∨
      (s.flush t = .acquiring ∧ s' = (resume { s with lock := some t } t signals).1 ∧
        es = (resume { s with lock := some t } t signals).2) ∨
      (∃ kind batch rest result, s.flush t = .exporting kind batch rest ∧
        s' = (resume { settle s batch result with
          cancelling := Function.update s.cancelling t false } t rest).1 ∧
        es = settleEvents s kind batch result ++ (resume { settle s batch result with
          cancelling := Function.update s.cancelling t false } t rest).2) ∨
      ∃ before, es = before ++ [.cancelled t] ∧ s'.flush t = .idle ∧
        ∀ e ∈ before, ¬ e.Ends t := by
  have hne : ∀ {t' : Task}, s.flush t' = .idle → t ≠ t' := by
    rintro t' hidle rfl
    exact hf hidle
  have hmoved : ∀ {t' : Task} (pc : FlushPc α), t ≠ t' →
      Function.update s.flush t' pc t = s.flush t :=
    fun pc ht => Function.update_of_ne ht _ _
  have hleft : ∀ {s₁ : State α m} {t' : Task}, s₁.flush = s.flush → t ≠ t' →
      (leaveFlush s₁ t').flush t = s.flush t := by
    intro s₁ t' hsame ht
    rw [leaveFlush, left_flush, ← hsame]
    exact Function.update_of_ne ht _ _
  have hout : ∀ (s₁ : State α m), (leaveFlush s₁ t).flush t = .idle := by
    intro s₁
    rw [leaveFlush, left_flush]
    exact Function.update_self _ _ _
  have hother : ∀ {t' : Task}, t ≠ t' → ∀ e ∈ [(Event.cancelled t' : Event α)], ¬ e.Ends t := by
    intro t' ht e he
    rw [List.mem_singleton.mp he]
    exact Ne.symm ht
  cases hs with
  | @submit _ kind records hk =>
      obtain ⟨queue, submitted, dropped, wake, he⟩ := submit_frame maxBatch kind records s
      refine Or.inl ⟨?_, submit_ends kind records s t⟩
      rw [he]
  | enter _ _ => exact Or.inl ⟨rfl, List.forall_mem_nil _⟩
  | start _ _ => exact Or.inl ⟨rfl, List.forall_mem_nil _⟩
  | wakeUp hb _ =>
      exact Or.inl ⟨hmoved _ (hne (hc.background (by rw [hb]; rintro ⟨⟩))), List.forall_mem_nil _⟩
  | call hidle => exact Or.inl ⟨hmoved _ (hne hidle), List.forall_mem_nil _⟩
  | @acquire _ t' ha hct hl =>
      by_cases ht : t = t'
      · subst ht
        exact Or.inr (Or.inl ⟨ha, rfl, rfl⟩)
      · exact Or.inl (resume_other (s := { s with lock := some t' }) ht signals)
  | @finish _ t' kind batch rest result hx hr =>
      by_cases ht : t = t'
      · subst ht
        exact Or.inr (Or.inr (Or.inl ⟨kind, batch, rest, result, hx, rfl, rfl⟩))
      · obtain ⟨hsame, hes⟩ := resume_other (s := { settle s batch result with
          cancelling := Function.update s.cancelling t' false }) ht rest
        obtain ⟨exported, dropped, failures, error, hset⟩ := settle_frame s batch result
        refine Or.inl ⟨?_, fun e he => ?_⟩
        · rw [hsame, hset]
        · rcases List.mem_append.mp he with he | he
          · exact settleEvents_ends s kind batch result t e he
          · exact hes e he
  | @abort _ t' kind batch rest hx =>
      by_cases ht : t = t'
      · subst ht
        exact Or.inr (Or.inr (Or.inr ⟨_, rfl, hout _, settleEvents_ends s kind batch .cancelled t⟩))
      · refine Or.inl ⟨hleft rfl ht, fun e he => ?_⟩
        rcases List.mem_append.mp he with he | he
        · exact settleEvents_ends s kind batch .cancelled t e he
        · exact hother ht e he
  | cancel _ =>
      obtain ⟨cancelling, he⟩ := cancel_frame s _
      rw [he]
      exact Or.inl ⟨rfl, List.forall_mem_nil _⟩
  | deliver hb _ =>
      have hidle : s.flush .background = .idle := by
        rcases hb with hb | hb <;> exact hc.background (by rw [hb]; rintro ⟨⟩)
      exact Or.inl ⟨hleft rfl (hne hidle), hother (hne hidle)⟩
  | @deliverAcquiring _ t' ha hct =>
      by_cases ht : t = t'
      · subst ht
        exact Or.inr (Or.inr (Or.inr ⟨[], rfl, hout s, List.forall_mem_nil _⟩))
      · exact Or.inl ⟨hleft rfl ht, hother ht⟩
  | exitBlock he =>
      have ht := hne (hc.exit (by rw [he]; rintro ⟨⟩))
      rcases exitBlock_frame s with ⟨-, heq⟩ | ⟨cancelling, heq, -⟩
      · rw [heq]
        exact Or.inl ⟨hmoved _ ht, List.forall_mem_nil _⟩
      · rw [heq]
        exact Or.inl ⟨rfl, List.forall_mem_nil _⟩
  | join he _ => exact Or.inl ⟨hmoved _ (hne (hc.exit (by rw [he]; rintro ⟨⟩))), List.forall_mem_nil _⟩

/-! ### What has left a queue -/

/-- What a queue held has left it since, and before anything accepted since. -/
def Gone (s : State α m) (es : List (Event α)) (kind : SignalKind) : Prop :=
  (s.queue kind).items <+: departed kind es

theorem Gone.append {s : State α m} {es : List (Event α)} {kind : SignalKind}
    (h : Gone s es kind) (es' : List (Event α)) : Gone s (es ++ es') kind := by
  rw [Gone, departed, List.flatMap_append]
  exact List.IsPrefix.trans h (List.prefix_append _ _)

/-- When a queue is empty, what it held has left it. -/
theorem gone_of_empty {s s' : State α m} {tr es : List (Event α)} {kind : SignalKind}
    (hr : Run maxBatch s tr) (h : Machine.Run (Step maxBatch) s s' es)
    (hempty : (s'.queue kind).items = []) : Gone s es kind := by
  rcases Nat.eq_zero_or_pos m with hm | hm
  · -- There is never anything queued.
    have hlen := (s.queue kind).bounded
    have hnil : (s.queue kind).items = [] := List.eq_nil_of_length_eq_zero (by omega)
    rw [Gone, hnil]
    exact List.nil_prefix
  · have hbefore : tr.flatMap (Event.accepts kind) =
        tr.flatMap (Event.departs kind) ++ (s.queue kind).items := (run_ordered hm hr).queue kind
    have hafter := (run_ordered hm (hr.trans h)).queue kind
    rw [hempty, List.append_nil, accepted, departed, List.flatMap_append, List.flatMap_append,
      hbefore, List.append_assoc] at hafter
    exact ⟨_, List.append_cancel_left hafter⟩

/-! ### The flush -/

/-- The first end of the task's flush is a return only where everything has left. -/
def Drained (s : State α m) (t : Task) (pre : List (Event α)) (e : Event α) : Prop :=
  e = .flushed t → (∀ e ∈ pre, ¬ e.Ends t) → ∀ kind ∈ signals, Gone s pre kind

/-- The flush has drained the signals it is past. -/
def Draining (s : State α m) (t : Task) (s' : State α m) (es : List (Event α)) : Prop :=
  s'.flush t ≠ .idle ∧ ∀ kind ∈ signals, ¬ WillDrain kind (s'.flush t) → Gone s es kind

theorem drained_of_other {s : State α m} {t : Task} {e : Event α} (he : ¬ e.Ends t)
    (pre : List (Event α)) : Drained s t pre e := by
  rintro rfl
  exact absurd rfl he

theorem draining_exporting {s s' : State α m} {t : Task} {kind : SignalKind} {batch : List α}
    {rest : List SignalKind} {es : List (Event α)} (hf : s'.flush t = .exporting kind batch rest)
    (h : ∀ k ∈ signals, k ∉ rest → Gone s es k) : Draining s t s' es := by
  rw [Draining, hf]
  exact ⟨nofun, fun k hk hnot => h k hk fun hm => hnot (Or.inr ⟨_, _, _, rfl, hm⟩)⟩

/-- The loop of the flush goes on. -/
theorem draining_resume {s : State α m} (s₁ : State α m) {t : Task} {kinds : List SignalKind}
    {es : List (Event α)} (before : List (Event α)) (hall : Always (Drained s t) es)
    (hbefore : ∀ e ∈ before, ¬ e.Ends t)
    (hgone : ∀ k ∈ signals, k ∉ kinds → Gone s es k)
    (hnow : ∀ k, (s₁.queue k).items = [] → Gone s es k)
    (hthen : ∀ k, ((resume s₁ t kinds).1.queue k).items = [] →
      Gone s (es ++ (before ++ (resume s₁ t kinds).2)) k) :
    Always (Drained s t) (es ++ (before ++ (resume s₁ t kinds).2)) ∧
      ((∀ e ∈ es ++ (before ++ (resume s₁ t kinds).2), ¬ e.Ends t) →
        Draining s t (resume s₁ t kinds).1 (es ++ (before ++ (resume s₁ t kinds).2))) := by
  have hstill : Always (Drained s t) (es ++ before) :=
    hall.append fun pre e he => drained_of_other (hbefore e he) pre
  revert hthen
  unfold resume
  cases hn : nextBatch s₁.queue kinds with
  | some next =>
      obtain ⟨kind, rest⟩ := next
      obtain ⟨past, rfl, hpast, -⟩ := nextBatch_some hn
      intro hthen
      dsimp only at hthen ⊢
      refine ⟨?_, fun _ => draining_exporting (Function.update_self _ _ _) fun k hk hnot => ?_⟩
      · rw [← List.append_assoc]
        exact hstill.snoc (drained_of_other (e := .handed kind _) not_false _)
      · by_cases heq : k = kind
        · refine hthen k ?_
          rw [heq, Function.update_self]
          rfl
        by_cases hp : k ∈ past
        · exact (hnow k (hpast k hp)).append _
        · refine (hgone k hk fun hm => ?_).append _
          rcases List.mem_append.mp hm with hm | hm
          · exact hp hm
          · rcases List.mem_cons.mp hm with hm | hm
            · exact heq hm
            · exact hnot hm
  | none =>
      intro _
      dsimp only
      refine ⟨?_, fun hends => absurd rfl (hends (.flushed t) (by simp))⟩
      rw [← List.append_assoc]
      refine hstill.snoc fun _ _ k hk => ?_
      by_cases hm : k ∈ kinds
      · exact (hnow k (nextBatch_none hn k hm)).append _
      · exact (hgone k hk hm).append _

/-- **A flush flushes.**  Whatever the other tasks do from the moment `flush` is called until it
returns: by then each record that was queued at the call has left its queue, handed over or dropped,
in order and before every record accepted since, and every export that was begun has ended. -/
theorem flush_flushes {s s' : State α m} {tr es post : List (Event α)} {t : Task}
    (hr : Run maxBatch s tr) (hf : s.flush t = .acquiring)
    (h : Machine.Run (Step maxBatch) s s' (es ++ .flushed t :: post))
    (hfirst : ∀ e ∈ es, ¬ e.Ends t) :
    underWay (tr ++ es) = none ∧
      ∀ kind ∈ signals, (s.queue kind).items <+: departed kind es := by
  have hserial := (Board.serial (board_run init_coherent (hr.trans h))).1
  refine ⟨hserial (tr ++ es) (.flushed t) post (by rw [List.append_assoc]), ?_⟩
  have hinv : Always (Drained s t) (es ++ .flushed t :: post) ∧
      ((∀ e ∈ es ++ .flushed t :: post, ¬ e.Ends t) →
        Draining s t s' (es ++ .flushed t :: post)) := by
    refine Machine.Run.invariant (I := fun s' es => Always (Drained s t) es ∧
      ((∀ e ∈ es, ¬ e.Ends t) → Draining s t s' es)) h ⟨always_nil, fun _ => ⟨?_, ?_⟩⟩ ?_
    · rw [hf]
      nofun
    · exact fun kind _ hnot => absurd (Or.inl hf) hnot
    · rintro s₁ a s₂ es₁ es₂ hrun ⟨hall, hdrain⟩ hs
      have hc := run_coherent (hr.trans hrun)
      have hnow : ∀ k, (s₁.queue k).items = [] → Gone s es₁ k := fun k => gone_of_empty hr hrun
      have hthen : ∀ k, (s₂.queue k).items = [] → Gone s (es₁ ++ es₂) k :=
        fun k => gone_of_empty hr (hrun.next hs)
      by_cases hended : ∀ e ∈ es₁, ¬ e.Ends t
      · obtain ⟨hflush, hgone⟩ := hdrain hended
        rcases hs.own hc hflush with ⟨hsame, hes⟩ | ⟨ha, rfl, rfl⟩ |
          ⟨kind, batch, rest, result, hx, rfl, rfl⟩ | ⟨before, rfl, -, hbefore⟩
        · refine ⟨hall.append fun pre e he => drained_of_other (hes e he) pre, fun _ => ?_⟩
          rw [Draining, hsame]
          exact ⟨hflush, fun k hk hnot => (hgone k hk hnot).append _⟩
        · exact draining_resume { s₁ with lock := some t } [] hall nofun
            (fun k hk hnot => absurd hk hnot) hnow hthen
        · refine draining_resume _ _ hall (settleEvents_ends s₁ kind batch result t)
            (fun k hk hnot => hgone k hk ?_) (fun k hk => hnow k ?_) hthen
          · rw [hx]
            rintro (hw | ⟨_, _, _, hw, hm⟩)
            · cases hw
            · cases hw
              exact hnot hm
          · obtain ⟨exported, dropped, failures, error, hset⟩ := settle_frame s₁ batch result
            rw [hset] at hk
            exact hk
        · refine ⟨?_, fun hends => absurd rfl (hends (.cancelled t) (by simp))⟩
          rw [← List.append_assoc]
          refine (hall.append fun pre e he => drained_of_other (hbefore e he) pre).snoc ?_
          exact nofun
      · -- The flush has ended, and what ends later is another.
        refine ⟨?_, fun hends => absurd (fun e he => hends e (List.mem_append_left _ he)) hended⟩
        intro pre e post' heq he hpre
        rcases List.append_eq_append_iff.mp heq with ⟨pre', rfl, -⟩ | ⟨post₁, rfl, hpost⟩
        · exact absurd (fun e he => hpre e (List.mem_append_left _ he)) hended
        · cases post₁ with
          | nil =>
              rw [List.append_nil] at hended
              exact absurd hpre hended
          | cons e₁ post₁ =>
              cases (List.cons.inj hpost).1
              exact hall pre e post₁ rfl he hpre
  intro kind hk
  exact hinv.1 es (.flushed t) post rfl rfl hfirst kind hk

/-- What has happened when the caller of `calling` is in `flush`. -/
def callingTrace : List (Event Nat) :=
  [.accepted .metrics 1, .accepted .metrics 2, .evicted .metrics 1]

/-- What happens until it returns. -/
def flushingTrace : List (Event Nat) := [.handed .metrics [2], .settled .metrics [2] .success]

theorem calling_run : Run 512 calling callingTrace := by
  have h₀ : Run 512 (init : State Nat 1) [] := .start
  have h₁ := h₀.next (@Step.submit _ _ _ _ .metrics [1, 2] (by decide))
  exact h₁.next (.call (n := 0) rfl)

theorem flush_flushes_calling :
    underWay (callingTrace ++ flushingTrace) = none ∧
      ∀ kind ∈ signals, (calling.queue kind).items <+: departed kind flushingTrace := by
  have hfirst : ∀ e ∈ flushingTrace, ¬ e.Ends (.caller 0) := by
    intro e he
    rcases List.mem_cons.mp he with rfl | he
    · exact not_false
    · rw [List.mem_singleton.mp he]
      exact not_false
  have hacquire := @Step.acquire _ _ 512 calling (.caller 0) rfl rfl rfl
  have hfinish := @Step.finish _ _ 512 exportingOne (.caller 0) _ _ _ .success rfl nofun
  exact flush_flushes calling_run rfl ((Machine.Run.one hacquire).next hfinish) hfirst

end OtlpClient.Processor
