import OtlpClient.Client
import OtlpClient.Retry.Schedule

/-!
# Client — outages

What the retry loop is for: a collector, or a token endpoint, that is down for a while.

* `withRetry_recovers`: a loop whose attempts are to be retried for so long only, and after which its
  budget leaves room for one more backoff, returns an outcome that is not to be retried.
* `export_survives_outage`: an export that meets such an outage, and is asked for no longer delay than
  that backoff, is delivered.
-/

namespace OtlpClient

/-- What is accepted is not to be retried. -/
theorem ExportOutcome.not_retryable_of_accepted {T : Type} {o : ExportOutcome T}
    (h : o.isAccepted = true) : ¬ o.isRetryable = true := by
  cases o with
  | retryable status message retryAfter => cases h
  | _ => nofun

variable {K : Type} [LinearOrder K]

/-- To be retried, after a delay of at most `b` where the server asks for one. -/
def ExportOutcome.Asks (b : K) : ExportOutcome K → Prop
  | .retryable _ _ (some seconds) => seconds ≤ b
  | .retryable _ _ none => True
  | _ => False

theorem ExportOutcome.Asks.isRetryable {b : K} {o : ExportOutcome K} (h : o.Asks b) :
    o.isRetryable = true := by
  cases o with
  | retryable status message retryAfter => rfl
  | _ => exact h.elim

variable [Field K]

/-! ### The loop -/

section Loop

variable {σ : Type}

/-- What the loop calls in an outage: nothing raises, an attempt that is to be retried takes at least
`e`, is over by `due` and asks for `b` at most, and any other outcome is one of `Q`. -/
structure Recovering (clock : σ → K) (e due b : K) (Q : ExportOutcome K → σ → Prop)
    (op : Effect Exn σ (ExportOutcome K)) (sleep : K → Effect Exn σ Unit)
    (monotonic jitter : Effect Exn σ K) : Prop where
  op : ∀ t, Effect.Spec (fun s => t ≤ clock s) op
    (fun o s => if o.isRetryable = true then t + e ≤ clock s ∧ clock s ≤ due ∧ o.Asks b else Q o s)
    fun _ _ => False
  sleep : ∀ t d, Effect.Spec (fun s => t ≤ clock s) (sleep d) (fun _ s => t ≤ clock s)
    fun _ _ => False
  monotonic : ∀ t u, Effect.Spec (fun s => t ≤ clock s ∧ clock s ≤ u) monotonic
    (fun now s => t ≤ now ∧ now ≤ u ∧ t ≤ clock s) fun _ _ => False
  jitter : ∀ t, Effect.Spec (fun s => t ≤ clock s) jitter
    (fun x s => 0 ≤ x ∧ x ≤ 1 ∧ t ≤ clock s) fun _ _ => False

variable [IsStrictOrderedRing K] {clock : σ → K} {e due b : K} {Q : ExportOutcome K → σ → Prop}
  {op : Effect Exn σ (ExportOutcome K)} {policy : RetryPolicy K} {sleep : K → Effect Exn σ Unit}
  {monotonic jitter : Effect Exn σ K}

/-- A draw of at most one leaves of a backoff no more than it is. -/
theorem mul_le_of_draw {x c : K} (hb : 0 ≤ b) (hc : c ≤ b) (h₀ : 0 ≤ x) (h₁ : x ≤ 1) :
    x * c ≤ b := by
  rcases le_total 0 c with hpos | hneg
  · exact (mul_le_of_le_one_left hpos h₁).trans hc
  · exact (mul_nonpos_of_nonneg_of_nonpos h₀ hneg).trans hb

/-- A backoff that fits into what remains of the budget is slept. -/
theorem backOff_recovers (h : Recovering clock e due b Q op sleep monotonic jitter) (hb : 0 ≤ b)
    (hmax : policy.maxBackoff ≤ b) {t elapsed : K} (hfits : elapsed + b ≤ policy.maxElapsed)
    {o : ExportOutcome K} {status : Option Int} {message : String} {retryAfter : Option K}
    (ho : o = .retryable status message retryAfter) (hasks : o.Asks b) (attempt : Nat) :
    Effect.Spec (fun s => t ≤ clock s)
      (backOff policy sleep jitter o retryAfter attempt elapsed)
      (Sum.elim Q fun _ s => t ≤ clock s) fun _ _ => False := by
  have hdelay : ∀ capped, capped ≤ b → Effect.Spec (fun s => t ≤ clock s)
      (retryDelay jitter retryAfter capped) (fun delay s => delay ≤ b ∧ t ≤ clock s)
      fun _ _ => False := by
    intro capped hcapped
    cases retryAfter with
    | some seconds =>
        subst ho
        exact .pure fun s hs => ⟨hasks, hs⟩
    | none =>
        exact .bind (h.jitter t) fun x => .pure fun s hs =>
          ⟨mul_le_of_draw hb hcapped hs.1 hs.2.1, hs.2.2⟩
  refine .bind (Q := fun capped s => capped ≤ b ∧ t ≤ clock s) ?_ fun capped => .of_and fun hc =>
    .bind (hdelay capped hc) fun delay => .of_and fun hd => ?_
  · exact .pure fun s hs => ⟨(min_le_left _ _).trans hmax, hs⟩
  · have hlt : ¬ Seconds.lt (Seconds.sub policy.maxElapsed elapsed) delay = true := by
      rw [Seconds.exact_lt, Seconds.exact_sub, not_lt]
      linarith
    rw [if_neg hlt]
    exact .bind (h.sleep t delay) fun _ => .pure fun s hs => hs

/-- One round returns what is not to be retried, or goes on later. -/
theorem retryRound_recovers (h : Recovering clock e due b Q op sleep monotonic jitter) (hb : 0 < b)
    (hmax : policy.maxBackoff ≤ b) {started : K} (hfits : due + b ≤ started + policy.maxElapsed)
    (t : K) (attempt : Nat) :
    Effect.Spec (fun s => t ≤ clock s)
      (retryRound op policy sleep monotonic jitter started attempt)
      (Sum.elim Q fun _ s => t + e ≤ due ∧ t + e ≤ clock s) fun _ _ => False := by
  refine .bind (h.op t) fun o => ?_
  cases o with
  | retryable status message retryAfter =>
      refine Effect.Spec.conseq (P := fun s => (t + e ≤ due ∧ ExportOutcome.Asks b
        (.retryable status message retryAfter)) ∧ t + e ≤ clock s ∧ clock s ≤ due)
        (.of_and fun hdue => ?_) (fun s hs => ?_) (fun _ _ h => h) fun _ _ h => h
      · refine .bind (h.monotonic (t + e) due) fun now => ?_
        refine Effect.Spec.conseq (P := fun s => (now ≤ due) ∧ t + e ≤ clock s)
          (.of_and fun hnow => ?_) (fun s hs => ⟨hs.2.1, hs.2.2⟩) (fun _ _ h => h) fun _ _ h => h
        have hleft : Seconds.sub now started + b ≤ policy.maxElapsed := by
          rw [Seconds.exact_sub]
          linarith
        have hle : ¬ Seconds.le policy.maxElapsed (Seconds.sub now started) = true := by
          rw [Seconds.exact_le, not_le]
          linarith
        dsimp only
        rw [if_neg hle]
        refine (backOff_recovers h hb.le hmax hleft rfl hdue.2 attempt).conseq (fun _ h => h)
          (fun r s hs => ?_) fun _ _ h => h
        cases r with
        | inl o => exact hs
        | inr n => exact ⟨hdue.1, hs⟩
      · exact ⟨⟨hs.1.trans hs.2.1, hs.2.2⟩, hs.1, hs.2.1⟩
  | success => exact .pure fun s hs => hs
  | partialSuccess p => exact .pure fun s hs => hs
  | permanent status message => exact .pure fun s hs => hs

/-- Where attempts are to be retried until `due` only, and the
budget leaves room for one more backoff then, the loop returns an outcome that is not to be retried,
after no more attempts than fit before `due`. -/
theorem withRetry_recovers (h : Recovering clock e due b Q op sleep monotonic jitter) (hb : 0 < b)
    (hmax : policy.maxBackoff ≤ b) {now u : K} (hfits : due + b ≤ now + policy.maxElapsed)
    {rounds : Nat} (hpos : 0 < rounds) (hrounds : due < now + rounds * e) :
    Effect.Spec (fun s => now ≤ clock s ∧ clock s ≤ u)
      (withRetry op policy sleep monotonic jitter rounds)
      (fun result s => ∃ o, result = some o ∧ Q o s) fun _ _ => False := by
  refine .bind (h.monotonic now u) fun started => ?_
  refine Effect.Spec.conseq (P := fun s => now ≤ started ∧ now ≤ clock s) (.of_and fun hle => ?_)
    (fun s hs => ⟨hs.1, hs.2.2⟩) (fun _ _ h => h) fun _ _ h => h
  have hloop := Effect.Spec.iterate_count
    (I := fun n (_ : Nat) s => (0 < n → now + n * e ≤ due) ∧ now + n * e ≤ clock s)
    (Q := fun result s => ∃ o, result = some o ∧ Q o s) (E := fun _ _ => False)
    (fun n attempt => (Effect.Spec.conseq
      (retryRound_recovers h hb hmax (show due + b ≤ started + policy.maxElapsed by linarith)
        (now + n * e) attempt) (fun s hs => hs.2) (fun r s hs => ?_) fun _ _ h => h))
    rounds 0 0 fun attempt s hs => ?_
  · refine hloop.conseq (fun s hs => ⟨fun h0 => absurd h0 (Nat.lt_irrefl 0), ?_⟩) (fun _ _ h => h)
      fun _ _ h => h
    rw [Nat.cast_zero, zero_mul, add_zero]
    exact hs
  · cases r with
    | inl o => exact ⟨o, rfl, hs⟩
    | inr n' =>
        rw [Sum.elim_inr, Nat.cast_add, Nat.cast_one, add_mul, one_mul, ← add_assoc]
        exact ⟨fun _ => hs.1, hs.2⟩
  · have hdue := hs.1 (by omega)
    rw [Nat.zero_add] at hdue
    linarith

end Loop

/-! ### An export -/

/-- A call that takes its time: a send, or the provider's headers. -/
def Event.isCall : Event K → Bool
  | .send .. | .headers .. => true
  | _ => false

/-- An outage until `ends`: each call takes between `e` and `d`, the provider may fail to reach its
endpoint and the collector ask to be tried again after at most `b`, and from then on headers are
given and sends accepted. -/
structure World.Outage (world : World K) (ends e d b : K) : Prop where
  monotone : ∀ tr ev, world.monotonic tr ≤ world.monotonic (tr ++ [ev])
  call : ∀ tr ev, ev.isCall = true → world.monotonic tr + e ≤ world.monotonic (tr ++ [ev]) ∧
    world.monotonic (tr ++ [ev]) ≤ world.monotonic tr + d
  headers : ∀ tr kind, (∃ headers, world.headers tr kind = .ok headers) ∨
    ∃ message, world.headers tr kind = .error (.transport message) ∧ world.monotonic tr ≤ ends
  send : ∀ tr kind payload headers, ∃ o, world.send tr kind payload headers = .ok o ∧
    (o.isAccepted = true ∨ world.monotonic tr ≤ ends ∧ o.Asks b)
  sleep : ∀ tr seconds, world.sleep tr seconds = .ok ()
  jitter : ∀ tr, 0 ≤ world.jitter tr ∧ world.jitter tr ≤ 1

namespace OTLPClient

variable {Data : Type} {client : OTLPClient K Data} {world : World K} {kind : SignalKind}
  {payload : Bytes} {ends e d b : K}

/-- Where an attempt in an outage ends. -/
def Tried (world : World K) (ends e d b t : K) (o : ExportOutcome K) (s : Export K) : Prop :=
  if o.isRetryable = true then
    t + e ≤ world.monotonic s.trace ∧ world.monotonic s.trace ≤ ends + d ∧ o.Asks b
  else o.isAccepted = true

variable [IsStrictOrderedRing K]

theorem resolve_outage (hw : world.Outage ends e d b) (t : K) :
    Effect.Spec (fun s => t ≤ world.monotonic s.trace) (client.resolve world kind)
      (Sum.elim (fun _ s => t ≤ world.monotonic s.trace) (Tried world ends e d b t))
      fun _ _ => False := by
  -- The provider fails while the outage lasts.
  let F : Exn → Export K → Prop := fun exn s => (∃ message, exn = .transport message) ∧
    t + e ≤ world.monotonic s.trace ∧ world.monotonic s.trace ≤ ends + d
  have hheaders : Effect.Spec (fun s => t ≤ world.monotonic s.trace) (client.headers world kind)
      (fun _ s => t ≤ world.monotonic s.trace) F := by
    unfold headers
    by_cases hcred : client.hasCredentials = true
    · dsimp only
      rw [if_pos hcred]
      refine .bind (.call (fun s _ hs _ => hs.trans (hw.monotone s.trace _)) fun s exn hs herr => ?_)
        fun _ => .pure fun s hs => hs
      obtain ⟨hlow, hhigh⟩ := hw.call s.trace (.headers kind (.error exn)) rfl
      rcases hw.headers s.trace kind with ⟨hs', hok⟩ | ⟨message, hexn, hends⟩
      · cases hok.symm.trans herr
      · cases hexn.symm.trans herr
        exact ⟨⟨message, rfl⟩, (add_le_add_left hs e).trans hlow,
          hhigh.trans (add_le_add_left hends d)⟩
    · dsimp only
      rw [if_neg hcred]
      exact .pure fun s hs => hs
  refine .tryCatch (F := F) (.bind hheaders fun _ => .pure fun s hs => hs) fun exn => ?_
  cases exn with
  | transport message => exact .pure fun s hs => ⟨hs.2.1, hs.2.2, trivial⟩
  | _ =>
      refine .throw fun s hs => ?_
      obtain ⟨⟨message, hm⟩, -⟩ := hs
      cases hm

theorem transportSend_outage (hw : world.Outage ends e d b) (t : K) (headers : Headers) :
    Effect.Spec (fun s => t ≤ world.monotonic s.trace) (transportSend world kind payload headers)
      (Tried world ends e d b t) fun _ _ => False := by
  unfold transportSend
  refine .call (fun s o hs ho => ?_) fun s exn hs herr => ?_
  · obtain ⟨o', ho', hcase⟩ := hw.send s.trace kind payload headers
    cases ho'.symm.trans ho
    obtain ⟨hlow, hhigh⟩ := hw.call s.trace (.send kind payload headers (.ok o)) rfl
    rcases hcase with hacc | ⟨hends, hasks⟩
    · rw [Tried, if_neg (ExportOutcome.not_retryable_of_accepted hacc)]
      exact hacc
    · rw [Tried, if_pos hasks.isRetryable]
      exact ⟨(add_le_add_left hs e).trans hlow, hhigh.trans (add_le_add_left hends d), hasks⟩
  · obtain ⟨o', ho', -⟩ := hw.send s.trace kind payload headers
    cases ho'.symm.trans herr

theorem attempt_outage (hw : world.Outage ends e d b) (t : K) :
    Effect.Spec (fun s => t ≤ world.monotonic s.trace) (client.attempt world kind payload)
      (Tried world ends e d b t) fun _ _ => False := by
  refine attempt_rule (resolve_outage hw t) (transportSend_outage hw t) (fun o _ ho => ?_)
    fun _ _ h => h
  -- Nobody refuses the credentials.
  have hno : ∀ s : Export K, ¬ Tried world ends e d b t o s := by
    intro s h
    rw [Tried, if_neg (by rw [ExportOutcome.isRetryable_of_rejection ho]; nofun)] at h
    cases o with
    | permanent status message => cases h
    | _ => cases ho
  exact .call (fun s _ hs _ => (hno _ hs.2).elim) fun s _ hs _ => (hno _ hs.2).elim

theorem deliver_recovering (hw : world.Outage ends e d b) :
    Recovering (fun s : Export K => world.monotonic s.trace) e (ends + d) b
      (fun o _ => o.isAccepted = true) (client.attempt world kind payload)
      (fun seconds => Export.call (world.sleep · seconds) (.sleep seconds))
      (Export.read world.monotonic .monotonic) (Export.read world.jitter .jitter) where
  op := attempt_outage hw
  sleep t seconds := by
    refine .call (fun s _ hs _ => hs.trans (hw.monotone s.trace _)) fun s exn hs herr => ?_
    cases (hw.sleep s.trace seconds).symm.trans herr
  monotonic t u := by
    rintro s ⟨hlow, hhigh⟩
    exact ⟨hlow, hhigh, hlow.trans (hw.monotone s.trace _)⟩
  jitter t := by
    rintro s hs
    exact ⟨(hw.jitter s.trace).1, (hw.jitter s.trace).2, hs.trans (hw.monotone s.trace _)⟩

/-- **An outage is outlasted.**  Whatever a collector and a token endpoint answer until `ends`, as
long as they can be tried again and a delay they ask for is at most `b`: where the budget of an export
leaves room for one call and the backoff `b` after that, the export is delivered, in no more attempts
than the outage has room for.  Times are exact: a power of the multiplier never overflows. -/
theorem export_survives_outage (hw : world.Outage ends e d b) (hb : 0 < b)
    (hmax : client.policy.maxBackoff ≤ b) {data : List Data}
    (hdata : client.encode kind data = .ok payload) (s : Export K)
    (hfits : ends + d + b ≤ world.monotonic s.trace + client.policy.maxElapsed) {rounds : Nat}
    (hpos : 0 < rounds) (hrounds : ends + d < world.monotonic s.trace + rounds * e) :
    ∃ o s', client.exportSignal world kind data rounds s = (.ok (some o), s') ∧
      o.isAccepted = true := by
  let now := world.monotonic s.trace
  have hspec : Effect.Spec (fun s' => s' = s) (client.exportSignal world kind data rounds)
      (fun result _ => ∃ o, result = some o ∧ o.isAccepted = true) fun _ _ => False := by
    refine exportSignal_spec (I := fun s' => now ≤ world.monotonic s'.trace ∧
        world.monotonic s'.trace ≤ now) (R := fun result _ => ∃ o, result = some o ∧
          o.isAccepted = true) (fun _ _ => ⟨_, rfl, rfl⟩) (fun e s' herr _ => ?_) (fun s' hs' => ?_)
      (fun payload' _ => withRetry_recovers (deliver_recovering hw) hb hmax hfits hpos
        hrounds) (fun _ h => h) (fun o e s' hraise h => ?_) fun _ _ h => h
    · rw [hdata] at herr
      cases herr
    · subst hs'
      exact ⟨le_rfl, le_rfl⟩
    · obtain ⟨o', ho', hacc⟩ := h
      cases ho'
      cases o with
      | success => cases hraise
      | partialSuccess p => cases hraise
      | retryable status message retryAfter => cases hacc
      | permanent status message => cases hacc
  have h := hspec s rfl
  rcases hr : client.exportSignal world kind data rounds s with ⟨e | result, s'⟩ <;> rw [hr] at h
  · exact h.elim
  · obtain ⟨o, rfl, hacc⟩ := h
    exact ⟨o, s', rfl, hacc⟩

/-! ### Two seconds -/

/-- A collector that is down for two seconds, where every call takes one. -/
def downTwice : World ℚ where
  headers _ _ := .ok []
  invalidate _ _ := .ok ()
  send tr _ _ _ :=
    .ok (if tr.countP Event.isCall ≤ 2 then .retryable (some 503) "down" none else .success)
  sleep _ _ := .ok ()
  monotonic tr := tr.countP Event.isCall
  jitter _ := 1 / 2

theorem downTwice_outage : downTwice.Outage 2 1 1 30 where
  monotone tr ev := by
    change ((tr.countP Event.isCall : Nat) : ℚ) ≤ ((tr ++ [ev]).countP Event.isCall : Nat)
    rw [List.countP_append]
    exact_mod_cast Nat.le_add_right _ _
  call tr ev hev := by
    have hcount : (tr ++ [ev]).countP Event.isCall = tr.countP Event.isCall + 1 := by
      rw [List.countP_append, List.countP_singleton, if_pos hev]
    change ((tr.countP Event.isCall : Nat) : ℚ) + 1 ≤ ((tr ++ [ev]).countP Event.isCall : Nat) ∧
      (((tr ++ [ev]).countP Event.isCall : Nat) : ℚ) ≤ (tr.countP Event.isCall : Nat) + 1
    rw [hcount, Nat.cast_add, Nat.cast_one]
    exact ⟨le_rfl, le_rfl⟩
  headers _ _ := Or.inl ⟨[], rfl⟩
  send tr kind payload headers := by
    refine ⟨_, rfl, ?_⟩
    by_cases h : tr.countP Event.isCall ≤ 2
    · rw [if_pos h]
      exact Or.inr ⟨show ((tr.countP Event.isCall : Nat) : ℚ) ≤ 2 by exact_mod_cast h, trivial⟩
    · rw [if_neg h]
      exact Or.inl rfl
  sleep _ _ := rfl
  jitter _ := ⟨one_half_pos.le, one_half_lt_one.le⟩

/-- A client whose data encodes to nothing. -/
def emptyClient : OTLPClient ℚ Nat where
  headersFor _ := []
  encode _ _ := .ok []
  policy := .defaults
  hasCredentials := false

theorem export_survives_outage_downTwice :
    ∃ o s', emptyClient.exportSignal downTwice .metrics [0] 4 {} = (.ok (some o), s') ∧
      o.isAccepted = true := by
  have hstart : downTwice.monotonic ({} : Export ℚ).trace = 0 := Nat.cast_zero
  refine export_survives_outage downTwice_outage (by norm_num) (le_refl (30 : ℚ)) rfl {} ?_
    (by decide) ?_
  · rw [hstart]
    norm_num [emptyClient, RetryPolicy.defaults]
  · rw [hstart]
    norm_num

end OTLPClient

end OtlpClient
