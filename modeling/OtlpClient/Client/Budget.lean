import OtlpClient.Client
import OtlpClient.Retry.Schedule

/-!
# Client — how long an export sleeps

The backoff sleeps of one export, on a clock that does not go back and that a sleep takes on.

* `withRetry_slept`: the loop sleeps within its budget.
* `exportSignal_slept`: so does an export, and not at all where its data does not encode.
* `exportSignal_stubborn`: a collector that always asks for the whole budget gets it.
-/

namespace OtlpClient

/-! ### The loop -/

section Loop

variable {K σ : Type} [Field K] [LinearOrder K]

/-- So much was slept, and the clock has come this far. -/
def Slept (clock slept : σ → K) (total now : K) (s : σ) : Prop := slept s = total ∧ now ≤ clock s

/-- What the loop calls, on such a clock: only its sleeps sleep, and they take the clock on. -/
structure Timed (clock slept : σ → K) (op : Effect Exn σ (ExportOutcome K))
    (sleep : K → Effect Exn σ Unit) (monotonic jitter : Effect Exn σ K) : Prop where
  op : ∀ total now, Effect.Spec (Slept clock slept total now) op
    (fun _ => Slept clock slept total now) fun _ => Slept clock slept total now
  sleep : ∀ total now d, Effect.Spec (Slept clock slept total now) (sleep d)
    (fun _ => Slept clock slept (total + max 0 d) (now + max 0 d))
    fun _ s => slept s = total + max 0 d
  monotonic : ∀ total now {E : Exn → σ → Prop}, Effect.Spec (Slept clock slept total now) monotonic
    (fun t s => now ≤ t ∧ Slept clock slept total t s) E
  jitter : ∀ total now {E : Exn → σ → Prop}, Effect.Spec (Slept clock slept total now) jitter
    (fun _ => Slept clock slept total now) E

/-- Since the loop started on top of a total, it slept within its budget and within what has
passed. -/
def WithinBudget (clock slept : σ → K) (policy : RetryPolicy K) (total started : K) (s : σ) :
    Prop :=
  ∃ span now, span ≤ max 0 policy.maxElapsed ∧ started ≤ now ∧ started + span ≤ now ∧
    Slept clock slept (total + span) now s

variable [IsStrictOrderedRing K] {clock slept : σ → K} {op : Effect Exn σ (ExportOutcome K)}
  {policy : RetryPolicy K} {sleep : K → Effect Exn σ Unit} {monotonic jitter : Effect Exn σ K}

/-- One round sleeps once at most, and for no longer than what remains of the budget. -/
theorem retryRound_slept (h : Timed clock slept op sleep monotonic jitter) (total started : K)
    (attempt : Nat) :
    Effect.Spec (WithinBudget clock slept policy total started)
      (retryRound op policy sleep monotonic jitter started attempt)
      (Sum.elim (fun _ s => slept s ≤ total + max 0 policy.maxElapsed)
        fun _ => WithinBudget clock slept policy total started)
      fun _ s => slept s ≤ total + max 0 policy.maxElapsed := by
  refine .of_exists fun span => .of_exists fun now => .of_and fun hspan =>
    .of_and fun hstarted => .of_and fun hpassed => ?_
  -- What was slept so far is within the budget, so the loop may stop anywhere.
  have hstop : ∀ t s, Slept clock slept (total + span) t s →
      slept s ≤ total + max 0 policy.maxElapsed := by
    rintro t s ⟨hslept, -⟩
    rw [hslept]
    exact add_le_add_right hspan total
  refine retryRound_rule (I := Slept clock slept (total + span) now)
    (Q := fun _ s => slept s ≤ total + max 0 policy.maxElapsed)
    (C := fun t s => now ≤ t ∧ Slept clock slept (total + span) t s)
    ((h.op _ _).conseq (fun _ h => h) (fun o s hs => ?_) fun _ => hstop _) (h.monotonic _ _)
    (fun _ t s _ hs => hstop t s hs.2) fun o _ t _ => .of_and fun ht => ?_
  · by_cases ho : o.isRetryable = true
    · rw [if_pos ho]
      exact hs
    · rw [if_neg ho]
      exact hstop _ s hs
  · refine backOff_spec (fun d hlt => ?_) (h.jitter _ _) (fun _ => hstop _) (hstop _) _ _
    rw [Seconds.exact_lt, Seconds.exact_sub, Seconds.exact_sub, not_lt] at hlt
    have hpause : 0 ≤ max 0 d := le_max_left 0 d
    have hbudget : span + max 0 d ≤ max 0 policy.maxElapsed := by
      rw [← max_add_add_left]
      exact max_le (by linarith) (le_trans (by linarith) (le_max_right 0 policy.maxElapsed))
    refine (h.sleep _ _ d).conseq (fun _ h => h) (fun _ s h => ?_) fun _ s h => ?_
    · exact ⟨span + max 0 d, t + max 0 d, hbudget, by linarith, by linarith,
        by rwa [← add_assoc]⟩
    · rw [h, add_assoc]
      exact add_le_add_right hbudget total

/-- The loop sleeps for no longer than its budget, whatever the attempts return. -/
theorem withRetry_slept (h : Timed clock slept op sleep monotonic jitter) (total : K)
    (rounds : Nat) :
    Effect.Spec (fun s => slept s = total) (withRetry op policy sleep monotonic jitter rounds)
      (fun _ s => slept s ≤ total + max 0 policy.maxElapsed)
      fun _ s => slept s ≤ total + max 0 policy.maxElapsed := by
  -- The clock shows something when the loop starts.
  have hstart : ∀ s, slept s = total → ∃ now, Slept clock slept total now s :=
    fun s hs => ⟨clock s, hs, le_rfl⟩
  refine Effect.Spec.conseq (.of_exists fun now => ?_) hstart (fun _ _ h => h) fun _ _ h => h
  refine .bind (h.monotonic _ _) fun started => ?_
  have hloop := Effect.Spec.iterate (I := fun _ => WithinBudget clock slept policy total started)
    (Q := fun _ s => slept s ≤ total + max 0 policy.maxElapsed)
    (retryRound_slept h total started)
    (fun _ s h => by
      obtain ⟨span, now, hspan, -, -, hslept, -⟩ := h
      rw [hslept]
      exact add_le_add_right hspan total) rounds 0
  refine hloop.conseq (fun s h => ?_) (fun _ _ h => h) fun _ _ h => h
  exact ⟨0, started, le_max_left _ _, le_rfl, by rw [add_zero], by rw [add_zero]; exact h.2⟩

end Loop

/-! ### The clock of a world -/

variable {K Data : Type} [Field K] [LinearOrder K]

/-- How long a call sleeps at most: `asyncio.sleep` returns at once from a delay below zero. -/
def Event.slept : Event K → K
  | .sleep seconds _ => max 0 seconds
  | _ => 0

/-- How long the calls so far slept. -/
def slept (tr : List (Event K)) : K := (tr.map Event.slept).sum

/-- `time.monotonic` does not go back, and a sleep that is over took its time. -/
structure World.Clocked (world : World K) : Prop where
  monotone : ∀ tr e, world.monotonic tr ≤ world.monotonic (tr ++ [e])
  slept : ∀ tr seconds,
    world.monotonic tr + seconds ≤ world.monotonic (tr ++ [.sleep seconds (.ok ())])

theorem slept_snoc (tr : List (Event K)) (e : Event K) :
    slept (tr ++ [e]) = slept tr + e.slept := by
  rw [slept, slept, List.map_append, List.sum_append]
  simp

namespace OTLPClient

variable {client : OTLPClient K Data} {world : World K} {kind : SignalKind} {payload : Bytes}

/-- So much was slept in an export, and the clock of the world has come this far. -/
def SleptAt (world : World K) : K → K → Export K → Prop :=
  Slept (fun s => world.monotonic s.trace) fun s => slept s.trace

/-- A call that is no sleep. -/
theorem SleptAt.record {total now : K} {s : Export K} {e : Event K} (hw : world.Clocked)
    (h : SleptAt world total now s) (he : e.slept = 0) :
    SleptAt world total now (s.record e) := by
  refine ⟨?_, h.2.trans (hw.monotone s.trace e)⟩
  change slept (s.trace ++ [e]) = total
  rw [slept_snoc, he, add_zero]
  exact h.1

/-- An attempt makes no sleep. -/
theorem attempt_slept (hw : world.Clocked) (total now : K) :
    Effect.Spec (SleptAt world total now) (client.attempt world kind payload)
      (fun _ => SleptAt world total now) fun _ => SleptAt world total now := by
  let I := SleptAt world total now
  have hcall : ∀ {α : Type} (answer : List (Event K) → Except Exn α)
      (event : Except Exn α → Event K), (∀ r, (event r).slept = 0) →
        Effect.Spec I (Export.call answer event) (fun _ => I) fun _ => I :=
    fun answer event he => .call (fun s a hs _ => hs.record hw (he _))
      fun s e hs _ => hs.record hw (he _)
  have hheaders : Effect.Spec I (client.headers world kind) (fun _ => I) fun _ => I := by
    unfold headers
    by_cases hcred : client.hasCredentials = true
    · dsimp only
      rw [if_pos hcred]
      exact .bind (hcall _ _ fun _ => rfl) fun _ => .pure fun s hs => hs
    · dsimp only
      rw [if_neg hcred]
      exact .pure fun s hs => hs
  have hresolve : Effect.Spec I (client.resolve world kind) (Sum.elim (fun _ => I) fun _ => I)
      fun _ => I := by
    refine .tryCatch (F := fun _ => I) (.bind hheaders fun _ => .pure fun s hs => hs) fun e => ?_
    cases e with
    | transport message => exact .pure fun s hs => hs
    | _ => exact .throw fun s hs => hs
  have hsend : ∀ hs, Effect.Spec I (transportSend world kind payload hs) (fun _ => I) fun _ => I :=
    fun hs => hcall _ _ fun _ => rfl
  exact attempt_rule hresolve hsend (fun o _ _ s hs => hcall _ _ (fun _ => rfl) s hs.2)
    fun _ _ h => h

section Bound

variable [IsStrictOrderedRing K]

/-- What the loop of an export calls, on the clock of the world. -/
theorem deliver_timed (hw : world.Clocked) :
    Timed (fun s : Export K => world.monotonic s.trace) (fun s => slept s.trace)
      (client.attempt world kind payload)
      (fun seconds => Export.call (world.sleep · seconds) (.sleep seconds))
      (Export.read world.monotonic .monotonic) (Export.read world.jitter .jitter) where
  op := attempt_slept hw
  sleep total now d := by
    have hslept : ∀ r (s : Export K), SleptAt world total now s →
        slept (s.record (.sleep d r)).trace = total + max 0 d := by
      intro r s hs
      change slept (s.trace ++ [.sleep d r]) = total + max 0 d
      rw [slept_snoc, show slept s.trace = total from hs.1]
      rfl
    refine .call (fun s a hs _ => ⟨hslept _ s hs, ?_⟩) fun s e hs _ => hslept _ s hs
    change now + max 0 d ≤ world.monotonic (s.trace ++ [.sleep d (.ok ())])
    rw [← max_add_add_left, add_zero]
    exact max_le (hs.2.trans (hw.monotone s.trace _))
      ((add_le_add_left hs.2 d).trans (hw.slept s.trace d))
  monotonic total now _ s hs := ⟨hs.2, SleptAt.record hw ⟨hs.1, le_rfl⟩ rfl⟩
  jitter total now _ s hs := SleptAt.record hw hs rfl

/-- The retry loop of an export sleeps within the budget. -/
theorem deliver_slept (hw : world.Clocked) (total : K) (rounds : Nat) :
    Effect.Spec (fun s => slept s.trace = total) (client.deliver world kind payload rounds)
      (fun _ s => slept s.trace ≤ total + max 0 client.policy.maxElapsed)
      fun _ s => slept s.trace ≤ total + max 0 client.policy.maxElapsed :=
  withRetry_slept (deliver_timed hw) total rounds

/-- An export sleeps within the budget, whatever it returns or raises. -/
theorem exportSignal_slept (hw : world.Clocked) (data : List Data) (total : K) (rounds : Nat) :
    Effect.Spec (fun s => slept s.trace = total) (client.exportSignal world kind data rounds)
      (fun _ s => slept s.trace ≤ total + max 0 client.policy.maxElapsed)
      fun _ s => slept s.trace ≤ total + max 0 client.policy.maxElapsed := by
  have hnone : ∀ s : Export K, slept s.trace = total →
      slept s.trace ≤ total + max 0 client.policy.maxElapsed := by
    intro s hs
    rw [hs]
    exact le_add_of_nonneg_right (le_max_left _ _)
  exact exportSignal_spec (I := fun s => slept s.trace = total) hnone (fun _ s _ hs => hnone s hs)
    (fun s hs => hs) (fun payload _ => deliver_slept hw total rounds) (fun _ h => h)
    (fun _ _ _ _ h => h) fun _ _ h => h

end Bound

/-! ### A collector that asks for the budget -/

/-- Every send is to be retried after the whole budget, and nothing takes time but the sleeps. -/
def stubborn (policy : RetryPolicy K) : World K where
  headers _ _ := .ok []
  invalidate _ _ := .ok ()
  send _ _ _ _ := .ok (.retryable (some 503) "" (some policy.maxElapsed))
  sleep _ _ := .ok ()
  monotonic := slept
  jitter _ := 0

theorem stubborn_clocked [IsStrictOrderedRing K] {policy : RetryPolicy K} :
    (stubborn policy).Clocked where
  monotone tr e := by
    change slept tr ≤ slept (tr ++ [e])
    rw [slept_snoc]
    refine le_add_of_nonneg_right ?_
    cases e with
    | sleep seconds r => exact le_max_left 0 seconds
    | _ => exact le_rfl
  slept tr seconds := by
    change slept tr + seconds ≤ slept (tr ++ [.sleep seconds (.ok ())])
    rw [slept_snoc]
    exact add_le_add_right (le_max_right 0 seconds) (slept tr)

variable (client kind payload)

/-- An attempt is answered with that, whether the client has a provider or not. -/
theorem attempt_stubborn (policy : RetryPolicy K) (s : Export K) : ∃ s',
    client.attempt (stubborn policy) kind payload s =
      (.ok (.retryable (some 503) "" (some policy.maxElapsed)), s') ∧
    slept s'.trace = slept s.trace := by
  obtain ⟨tr, reauthed⟩ := s
  obtain ⟨headersFor, encode, p, hasCredentials⟩ := client
  have hquiet : ∀ (tr : List (Event K)) e, e.slept = 0 → slept (tr ++ [e]) = slept tr := by
    intro tr e he
    rw [slept_snoc, he, add_zero]
  cases hasCredentials <;> cases reauthed
  · exact ⟨_, rfl, hquiet tr _ rfl⟩
  · exact ⟨_, rfl, hquiet tr _ rfl⟩
  · exact ⟨_, rfl, (hquiet _ _ rfl).trans (hquiet tr _ rfl)⟩
  · exact ⟨_, rfl, (hquiet _ _ rfl).trans (hquiet tr _ rfl)⟩

/-- A round of the loop over such attempts. -/
def roundStubborn (started : K) (attempt : Nat) : Effect Exn (Export K) (ExportOutcome K ⊕ Nat) :=
  retryRound (client.attempt (stubborn client.policy) kind payload) client.policy
    (fun seconds => Export.call ((stubborn client.policy).sleep · seconds) (.sleep seconds))
    (Export.read (stubborn client.policy).monotonic .monotonic)
    (Export.read (stubborn client.policy).jitter .jitter) started attempt

theorem roundStubborn_apply (started : K) (attempt : Nat) (s : Export K) : ∃ s₁,
    slept s₁.trace = slept s.trace ∧
    client.roundStubborn kind payload started attempt s =
      if client.policy.maxElapsed ≤ slept s.trace - started then
        (.ok (.inl (.retryable (some 503) "" (some client.policy.maxElapsed))), s₁)
      else if client.policy.maxElapsed - (slept s.trace - started) < client.policy.maxElapsed then
        (.ok (.inl (.retryable (some 503) "" (some client.policy.maxElapsed))), s₁)
      else (.ok (.inr (attempt + 1)), s₁.record (.sleep client.policy.maxElapsed (.ok ()))) := by
  obtain ⟨s₁, hop, hs₁⟩ := attempt_stubborn client kind payload client.policy s
  have hclock : Export.read (stubborn client.policy).monotonic .monotonic s₁ =
    (.ok (slept s₁.trace), s₁.record (.monotonic (slept s₁.trace))) := rfl
  have hcapped : client.policy.capped attempt = .ok (min client.policy.maxBackoff
    (client.policy.initialBackoff * client.policy.multiplier ^ attempt)) := rfl
  refine ⟨s₁.record (.monotonic (slept s₁.trace)), ?_, ?_⟩
  · change slept (s₁.trace ++ [_]) = _
    rw [slept_snoc, hs₁]
    exact add_zero _
  · unfold roundStubborn
    rw [retryRound_retryable hop hclock, backOff_apply hcapped rfl rfl, hs₁]
    simp only [Seconds.exact_le, Seconds.exact_lt, Seconds.exact_sub]
    rfl

/-- The loop sleeps for the whole budget, and gives up. -/
theorem deliver_stubborn (s : Export K) : ∃ s',
    client.deliver (stubborn client.policy) kind payload 2 s =
      (.ok (some (.retryable (some 503) "" (some client.policy.maxElapsed))), s') ∧
    slept s'.trace = slept s.trace + max 0 client.policy.maxElapsed := by
  have hstart : ∀ s : Export K, client.deliver (stubborn client.policy) kind payload 2 s =
      Effect.iterate (client.roundStubborn kind payload (slept s.trace)) 2 0
        (s.record (.monotonic (slept s.trace))) := by
    intro s
    unfold deliver withRetry
    rw [Effect.bind_apply]
    rfl
  have hread : slept (s.record (.monotonic (slept s.trace))).trace = slept s.trace :=
    (slept_snoc _ _).trans (add_zero _)
  obtain ⟨s₁, hs₁, hround⟩ := roundStubborn_apply client kind payload (slept s.trace) 0
    (s.record (.monotonic (slept s.trace)))
  rw [hread, sub_self, sub_zero, if_neg (lt_irrefl _)] at hround
  rw [hstart, Effect.iterate, Effect.bind_apply, hround]
  by_cases hle : client.policy.maxElapsed ≤ 0
  · rw [if_pos hle]
    refine ⟨s₁, rfl, ?_⟩
    rw [hs₁, hread, max_eq_left hle, add_zero]
  · rw [if_neg hle]
    -- The second round finds that the budget is over.
    have hslept : slept (s₁.record (.sleep client.policy.maxElapsed (.ok ()))).trace =
        slept s.trace + client.policy.maxElapsed := by
      refine (slept_snoc _ _).trans ?_
      rw [hs₁, hread]
      exact congrArg _ (max_eq_right (not_le.mp hle).le)
    obtain ⟨s₂, hs₂, hround'⟩ := roundStubborn_apply client kind payload (slept s.trace) 1
      (s₁.record (.sleep client.policy.maxElapsed (.ok ())))
    rw [hslept, if_pos (by rw [add_sub_cancel_left])] at hround'
    refine ⟨s₂, ?_, ?_⟩
    · dsimp only
      rw [Effect.iterate, Effect.bind_apply, hround']
      rfl
    · rw [hs₂, hslept, max_eq_right (not_le.mp hle).le]

variable {client kind payload}

/-- So does an export whose data encodes, and it raises. -/
theorem exportSignal_stubborn {data : List Data} (hd : data ≠ [])
    (he : client.encode kind data = .ok payload) (s : Export K) : ∃ s',
    client.exportSignal (stubborn client.policy) kind data 2 s =
      (.error (.transport ("could not deliver " ++ kind.value ++ " after retries: " ++ "")), s') ∧
    slept s'.trace = slept s.trace + max 0 client.policy.maxElapsed := by
  obtain ⟨s', hs', hslept⟩ := deliver_stubborn client kind payload { s with reauthed := false }
  refine ⟨s', ?_, hslept⟩
  unfold exportSignal
  rw [if_neg (by simpa using hd), he]
  change ((modify _ : Effect Exn (Export K) PUnit) >>= _) s = _
  rw [Effect.bind_apply]
  change (client.deliver (stubborn client.policy) kind payload 2 >>= _) { s with reauthed := false }
    = _
  rw [Effect.bind_apply, hs']
  rfl

end OTLPClient

end OtlpClient
