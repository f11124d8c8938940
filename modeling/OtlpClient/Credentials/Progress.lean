import OtlpClient.Credentials.Minting
import OtlpClient.Support.Ranks

/-!
# Credentials — every call ends

The calls of `headers` on one provider wait for each other, and for the token endpoint.

* `call_step`: a step moves one call at most, and a call that moves of itself nearer its end.
* `headers_terminate`: some call can always move until all have ended, and they move so often at
  most.
-/

namespace OtlpClient.OAuth2ClientCredentials

variable {T : Type}

/-- How often the call may still move. -/
def CallPc.ahead : CallPc → Nat
  | .idle => 0
  | .acquiring => 2
  | .requesting => 1

/-- The call moves of itself, or the token endpoint answers it. -/
def Action.isOwn : Action T → Bool
  | .acquire _ | .respond .. => true
  | _ => false

/-- A call of `headers`. -/
def Action.isCall : Action T → Bool
  | .headers _ => true
  | _ => false

/-- The calls that have not ended are some calls, and all move so often at most. -/
def Rank (s : State T) (k : Nat) : Prop :=
  ∃ calls : Finset Nat, (∀ n, s.call n ≠ .idle → n ∈ calls) ∧ k = ∑ n ∈ calls, (s.call n).ahead

variable [Zero T] [Add T] [Sub T] [LT T] [DecidableLT T] {c : OAuth2ClientCredentials T}

/-- What a step does to the calls. -/
theorem call_step {s s' : State T} {a : Action T} {es : List (Event T)} (hs : c.Step s a s' es) :
    (a.isOwn = true ∧ ∃ n pc, s'.call = Function.update s.call n pc ∧
        pc.ahead < (s.call n).ahead) ∨
      (a.isOwn = false ∧ (s'.call = s.call ∨ ∃ n pc, s'.call = Function.update s.call n pc ∧
        pc.ahead ≤ if a.isCall then 2 else 0)) := by
  cases hs with
  | @headers _ n hn =>
      refine Or.inr ⟨rfl, ?_⟩
      unfold headers
      by_cases hu : c.Usable s
      · rw [if_pos hu]
        exact Or.inl rfl
      · rw [if_neg hu]
        exact Or.inr ⟨n, .acquiring, rfl, Nat.le_refl 2⟩
  | @acquire _ n hn hl =>
      refine Or.inl ⟨rfl, n, ?_⟩
      unfold recheck
      rw [hn]
      by_cases hu : c.Usable s
      · rw [if_pos hu]
        exact ⟨.idle, rfl, by decide⟩
      · rw [if_neg hu]
        exact ⟨.requesting, rfl, by decide⟩
  | @respond _ n reply hn =>
      refine Or.inl ⟨rfl, n, .idle, ?_, ?_⟩
      · unfold respond
        cases c.refresh reply <;> rfl
      · rw [hn]
        exact Nat.one_pos
  | @cancel _ n hn => exact Or.inr ⟨rfl, Or.inr ⟨n, .idle, rfl, Nat.le_refl 0⟩⟩
  | invalidate => exact Or.inr ⟨rfl, Or.inl rfl⟩
  | tick _ => exact Or.inr ⟨rfl, Or.inl rfl⟩

omit [Zero T] [Add T] [Sub T] [LT T] [DecidableLT T] in
theorem CallPc.ne_idle_of_lt {pc : CallPc} {k : Nat} (h : k < pc.ahead) : pc ≠ .idle := by
  rintro rfl
  exact Nat.not_lt_zero k h

/-- A call that moves of itself comes nearer its end. -/
theorem rank_own {s s' : State T} {a : Action T} {es : List (Event T)} {k : Nat}
    (ha : a.isOwn = true) (hs : c.Step s a s' es) (h : Rank s k) :
    ∃ k', Rank s' k' ∧ k' + 1 ≤ k := by
  obtain ⟨calls, hall, rfl⟩ := h
  rcases call_step hs with ⟨-, n, pc, hcall, hlt⟩ | ⟨hother, -⟩
  · have hn := hall n (CallPc.ne_idle_of_lt hlt)
    refine ⟨_, ⟨calls, ?_, rfl⟩, ?_⟩
    · rw [hcall]
      exact mem_of_update hn hall
    · have hsum := sum_update CallPc.ahead s.call hn pc
      rw [hcall]
      omega
  · rw [ha] at hother
    cases hother

/-- A new call has two steps to go. -/
theorem rank_other {s s' : State T} {a : Action T} {es : List (Event T)} {k : Nat}
    (ha : a.isOwn = false) (hs : c.Step s a s' es) (h : Rank s k) :
    ∃ k', Rank s' k' ∧ k' ≤ k + if a.isCall then 2 else 0 := by
  obtain ⟨calls, hall, rfl⟩ := h
  rcases call_step hs with ⟨hown, -⟩ | ⟨-, hcall | ⟨n, pc, hcall, hle⟩⟩
  · rw [ha] at hown
    cases hown
  · refine ⟨_, ⟨calls, ?_, rfl⟩, ?_⟩
    · rw [hcall]
      exact hall
    · rw [hcall]
      exact Nat.le_add_right _ _
  · have hn : n ∈ insert n calls := Finset.mem_insert_self n calls
    refine ⟨_, ⟨insert n calls, ?_, rfl⟩, ?_⟩
    · rw [hcall]
      exact mem_of_update hn fun n' hn' => Finset.mem_insert_of_mem (hall n' hn')
    · have hsum := sum_update CallPc.ahead s.call hn pc
      have hsame : ∑ n' ∈ insert n calls, (s.call n').ahead ≤
          ∑ n' ∈ calls, (s.call n').ahead + (s.call n).ahead := by
        by_cases hm : n ∈ calls
        · rw [Finset.insert_eq_of_mem hm]
          exact Nat.le_add_right _ _
        · rw [Finset.sum_insert hm, Nat.add_comm]
      rw [hcall]
      omega

/-- A call that has not ended can move, or waits for one that can. -/
theorem call_moves {s : State T} (hc : Coherent s) {n : Nat} (hn : s.call n ≠ .idle) :
    ∃ a s' es, a.isOwn = true ∧ c.Step s a s' es := by
  cases hl : s.lock with
  | some holder =>
      exact ⟨.respond holder (.failed "" ""), _, _, rfl, .respond ((hc holder).mp hl)⟩
  | none =>
      cases hpc : s.call n with
      | idle => exact absurd hpc hn
      | acquiring => exact ⟨.acquire n, _, _, rfl, .acquire hpc hl⟩
      | requesting =>
          rw [(hc n).mpr hpc] at hl
          cases hl

/-- The calls that have not ended are some calls. -/
theorem calls_finite {now : T} {s : State T} {tr : List (Event T)} (hr : c.Run now s tr) :
    ∃ calls : Finset Nat, ∀ n, n ∈ calls ↔ s.call n ≠ .idle := by
  have hinv : ∃ k, Rank s k := by
    refine Machine.Run.invariant (I := fun s _ => ∃ k, Rank s k) hr
      ⟨_, ∅, fun n hn => absurd rfl hn, rfl⟩ ?_
    rintro s a s' tr es - ⟨k, h⟩ hs
    cases ha : a.isOwn with
    | true =>
        obtain ⟨k', h', -⟩ := rank_own ha hs h
        exact ⟨k', h'⟩
    | false =>
        obtain ⟨k', h', -⟩ := rank_other ha hs h
        exact ⟨k', h'⟩
  obtain ⟨k, calls, hall, -⟩ := hinv
  refine ⟨calls.filter fun n => s.call n ≠ .idle, fun n => ?_⟩
  rw [Finset.mem_filter]
  exact and_iff_right_of_imp (hall n)

/-- **Every call of `headers` comes to an end.**  From every state a run reaches, whatever the token
endpoint answers and whoever invalidates or is cancelled: until all calls have ended, some call can
move of itself or be answered; and they move so twice at most for each call that has not ended, or
comes later. -/
theorem headers_terminate {now : T} {s : State T} {tr : List (Event T)} (hr : c.Run now s tr) :
    ∃ calls : Finset Nat, (∀ n, n ∈ calls ↔ s.call n ≠ .idle) ∧
      ∀ (s' : State T) (as : List (Action T)), Machine.Run (Machine.taken c.Step) s s' as →
        as.countP Action.isOwn ≤ 2 * (calls.card + as.countP Action.isCall) ∧
          ((∀ n, s'.call n = .idle) ∨ ∃ a s'' es, a.isOwn = true ∧ c.Step s' a s'' es) := by
  obtain ⟨calls, hcalls⟩ := calls_finite hr
  refine ⟨calls, hcalls, fun s' as h => ?_⟩
  have hc : Coherent s' :=
    Machine.Run.invariant (I := fun s _ => Coherent s) h (run_coherent hr)
      fun s a s' _ _ _ hc ⟨_, _, hs⟩ => hs.coherent hc
  obtain ⟨k, -, hle⟩ := h.taken_le ⟨calls, fun n => (hcalls n).mpr, rfl⟩
    (fun _ _ _ _ _ ha hs hn => rank_own ha hs hn) fun _ _ _ _ _ ha hs hn => rank_other ha hs hn
  have hone : ∀ n ∈ calls, (s.call n).ahead ≤ 2 := by
    intro n _
    cases s.call n <;> decide
  have hbound := Finset.sum_le_card_nsmul calls _ 2 hone
  rw [Nat.nsmul_eq_mul] at hbound
  change as.countP Action.isOwn + k ≤ _ + 2 * as.countP Action.isCall at hle
  refine ⟨by omega, ?_⟩
  by_cases hidle : ∀ n, s'.call n = .idle
  · exact Or.inl hidle
  · obtain ⟨n, hn⟩ := not_forall.mp hidle
    exact Or.inr (call_moves hc hn)

/-- One call requests a token, and another waits for the lock. -/
def waitingOne : State Int :=
  (provider.headers (provider.recheck (provider.headers (init 100) 0).1 0).1 1).1

theorem waitingOne_run : provider.Run 100 waitingOne [.requested 0] := by
  have h₀ : provider.Run 100 (init 100) [] := .start
  have h₁ := h₀.next (.headers (n := 0) rfl)
  have h₂ := h₁.next (.acquire (n := 0) rfl rfl)
  exact h₂.next (.headers (n := 1) rfl)

theorem headers_terminate_waitingOne :
    (∀ (s' : State Int) (as : List (Action Int)),
      Machine.Run (Machine.taken provider.Step) waitingOne s' as →
        as.countP Action.isOwn ≤ 4 + 2 * as.countP Action.isCall) ∧
      ∃ a s'' es, a.isOwn = true ∧ provider.Step waitingOne a s'' es := by
  obtain ⟨calls, hcalls, hle⟩ := headers_terminate waitingOne_run
  have hsub : calls ⊆ {0, 1} := by
    intro n hn
    match n with
    | 0 => exact Finset.mem_insert_self 0 {1}
    | 1 => exact Finset.mem_insert_of_mem (Finset.mem_singleton_self 1)
    | _ + 2 => exact absurd rfl ((hcalls _).mp hn)
  have hcard : calls.card ≤ 2 := Finset.card_le_card hsub
  refine ⟨fun s' as h => ?_, ?_⟩
  · have hcount := (hle s' as h).1
    omega
  · rcases (hle waitingOne [] .start).2 with hidle | hmove
    · cases hidle 0
    · exact hmove

end OtlpClient.OAuth2ClientCredentials
