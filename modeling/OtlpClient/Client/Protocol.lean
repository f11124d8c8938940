import OtlpClient.Client
import OtlpClient.Support.History

/-!
# Client — the protocol of an export

What the record of an export looks like, for every world and however long the export runs: which
headers each send carries, when a further send is made, and when the provider is told that its
credentials were refused.

* `Permitted`: what may happen next, given what happened before.
* `exportSignal_permitted`: everything an export does was permitted when it was done.
* `export_protocol`: what that says of the record.
-/

namespace OtlpClient

variable {T Data : Type}

/-- Neither a send nor an invalidation. -/
def Event.IsQuiet : Event T → Prop
  | .send .. | .invalidate .. => False
  | _ => True

/-- No invalidation so far. -/
def NoInvalidation (tr : List (Event T)) : Prop := ∀ k r, .invalidate k r ∉ tr

/-- No send so far had its credentials refused. -/
def NoRejection (tr : List (Event T)) : Prop :=
  ∀ k p h o, .send k p h (.ok o) ∈ tr → o.isCredentialRejection = false

/-- Every send so far is one that a further send may follow: it is to be retried, or its
credentials were refused and the provider was told so at once. -/
def Resumable (tr : List (Event T)) : Prop :=
  ∀ pre k p h r post, tr = pre ++ .send k p h r :: post → ∃ o, r = .ok o ∧
    (o.isRetryable = true ∨
      o.isCredentialRejection = true ∧ ∃ k' r' post', post = .invalidate k' r' :: post')

namespace OTLPClient

variable (client : OTLPClient T Data) (kind : SignalKind)

/-- The headers of the next send: the configured ones, with those over them that the provider gave
after the last send and the last invalidation. -/
def Fresh (tr : List (Event T)) (hs : Headers) : Prop :=
  if client.hasCredentials = true then
    ∃ h pre post, hs = Dict.update (client.headersFor kind) h ∧
      tr = pre ++ .headers kind (.ok h) :: post ∧ ∀ e ∈ post, e.IsQuiet
  else hs = client.headersFor kind

/-- What an export of a payload may do next. -/
def Permitted (payload : Bytes) (tr : List (Event T)) : Event T → Prop
  | .headers k _ => k = kind ∧ client.hasCredentials = true
  | .invalidate k _ => k = kind ∧ client.hasCredentials = true ∧ NoInvalidation tr ∧
      ∃ pre hs o, tr = pre ++ [.send kind payload hs (.ok o)] ∧ o.isCredentialRejection = true ∧
        NoRejection pre
  | .send k p hs _ => k = kind ∧ p = payload ∧ client.Fresh kind tr hs ∧ Resumable tr
  | _ => True

end OTLPClient

/-! ### Extending a record -/

section Extend

variable {tr : List (Event T)} {e : Event T}

theorem NoInvalidation.snoc (h : NoInvalidation tr) (he : ∀ k r, e ≠ .invalidate k r) :
    NoInvalidation (tr ++ [e]) := by
  intro k r hm
  rcases List.mem_append.mp hm with hm | hm
  · exact h k r hm
  · exact he k r (List.mem_singleton.mp hm).symm

theorem NoRejection.snoc (h : NoRejection tr)
    (he : ∀ k p hs o, e = .send k p hs (.ok o) → o.isCredentialRejection = false) :
    NoRejection (tr ++ [e]) := by
  intro k p hs o hm
  rcases List.mem_append.mp hm with hm | hm
  · exact h k p hs o hm
  · exact he k p hs o (List.mem_singleton.mp hm).symm

/-- What follows a send stays what it is when the record grows. -/
theorem Resumable.snoc (h : Resumable tr) (he : ∀ k p hs r, e = .send k p hs r →
    ∃ o, r = .ok o ∧ o.isRetryable = true) : Resumable (tr ++ [e]) := by
  intro pre k p hs r post htr
  rcases snoc_eq_append_cons htr with ⟨-, he', -⟩ | ⟨post', rfl, htr'⟩
  · obtain ⟨o, ho, hr⟩ := he k p hs r he'.symm
    exact ⟨o, ho, Or.inl hr⟩
  · obtain ⟨o, ho, hr | ⟨hr, k', r', post'', rfl⟩⟩ := h pre k p hs r post' htr'
    · exact ⟨o, ho, Or.inl hr⟩
    · exact ⟨o, ho, Or.inr ⟨hr, k', r', post'' ++ [e], rfl⟩⟩

/-- A refused send may be followed once the provider was told. -/
theorem Resumable.invalidate {k k' : SignalKind} {p : Bytes} {hs : Headers}
    {o : ExportOutcome T} {r : Except Exn Unit} (h : Resumable tr)
    (ho : o.isCredentialRejection = true) :
    Resumable (tr ++ [.send k p hs (.ok o)] ++ [.invalidate k' r]) := by
  intro pre k₁ p₁ hs₁ r₁ post htr
  rcases snoc_eq_append_cons htr with ⟨-, he, -⟩ | ⟨post', rfl, htr'⟩
  · cases he
  · rcases snoc_eq_append_cons htr' with ⟨rfl, he, -⟩ | ⟨post'', rfl, htr''⟩
    · cases he
      exact ⟨o, rfl, Or.inr ⟨ho, k', r, [], rfl⟩⟩
    · obtain ⟨o₁, ho₁, hr | ⟨hr, k'', r'', post₁, rfl⟩⟩ := h pre k₁ p₁ hs₁ r₁ post'' htr''
      · exact ⟨o₁, ho₁, Or.inl hr⟩
      · exact ⟨o₁, ho₁, Or.inr ⟨hr, k'', r'', _, rfl⟩⟩

end Extend

/-! ### What the steps of an export keep -/

namespace OTLPClient

variable {client : OTLPClient T Data} {world : World T} {kind : SignalKind}
  {payload : Bytes}

/-- Everything so far was permitted. -/
def Conforms (client : OTLPClient T Data) (kind : SignalKind) (payload : Bytes) (s : Export T) :
    Prop :=
  Always (client.Permitted kind payload) s.trace

/-- A send may come next, and before the one re-authentication nothing was refused. -/
structure Ready (client : OTLPClient T Data) (kind : SignalKind) (payload : Bytes) (s : Export T) :
    Prop where
  conforms : client.Conforms kind payload s
  resumable : Resumable s.trace
  untold : s.reauthed = false → NoInvalidation s.trace ∧ NoRejection s.trace

/-- The last event is a send with this outcome, made when the export was ready to. -/
def Sent (client : OTLPClient T Data) (kind : SignalKind) (payload : Bytes) (o : ExportOutcome T)
    (s : Export T) : Prop :=
  client.Conforms kind payload s ∧ ∃ tr hs, s.trace = tr ++ [.send kind payload hs (.ok o)] ∧
    Resumable tr ∧ (s.reauthed = false → NoInvalidation tr ∧ NoRejection tr)

theorem Ready.record {s : Export T} {e : Event T} (h : Ready client kind payload s)
    (hq : e.IsQuiet) (he : client.Permitted kind payload s.trace e) :
    Ready client kind payload (s.record e) where
  conforms := h.conforms.snoc he
  resumable := h.resumable.snoc fun k p hs r hsend => by
    subst hsend
    exact hq.elim
  untold := fun hr => by
    obtain ⟨hi, hj⟩ := h.untold hr
    refine ⟨hi.snoc fun k r hinv => ?_, hj.snoc fun k p hs o hsend => ?_⟩
    · subst hinv
      exact hq.elim
    · subst hsend
      exact hq.elim

theorem Sent.ready {s : Export T} {o : ExportOutcome T} (h : Sent client kind payload o s)
    (ho : o.isRetryable = true) : Ready client kind payload s := by
  obtain ⟨hc, tr, hs, htr, hr, hu⟩ := h
  refine ⟨hc, ?_, fun hre => ?_⟩
  · rw [htr]
    refine hr.snoc fun k p hs' r he => ?_
    cases he
    exact ⟨o, rfl, ho⟩
  · obtain ⟨hi, hj⟩ := hu hre
    rw [htr]
    refine ⟨hi.snoc nofun, hj.snoc fun k p hs' o' he => ?_⟩
    cases he
    cases hrej : o.isCredentialRejection with
    | false => rfl
    | true =>
        rw [ExportOutcome.isRetryable_of_rejection hrej] at ho
        cases ho

/-- After an attempt everything was permitted, and after one to be retried a send may come next. -/
def Attempted (client : OTLPClient T Data) (kind : SignalKind) (payload : Bytes)
    (o : ExportOutcome T) (s : Export T) : Prop :=
  if o.isRetryable = true then Ready client kind payload s else client.Conforms kind payload s

theorem Sent.attempted {s : Export T} {o : ExportOutcome T} (h : Sent client kind payload o s) :
    Attempted client kind payload o s := by
  unfold Attempted
  by_cases ho : o.isRetryable = true
  · rw [if_pos ho]
    exact h.ready ho
  · rw [if_neg ho]
    exact h.1

theorem attempted_of_retryable {s : Export T} {o : ExportOutcome T} (ho : o.isRetryable = true)
    (h : Ready client kind payload s) : Attempted client kind payload o s := by
  rw [Attempted, if_pos ho]
  exact h

/-- The headers resolve to fresh ones, or to an outcome that is to be retried. -/
theorem resolve_spec : Effect.Spec (Ready client kind payload) (client.resolve world kind)
    (Sum.elim (fun hs s => Ready client kind payload s ∧ client.Fresh kind s.trace hs)
      (Attempted client kind payload))
    (fun _ => client.Conforms kind payload) := by
  have hheaders : Effect.Spec (Ready client kind payload) (client.headers world kind)
      (fun hs s => Ready client kind payload s ∧ client.Fresh kind s.trace hs)
      (fun _ => Ready client kind payload) := by
    unfold headers
    by_cases hcred : client.hasCredentials = true
    · dsimp only
      rw [if_pos hcred]
      refine .bind (Q := fun h s => Ready client kind payload s ∧
        ∃ tr, s.trace = tr ++ [.headers kind (.ok h)]) ?_ fun h => .pure fun s hs => ?_
      · refine .call (fun s h hs _ => ?_) fun s e hs _ => ?_
        · exact ⟨hs.record trivial ⟨rfl, hcred⟩, s.trace, rfl⟩
        · exact hs.record trivial ⟨rfl, hcred⟩
      · obtain ⟨hready, tr, htr⟩ := hs
        refine ⟨hready, ?_⟩
        rw [Fresh, if_pos hcred]
        exact ⟨h, tr, [], rfl, htr, nofun⟩
    · dsimp only
      rw [if_neg hcred]
      refine .pure fun s hs => ⟨hs, ?_⟩
      rw [Fresh, if_neg hcred]
  refine .tryCatch (F := fun _ => Ready client kind payload) ?_ fun e => ?_
  · exact .bind hheaders fun hs => .pure fun s h => h
  · cases e with
    | transport message => exact .pure fun s h => attempted_of_retryable rfl h
    | _ => exact .throw fun s h => h.conforms

theorem transportSend_spec (hs : Headers) :
    Effect.Spec (fun s => Ready client kind payload s ∧ client.Fresh kind s.trace hs)
      (transportSend world kind payload hs) (Sent client kind payload)
      (fun _ => client.Conforms kind payload) := by
  have hc : ∀ (s : Export T) r, Ready client kind payload s → client.Fresh kind s.trace hs →
      client.Conforms kind payload (s.record (.send kind payload hs r)) :=
    fun s r h hf => h.conforms.snoc ⟨rfl, rfl, hf, h.resumable⟩
  unfold transportSend
  refine .call (fun s o h _ => ?_) fun s e h _ => ?_
  · exact ⟨hc s _ h.1 h.2, s.trace, hs, rfl, h.1.resumable, h.1.untold⟩
  · exact hc s _ h.1 h.2

/-- Telling the provider of the first refusal is permitted, and a send may come next. -/
theorem invalidate_spec (o : ExportOutcome T) (hcred : client.hasCredentials = true)
    (ho : o.isCredentialRejection = true) :
    Effect.Spec
      (fun s => s.reauthed = true ∧ Sent client kind payload o { s with reauthed := false })
      (Export.call (world.invalidate · kind) (.invalidate kind))
      (fun _ => Ready client kind payload) (fun _ => client.Conforms kind payload) := by
  have hready : ∀ (s : Export T) r, s.reauthed = true →
      Sent client kind payload o { s with reauthed := false } →
      Ready client kind payload (s.record (.invalidate kind r)) := by
    rintro s r hre ⟨hc, tr, hs, htr, hr, hu⟩
    obtain ⟨hi, hj⟩ := hu rfl
    have htr' : s.trace = tr ++ [.send kind payload hs (.ok o)] := htr
    refine ⟨hc.snoc ⟨rfl, hcred, ?_, tr, hs, o, htr, ho, hj⟩, ?_, fun hre' => ?_⟩
    · rw [htr']
      exact hi.snoc nofun
    · change Resumable (s.trace ++ _)
      rw [htr']
      exact hr.invalidate ho
    · rw [show (s.record (.invalidate kind r)).reauthed = true from hre] at hre'
      cases hre'
  exact .call (fun s _ h _ => hready s _ h.1 h.2) fun s e h _ => (hready s _ h.1 h.2).conforms

/-- An attempt keeps the protocol. -/
theorem attempt_spec : Effect.Spec (Ready client kind payload) (client.attempt world kind payload)
    (Attempted client kind payload) (fun _ => client.Conforms kind payload) := by
  exact attempt_rule resolve_spec transportSend_spec
    (fun o hcred ho => invalidate_spec o hcred ho) fun _ _ h => h.attempted

/-! ### The protocol -/

/-- The protocol of one export, read off its record. -/
structure ExportProtocol (client : OTLPClient T Data) (kind : SignalKind) (data : List Data)
    (tr : List (Event T)) : Prop where
  /-- The provider is told once, right after the first send whose credentials were refused. -/
  invalidations : ∀ pre k r post, tr = pre ++ .invalidate k r :: post →
    k = kind ∧ client.hasCredentials = true ∧ NoInvalidation pre ∧ NoInvalidation post ∧
      ∃ pre' p hs o, pre = pre' ++ [.send kind p hs (.ok o)] ∧ o.isCredentialRejection = true ∧
        NoRejection pre'
  /-- A send is followed by another only if it is to be retried, or was that first refusal. -/
  resends : ∀ pre k p hs r post, tr = pre ++ .send k p hs r :: post →
    (∃ k' p' hs' r', .send k' p' hs' r' ∈ post) → ∃ o, r = .ok o ∧ (o.isRetryable = true ∨
      o.isCredentialRejection = true ∧ ∃ k' r' post', post = .invalidate k' r' :: post')
  /-- Of the sends that another follows, at most one is not to be retried. -/
  resend_once : ∀ pre₁ k₁ p₁ hs₁ o₁ post₁ pre₂ k₂ p₂ hs₂ o₂ post₂,
    tr = pre₁ ++ .send k₁ p₁ hs₁ (.ok o₁) :: post₁ →
    tr = pre₂ ++ .send k₂ p₂ hs₂ (.ok o₂) :: post₂ →
    (∃ k p hs r, .send k p hs r ∈ post₁) → (∃ k p hs r, .send k p hs r ∈ post₂) →
    o₁.isRetryable = false → o₂.isRetryable = false → pre₁ = pre₂
  /-- Every send carries the one payload, and headers resolved after the send before it and after
  the invalidation. -/
  sends : ∀ pre k p hs r post, tr = pre ++ .send k p hs r :: post →
    k = kind ∧ client.encode kind data = .ok p ∧ client.Fresh kind pre hs

/-- The provider is told at most once. -/
theorem noInvalidation_after {tr pre post : List (Event T)} {k : SignalKind}
    {r : Except Exn Unit} (h : Always (client.Permitted kind payload) tr)
    (htr : tr = pre ++ .invalidate k r :: post) : NoInvalidation post := by
  intro k' r' hm
  obtain ⟨a, b, rfl⟩ := List.append_of_mem hm
  have hp := h (pre ++ .invalidate k r :: a) (.invalidate k' r') b (by rw [htr]; simp)
  exact hp.2.2.1 k r (by simp)

/-- A send that another follows was one a further send may follow. -/
theorem resumed {tr pre post : List (Event T)} {k : SignalKind} {p : Bytes} {hs : Headers}
    {r : Except Exn (ExportOutcome T)} (h : Always (client.Permitted kind payload) tr)
    (htr : tr = pre ++ .send k p hs r :: post)
    (hlater : ∃ k' p' hs' r', .send k' p' hs' r' ∈ post) :
    ∃ o, r = .ok o ∧ (o.isRetryable = true ∨ o.isCredentialRejection = true ∧
      ∃ k' r' post', post = .invalidate k' r' :: post') := by
  obtain ⟨k', p', hs', r', hm⟩ := hlater
  obtain ⟨a, b, rfl⟩ := List.append_of_mem hm
  have hp := h (pre ++ .send k p hs r :: a) (.send k' p' hs' r') b (by rw [htr]; simp)
  obtain ⟨o, ho, hr | ⟨hr, k'', r'', post', rfl⟩⟩ := hp.2.2.2 pre k p hs r a rfl
  · exact ⟨o, ho, Or.inl hr⟩
  · exact ⟨o, ho, Or.inr ⟨hr, k'', r'', _, rfl⟩⟩

/-- A record all of which was permitted keeps the protocol. -/
theorem exportProtocol_of_permitted {data : List Data} {tr : List (Event T)}
    (hp : client.encode kind data = .ok payload)
    (h : Always (client.Permitted kind payload) tr) : ExportProtocol client kind data tr where
  invalidations := by
    intro pre k r post htr
    obtain ⟨hk, hcred, hno, pre', hs, o, hpre, ho, hj⟩ := h pre _ post htr
    exact ⟨hk, hcred, hno, noInvalidation_after h htr, pre', payload, hs, o, hpre, ho, hj⟩
  resends := fun pre k p hs r post htr hlater => resumed h htr hlater
  resend_once := by
    intro pre₁ k₁ p₁ hs₁ o₁ post₁ pre₂ k₂ p₂ hs₂ o₂ post₂ htr₁ htr₂ hl₁ hl₂ ho₁ ho₂
    -- Both are followed by an invalidation, of which there is one.
    have hinv : ∀ {pre k p hs o post}, tr = pre ++ .send k p hs (.ok o) :: post →
        (∃ k p hs r, .send k p hs r ∈ post) → o.isRetryable = false →
          ∃ k' r' post', tr = (pre ++ [.send k p hs (.ok o)]) ++ .invalidate k' r' :: post' := by
      intro pre k p hs o post htr hl ho
      obtain ⟨o', ho', hr | ⟨-, k', r', post', rfl⟩⟩ := resumed h htr hl
      · cases ho'
        rw [ho] at hr
        cases hr
      · exact ⟨k', r', post', by rw [htr]; simp⟩
    obtain ⟨k₁', r₁', post₁', h₁⟩ := hinv htr₁ hl₁ ho₁
    obtain ⟨k₂', r₂', post₂', h₂⟩ := hinv htr₂ hl₂ ho₂
    have hbefore := (h _ _ _ h₁).2.2.1
    have hafter := noInvalidation_after h h₁
    have heq := unique_split (p := fun e => ∃ k r, e = Event.invalidate k r)
      (fun z hz ⟨k, r, he⟩ => hbefore k r (he ▸ hz))
      (fun z hz ⟨k, r, he⟩ => hafter k r (he ▸ hz)) ⟨_, _, rfl⟩ (h₁.symm.trans h₂)
    exact (List.append_inj' heq rfl).1
  sends := by
    intro pre k p hs r post htr
    obtain ⟨hk, hpay, hfresh, -⟩ := h pre _ post htr
    exact ⟨hk, by rw [hp, hpay], hfresh⟩

/-! ### An export -/

variable [Seconds T]

/-- The retry loop keeps the protocol. -/
theorem deliver_spec (rounds : Nat) :
    Effect.Spec (Ready client kind payload) (client.deliver world kind payload rounds)
      (fun _ => client.Conforms kind payload) (fun _ => client.Conforms kind payload) := by
  have hsleep : ∀ d r (s : Export T), Ready client kind payload s →
      Ready client kind payload (s.record (.sleep d r)) :=
    fun d r s h => h.record trivial trivial
  have hclock : Effect.Spec (Ready client kind payload)
      (Export.read world.monotonic .monotonic) (fun _ => Ready client kind payload)
      (fun _ => client.Conforms kind payload) :=
    fun s h => (h.record trivial trivial : Ready client kind payload (s.record (.monotonic _)))
  have hjitter : Effect.Spec (Ready client kind payload)
      (Export.read world.jitter .jitter) (fun _ => Ready client kind payload)
      (fun _ => client.Conforms kind payload) :=
    fun s h => (h.record trivial trivial : Ready client kind payload (s.record (.jitter _)))
  have hloop : Effect.Spec _ (client.deliver world kind payload rounds) _
      (fun _ => client.Conforms kind payload) :=
    withRetry_spec (Q := fun _ => client.Conforms kind payload) attempt_spec
      (fun d => .call (fun s _ h _ => hsleep d _ s h) fun s e h _ => (hsleep d _ s h).conforms)
      hclock hjitter (fun _ s h => h.conforms) (fun _ s _ h => h.conforms) rounds
  refine hloop.conseq (fun s h => h) ?_ fun _ s h => h
  intro result s h
  cases result with
  | none => exact h.conforms
  | some o => exact h

/-- Everything an export of a payload does is permitted when it is done. -/
theorem exportSignal_permitted (data : List Data) (rounds : Nat)
    (hp : client.encode kind data = .ok payload) :
    client.Conforms kind payload (client.exportSignal world kind data rounds {}).2 := by
  have hspec : Effect.Spec (fun s => s = {}) (client.exportSignal world kind data rounds)
      (fun _ => client.Conforms kind payload) (fun _ => client.Conforms kind payload) := by
    refine exportSignal_spec (I := Ready client kind payload)
      (R := fun _ => client.Conforms kind payload) ?_ ?_ ?_ ?_ (fun _ h => h) (fun _ _ _ _ h => h)
      fun _ _ h => h
    · rintro s rfl
      exact always_nil
    · intro e s he
      rw [hp] at he
      cases he
    · rintro s rfl
      exact ⟨always_nil, fun pre k p h r post htr => (by cases pre <;> cases htr),
        fun _ => ⟨nofun, nofun⟩⟩
    · intro payload' hp'
      rw [hp] at hp'
      cases hp'
      exact deliver_spec rounds
  exact hspec.state rfl

/-- Data that does not encode is not sent. -/
theorem exportSignal_unencoded (data : List Data) (rounds : Nat) {e : Exn}
    (he : client.encode kind data = .error e) :
    (client.exportSignal world kind data rounds {}).2.trace = [] := by
  by_cases hd : data = []
  · subst hd
    rfl
  · rw [exportSignal_error hd he]

/-- **The protocol of an export.**  In every world, with every policy and after any number of
attempts: the provider is told once at most, right after the first refusal of its credentials; a
send follows only sends that are to be retried and that refusal; and every send carries the one
payload and headers resolved for it. -/
theorem export_protocol (client : OTLPClient T Data) (world : World T) (kind : SignalKind)
    (data : List Data) (rounds : Nat) :
    ExportProtocol client kind data (client.exportSignal world kind data rounds {}).2.trace := by
  cases hp : client.encode kind data with
  | ok payload => exact exportProtocol_of_permitted hp (exportSignal_permitted data rounds hp)
  | error e =>
      rw [exportSignal_unencoded data rounds hp]
      have hnil : ∀ (pre : List (Event T)) e post, [] ≠ pre ++ e :: post := by
        intro pre e post h
        cases pre <;> cases h
      exact ⟨fun pre k r post h => absurd h (hnil _ _ _),
        fun pre k p hs r post h => absurd h (hnil _ _ _),
        fun pre₁ k₁ p₁ hs₁ o₁ post₁ pre₂ k₂ p₂ hs₂ o₂ post₂ h => absurd h (hnil _ _ _),
        fun pre k p hs r post h => absurd h (hnil _ _ _)⟩

end OTLPClient

end OtlpClient
