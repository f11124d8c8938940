import OtlpClient.Credentials.Atomic

/-!
# Credentials — when a token is cached

Whether a token that has just been stored is used again, at the same reading of the clock.

* `cached_of_outlives`: what keeps it.
* `Cached.outlives`: what its being kept says of the response.
* `cached_iff`: the two, over any arithmetic.
* `outlives_iff`: in exact arithmetic, the time to live is longer than the skew.
-/

namespace OtlpClient.OAuth2ClientCredentials

variable {T : Type}

/-- The clock stands and nobody invalidates. -/
def Action.Timeless : Action T → Prop
  | .invalidate | .tick _ => False
  | _ => True

/-- A step of calls of `headers` at one reading of the clock, each of whose requests is answered by
one reply. -/
def Action.InBurst (reply : Reply) (s : State T) : Action T → Prop
  | .headers _ | .acquire _ => True
  | .respond _ reply' => reply' = reply
  | .cancel n => s.call n ≠ .requesting
  | .invalidate | .tick _ => False

def Event.IsRequest : Event T → Bool
  | .requested _ => true
  | _ => false

/-- How many token requests were sent. -/
def requests (tr : List (Event T)) : Nat := tr.countP Event.IsRequest

theorem requests_append (tr es : List (Event T)) :
    requests (tr ++ es) = requests tr + requests es :=
  List.countP_append

/-- The `expires_in` of a reply. -/
def expiresIn (c : OAuth2ClientCredentials T) : Reply → Proto.Json
  | .response r =>
      match c.lib.json.loads r.body with
      | .ok doc => doc.get "expires_in"
      | .error _ => .null
  | .failed .. => .null

variable [Zero T] [Add T] [Sub T] [LT T] [DecidableLT T] {c : OAuth2ClientCredentials T}

/-- The time to live of the reply takes the clock past the skew. -/
def Outlives (c : OAuth2ClientCredentials T) (now : T) (reply : Reply) : Prop :=
  ∀ x, c.requestedTtl (c.expiresIn reply) = .ok x → now < now + atLeastZero x - c.expirySkew

/-- A token is used again: after the mint every call returns it and none requests another, and calls
made at once cost one request. -/
structure Cached (c : OAuth2ClientCredentials T) (now : T) (reply : Reply) (token : String) :
    Prop where
  hit : ∀ {now₀ s tr n}, c.Run now₀ s tr → s.now = now → s.call n = .requesting → ∀ s' tr',
    Machine.Run (c.Step.onlyIf fun _ a => a.Timeless) (c.respond s n reply).1 s' tr' →
      requests tr' = 0 ∧ ∀ m,
        c.headers s' m = (s', [.returned m (bearer (some token)) now]) ∧
        c.recheck s' m = (leave s' m, [.returned m (bearer (some token)) now])
  burst : ∀ {now₀ s tr}, c.Run now₀ s tr → s.now = now → (∀ n, s.call n ≠ .requesting) →
    ∀ s' tr', Machine.Run (c.Step.onlyIf (Action.InBurst reply)) s s' tr' → requests tr' ≤ 1

/-! ### A token that stands -/

/-- The token is usable at the reading of the clock, and nobody replaces it. -/
structure Kept (c : OAuth2ClientCredentials T) (token : String) (now : T) (s : State T) :
    Prop where
  token : s.token = some token
  usable : c.Usable s
  now : s.now = now
  settled : ∀ n, s.call n ≠ .requesting

omit [Zero T] [Add T] [DecidableLT T] in
theorem Kept.leave {token : String} {now : T} {s : State T} (h : Kept c token now s) (n : Nat) :
    Kept c token now (leave s n) :=
  ⟨h.token, h.usable, h.now, fun n' hn' => h.settled n' ((leave_still s n).requesting n' hn')⟩

theorem Kept.step {token : String} {now : T} {s s' : State T} {a : Action T} {es : List (Event T)}
    (h : Kept c token now s) (hs : c.Step s a s' es) (ha : a.Timeless) :
    Kept c token now s' ∧ requests es = 0 := by
  cases hs with
  | @headers _ n hn =>
      rw [OAuth2ClientCredentials.headers, if_pos h.usable]
      exact ⟨h, rfl⟩
  | @acquire _ n hn hl =>
      rw [recheck, if_pos h.usable]
      exact ⟨h.leave n, rfl⟩
  | @respond _ n reply hn => exact absurd hn (h.settled n)
  | @cancel _ n hn => exact ⟨h.leave n, rfl⟩
  | invalidate => cases ha
  | tick _ => cases ha

omit [Zero T] [Add T] in
/-- Every call returns it. -/
theorem Kept.returns {token : String} {now : T} {s : State T} (h : Kept c token now s) (m : Nat) :
    c.headers s m = (s, [.returned m (bearer (some token)) now]) ∧
      c.recheck s m = (OAuth2ClientCredentials.leave s m,
        [.returned m (bearer (some token)) now]) := by
  rw [headers, recheck, if_pos h.usable, if_pos h.usable, h.token, h.now]
  exact ⟨rfl, rfl⟩

/-- The token of a reply that outlives the skew stands. -/
theorem kept_respond {s : State T} {n : Nat} {reply : Reply} {token : String} {ttl : T}
    (hc : Coherent s) (hn : s.call n = .requesting) (hreply : c.refresh reply = .ok (token, ttl))
    (hlive : s.now < s.now + ttl - c.expirySkew) :
    Kept c token s.now (c.respond s n reply).1 ∧ requests (c.respond s n reply).2 = 0 := by
  rw [respond, hreply]
  exact ⟨⟨rfl, ⟨Option.some_ne_none token, hlive⟩, rfl, fun n' => minted_alone hc hn⟩, rfl⟩

theorem kept_run {token : String} {now : T} {s s' : State T} {tr : List (Event T)}
    (h : Kept c token now s)
    (hr : Machine.Run (c.Step.onlyIf fun _ a => a.Timeless) s s' tr) :
    Kept c token now s' ∧ requests tr = 0 := by
  refine Machine.Run.invariant (I := fun s' tr => Kept c token now s' ∧ requests tr = 0) hr
    ⟨h, rfl⟩ ?_
  rintro s₁ a s₂ tr es - ⟨h₁, hzero⟩ ⟨hs, ha⟩
  obtain ⟨h₂, hes⟩ := h₁.step hs ha
  exact ⟨h₂, by rw [requests_append, hzero, hes]⟩

/-! ### A burst -/

/-- Of a burst so far: nobody has requested; or one call requests; or its token stands. -/
def Bursting (c : OAuth2ClientCredentials T) (token : String) (now : T) (s : State T)
    (tr : List (Event T)) : Prop :=
  (requests tr = 0 ∧ ∀ n, s.call n ≠ .requesting) ∨
    (requests tr = 1 ∧ ∃ n, s.call n = .requesting) ∨
    (requests tr ≤ 1 ∧ Kept c token now s)

theorem bursting_step {now ttl : T} {reply : Reply} {token : String} {s s' : State T}
    {a : Action T} {tr es : List (Event T)} (hreply : c.refresh reply = .ok (token, ttl))
    (hlive : now < now + ttl - c.expirySkew) (hs : c.Step s a s' es) (ha : a.InBurst reply s)
    (hc : Coherent s) (hnow : s.now = now) (h : Bursting c token now s tr) :
    s'.now = now ∧ Bursting c token now s' (tr ++ es) := by
  rcases h with ⟨hzero, hnone⟩ | ⟨hone, n, hn⟩ | ⟨hle, hkept⟩
  · -- Nobody requests, so no reply can come; a call may start to request.
    cases hs with
    | @headers _ m hm =>
        unfold OAuth2ClientCredentials.headers
        split
        · exact ⟨hnow, Or.inl ⟨by rw [requests_append, hzero]; rfl, hnone⟩⟩
        · refine ⟨hnow, Or.inl ⟨by rw [requests_append, hzero]; rfl, fun n' hn' => ?_⟩⟩
          exact hnone n' (requesting_update .acquiring nofun hn').2
    | @acquire _ m hm hl =>
        unfold recheck
        split
        · refine ⟨hnow, Or.inl ⟨by rw [requests_append, hzero]; rfl, fun n' hn' => ?_⟩⟩
          exact hnone n' ((leave_still s m).requesting n' hn')
        · exact ⟨hnow, Or.inr (Or.inl ⟨by rw [requests_append, hzero]; rfl, m,
            Function.update_self ..⟩)⟩
    | @respond _ m reply' hm => exact absurd hm (hnone m)
    | @cancel _ m hm =>
        refine ⟨hnow, Or.inl ⟨by rw [requests_append, hzero]; rfl, fun n' hn' => ?_⟩⟩
        exact hnone n' ((leave_still s m).requesting n' hn')
    | invalidate => cases ha
    | tick _ => cases ha
  · cases hs with
    | @respond _ m reply' hm =>
        obtain rfl : reply' = reply := ha
        obtain ⟨hkept, hes⟩ := kept_respond hc hm hreply (by rw [hnow]; exact hlive)
        rw [hnow] at hkept
        exact ⟨hkept.now, Or.inr (Or.inr ⟨by rw [requests_append, hone, hes], hkept⟩)⟩
    | @headers _ m hm =>
        have hne : n ≠ m := fun he => by
          rw [← he, hn] at hm
          cases hm
        unfold OAuth2ClientCredentials.headers
        split
        · exact ⟨hnow, Or.inr (Or.inl ⟨by rw [requests_append, hone]; rfl, n, hn⟩)⟩
        · exact ⟨hnow, Or.inr (Or.inl ⟨by rw [requests_append, hone]; rfl, n,
            (Function.update_of_ne hne ..).trans hn⟩)⟩
    | @acquire _ m hm hl =>
        rw [(hc n).mpr hn] at hl
        cases hl
    | @cancel _ m hm =>
        have hne : n ≠ m := fun he => ha (he ▸ hn)
        exact ⟨hnow, Or.inr (Or.inl ⟨by rw [requests_append, hone]; rfl, n,
          (Function.update_of_ne hne ..).trans hn⟩)⟩
    | invalidate => cases ha
    | tick _ => cases ha
  · have htimeless : a.Timeless := by
      cases a <;> trivial
    obtain ⟨hkept', hes⟩ := hkept.step hs htimeless
    exact ⟨hkept'.now, Or.inr (Or.inr ⟨by rw [requests_append, hes]; exact hle, hkept'⟩)⟩

/-! ### When it is cached -/

omit [Add T] [Sub T] in
/-- The time to live that is stored is the one the reply asks for. -/
theorem requestedTtl_of_refresh {reply : Reply} {token : String} {ttl : T}
    (h : c.refresh reply = .ok (token, ttl)) :
    ∃ x, c.requestedTtl (c.expiresIn reply) = .ok x ∧ ttl = atLeastZero x := by
  obtain ⟨r, rfl, hg⟩ := refresh_ok_iff.mp h
  obtain ⟨doc, hdoc, -, -, x, hx, he⟩ := hg.body
  refine ⟨x, ?_, he⟩
  rw [expiresIn, hdoc]
  exact hx

theorem cached_of_outlives {now ttl : T} {reply : Reply} {token : String}
    (hreply : c.refresh reply = .ok (token, ttl)) (h : c.Outlives now reply) :
    Cached c now reply token := by
  obtain ⟨x, hx, rfl⟩ := requestedTtl_of_refresh hreply
  have hlive := h x hx
  constructor
  · rintro now₀ s tr n hr rfl hn s' tr' hr'
    obtain ⟨hkept, -⟩ := kept_respond (run_coherent hr) hn hreply hlive
    obtain ⟨hkept', hzero⟩ := kept_run hkept hr'
    exact ⟨hzero, hkept'.returns⟩
  · intro now₀ s tr hr hnow hnone s' tr' hr'
    have hinv := Machine.Run.invariant
      (I := fun s' tr' => Coherent s' ∧ s'.now = now ∧ Bursting c token now s' tr') hr'
      ⟨run_coherent hr, hnow, Or.inl ⟨rfl, hnone⟩⟩
      fun _ _ _ _ _ _ ⟨hc, hn, hb⟩ ⟨hs, ha⟩ =>
        ⟨hs.coherent hc, bursting_step hreply hlive hs ha hc hn hb⟩
    rcases hinv.2.2 with ⟨hzero, -⟩ | ⟨hone, -⟩ | ⟨hle, -⟩
    · omega
    · omega
    · exact hle

/-- The first call of a provider asks for a token. -/
theorem first_request (c : OAuth2ClientCredentials T) (now : T) :
    ∃ s tr, c.Run now s tr ∧ s.now = now ∧ s.call 0 = .requesting := by
  have hmiss : ∀ s : State T, s.token = none → ¬ c.Usable s := fun s hs h => h.1 hs
  have h₀ : c.Run now (init now) [] := .start
  have h₁ := h₀.next (.headers (n := 0) rfl)
  rw [headers, if_neg (hmiss _ rfl)] at h₁
  have h₂ := h₁.next (.acquire (n := 0) (by simp) rfl)
  rw [recheck, if_neg (hmiss _ rfl)] at h₂
  exact ⟨_, _, h₂, rfl, by simp⟩

/-- The call after the mint is answered from the cache, so the token was usable. -/
theorem Cached.outlives {now ttl : T} {reply : Reply} {token : String}
    (hreply : c.refresh reply = .ok (token, ttl)) (h : Cached c now reply token) :
    c.Outlives now reply := by
  obtain ⟨x, hx, rfl⟩ := requestedTtl_of_refresh hreply
  intro y hy
  obtain rfl := Except.ok.inj (hx.symm.trans hy)
  obtain ⟨s, tr, hr, hnow, hn⟩ := first_request c now
  obtain ⟨-, hreturns⟩ := h.hit hr hnow hn _ _ .start
  have hhit := (hreturns 0).1
  by_contra hlive
  rw [respond, hreply] at hhit
  unfold headers at hhit
  rw [if_neg (fun hu => hlive (hnow ▸ hu.2))] at hhit
  cases (Prod.mk.inj hhit).2

/-- **When a token is cached.**  A token that is stored is used again at the same reading of the
clock, and calls made at once cost one request, exactly where the time to live its response asks for
takes the clock past the skew. -/
theorem cached_iff {now ttl : T} {reply : Reply} {token : String}
    (hreply : c.refresh reply = .ok (token, ttl)) :
    Cached c now reply token ↔ c.Outlives now reply :=
  ⟨Cached.outlives hreply, cached_of_outlives hreply⟩

theorem expiring_expiresIn (n : Nat) : (expiring n).expiresIn (expiringReply n) = .int n := by
  have hloads : (expiring n).lib.json.loads (expiringText n) = .ok (expiringDoc n) :=
    Proto.JsonLib.only_loads _ _
  unfold expiresIn expiringReply
  dsimp only
  rw [hloads]
  rfl

theorem expiring_outlives {n : Nat} (h : ¬ BeyondDouble n) :
    (expiring n).Outlives 100 (expiringReply n) ↔ 30 < n := by
  have hx : (expiring n).requestedTtl (.int n) = .ok (n : Int) := by
    simp only [requestedTtl, expiring, wholeSeconds, if_neg h]
  have hzero : atLeastZero (n : Int) = n := if_neg (by omega)
  rw [Outlives, expiring_expiresIn, hx]
  constructor
  · intro hout
    have hlt := hout n rfl
    rw [hzero] at hlt
    change (100 : Int) < 100 + n - 30 at hlt
    omega
  · rintro hn x hx'
    obtain rfl := Except.ok.inj hx'
    rw [hzero]
    change (100 : Int) < 100 + n - 30
    omega

theorem cached_expiring : Cached (expiring 300) 100 (expiringReply 300) "t" := by
  have hsmall : ¬ BeyondDouble (300 : Nat) := not_beyondDouble (by decide)
  exact (cached_iff (expiring_refresh hsmall)).mpr ((expiring_outlives hsmall).mpr (by decide))

/-- A token for thirty seconds is stored, and every call mints another. -/
theorem not_cached_expiring :
    (expiring 30).refresh (expiringReply 30) = .ok ("t", 30) ∧
      ¬ Cached (expiring 30) 100 (expiringReply 30) "t" := by
  have hsmall : ¬ BeyondDouble (30 : Nat) := not_beyondDouble (by decide)
  have hreply := expiring_refresh hsmall
  exact ⟨hreply, fun h => absurd ((expiring_outlives hsmall).mp (h.outlives hreply)) (by decide)⟩

/-! ### Exact arithmetic -/

section Exact

variable {R : Type} [AddCommGroup R] [LinearOrder R] [IsOrderedAddMonoid R]
  {c : OAuth2ClientCredentials R}

/-- Exactly, the reply asks for more than the skew. -/
theorem outlives_iff (hskew : 0 ≤ c.expirySkew) (now : R) (reply : Reply) :
    c.Outlives now reply ↔
      ∀ x, c.requestedTtl (c.expiresIn reply) = .ok x → c.expirySkew < x := by
  refine forall_congr' fun x => imp_congr_right fun _ => ?_
  rw [add_sub_assoc, lt_add_iff_pos_right, sub_pos, atLeastZero]
  by_cases hx : x < 0
  · rw [if_pos hx]
    exact ⟨fun h => absurd h (not_lt.mpr hskew), fun h => absurd (hskew.trans_lt h) hx.not_gt⟩
  · rw [if_neg hx]

end Exact

end OtlpClient.OAuth2ClientCredentials
