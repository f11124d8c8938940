import OtlpClient.Client.Create
import OtlpClient.Support.History
import OtlpClient.Support.Machine

/-!
# Client — who closes what

Sessions and channels over the lifetime of any number of clients and OAuth2 providers, some of which
share sessions of the caller: `OTLPClient.create` and `aclose`, and `_ensure_session` and `aclose`
of `OAuth2ClientCredentials`.

* `Step.cases`: what a step opens and closes.
* `connections_owned`: every connection is closed by the one that opened it, and by no other.
-/

namespace OtlpClient

/-- `_session` and `_owns_session` of a provider. -/
structure ProviderSession where
  session : Option Nat
  ownsSession : Bool := false

/-- `_ensure_session`: a session is opened for the first token, where none was handed in. -/
def ProviderSession.ensureSession (p : ProviderSession) :
    Effect Exn (List Connection) ProviderSession :=
  match p.session with
  | some _ => pure p
  | none => do return { session := some (← openConnection .session), ownsSession := true }

/-- `OAuth2ClientCredentials.aclose`: the session it closes. -/
def ProviderSession.aclose (p : ProviderSession) : Option Nat :=
  if p.ownsSession then p.session else none

/-- `aclose` of a transport: the session or the channel it closes. -/
def Transport.aclose : Transport → Option Nat
  | .http _ session ownsSession _ => if ownsSession then some session else none
  | .grpc _ channel => some channel

namespace Lifetime

/-- Who opens and closes: the caller, a client or a provider. -/
inductive Party where
  | caller
  | client (n : Nat)
  | provider (n : Nat)
  deriving DecidableEq

inductive Event where
  | opened (p : Party) (r : Nat)
  | closed (p : Party) (r : Nat)
  /-- `aclose` was called. -/
  | aclosed (p : Party)

/-- All connections that were opened, the sessions of the caller, and what exists. -/
structure State where
  connections : List Connection := []
  sessions : List Nat := []
  client : Nat → Option Transport := fun _ => none
  provider : Nat → Option ProviderSession := fun _ => none

inductive Action where
  | openSession
  | closeSession (r : Nat)
  | create (n : Nat) (config : ConnectionSettings) (session : SessionArgument)
  | acloseClient (n : Nat)
  | provide (n : Nat) (session : Option Nat)
  | ensureSession (n : Nat)
  | acloseProvider (n : Nat)

/-- What was opened between two moments. -/
def openings (p : Party) (before after : List Connection) : List Event :=
  (List.range' before.length (after.length - before.length)).map (Event.opened p)

/-- What `aclose` puts out. -/
def closings (p : Party) (held : Option Nat) : List Event :=
  .aclosed p :: held.toList.map (Event.closed p)

variable (lib : ConnectionLib) (s : State)

/-- `OTLPClient.create`, for the client of a number; where it raises there is none. -/
def State.create (n : Nat) (config : ConnectionSettings) (session : SessionArgument) :
    State × List Event :=
  let result := OTLPClient.create lib config session s.connections
  ({ s with
      connections := result.2
      client := match result.1 with
        | .ok t => Function.update s.client n (some t)
        | .error _ => s.client },
    openings (.client n) s.connections result.2)

/-- `_ensure_session`, of the provider of a number. -/
def State.ensureSession (n : Nat) (p : ProviderSession) : State × List Event :=
  let result := p.ensureSession s.connections
  ({ s with
      connections := result.2
      provider := match result.1 with
        | .ok p => Function.update s.provider n (some p)
        | .error _ => s.provider },
    openings (.provider n) s.connections result.2)

/-- The caller hands in its own sessions only, and closes no other. -/
inductive Step : Machine State Action Event where
  | openSession {s : State} :
      Step s .openSession
        { s with
          connections := s.connections ++ [.session]
          sessions := s.connections.length :: s.sessions }
        (openings .caller s.connections (s.connections ++ [.session]))
  | closeSession {s : State} {r : Nat} (hr : r ∈ s.sessions) :
      Step s (.closeSession r) s [.closed .caller r]
  | create {s : State} {n : Nat} {config : ConnectionSettings} {session : SessionArgument}
      (hn : s.client n = none) (hgiven : ∀ r, session = .clientSession r → r ∈ s.sessions) :
      Step s (.create n config session) (s.create lib n config session).1
        (s.create lib n config session).2
  | acloseClient {s : State} {n : Nat} {t : Transport} (ht : s.client n = some t) :
      Step s (.acloseClient n) s (closings (.client n) t.aclose)
  | provide {s : State} {n : Nat} {session : Option Nat} (hn : s.provider n = none)
      (hgiven : ∀ r ∈ session, r ∈ s.sessions) :
      Step s (.provide n session)
        { s with provider := Function.update s.provider n (some { session }) } []
  | ensureSession {s : State} {n : Nat} {p : ProviderSession} (hp : s.provider n = some p) :
      Step s (.ensureSession n) (s.ensureSession n p).1 (s.ensureSession n p).2
  | acloseProvider {s : State} {n : Nat} {p : ProviderSession} (hp : s.provider n = some p) :
      Step s (.acloseProvider n) s (closings (.provider n) p.aclose)

/-- A run from nothing. -/
abbrev Run (s : State) (tr : List Event) : Prop := Machine.Run (Step lib) {} s tr

/-! ### What a step does -/

/-- The party would close the connection. -/
def Holds (s : State) : Party → Nat → Prop
  | .caller, r => r ∈ s.sessions
  | .client n, r => (s.client n).bind Transport.aclose = some r
  | .provider n, r => (s.provider n).bind ProviderSession.aclose = some r

variable {lib} {s}

theorem openings_self (p : Party) (connections : List Connection) :
    openings p connections connections = [] := by
  rw [openings, Nat.sub_self]
  rfl

theorem openings_snoc (p : Party) (connections : List Connection) (c : Connection) :
    openings p connections (connections ++ [c]) = [.opened p connections.length] := by
  rw [openings, List.length_append, Nat.add_sub_cancel_left]
  rfl

/-- A client or a provider holds one connection at most. -/
theorem Holds.unique {p : Party} {r r' : Nat} (hp : p ≠ .caller) (h : Holds s p r)
    (h' : Holds s p r') : r = r' := by
  cases p with
  | caller => exact absurd rfl hp
  | client n => exact Option.some.inj (h.symm.trans h')
  | provider n => exact Option.some.inj (h.symm.trans h')

/-- What a step does. -/
inductive Does (s s' : State) : List Event → Prop where
  | nothing (hc : s'.connections = s.connections) (h : ∀ p r, Holds s' p r ↔ Holds s p r) :
      Does s s' []
  | opens {p : Party} {c : Connection} (hc : s'.connections = s.connections ++ [c])
      (h : ∀ q r, Holds s' q r ↔ Holds s q r ∨ q = p ∧ r = s.connections.length) :
      Does s s' [.opened p s.connections.length]
  | closes {r : Nat} (hr : Holds s .caller r) (hs : s' = s) : Does s s' [.closed .caller r]
  | acloses {p : Party} {held : Option Nat} (hp : p ≠ .caller)
      (h : ∀ r, Holds s p r ↔ held = some r) (hs : s' = s) : Does s s' (closings p held)

/-- A client that did not exist, and now does. -/
theorem holds_client {n : Nat} {t : Transport} {connections : List Connection}
    (hn : s.client n = none) (q : Party) (r : Nat) :
    Holds { s with connections, client := Function.update s.client n (some t) } q r ↔
      Holds s q r ∨ q = .client n ∧ t.aclose = some r := by
  cases q with
  | caller => simp [Holds]
  | provider m => simp [Holds]
  | client m =>
      by_cases hm : m = n
      · subst hm
        simp [Holds, hn]
      · simp [Holds, hm]

theorem holds_provider {n : Nat} {p : ProviderSession} {connections : List Connection}
    (hn : (s.provider n).bind ProviderSession.aclose = none) (q : Party) (r : Nat) :
    Holds { s with connections, provider := Function.update s.provider n (some p) } q r ↔
      Holds s q r ∨ q = .provider n ∧ p.aclose = some r := by
  cases q with
  | caller => simp [Holds]
  | client m => simp [Holds]
  | provider m =>
      by_cases hm : m = n
      · subst hm
        simp [Holds, hn]
      · simp [Holds, hm]

theorem create_does {n : Nat} {config : ConnectionSettings} {session : SessionArgument}
    (hn : s.client n = none) :
    Does s (s.create lib n config session).1 (s.create lib n config session).2 := by
  have hspec := OTLPClient.create_spec lib config session s.connections s.connections rfl
  unfold State.create
  rcases hresult : OTLPClient.create lib config session s.connections with ⟨e | t, opened⟩
  · rw [hresult] at hspec
    obtain rfl : opened = s.connections := hspec
    dsimp only
    rw [openings_self]
    exact .nothing rfl fun _ _ => Iff.rfl
  · rw [hresult] at hspec
    dsimp only at hspec ⊢
    cases hspec with
    | borrowed =>
        rw [openings_self]
        refine .nothing rfl fun q r => ?_
        rw [holds_client hn]
        simp [Transport.aclose]
    | session | insecureChannel | secureChannel =>
        rw [openings_snoc]
        refine .opens rfl fun q r => ?_
        rw [holds_client hn]
        simp [Transport.aclose, eq_comm]

theorem ensureSession_does {n : Nat} {p : ProviderSession} (hp : s.provider n = some p) :
    Does s (s.ensureSession n p).1 (s.ensureSession n p).2 := by
  obtain ⟨session, owns⟩ := p
  cases session with
  | some r =>
      have hsame : Function.update s.provider n (some ⟨some r, owns⟩) = s.provider := by
        rw [← hp, Function.update_eq_self]
      change Does s { s with provider := Function.update s.provider n (some ⟨some r, owns⟩) }
        (openings _ s.connections s.connections)
      rw [hsame, openings_self]
      exact .nothing rfl fun _ _ => Iff.rfl
  | none =>
      have hnone : (s.provider n).bind ProviderSession.aclose = none := by
        rw [hp]
        cases owns <;> rfl
      change Does s { s with
          connections := s.connections ++ [.session]
          provider := Function.update s.provider n (some ⟨some s.connections.length, true⟩) }
        (openings _ s.connections (s.connections ++ [.session]))
      rw [openings_snoc]
      refine .opens rfl fun q r => ?_
      rw [holds_provider hnone]
      simp [ProviderSession.aclose, eq_comm]

theorem Step.cases {s' : State} {a : Action} {es : List Event} (hs : Step lib s a s' es) :
    Does s s' es := by
  cases hs with
  | openSession =>
      rw [openings_snoc]
      refine .opens rfl fun q r => ?_
      cases q with
      | caller => simp [Holds, or_comm]
      | client n => simp [Holds]
      | provider n => simp [Holds]
  | closeSession hr => exact .closes hr rfl
  | create hn hgiven => exact create_does hn
  | acloseClient ht =>
      refine .acloses nofun (fun r => ?_) rfl
      simp [Holds, ht]
  | @provide _ n session hn hgiven =>
      refine .nothing rfl fun q r => ?_
      rw [holds_provider (by rw [hn]; rfl)]
      simp [ProviderSession.aclose]
  | ensureSession hp => exact ensureSession_does hp
  | acloseProvider hp =>
      refine .acloses nofun (fun r => ?_) rfl
      simp [Holds, hp]

/-! ### A run -/

/-- Who opened what. -/
def opened? : Event → Option (Party × Nat)
  | .opened p r => some (p, r)
  | _ => none

/-- Only what was opened by the party is closed by it, and what a client or a provider opened it
closes when its `aclose` is called. -/
structure Owned (s : State) (tr : List Event) : Prop where
  numbered : (tr.filterMap opened?).map Prod.snd = List.range s.connections.length
  holds : ∀ p r, (p, r) ∈ tr.filterMap opened? ↔ Holds s p r
  closed : Always (fun pre e => ∀ p r, e = .closed p r → .opened p r ∈ pre) tr
  released : ∀ pre p r post, tr = pre ++ .opened p r :: post → p ≠ .caller →
    (.closed p r ∈ post ↔ .aclosed p ∈ post)

theorem mem_opened {tr : List Event} {p : Party} {r : Nat} :
    (p, r) ∈ tr.filterMap opened? ↔ .opened p r ∈ tr := by
  rw [List.mem_filterMap]
  constructor
  · rintro ⟨e, he, hopened⟩
    cases e <;> cases hopened
    exact he
  · intro h
    exact ⟨_, h, rfl⟩

/-- Where an event stands in a history that went on. -/
theorem append_eq_append_cons {tr es pre post : List Event} {e : Event}
    (h : tr ++ es = pre ++ e :: post) :
    (∃ post', post = post' ++ es ∧ tr = pre ++ e :: post') ∨
      ∃ pre', pre = tr ++ pre' ∧ es = pre' ++ e :: post := by
  rcases List.append_eq_append_iff.mp h with ⟨pre', hpre, hes⟩ | ⟨rest, htr, hrest⟩
  · exact Or.inr ⟨pre', hpre, hes⟩
  · cases rest with
    | nil =>
        rw [List.append_nil] at htr
        exact Or.inr ⟨[], by rw [htr, List.append_nil], hrest.symm⟩
    | cons e' post' =>
        obtain ⟨rfl, hpost⟩ := List.cons.inj hrest
        exact Or.inl ⟨post', hpost, htr⟩

/-- What was opened stays released as it was, where the events that follow close what is held by
those whose `aclose` is called, and nothing else. -/
theorem Owned.released_append {s : State} {tr es : List Event} (h : Owned s tr)
    (hopens : ∀ p r pre post, es = pre ++ .opened p r :: post → post = [])
    (hes : ∀ p r, p ≠ .caller → Holds s p r → (.closed p r ∈ es ↔ .aclosed p ∈ es)) :
    ∀ pre p r post, tr ++ es = pre ++ .opened p r :: post → p ≠ .caller →
      (.closed p r ∈ post ↔ .aclosed p ∈ post) := by
  intro pre p r post htr hp
  rcases append_eq_append_cons htr with ⟨post', rfl, rfl⟩ | ⟨pre', -, hopened⟩
  · have hholds : Holds s p r := (h.holds p r).mp (mem_opened.mpr (by simp))
    rw [List.mem_append, List.mem_append, h.released pre p r post' rfl hp, hes p r hp hholds]
  · rw [hopens p r pre' post hopened]
    exact iff_of_false List.not_mem_nil List.not_mem_nil

theorem opened_closings (p : Party) (held : Option Nat) :
    (closings p held).filterMap opened? = [] := by
  cases held <;> rfl

theorem mem_closings {p q : Party} {r : Nat} {held : Option Nat} :
    .closed q r ∈ closings p held ↔ q = p ∧ held = some r := by
  cases held with
  | none => simp [closings]
  | some r' => simp [closings, eq_comm]

theorem Owned.step {s s' : State} {tr es : List Event} (h : Owned s tr) (hs : Does s s' es) :
    Owned s' (tr ++ es) := by
  cases hs with
  | nothing hc hholds =>
      rw [List.append_nil]
      exact ⟨by rw [hc]; exact h.numbered, fun p r => (h.holds p r).trans (hholds p r).symm,
        h.closed, h.released⟩
  | @opens p c hc hholds =>
      refine ⟨?_, fun q r => ?_, h.closed.snoc ?_, h.released_append ?_ ?_⟩
      · rw [List.filterMap_append, List.map_append, h.numbered, hc, List.length_append,
          List.length_singleton, List.range_succ]
        rfl
      · rw [List.filterMap_append, List.mem_append, h.holds, hholds]
        simp [opened?]
      · rintro p' r' ⟨⟩
      · intro p' r' pre post hpost
        cases pre with
        | nil => exact (List.cons.inj hpost).2.symm
        | cons e pre => exact absurd (List.cons.inj hpost).2 (by simp)
      · intro q r _ _
        simp
  | @closes r hr hs' =>
      subst hs'
      refine ⟨?_, fun q r' => ?_, h.closed.snoc ?_, h.released_append ?_ ?_⟩
      · rw [List.filterMap_append, List.map_append, h.numbered]
        exact List.append_nil _
      · rw [List.filterMap_append, List.mem_append, h.holds]
        simp [opened?]
      · rintro p r' ⟨⟩
        exact mem_opened.mp ((h.holds .caller r).mpr hr)
      · intro p' r' pre post hpost
        have hmem : Event.opened p' r' ∈ [Event.closed .caller r] := by simp [hpost]
        simp at hmem
      · intro q r' hq _
        simp [hq]
  | @acloses p held hp hholds hs' =>
      subst hs'
      refine ⟨?_, fun q r' => ?_, ?_, h.released_append ?_ ?_⟩
      · rw [List.filterMap_append, opened_closings, List.append_nil, h.numbered]
      · rw [List.filterMap_append, opened_closings, List.append_nil, h.holds]
      · have haclosed : Always (fun pre e => ∀ p' r', e = .closed p' r' → .opened p' r' ∈ pre)
            (tr ++ [.aclosed p]) := by
          refine h.closed.snoc ?_
          rintro p' r' ⟨⟩
        cases held with
        | none => exact haclosed
        | some r =>
            have htwo : tr ++ closings p (some r) = tr ++ [.aclosed p] ++ [.closed p r] := by
              simp [closings]
            rw [htwo]
            refine haclosed.snoc ?_
            rintro p' r' ⟨⟩
            exact List.mem_append_left _ (mem_opened.mp ((h.holds p r).mpr ((hholds r).mpr rfl)))
      · intro p' r' pre post hpost
        have hmem : (p', r') ∈ (closings p held).filterMap opened? :=
          mem_opened.mpr (by rw [hpost]; simp)
        rw [opened_closings] at hmem
        cases hmem
      · intro q r _ hq
        rw [mem_closings]
        constructor
        · rintro ⟨rfl, -⟩
          exact List.mem_cons_self ..
        · intro hclosed
          have hqp : q = p := by
            cases held <;> simpa [closings] using hclosed
          subst hqp
          exact ⟨rfl, (hholds r).mp hq⟩

theorem run_owned {tr : List Event} (hr : Run lib s tr) : Owned s tr := by
  refine Machine.Run.invariant (I := Owned) hr ⟨rfl, fun p r => ?_, always_nil, ?_⟩
    fun s a s' tr es _ h hs => h.step hs.cases
  · cases p <;> simp [Holds]
  · intro pre p r post htr
    cases pre <;> cases htr

/-- A connection is opened once. -/
theorem Owned.once {pre post : List Event} {p q : Party} {r : Nat}
    (h : Owned s (pre ++ .opened p r :: post)) : .opened q r ∉ pre ++ post := by
  have hnodup := h.numbered ▸ List.nodup_range (n := s.connections.length)
  rw [List.filterMap_append, List.filterMap_cons_some (show opened? (.opened p r) = some (p, r)
    from rfl), List.map_append, List.map_cons, List.nodup_middle, List.nodup_cons,
    ← List.map_append, ← List.filterMap_append] at hnodup
  intro hq
  exact hnodup.1 (List.mem_map.mpr ⟨(q, r), mem_opened.mpr hq, rfl⟩)

/-- **Every connection is closed by the one that opened it.**  In every run of clients, providers
and their caller, whichever sessions they share, whatever `create` raises and however often `aclose`
is called: a session or channel that was opened is opened once; no other than the party that opened
it closes it, and not before; and what a client or a provider opened, which is one connection at
most, it has closed exactly where its `aclose` was called since. -/
theorem connections_owned {pre post : List Event} {p : Party} {r : Nat}
    (hr : Run lib s (pre ++ .opened p r :: post)) :
    (∀ q, .opened q r ∉ pre ++ post) ∧
      (∀ q, .closed q r ∈ pre ++ post → q = p ∧ .closed q r ∉ pre) ∧
      (p ≠ .caller → (∀ r', .opened p r' ∉ pre ++ post) ∧
        (.closed p r ∈ post ↔ .aclosed p ∈ post)) := by
  have h := run_owned hr
  have hopened : (p, r) ∈ (pre ++ .opened p r :: post).filterMap opened? :=
    mem_opened.mpr (by simp)
  refine ⟨fun q => h.once, fun q hq => ?_, fun hp => ⟨fun r' hr' => ?_, ?_⟩⟩
  · have hclosed : .closed q r ∈ pre ++ .opened p r :: post := by
      rcases List.mem_append.mp hq with hq | hq <;> simp [hq]
    have hbefore : ∀ pre' post', pre ++ .opened p r :: post = pre' ++ .closed q r :: post' →
        .opened q r ∈ pre' := fun pre' post' htr => h.closed pre' _ post' htr q r rfl
    constructor
    · obtain ⟨pre', post', htr⟩ := List.append_of_mem hclosed
      have hmem : .opened q r ∈ pre ++ .opened p r :: post := by
        rw [htr]
        exact List.mem_append_left _ (hbefore pre' post' htr)
      rcases List.mem_append.mp hmem with hmem | hmem
      · exact absurd (List.mem_append_left _ hmem) h.once
      · rcases List.mem_cons.mp hmem with heq | hmem
        · cases heq
          rfl
        · exact absurd (List.mem_append_right _ hmem) h.once
    · intro hpre
      obtain ⟨pre', post', rfl⟩ := List.append_of_mem hpre
      have hmem := hbefore pre' (post' ++ .opened p r :: post) (by simp)
      exact absurd (by simp [hmem]) (h.once (q := q))
  · have hholds : Holds s p r' := (h.holds p r').mp (mem_opened.mpr (by
      rcases List.mem_append.mp hr' with hr' | hr' <;> simp [hr']))
    have hsame : r' = r := hholds.unique hp ((h.holds p r).mp hopened)
    rw [hsame] at hr'
    exact h.once hr'
  · exact h.released pre p r post rfl hp

/-- A client with a session of its own is created and closed. -/
theorem closedOne_run : ∃ s, Run .installed s
    ([] ++ .opened (.client 0) 0 :: [.aclosed (.client 0), .closed (.client 0) 0]) := by
  have h₀ : Run .installed {} [] := .start
  have h₁ := h₀.next (@Step.create .installed {} 0 { endpoint := "http://localhost:4318" } .none rfl
    fun _ hr => by cases hr)
  exact ⟨_, h₁.next (@Step.acloseClient .installed _ 0 (.http .json 0 true none) rfl)⟩

theorem connections_owned_closedOne :
    (∀ q, .opened q 0 ∉ [] ++ [Event.aclosed (.client 0), .closed (.client 0) 0]) ∧
      (∀ q, .closed q 0 ∈ [] ++ [Event.aclosed (.client 0), .closed (.client 0) 0] →
        q = .client 0 ∧ Event.closed q 0 ∉ []) ∧
      (Party.client 0 ≠ .caller →
        (∀ r', .opened (.client 0) r' ∉ [] ++ [Event.aclosed (.client 0), .closed (.client 0) 0]) ∧
          (.closed (.client 0) 0 ∈ [Event.aclosed (.client 0), .closed (.client 0) 0] ↔
            .aclosed (.client 0) ∈ [Event.aclosed (.client 0), .closed (.client 0) 0])) := by
  obtain ⟨s, hr⟩ := closedOne_run
  exact connections_owned hr

end Lifetime

end OtlpClient
