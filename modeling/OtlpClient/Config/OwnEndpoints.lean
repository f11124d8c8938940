import OtlpClient.Config.Endpoints
import OtlpClient.Support.Urlparse

/-!
# Config — the host of a signal

What `endpoint_for` makes of an endpoint, its own or the base endpoint, with the `urllib.parse` of
the standard library.

* `own_endpoint`: an endpoint of a signal's own, which is left as it is unless it has no path.
* `signal_host`: whichever endpoint a signal has, it is sent to the host of that.
-/

namespace OtlpClient

/-- What `urlparse` returns, as strings. -/
def ParseResult.ofParts (p : Urllib.Parts) : ParseResult where
  scheme := String.ofList p.scheme
  netloc := String.ofList p.netloc
  path := String.ofList p.path
  params := String.ofList p.params
  query := String.ofList p.query
  fragment := String.ofList p.fragment

/-- What `urlunparse` is given, as characters. -/
def ParseResult.parts (p : ParseResult) : Urllib.Parts where
  scheme := p.scheme.toList
  netloc := p.netloc.toList
  path := p.path.toList
  params := p.params.toList
  query := p.query.toList
  fragment := p.fragment.toList

variable {check : List Char → Except PyError Unit} {u : Uri} {host : List Char}
  {c : Settings} {kind : SignalKind}

/-- With the `urllib.parse` of the standard library. -/
def ConfigLib.withUrllib (lib : ConfigLib) (check : List Char → Except PyError Unit) : ConfigLib :=
  { lib with
    urlparse := fun url => (Urllib.urlparse check url.toList).map ParseResult.ofParts
    urlunparse := fun parsed => String.ofList (Urllib.urlunparse parsed.parts) }

/-- A URI with a host, which `urlparse` does not refuse. -/
structure HasHost (check : List Char → Except PyError Unit) (u : Uri) (host : List Char) :
    Prop where
  scheme : Urllib.IsScheme u.scheme
  authority : u.authority = some host
  nonempty : host ≠ []
  clean : Urllib.IsClean u.text
  accepted : check host = .ok ()

theorem HasHost.urlparse (h : HasHost check u host) (hu : u.WellFormed) :
    Urllib.urlparse check u.text = .ok (Urllib.parts u) := by
  rw [Urllib.urlparse_text hu h.scheme h.clean, h.authority, Option.getD_some, h.accepted]
  rfl

theorem HasHost.ne_none (h : HasHost check u host) : u.authority ≠ none := by
  rw [h.authority]
  exact nofun

/-- The endpoint a signal is configured with: its own, unless it is empty, or the base endpoint. -/
def Settings.configured (c : Settings) (kind : SignalKind) : String :=
  ((pick c.metricsEndpoint c.logsEndpoint c.tracesEndpoint kind).filter (· != "")).getD c.endpoint

theorem configured_inherited (h : c.Inherits kind) : c.configured kind = c.endpoint := by
  rw [Settings.configured]
  rcases h with h | h <;> rw [h] <;> rfl

theorem endpointFor_own (lib : ConfigLib) (h : ¬ c.Inherits kind) :
    c.endpointFor lib kind = signalEndpoint lib (c.configured kind) := by
  rw [c.endpointFor_eq, Settings.configured]
  unfold Settings.Inherits at h
  cases hpick : pick c.metricsEndpoint c.logsEndpoint c.tracesEndpoint kind with
  | none => exact absurd (Or.inl hpick) h
  | some endpoint =>
      have hne : endpoint ≠ "" := by
        rintro rfl
        exact h (Or.inr hpick)
      rw [Option.filter_some_pos (by simpa using hne), Option.getD_some]
      split
      · rename_i heq
        cases heq
      · rename_i heq
        exact absurd (Option.some.inj heq) hne
      · rename_i heq
        cases heq
        rfl

/-! ### An endpoint of a signal's own -/

/-- An endpoint of a signal's own is used as it is, and with the root path where it has none. -/
theorem own_endpoint (lib : ConfigLib) {url : String} (h : HasHost check u host)
    (hu : Uri.split? url.toList = some u) :
    signalEndpoint (lib.withUrllib check) url =
      .ok (if u.path = [] then String.ofList (Urllib.rooted u).text else url) := by
  have hwell := Uri.wellFormed_split? hu
  have hparse : (lib.withUrllib check).urlparse url =
      .ok (ParseResult.ofParts (Urllib.parts u)) := by
    change (Urllib.urlparse check url.toList).map _ = _
    rw [← Uri.text_split? hu, h.urlparse hwell]
    rfl
  have hempty : (ParseResult.ofParts (Urllib.parts u)).path.isEmpty = true ↔ u.path = [] := by
    rw [← Urllib.parts_path_eq_nil hwell h.ne_none, String.isEmpty_iff]
    change String.ofList (Urllib.parts u).path = "" ↔ _
    rw [String.ofList_eq_empty_iff]
  rw [signalEndpoint, hparse, ok_bind]
  by_cases hpath : u.path = []
  · rw [if_pos (hempty.mpr hpath), if_pos hpath]
    have hparts : ({ ParseResult.ofParts (Urllib.parts u) with path := "/" } : ParseResult).parts =
        { Urllib.parts u with path := ['/'] } := by
      simp [ParseResult.parts, ParseResult.ofParts]
    change Except.ok (String.ofList (Urllib.urlunparse (ParseResult.parts _))) = _
    rw [hparts, Urllib.urlunparse_rooted (Uri.wellFormed_split? hu).scheme_ne h.authority h.nonempty
      hpath]
  · rw [if_neg (fun he => hpath (hempty.mp he)), if_neg hpath]
    rfl

/-- What is put behind a base endpoint leaves its scheme, and its host. -/
theorem behind_host {base : Uri} (path : List Char) (h : base.authority ≠ some []) :
    (base.behind path).scheme = base.scheme ∧ (base.behind path).authority = base.authority := by
  unfold Uri.behind
  split
  · exact ⟨rfl, rfl⟩
  · exact ⟨rfl, rfl⟩
  · rw [if_neg fun hroot : base.IsRootless => h hroot.1]
    exact ⟨rfl, rfl⟩

/-- A signal with no endpoint of its own is sent to the host of the base endpoint. -/
theorem inherited_host {lib : ConfigLib} (h : HasHost check u host) (hkind : c.Inherits kind)
    (hu : Uri.split? c.endpoint.toList = some u) :
    ∃ v, c.urlFor lib kind = some v ∧ v.scheme = u.scheme ∧ v.authority = some host := by
  have hhost : u.authority ≠ some [] := by
    rw [h.authority]
    exact fun heq => h.nonempty (Option.some.inj heq)
  obtain ⟨hscheme, hauthority⟩ := behind_host (httpPath kind).toList hhost
  exact ⟨_, urlFor_inherited hkind hu h.ne_none, hscheme, hauthority.trans h.authority⟩

/-- **A signal is sent to the host of its endpoint.**  Whether the endpoint is its own or the base
endpoint, and whatever its path, query and fragment are: the URL has the scheme of the endpoint, in
lower case at most, and its authority; and an endpoint of its own is left as it is, unless it has no
path, and then gets a root path in front of its query and fragment. -/
theorem signal_host (lib : ConfigLib) (h : HasHost check u host)
    (hu : Uri.split? (c.configured kind).toList = some u) :
    (∃ v, c.urlFor (lib.withUrllib check) kind = some v ∧
      (v.scheme = u.scheme ∨ v.scheme = Urllib.lower u.scheme) ∧ v.authority = some host) ∧
    (¬ c.Inherits kind →
      c.urlFor (lib.withUrllib check) kind = some (if u.path = [] then Urllib.rooted u else u) ∧
      (u.path ≠ [] → c.endpointFor (lib.withUrllib check) kind = .ok (c.configured kind))) := by
  have hown : ¬ c.Inherits kind → c.endpointFor (lib.withUrllib check) kind =
      .ok (if u.path = [] then String.ofList (Urllib.rooted u).text else c.configured kind) := by
    intro hkind
    rw [endpointFor_own _ hkind, own_endpoint lib h hu]
  have hurl : ¬ c.Inherits kind → c.urlFor (lib.withUrllib check) kind =
      some (if u.path = [] then Urllib.rooted u else u) := by
    intro hkind
    rw [Settings.urlFor, hown hkind]
    dsimp only
    split
    · rw [String.toList_ofList,
        Uri.split?_text (Urllib.wellFormed_rooted (Uri.wellFormed_split? hu) h.ne_none)]
    · exact hu
  refine ⟨?_, fun hkind => ⟨hurl hkind, fun hpath => ?_⟩⟩
  · by_cases hkind : c.Inherits kind
    · rw [configured_inherited hkind] at hu
      obtain ⟨v, hv, hscheme, hauthority⟩ :=
        @inherited_host _ _ _ _ _ (lib.withUrllib check) h hkind hu
      exact ⟨v, hv, Or.inl hscheme, hauthority⟩
    · refine ⟨_, hurl hkind, ?_⟩
      split
      · exact ⟨Or.inr rfl, h.authority⟩
      · exact ⟨Or.inl rfl, h.authority⟩
  · rw [hown hkind, if_neg hpath]

/-- An endpoint of the traces, with a query and no path. -/
def ownTraces : Settings :=
  { endpoint := "http://localhost:4318", tracesEndpoint := some "HTTPS://traces.local?tenant=a" }

theorem signal_host_traces :
    ownTraces.urlFor (plainLib.withUrllib fun _ => .ok ()) .traces = some ⟨"https".toList,
      some "traces.local".toList, "/".toList, some "tenant=a".toList, none⟩ := by
  have hu : Uri.split? (ownTraces.configured .traces).toList =
      some ⟨"HTTPS".toList, some "traces.local".toList, [], some "tenant=a".toList, none⟩ := by
    decide
  have hown : ¬ ownTraces.Inherits .traces := by
    rintro (hnone | hempty)
    · cases hnone
    · exact absurd (Option.some.inj hempty) (by decide)
  have h := @signal_host (fun _ => .ok ()) _ "traces.local".toList ownTraces .traces plainLib
    { scheme := by decide
      authority := rfl
      nonempty := by decide
      clean := by decide
      accepted := rfl } hu
  exact (h.2 hown).1

end OtlpClient
