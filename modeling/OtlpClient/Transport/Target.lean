import Mathlib.Data.List.Infix
import OtlpClient.Config.OwnEndpoints

/-!
# Transport — the target of a channel

`_target` of `transport/grpc.py`, which splits an endpoint with or without a scheme.

* `target_uri`, `target_bare`: its host, and when it is plaintext.
* `transports_reach_host`: OTLP/gRPC and OTLP/HTTP are sent to one host.
-/

namespace OtlpClient

variable {check : List Char → Except PyError Unit} {u : Uri} {host rest : List Char}
  {endpoint : String} {insecure : Bool}

/-- `_target`: the target, and whether it is plaintext. -/
def target (check : List Char → Except PyError Unit) (endpoint : String) (insecure : Bool) :
    Except PyError (String × Bool) := do
  let url := endpoint.toList
  let parsed ← Urllib.urlparse check (if ['/', '/'] <:+: url then url else '/' :: '/' :: url)
  let host := String.ofList (if parsed.netloc.isEmpty then parsed.path else parsed.netloc)
  if parsed.scheme = "https".toList then return (host, false)
  else if parsed.scheme = "http".toList then return (host, true)
  else return (host, insecure)

/-- What a scheme says of security, and `insecure` where it says nothing. -/
def isPlaintext (scheme : List Char) (insecure : Bool) : Bool :=
  if Urllib.lower scheme = "https".toList then false
  else Urllib.lower scheme = "http".toList || insecure

/-- What `_target` makes of what `urlparse` returns. -/
theorem target_eq {url : List Char} {p : Urllib.Parts} {scheme : List Char}
    (hurl : (if ['/', '/'] <:+: endpoint.toList then endpoint.toList
      else '/' :: '/' :: endpoint.toList) = url)
    (hparse : Urllib.urlparse check url = .ok p) (hscheme : p.scheme = Urllib.lower scheme)
    (hnetloc : p.netloc = host) (hne : host ≠ []) :
    target check endpoint insecure = .ok (String.ofList host, isPlaintext scheme insecure) := by
  have hempty : p.netloc.isEmpty = false := by
    rw [hnetloc]
    exact List.isEmpty_eq_false_iff.mpr hne
  unfold target
  dsimp only
  rw [hurl, hparse, ok_bind, hempty, hnetloc, hscheme, isPlaintext]
  by_cases hhttps : Urllib.lower scheme = "https".toList
  · rw [if_pos hhttps, if_pos hhttps]
    rfl
  · rw [if_neg hhttps, if_neg hhttps]
    by_cases hhttp : Urllib.lower scheme = "http".toList
    · rw [if_pos hhttp, decide_eq_true hhttp]
      rfl
    · rw [if_neg hhttp, decide_eq_false hhttp]
      rfl

/-- An endpoint with a scheme. -/
theorem target_uri (h : HasHost check u host) (hu : Uri.split? endpoint.toList = some u) :
    target check endpoint insecure = .ok (String.ofList host, isPlaintext u.scheme insecure) := by
  have htext := Uri.text_split? hu
  have hslashes : ['/', '/'] <:+: endpoint.toList := by
    rw [← htext, Uri.text, h.authority, Uri.marked]
    exact ⟨u.scheme ++ [':'], host ++ (u.path ++ u.tail), by simp⟩
  exact target_eq (if_pos hslashes) (htext ▸ h.urlparse (Uri.wellFormed_split? hu)) rfl
    (by rw [Urllib.parts, h.authority]; rfl) h.nonempty

/-- An endpoint without one, in which no two slashes stand together: `insecure` decides. -/
theorem target_bare (hendpoint : endpoint.toList = host ++ rest)
    (hslashes : ¬ ['/', '/'] <:+: endpoint.toList)
    (hhost : ∀ c ∈ host, Uri.inAuthority c = true)
    (hrest : ∀ c ∈ rest.head?, Uri.inAuthority c = false) (hclean : Urllib.IsClean endpoint.toList)
    (hne : host ≠ []) (hcheck : check host = .ok ()) :
    target check endpoint insecure = .ok (String.ofList host, insecure) := by
  obtain ⟨p, hparse, hscheme, hnetloc⟩ :=
    Urllib.urlparse_bare hhost hrest (hendpoint ▸ hclean) hcheck
  rw [← hendpoint] at hparse
  have h := @target_eq check host endpoint insecure _ p [] (if_neg hslashes) hparse hscheme hnetloc
    hne
  exact h

/-- **One endpoint, one host.**  With a base endpoint that is a URI with a host, OTLP/gRPC opens its
channel to that host, in plaintext exactly where the scheme is `http`, or is neither `http` nor
`https` and the configuration says `insecure`; and OTLP/HTTP sends every signal that has no endpoint
of its own to the same host, under the same scheme. -/
theorem transports_reach_host {c : Settings} (lib : ConfigLib) (h : HasHost check u host)
    (hu : Uri.split? c.endpoint.toList = some u) :
    target check c.endpoint c.insecure =
        .ok (String.ofList host, isPlaintext u.scheme c.insecure) ∧
      ∀ kind, c.Inherits kind → ∃ v, c.urlFor lib kind = some v ∧ v.scheme = u.scheme ∧
        v.authority = some host :=
  ⟨target_uri h hu, fun _ hkind => inherited_host h hkind hu⟩

theorem transports_reach_host_slashed :
    target (fun _ => .ok ()) slashed.endpoint true = .ok ("localhost:4318", true) ∧
      ∀ kind, slashed.Inherits kind → ∃ v, slashed.urlFor plainLib kind = some v ∧
        v.scheme = "http".toList ∧ v.authority = some "localhost:4318".toList := by
  have hu : Uri.split? slashed.endpoint.toList =
      some ⟨"http".toList, some "localhost:4318".toList, "/otlp//".toList, none, none⟩ := by
    decide
  exact @transports_reach_host (fun _ => .ok ()) _ "localhost:4318".toList
    { slashed with insecure := true } plainLib
    { scheme := by decide
      authority := rfl
      nonempty := by decide
      clean := by decide
      accepted := rfl } hu

end OtlpClient
