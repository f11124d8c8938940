import OtlpClient.Config.Signals
import OtlpClient.Support.Uri

/-!
# Config — where a signal is sent

What `endpoint_for` makes of a base endpoint, which it takes the slashes off and puts the path of
the signal behind.

* `urlFor_inherited`: the parts of what it makes, which `Uri.behind` computes.
* `endpoint_lands_iff`: when the path of the signal lands in the path of the base endpoint.
-/

namespace OtlpClient

/-- Without the slashes at its end. -/
def dropSlashes (cs : List Char) : List Char := cs.rdropWhile (· == '/')

theorem rstripSlash_toList (endpoint : String) :
    (rstripSlash endpoint).toList = dropSlashes endpoint.toList :=
  String.toList_ofList

/-- What stands before another character than a slash stays. -/
theorem dropSlashes_append {c : Char} (hc : c ≠ '/') (xs ys : List Char) :
    dropSlashes (xs ++ c :: ys) = xs ++ c :: dropSlashes ys := by
  have hstop : ¬ (c == '/') = true := by simpa using hc
  induction ys using List.reverseRecOn with
  | nil => exact List.rdropWhile_concat_neg _ _ _ hstop
  | append_singleton ys y ih =>
      unfold dropSlashes at ih ⊢
      rw [← List.cons_append, ← List.append_assoc, List.rdropWhile_concat, List.rdropWhile_concat,
        ih]
      split
      · rfl
      · rw [List.append_assoc, List.cons_append]

theorem dropSlashes_eq_nil {cs : List Char} : dropSlashes cs = [] ↔ ∀ c ∈ cs, c = '/' := by
  simp [dropSlashes]

/-- Another character than a slash does not come out of the slashes that are taken off. -/
theorem dropSlashes_append_ne {cs path : List Char} {c : Char} (hmem : c ∈ path) (hc : c ≠ '/') :
    dropSlashes cs ++ path ≠ cs := by
  intro h
  have hslashes : dropSlashes cs ++ cs.rtakeWhile (· == '/') = cs :=
    List.rdropWhile_append_rtakeWhile
  rw [List.append_cancel_left (h.trans hslashes.symm)] at hmem
  exact hc (by simpa using List.mem_rtakeWhile_imp hmem)

/-! ### The paths of the signals -/

/-- A path that can stand behind another one, and behind no authority. -/
structure IsSignalPath (path : List Char) : Prop where
  rooted : ∃ c rest, path = '/' :: c :: rest ∧ c ≠ '/'
  inPath : ∀ c ∈ path, Uri.inPath c = true

theorem httpPath_isSignalPath (kind : SignalKind) : IsSignalPath (httpPath kind).toList := by
  cases kind
  all_goals exact ⟨⟨'v', _, rfl, by decide⟩, List.all_eq_true.mp (by decide)⟩

theorem httpPath_injective {kind kind' : SignalKind}
    (h : (httpPath kind).toList = (httpPath kind').toList) : kind = kind' := by
  revert h
  cases kind <;> cases kind' <;> decide

/-! ### Behind a base endpoint -/

namespace Uri

/-- The path of a signal behind the path of the base endpoint. -/
def withPath (base : Uri) (path : List Char) : Uri :=
  { base with path := dropSlashes base.path ++ path }

/-- The slashes reach back to the scheme. -/
def IsRootless (base : Uri) : Prop := base.authority = some [] ∧ ∀ c ∈ base.path, c = '/'

instance (base : Uri) : Decidable base.IsRootless :=
  @instDecidableAnd _ _ inferInstance (List.decidableBAll _ _)

/-- What the text of a base endpoint, without its slashes, and a path are the text of. -/
def behind (base : Uri) (path : List Char) : Uri :=
  match base.fragment, base.query with
  | some fragment, _ => { base with fragment := some (dropSlashes fragment ++ path) }
  | none, some query => { base with query := some (dropSlashes query ++ path) }
  | none, none =>
      if base.IsRootless then { base with authority := none, path } else base.withPath path

variable {base : Uri} {path : List Char}

/-- The slashes are those of the path, unless they reach back to the scheme. -/
theorem dropSlashes_rooted {authority : List Char} (h : ∀ c ∈ authority, inAuthority c = true)
    (hroot : ¬ (authority = [] ∧ ∀ c ∈ path, c = '/')) (xs : List Char) :
    dropSlashes (xs ++ (authority ++ path)) = xs ++ (authority ++ dropSlashes path) := by
  rcases List.eq_nil_or_concat authority with rfl | ⟨authority, c, rfl⟩
  · have hpath : ∃ c ∈ path, c ≠ '/' := by
      by_contra hpath
      push Not at hpath
      exact hroot ⟨rfl, hpath⟩
    obtain ⟨c, hc, hne⟩ := hpath
    obtain ⟨before, after, rfl⟩ := List.append_of_mem hc
    rw [List.nil_append, List.nil_append, ← List.append_assoc, dropSlashes_append hne,
      dropSlashes_append hne, List.append_assoc]
  · have hne : c ≠ '/' := by
      rintro rfl
      exact absurd (h '/' (by simp)) (by decide)
    rw [List.concat_append, ← List.append_assoc, dropSlashes_append hne, List.append_assoc,
      List.concat_append]

theorem text_behind (h : base.WellFormed) (hauthority : base.authority ≠ none) :
    dropSlashes base.text ++ path = (base.behind path).text := by
  obtain ⟨scheme, authority, basePath, query, fragment⟩ := base
  cases fragment with
  | some fragment =>
      have htext : text ⟨scheme, authority, basePath, query, some fragment⟩ =
          (scheme ++ ':' :: (marked ['/', '/'] authority ++ (basePath ++ marked ['?'] query))) ++
            '#' :: fragment := by
        simp [text, tail, marked]
      rw [htext, dropSlashes_append (by decide)]
      simp [behind, text, tail, marked]
  | none =>
      cases query with
      | some query =>
          have htext : text ⟨scheme, authority, basePath, some query, none⟩ =
              (scheme ++ ':' :: (marked ['/', '/'] authority ++ basePath)) ++ '?' :: query := by
            simp [text, tail, marked]
          rw [htext, dropSlashes_append (by decide)]
          simp [behind, text, tail, marked]
      | none =>
          cases authority with
          | none => exact absurd rfl hauthority
          | some authority =>
              have htext : text ⟨scheme, some authority, basePath, none, none⟩ =
                  scheme ++ ':' :: ('/' :: '/' :: [] ++ (authority ++ basePath)) := by
                simp [text, tail, marked]
              rw [htext, dropSlashes_append (by decide)]
              by_cases hroot : IsRootless ⟨scheme, some authority, basePath, none, none⟩
              · obtain ⟨hempty, hslashes⟩ := id hroot
                cases hempty
                have hnil : dropSlashes ('/' :: '/' :: [] ++ ([] ++ basePath)) = [] := by
                  refine dropSlashes_eq_nil.mpr fun c hc => ?_
                  simp only [List.cons_append, List.nil_append, List.mem_cons] at hc
                  rcases hc with rfl | rfl | hc
                  · rfl
                  · rfl
                  · exact hslashes c hc
                rw [hnil, behind]
                simp [hroot, text, tail, marked]
              · rw [dropSlashes_rooted (h.authority authority rfl) fun hr =>
                  hroot ⟨congrArg some hr.1, hr.2⟩, behind]
                simp [hroot, withPath, text, tail, marked]

/-- A part with its slashes taken off and a path behind it, where neither has what ends it. -/
theorem forall_mem_dropSlashes {cs : List Char} {p : Char → Bool} (hcs : ∀ c ∈ cs, p c = true)
    (hpath : ∀ c ∈ path, p c = true) : ∀ c ∈ dropSlashes cs ++ path, p c = true := by
  intro c hc
  rcases List.mem_append.mp hc with hc | hc
  · exact hcs c ((List.rdropWhile_prefix _ _).mem hc)
  · exact hpath c hc

theorem inQuery_of_inPath {c : Char} (h : inPath c = true) : inQuery c = true := by
  rw [inQuery, bne_iff_ne]
  rintro rfl
  exact absurd h (by decide)

theorem wellFormed_withPath (h : base.WellFormed) (hauthority : base.authority ≠ none)
    (hpath : IsSignalPath path) : (base.withPath path).WellFormed where
  scheme_ne := h.scheme_ne
  scheme := h.scheme
  authority := h.authority
  path := forall_mem_dropSlashes h.path hpath.inPath
  rooted _ c hc := by
    change c ∈ (dropSlashes base.path ++ path).head? at hc
    obtain ⟨c', rest, rfl, -⟩ := hpath.rooted
    cases hdrop : dropSlashes base.path with
    | nil =>
        rw [hdrop] at hc
        cases hc
        rfl
    | cons d cs =>
        obtain ⟨rest', hprefix⟩ := List.rdropWhile_prefix (· == '/') base.path
        change dropSlashes base.path ++ rest' = base.path at hprefix
        rw [hdrop] at hc hprefix
        cases hc
        exact h.rooted hauthority c (by rw [← hprefix]; rfl)
  bare hnone := absurd hnone hauthority
  query := h.query

theorem wellFormed_behind (h : base.WellFormed) (hauthority : base.authority ≠ none)
    (hpath : IsSignalPath path) : (base.behind path).WellFormed := by
  unfold behind
  split
  · exact { h with }
  · rename_i query _ hquery
    refine { h with query := ?_ }
    rintro _ ⟨⟩
    exact forall_mem_dropSlashes (h.query query hquery) fun c hc =>
      inQuery_of_inPath (hpath.inPath c hc)
  · split
    · obtain ⟨c, rest, rfl, hc⟩ := hpath.rooted
      refine { h with authority := nofun, path := hpath.inPath, rooted := ?_, bare := ?_ }
      · exact fun hne => absurd rfl hne
      · rintro - ⟨xs, hxs⟩
        cases hxs
        exact hc rfl
    · exact wellFormed_withPath h hauthority hpath

/-- The path of the signal is in the path exactly where there is no part behind the path. -/
theorem behind_eq_iff (hpath : IsSignalPath path) : base.behind path = base.withPath path ↔
    base.query = none ∧ base.fragment = none ∧ ¬ base.IsRootless := by
  obtain ⟨c, rest, hrest, hc⟩ := hpath.rooted
  have hmem : c ∈ path := by simp [hrest]
  unfold behind
  split
  · rename_i fragment hfragment
    rw [hfragment]
    refine iff_of_false (fun heq => ?_) nofun
    have hsame := congrArg Uri.fragment heq
    exact dropSlashes_append_ne hmem hc (Option.some.inj (hsame.trans hfragment))
  · rename_i query _ hquery
    rw [hquery]
    refine iff_of_false (fun heq => ?_) nofun
    have hsame := congrArg Uri.query heq
    exact dropSlashes_append_ne hmem hc (Option.some.inj (hsame.trans hquery))
  · rename_i hfragment hquery
    rw [hquery, hfragment]
    split
    · rename_i hroot
      refine iff_of_false (fun heq => ?_) fun h => h.2.2 hroot
      have hsame := congrArg Uri.authority heq
      exact absurd (hsame.trans hroot.1) nofun
    · rename_i hroot
      exact iff_of_true rfl ⟨rfl, rfl, hroot⟩

/-- Two paths stay two exactly where they do not land in another part. -/
theorem behind_path_ne_iff {path' : List Char} (h : path ≠ path') :
    (base.behind path).path ≠ (base.behind path').path ↔
      base.query = none ∧ base.fragment = none := by
  unfold behind
  split
  · rename_i fragment hfragment
    rw [hfragment]
    exact iff_of_false (fun hne => hne rfl) nofun
  · rename_i query _ hquery
    rw [hquery]
    exact iff_of_false (fun hne => hne rfl) nofun
  · rename_i hfragment hquery
    rw [hquery, hfragment]
    refine iff_of_true ?_ ⟨rfl, rfl⟩
    split
    · exact h
    · exact fun heq => h (List.append_cancel_left heq)

end Uri

/-! ### The endpoint of a signal -/

variable {lib : ConfigLib} {c : Settings} {base : Uri} {kind kind' : SignalKind}

/-- The signal has no endpoint of its own. -/
def Settings.Inherits (c : Settings) (kind : SignalKind) : Prop :=
  pick c.metricsEndpoint c.logsEndpoint c.tracesEndpoint kind = none ∨
    pick c.metricsEndpoint c.logsEndpoint c.tracesEndpoint kind = some ""

/-- The parts of what `endpoint_for` returns. -/
def Settings.urlFor (c : Settings) (lib : ConfigLib) (kind : SignalKind) : Option Uri :=
  match c.endpointFor lib kind with
  | .ok url => Uri.split? url.toList
  | .error _ => none

theorem endpointFor_inherited (h : c.Inherits kind) :
    c.endpointFor lib kind = .ok (rstripSlash c.endpoint ++ httpPath kind) := by
  rw [Settings.endpointFor_eq]
  rcases h with h | h
  · rw [h]
  · rw [h]
    rfl

theorem urlFor_inherited (h : c.Inherits kind) (hbase : Uri.split? c.endpoint.toList = some base)
    (hauthority : base.authority ≠ none) :
    c.urlFor lib kind = some (base.behind (httpPath kind).toList) := by
  have hwell := Uri.wellFormed_split? hbase
  have hpath := httpPath_isSignalPath kind
  rw [Settings.urlFor, endpointFor_inherited h]
  dsimp only
  rw [String.toList_append, rstripSlash_toList, ← Uri.text_split? hbase,
    Uri.text_behind hwell hauthority,
    Uri.split?_text (Uri.wellFormed_behind hwell hauthority hpath)]

/-- **Where the path of a signal lands.**  In the path of the base endpoint, with the other parts as
they are, exactly where that has no query, no fragment, and no slash that belongs to no path; and
two signals are sent to two paths exactly where it has no query and no fragment. -/
theorem endpoint_lands_iff (lib : ConfigLib) (c : Settings) (base : Uri)
    (hbase : Uri.split? c.endpoint.toList = some base) (hauthority : base.authority ≠ none) :
    (∀ kind, c.Inherits kind →
      (c.urlFor lib kind = some (base.withPath (httpPath kind).toList) ↔
        base.query = none ∧ base.fragment = none ∧ ¬ base.IsRootless)) ∧
    ∀ kind kind', c.Inherits kind → c.Inherits kind' → kind ≠ kind' →
      ((c.urlFor lib kind).map Uri.path ≠ (c.urlFor lib kind').map Uri.path ↔
        base.query = none ∧ base.fragment = none) := by
  constructor
  · intro kind hkind
    rw [urlFor_inherited hkind hbase hauthority, Option.some_inj]
    exact Uri.behind_eq_iff (httpPath_isSignalPath kind)
  · intro kind kind' hkind hkind' hne
    rw [urlFor_inherited hkind hbase hauthority, urlFor_inherited hkind' hbase hauthority,
      Option.map_some, Option.map_some, Ne, Option.some_inj]
    exact Uri.behind_path_ne_iff fun heq => hne (httpPath_injective heq)

/-! ### A query -/

/-- A base endpoint with a path and slashes at its end. -/
def slashed : Settings := { endpoint := "http://localhost:4318/otlp//" }

theorem endpoint_lands_slashed : slashed.urlFor plainLib .metrics =
    some ⟨"http".toList, some "localhost:4318".toList, "/otlp/v1/metrics".toList, none, none⟩ := by
  have hbase : Uri.split? slashed.endpoint.toList =
      some ⟨"http".toList, some "localhost:4318".toList, "/otlp//".toList, none, none⟩ := by
    decide
  have h := (endpoint_lands_iff plainLib slashed _ hbase nofun).1 .metrics (Or.inl rfl)
  exact h.mpr (by decide)

/-- A base endpoint with a query. -/
def queried : Settings := { endpoint := "http://collector:4318?tenant=a" }

def queriedUri : Uri :=
  ⟨"http".toList, some "collector:4318".toList, [], some "tenant=a".toList, none⟩

/-- The path of every signal ends up in the query, and all of them are sent to one path. -/
theorem queried_swallows : Uri.split? queried.endpoint.toList = some queriedUri ∧
    queried.urlFor plainLib .metrics =
      some { queriedUri with query := some "tenant=a/v1/metrics".toList } ∧
    queried.urlFor plainLib .metrics ≠
      some (queriedUri.withPath (httpPath .metrics).toList) ∧
    (queried.urlFor plainLib .metrics).map Uri.path =
      (queried.urlFor plainLib .logs).map Uri.path := by
  refine ⟨?_, ?_, ?_, ?_⟩ <;> decide

end OtlpClient
