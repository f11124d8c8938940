import OtlpClient.Support.Cut

/-!
# Support — URIs

The five parts of a URI (RFC 3986 §3), and the marks between them.

* `Uri.split?`: the parts of a text, by the expression of appendix B.
* `Uri.text`: the text of the parts (§5.3).
* `Uri.split?_text`, `Uri.text_split?`, `Uri.wellFormed_split?`: each undoes the other.
-/

namespace OtlpClient

/-- A part that is `none` has no mark either: it is not the same as an empty one. -/
structure Uri where
  scheme : List Char
  authority : Option (List Char)
  path : List Char
  query : Option (List Char)
  fragment : Option (List Char)
  deriving DecidableEq

namespace Uri

/-- `[^:/?#]`. -/
def inScheme (c : Char) : Bool := !([':', '/', '?', '#'].contains c)

/-- `[^/?#]`. -/
def inAuthority (c : Char) : Bool := !(['/', '?', '#'].contains c)

/-- `[^?#]`. -/
def inPath (c : Char) : Bool := !(['?', '#'].contains c)

/-- `[^#]`. -/
def inQuery (c : Char) : Bool := c != '#'

/-! ### Splitting -/

/-- A scheme, and what follows its colon. -/
def splitScheme (cs : List Char) : Option (List Char × List Char) :=
  match cs.takeWhile inScheme, cs.dropWhile inScheme with
  | c :: scheme, ':' :: rest => some (c :: scheme, rest)
  | _, _ => none

def splitAuthority : List Char → Option (List Char) × List Char
  | '/' :: '/' :: rest => (some (rest.takeWhile inAuthority), rest.dropWhile inAuthority)
  | rest => (none, rest)

def splitQuery : List Char → Option (List Char) × List Char
  | '?' :: rest => (some (rest.takeWhile inQuery), rest.dropWhile inQuery)
  | rest => (none, rest)

def splitFragment : List Char → Option (List Char)
  | '#' :: rest => some rest
  | _ => none

/-- What follows the scheme. -/
def splitRest (scheme rest : List Char) : Uri :=
  let hier := splitAuthority rest
  let marks := splitQuery (hier.2.dropWhile inPath)
  { scheme
    authority := hier.1
    path := hier.2.takeWhile inPath
    query := marks.1
    fragment := splitFragment marks.2 }

/-- The parts of a text; `none` where it has no scheme, and is a relative reference. -/
def split? (cs : List Char) : Option Uri :=
  match splitScheme cs with
  | none => none
  | some (scheme, rest) => some (splitRest scheme rest)

/-! ### Joining -/

/-- A part behind its mark. -/
def marked (mark : List Char) : Option (List Char) → List Char
  | none => []
  | some part => mark ++ part

/-- The path, and what follows it. -/
def tail (u : Uri) : List Char := marked ['?'] u.query ++ marked ['#'] u.fragment

def text (u : Uri) : List Char :=
  u.scheme ++ ':' :: (marked ['/', '/'] u.authority ++ (u.path ++ u.tail))

/-- No part has a mark in it that would end it. -/
structure WellFormed (u : Uri) : Prop where
  scheme_ne : u.scheme ≠ []
  scheme : ∀ c ∈ u.scheme, inScheme c = true
  authority : ∀ authority ∈ u.authority, ∀ c ∈ authority, inAuthority c = true
  path : ∀ c ∈ u.path, inPath c = true
  /-- A path behind an authority is empty or begins with a slash. -/
  rooted : u.authority ≠ none → ∀ c ∈ u.path.head?, c = '/'
  /-- A path behind no authority does not look like one. -/
  bare : u.authority = none → ¬ ['/', '/'] <+: u.path
  query : ∀ query ∈ u.query, ∀ c ∈ query, inQuery c = true

/-! ### Splitting what is joined -/

variable {u : Uri}

theorem splitScheme_append {scheme rest : List Char} (hne : scheme ≠ [])
    (h : ∀ c ∈ scheme, inScheme c = true) :
    splitScheme (scheme ++ ':' :: rest) = some (scheme, rest) := by
  have hstop : ∀ c ∈ (':' :: rest).head?, inScheme c = false := by
    rintro c ⟨⟩
    rfl
  rw [splitScheme, takeWhile_append_stop h hstop, dropWhile_append_stop h hstop]
  cases scheme with
  | nil => exact absurd rfl hne
  | cons c scheme => rfl

theorem splitAuthority_some {authority rest : List Char} (h : ∀ c ∈ authority, inAuthority c = true)
    (hrest : ∀ c ∈ rest.head?, inAuthority c = false) :
    splitAuthority (marked ['/', '/'] (some authority) ++ rest) = (some authority, rest) := by
  change (some ((authority ++ rest).takeWhile inAuthority),
    (authority ++ rest).dropWhile inAuthority) = _
  rw [takeWhile_append_stop h hrest, dropWhile_append_stop h hrest]

theorem splitAuthority_none {rest : List Char} (h : ¬ ['/', '/'] <+: rest) :
    splitAuthority rest = (none, rest) := by
  rw [splitAuthority]
  rintro rest' rfl
  exact h ⟨rest', rfl⟩

theorem splitQuery_append {query fragment : Option (List Char)}
    (h : ∀ q ∈ query, ∀ c ∈ q, inQuery c = true) :
    splitQuery (marked ['?'] query ++ marked ['#'] fragment) =
      (query, marked ['#'] fragment) := by
  have hstop : ∀ c ∈ (marked ['#'] fragment).head?, inQuery c = false := by
    cases fragment with
    | none => exact nofun
    | some fragment =>
        rintro c ⟨⟩
        rfl
  cases query with
  | none =>
      cases fragment with
      | none => rfl
      | some fragment => rfl
  | some query =>
      change (some ((query ++ marked ['#'] fragment).takeWhile inQuery),
        (query ++ marked ['#'] fragment).dropWhile inQuery) = _
      rw [takeWhile_append_stop (h query rfl) hstop, dropWhile_append_stop (h query rfl) hstop]

theorem splitFragment_marked {fragment : Option (List Char)} :
    splitFragment (marked ['#'] fragment) = fragment := by
  cases fragment <;> rfl

/-- What follows a path begins with a mark. -/
theorem head_tail : ∀ c ∈ u.tail.head?, c = '?' ∨ c = '#' := by
  unfold tail
  cases u.query with
  | some query =>
      rintro c ⟨⟩
      exact Or.inl rfl
  | none =>
      cases u.fragment with
      | none => exact nofun
      | some fragment =>
          rintro c ⟨⟩
          exact Or.inr rfl

/-- A path and what follows it do not look like an authority where the path does not. -/
theorem not_slashes_append {path rest : List Char} (h : ¬ ['/', '/'] <+: path)
    (hrest : ∀ c ∈ rest.head?, c ≠ '/') : ¬ ['/', '/'] <+: path ++ rest := by
  rintro ⟨xs, hxs⟩
  match path with
  | [] =>
      rw [List.nil_append] at hxs
      subst hxs
      exact hrest '/' rfl rfl
  | [c] =>
      cases rest with
      | nil => cases hxs
      | cons c' rest =>
          cases hxs
          exact hrest '/' rfl rfl
  | c :: c' :: path =>
      cases hxs
      exact h ⟨path, rfl⟩

theorem splitAuthority_text (h : u.WellFormed) :
    splitAuthority (marked ['/', '/'] u.authority ++ (u.path ++ u.tail)) =
      (u.authority, u.path ++ u.tail) := by
  cases hauthority : u.authority with
  | none =>
      refine @splitAuthority_none (u.path ++ u.tail)
        (not_slashes_append (h.bare hauthority) fun c hc => ?_)
      rcases head_tail c hc with rfl | rfl <;> decide
  | some authority =>
      refine splitAuthority_some (h.authority authority hauthority) fun c hc => ?_
      cases hpath : u.path with
      | nil =>
          rw [hpath] at hc
          rcases head_tail c hc with rfl | rfl <;> rfl
      | cons c' path =>
          rw [hpath] at hc
          cases hc
          have hroot := h.rooted (by rw [hauthority]; nofun) c (by rw [hpath]; rfl)
          rw [hroot]
          rfl

/-- What follows the scheme of a URI is split as it was, behind any scheme. -/
theorem splitRest_text (h : u.WellFormed) {scheme : List Char} :
    splitRest scheme (marked ['/', '/'] u.authority ++ (u.path ++ u.tail)) =
      { u with scheme := scheme } := by
  have hstop : ∀ c ∈ u.tail.head?, inPath c = false := by
    intro c hc
    rcases head_tail c hc with rfl | rfl <;> rfl
  rw [splitRest, splitAuthority_text h]
  dsimp only
  rw [takeWhile_append_stop h.path hstop, dropWhile_append_stop h.path hstop, tail,
    splitQuery_append h.query]
  dsimp only
  rw [splitFragment_marked]

/-- **Splitting the text of a URI.** -/
theorem split?_text (h : u.WellFormed) : split? u.text = some u := by
  rw [split?, text, splitScheme_append h.scheme_ne h.scheme]
  dsimp only
  rw [splitRest_text h]

/-! ### Joining what is split -/

variable {cs : List Char}

theorem splitScheme_some {scheme rest : List Char} (h : splitScheme cs = some (scheme, rest)) :
    cs = scheme ++ ':' :: rest ∧ scheme ≠ [] ∧ ∀ c ∈ scheme, inScheme c = true := by
  rw [splitScheme] at h
  split at h
  · rename_i c scheme' rest' htake hdrop
    cases h
    refine ⟨?_, List.cons_ne_nil c scheme', ?_⟩
    · rw [← htake, ← hdrop, List.takeWhile_append_dropWhile]
    · rw [← htake]
      exact fun c hc => List.mem_takeWhile_imp hc
  · cases h

theorem splitAuthority_eq :
    cs = marked ['/', '/'] (splitAuthority cs).1 ++ (splitAuthority cs).2 := by
  unfold splitAuthority
  split
  · rename_i rest
    change _ = '/' :: '/' :: (rest.takeWhile inAuthority ++ rest.dropWhile inAuthority)
    rw [List.takeWhile_append_dropWhile]
  · rfl

theorem splitAuthority_in : ∀ authority ∈ (splitAuthority cs).1, ∀ c ∈ authority,
    inAuthority c = true := by
  unfold splitAuthority
  split
  · rintro authority ⟨⟩ c hc
    exact List.mem_takeWhile_imp hc
  · exact nofun

/-- What follows an authority. -/
theorem splitAuthority_stop (h : (splitAuthority cs).1 ≠ none) :
    ∀ c ∈ (splitAuthority cs).2.head?, inAuthority c = false := by
  unfold splitAuthority at h ⊢
  split
  · exact head?_dropWhile
  · rename_i hne
    split at h
    · exact absurd rfl (hne _)
    · exact absurd rfl h

theorem splitAuthority_bare (h : (splitAuthority cs).1 = none) :
    ¬ ['/', '/'] <+: (splitAuthority cs).2 := by
  unfold splitAuthority at h ⊢
  split
  · cases h
  · rename_i hne
    rintro ⟨rest, rfl⟩
    exact hne rest rfl

/-- Of the characters that end an authority, one is of a path. -/
theorem eq_slash {c : Char} (hstop : inAuthority c = false) (hpath : inPath c = true) :
    c = '/' := by
  simp only [inAuthority, inPath, Bool.not_eq_eq_eq_not, Bool.not_false, Bool.not_true,
    List.contains_eq_mem, decide_eq_true_eq, decide_eq_false_iff_not, List.mem_cons,
    List.not_mem_nil, or_false] at hstop hpath
  tauto

/-- What begins with a mark, or is empty, is a query and a fragment. -/
theorem splitQuery_eq (h : ∀ c ∈ cs.head?, inPath c = false) :
    cs = marked ['?'] (splitQuery cs).1 ++ marked ['#'] (splitFragment (splitQuery cs).2) := by
  have hfragment : ∀ {rest : List Char}, (∀ c ∈ rest.head?, c = '#') →
      marked ['#'] (splitFragment rest) = rest := by
    intro rest hrest
    cases rest with
    | nil => rfl
    | cons c rest =>
        rw [hrest c rfl]
        rfl
  unfold splitQuery
  split
  · rename_i rest
    have hstop : ∀ c ∈ (rest.dropWhile inQuery).head?, c = '#' := by
      intro c hc
      simpa [inQuery] using head?_dropWhile c hc
    dsimp only
    rw [hfragment hstop]
    change _ = '?' :: (rest.takeWhile inQuery ++ rest.dropWhile inQuery)
    rw [List.takeWhile_append_dropWhile]
  · rename_i hne
    refine (hfragment fun c hc => ?_).symm
    have hmark := h c hc
    cases cs with
    | nil => cases hc
    | cons c' cs =>
        cases hc
        by_cases hc : c = '?'
        · exact absurd (by rw [hc]) (hne cs)
        · simpa [inPath, hc] using hmark

theorem splitQuery_in : ∀ query ∈ (splitQuery cs).1, ∀ c ∈ query, inQuery c = true := by
  unfold splitQuery
  split
  · rintro query ⟨⟩ c hc
    exact List.mem_takeWhile_imp hc
  · exact nofun

/-- The text of what is split. -/
theorem text_split? (h : split? cs = some u) : u.text = cs := by
  rw [split?] at h
  split at h
  · cases h
  · rename_i scheme rest hscheme
    cases h
    obtain ⟨rfl, -, -⟩ := splitScheme_some hscheme
    rw [text, tail, splitRest]
    dsimp only
    rw [← splitQuery_eq head?_dropWhile, List.takeWhile_append_dropWhile, ← splitAuthority_eq]

theorem wellFormed_split? (h : split? cs = some u) : u.WellFormed := by
  rw [split?] at h
  split at h
  · cases h
  · rename_i scheme rest hscheme
    cases h
    obtain ⟨-, hne, hin⟩ := splitScheme_some hscheme
    exact
      { scheme_ne := hne
        scheme := hin
        authority := splitAuthority_in
        path := fun c hc => List.mem_takeWhile_imp hc
        rooted := fun hauthority c hc => by
          -- The path begins where the authority stopped, and neither with `?` nor with `#`.
          obtain ⟨hhead, hpath⟩ := head?_takeWhile c hc
          exact eq_slash (splitAuthority_stop hauthority c hhead) hpath
        bare := fun hauthority hpath =>
          splitAuthority_bare hauthority (hpath.trans (List.takeWhile_prefix _))
        query := splitQuery_in }

end Uri

end OtlpClient
