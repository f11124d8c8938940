import OtlpClient.Support.Python
import OtlpClient.Support.Raising
import OtlpClient.Support.Uri

/-!
# Support — `urllib.parse`

`urlparse` and `urlunparse`, which know no difference between a part that is absent and one that is
empty.

* `urlparse_text`: `urlparse` takes the text of a URI to its parts.
* `urlunparse_rooted`: with a path of `/` the parts are the text of a URI again.
-/

namespace OtlpClient.Urllib

/-- What `urlparse` returns. -/
structure Parts where
  scheme : List Char
  netloc : List Char
  path : List Char
  params : List Char
  query : List Char
  fragment : List Char
  deriving DecidableEq

/-- `_WHATWG_C0_CONTROL_OR_SPACE`. -/
def isControlOrSpace (c : Char) : Bool := c.toNat ≤ 0x20

/-- `_UNSAFE_URL_BYTES_TO_REMOVE`. -/
def isUnsafe (c : Char) : Bool := c == '\t' || c == '\r' || c == '\n'

/-- `scheme_chars`. -/
def isSchemeChar (c : Char) : Bool := c.isAlphanum || c == '+' || c == '-' || c == '.'

/-- The schemes whose last path segment may have parameters. -/
def usesParams : List (List Char) :=
  ["", "ftp", "hdl", "prospero", "http", "imap", "https", "shttp", "rtsp", "rtsps", "rtspu", "sip",
    "sips", "mms", "sftp", "tel"].map String.toList

/-- The schemes with an authority. -/
def usesNetloc : List (List Char) :=
  ["", "ftp", "http", "gopher", "nntp", "telnet", "imap", "wais", "file", "mms", "https", "shttp",
    "snews", "prospero", "rtsp", "rtsps", "rtspu", "rsync", "svn", "svn+ssh", "sftp", "nfs", "git",
    "git+ssh", "ws", "wss"].map String.toList

def lower (cs : List Char) : List Char := cs.map Char.toLower

/-- The scheme, in lower case, and what follows its colon; all of it where it has no scheme. -/
def splitScheme (url : List Char) : List Char × List Char :=
  let scheme := url.takeWhile (· != ':')
  match url.dropWhile (· != ':') with
  | _ :: rest =>
      if scheme.head?.any Char.isAlpha && scheme.all isSchemeChar then (lower scheme, rest)
      else ([], url)
  | [] => ([], url)

/-- `_splitparams`: the parameters of the last segment of a path. -/
def splitParams (path : List Char) : List Char × List Char :=
  let segment := path.rtakeWhile (· != '/')
  match segment.dropWhile (· != ';') with
  | _ :: params => (path.rdropWhile (· != '/') ++ segment.takeWhile (· != ';'), params)
  | [] => (path, [])

/-- The path, and its parameters where the scheme has them. -/
def splitPath (scheme path : List Char) : List Char × List Char :=
  if scheme ∈ usesParams then splitParams path else (path, [])

/-- Without the control characters and spaces at its beginning, and without tabs and newlines. -/
def cleaned (url : List Char) : List Char :=
  (url.dropWhile isControlOrSpace).filter fun c => !isUnsafe c

/-- `urlparse`.  What raises `ValueError` at a netloc is `check`: brackets that do not match, an
address in brackets that is none, or characters that normalize to a delimiter. -/
def urlparse (check : List Char → Except PyError Unit) (url : List Char) :
    Except PyError Parts := do
  let (scheme, rest) := splitScheme (cleaned url)
  let u := Uri.splitRest scheme rest
  check (u.authority.getD [])
  let (path, params) := splitPath scheme u.path
  return { scheme, netloc := u.authority.getD [], path, params, query := u.query.getD [],
           fragment := u.fragment.getD [] }

/-- A part behind its mark, unless it is empty. -/
def marked (mark part : List Char) : List Char := if part.isEmpty then [] else mark ++ part

/-- `urlunparse`. -/
def urlunparse (p : Parts) : List Char :=
  let path := p.path ++ marked [';'] p.params
  let hier :=
    if !p.netloc.isEmpty then
      '/' :: '/' :: (p.netloc ++
        if !path.isEmpty && path.head? != some '/' then '/' :: path else path)
    else if ['/', '/'] <+: path then '/' :: '/' :: path
    else if p.scheme ≠ [] ∧ p.scheme ∈ usesNetloc ∧ (path = [] ∨ path.head? = some '/') then
      '/' :: '/' :: path
    else path
  (if p.scheme.isEmpty then [] else p.scheme ++ [':']) ++ hier ++ marked ['?'] p.query ++
    marked ['#'] p.fragment

/-! ### The text of a URI -/

/-- A text with neither spaces nor control characters. -/
def IsClean (cs : List Char) : Prop := ∀ c ∈ cs, isControlOrSpace c = false

/-- What `urlparse` takes for a scheme. -/
structure IsScheme (cs : List Char) : Prop where
  head : cs.head?.any Char.isAlpha = true
  all : ∀ c ∈ cs, isSchemeChar c = true

instance (cs : List Char) : Decidable (IsClean cs) := List.decidableBAll _ _

instance (cs : List Char) : Decidable (IsScheme cs) :=
  decidable_of_iff (cs.head?.any Char.isAlpha = true ∧ cs.all isSchemeChar = true)
    ⟨fun h => ⟨h.1, List.all_eq_true.mp h.2⟩, fun h => ⟨h.head, List.all_eq_true.mpr h.all⟩⟩

variable {check : List Char → Except PyError Unit} {u : Uri} {cs rest : List Char}

theorem ne_colon {c : Char} (h : isSchemeChar c = true) : (c != ':') = true := by
  rw [bne_iff_ne]
  rintro rfl
  exact absurd h (by decide)

theorem isUnsafe_eq_false {c : Char} (h : isControlOrSpace c = false) : isUnsafe c = false := by
  by_contra hc
  simp only [isUnsafe, Bool.not_eq_false, Bool.or_eq_true, beq_iff_eq] at hc
  rcases hc with (rfl | rfl) | rfl <;> exact absurd h (by decide)

/-- Nothing is taken off a clean text. -/
theorem cleaned_eq (h : IsClean cs) : cleaned cs = cs := by
  have hdrop : cs.dropWhile isControlOrSpace = cs := by
    cases cs with
    | nil => rfl
    | cons c cs =>
        have hc : ¬ isControlOrSpace c = true := by simp [h c (List.mem_cons_self ..)]
        rw [List.dropWhile_cons_of_neg hc]
  rw [cleaned, hdrop, List.filter_eq_self]
  intro c hc
  rw [isUnsafe_eq_false (h c hc)]
  rfl

theorem splitScheme_append (h : IsScheme cs) :
    splitScheme (cs ++ ':' :: rest) = (lower cs, rest) := by
  have hcs : ∀ c ∈ cs, (c != ':') = true := fun c hc => ne_colon (h.all c hc)
  have hstop : ∀ c ∈ (':' :: rest).head?, (c != ':') = false := by
    rintro c ⟨⟩
    rfl
  rw [splitScheme, takeWhile_append_stop hcs hstop, dropWhile_append_stop hcs hstop]
  dsimp only
  rw [h.head, List.all_eq_true.mpr h.all]
  rfl

/-- The parts of a URI, to `urlparse`. -/
def parts (u : Uri) : Parts where
  scheme := lower u.scheme
  netloc := u.authority.getD []
  path := (splitPath (lower u.scheme) u.path).1
  params := (splitPath (lower u.scheme) u.path).2
  query := u.query.getD []
  fragment := u.fragment.getD []

/-- `urlparse` takes the text of a URI to its parts, where it does not refuse the netloc. -/
theorem urlparse_text (hu : u.WellFormed) (hscheme : IsScheme u.scheme) (hclean : IsClean u.text) :
    urlparse check u.text = (fun _ => parts u) <$> check (u.authority.getD []) := by
  have hsplit : splitScheme u.text =
      (lower u.scheme, Uri.marked ['/', '/'] u.authority ++ (u.path ++ u.tail)) :=
    splitScheme_append hscheme
  have hrest : Uri.splitRest (lower u.scheme)
      (Uri.marked ['/', '/'] u.authority ++ (u.path ++ u.tail)) =
        { u with scheme := lower u.scheme } :=
    Uri.splitRest_text hu
  rw [urlparse, cleaned_eq hclean, hsplit]
  dsimp only
  rw [hrest]
  cases check (u.authority.getD []) <;> rfl

/-- A path that begins with a slash still does without its parameters. -/
theorem splitParams_slash (path : List Char) : (splitParams ('/' :: path)).1 ≠ [] := by
  have hslash : ('/' :: path).rdropWhile (· != '/') ≠ [] := by
    intro h
    have hall := List.rdropWhile_eq_nil_iff.mp h '/' (List.mem_cons_self ..)
    exact absurd hall (by decide)
  unfold splitParams
  dsimp only
  split
  · exact fun h => hslash (List.append_eq_nil_iff.mp h).1
  · exact List.cons_ne_nil _ _

/-- What `urlparse` has no path in has none. -/
theorem parts_path_eq_nil (hu : u.WellFormed) (hauthority : u.authority ≠ none) :
    (parts u).path = [] ↔ u.path = [] := by
  change (splitPath (lower u.scheme) u.path).1 = [] ↔ _
  unfold splitPath
  split
  · cases hpath : u.path with
    | nil => exact iff_of_true rfl rfl
    | cons c path =>
        have hc : c = '/' := hu.rooted hauthority c (by rw [hpath]; rfl)
        rw [hc]
        exact iff_of_false (splitParams_slash path) (List.cons_ne_nil _ _)
  · exact Iff.rfl

/-- With a root path in place of none, and without the marks that have nothing behind them. -/
def rooted (u : Uri) : Uri where
  scheme := lower u.scheme
  authority := u.authority
  path := ['/']
  query := u.query.filter fun query => !query.isEmpty
  fragment := u.fragment.filter fun fragment => !fragment.isEmpty

theorem marked_getD (mark : List Char) (part : Option (List Char)) :
    marked mark (part.getD []) = Uri.marked mark (part.filter fun part => !part.isEmpty) := by
  cases part with
  | none => rfl
  | some part => cases part <;> rfl

/-- What `urlunparse` puts together, where the path is `/` in place of none. -/
theorem urlunparse_rooted {authority : List Char} (hscheme : u.scheme ≠ [])
    (hauthority : u.authority = some authority) (hne : authority ≠ []) (hpath : u.path = []) :
    urlunparse { parts u with path := ['/'] } = (rooted u).text := by
  have hparams : (splitPath (lower u.scheme) u.path).2 = [] := by
    rw [hpath, splitPath]
    split <;> rfl
  have hlower : (lower u.scheme).isEmpty = false := by
    rw [lower, List.isEmpty_map]
    exact List.isEmpty_eq_false_iff.mpr hscheme
  have hnetloc : (!authority.isEmpty) = true := by
    rw [List.isEmpty_eq_false_iff.mpr hne]
    rfl
  unfold urlunparse parts
  dsimp only
  rw [hparams, hauthority, Option.getD_some, if_pos hnetloc, hlower, marked_getD, marked_getD]
  simp [rooted, Uri.text, Uri.tail, Uri.marked, marked, hauthority]

/-- No letter is a mark, in either case. -/
theorem inScheme_toLower {c : Char} (h : Uri.inScheme c = true) :
    Uri.inScheme c.toLower = true := by
  by_cases hupper : c.val ≥ 'A'.val ∧ c.val ≤ 'Z'.val
  · have hlower : c.toLower = ⟨c.val + 32, _⟩ := dif_pos hupper
    have hval : c.toLower.toNat = (c.val + 32).toNat := congrArg Char.toNat hlower
    obtain ⟨hA, hZ⟩ := hupper
    have hA' : 65 ≤ c.val.toNat := hA
    have hZ' : c.val.toNat ≤ 90 := hZ
    rw [UInt32.toNat_add, show (32 : UInt32).toNat = 32 from rfl] at hval
    by_contra hmark
    simp only [Uri.inScheme, Bool.not_eq_true', Bool.not_eq_false, List.contains_eq_mem,
      decide_eq_true_eq, List.mem_cons, List.not_mem_nil, or_false] at hmark
    rcases hmark with hmark | hmark | hmark | hmark
    all_goals
      rw [hmark] at hval
      simp only [Char.reduceToNat] at hval
      omega
  · have hsame : c.toLower = c := dif_neg hupper
    rwa [hsame]

theorem wellFormed_rooted (hu : u.WellFormed) (hauthority : u.authority ≠ none) :
    (rooted u).WellFormed where
  scheme_ne h := hu.scheme_ne (List.map_eq_nil_iff.mp h)
  scheme c hc := by
    obtain ⟨c', hc', rfl⟩ := List.mem_map.mp hc
    exact inScheme_toLower (hu.scheme c' hc')
  authority := hu.authority
  path := List.forall_mem_singleton.mpr rfl
  rooted _ c hc := (Option.some.inj hc).symm
  bare h := absurd h hauthority
  query query hquery := hu.query query (Option.mem_filter_iff.mp hquery).1

/-! ### Behind no scheme -/

/-- A scheme is what stands before a colon, in lower case. -/
theorem splitScheme_cases (url : List Char) : (splitScheme url).1 = [] ∨
    ∃ scheme rest, url = scheme ++ ':' :: rest ∧ (splitScheme url).1 = lower scheme := by
  unfold splitScheme
  cases hrest : url.dropWhile (· != ':') with
  | nil => exact Or.inl rfl
  | cons c rest =>
      dsimp only
      split
      · have hc : c = ':' := by
          have hstop := head?_dropWhile (p := (· != ':')) c
            (show (url.dropWhile (· != ':')).head? = some c by rw [hrest]; rfl)
          simpa using hstop
        refine Or.inr ⟨url.takeWhile (· != ':'), rest, ?_, rfl⟩
        rw [hc] at hrest
        rw [← hrest, List.takeWhile_append_dropWhile]
      · exact Or.inl rfl

/-- The scheme and the netloc `urlparse` returns, where it returns. -/
theorem urlparse_ok {url : List Char} {p : Parts} (h : urlparse check url = .ok p) :
    p.scheme = (splitScheme (cleaned url)).1 ∧
      p.netloc = (Uri.splitAuthority (splitScheme (cleaned url)).2).1.getD [] := by
  unfold urlparse at h
  dsimp only at h
  obtain ⟨-, -, h⟩ := bind_eq_ok.mp h
  cases h
  exact ⟨rfl, rfl⟩

/-- Two slashes are not part of a scheme. -/
theorem splitScheme_slashes (rest : List Char) :
    splitScheme ('/' :: '/' :: rest) = ([], '/' :: '/' :: rest) := by
  unfold splitScheme
  dsimp only
  split
  · rw [List.takeWhile_cons_of_pos (by decide)]
    rfl
  · rfl

/-- What a mark ends stands before it, behind two slashes, as a netloc. -/
theorem urlparse_bare {authority : List Char} (h : ∀ c ∈ authority, Uri.inAuthority c = true)
    (hrest : ∀ c ∈ rest.head?, Uri.inAuthority c = false) (hclean : IsClean (authority ++ rest))
    (hcheck : check authority = .ok ()) : ∃ p,
    urlparse check ('/' :: '/' :: (authority ++ rest)) = .ok p ∧ p.scheme = [] ∧
      p.netloc = authority := by
  have hslashes : IsClean ('/' :: '/' :: (authority ++ rest)) := by
    intro c hc
    simp only [List.mem_cons] at hc
    rcases hc with rfl | rfl | hc
    · rfl
    · rfl
    · exact hclean c hc
  have hnetloc : (Uri.splitRest [] ('/' :: '/' :: (authority ++ rest))).authority =
      some authority := by
    have hauthority := Uri.splitAuthority_some h hrest
    rw [Uri.splitRest]
    dsimp only
    exact congrArg Prod.fst hauthority
  rw [urlparse, cleaned_eq hslashes, splitScheme_slashes]
  dsimp only
  rw [hnetloc, Option.getD_some, hcheck]
  exact ⟨_, rfl, rfl, rfl⟩

end OtlpClient.Urllib
