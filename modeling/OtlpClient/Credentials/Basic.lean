import OtlpClient.Encoding.Primitives
import OtlpClient.Support.Cut
import OtlpClient.Support.Percent

/-!
# Credentials — a name and a secret in one header

The two `Basic` headers of `credentials.py`: the one of `BasicAuth`, which joins its halves as they
are, and the one of `OAuth2ClientCredentials._auth_header`, which form-urlencodes each half first.

* `basicText`: what a server reads behind `Basic `.
* `auth_header_decodes`: the client that requests a token is read back from its header.
* `basic_decodes_iff`: when the user of `BasicAuth` is.
-/

namespace OtlpClient

/-! ### Reading a header -/

/-- The text behind `Basic `: base64 of UTF-8. -/
def basicText (header : String) : Option (List Char) := do
  let encoded ← "Basic ".toList.isPrefixOf? header.toList
  utf8Decode? (← unb64? (String.ofList encoded))

/-- The two halves of the text, cut at its first colon. -/
def basicPair (header : String) : Option (List Char × List Char) :=
  basicText header >>= cut ':'

/-- `f"Basic {base64.b64encode(raw).decode('ascii')}"`. -/
def basicHeader (text : List Char) : String := "Basic " ++ b64 (utf8Encode text)

variable {text user secret : List Char}

/-- The text is read back. -/
theorem basicText_basicHeader : basicText (basicHeader text) = some text := by
  have hprefix : "Basic ".toList.isPrefixOf? (basicHeader text).toList =
      some (b64Chars (utf8Encode text)) := by
    have hencoded : (b64 (utf8Encode text)).toList = b64Chars (utf8Encode text) :=
      String.toList_ofList
    rw [basicHeader, String.toList_append, hencoded]
    rfl
  rw [basicText, hprefix, Option.bind_eq_bind, Option.bind_some, unb64?_b64]
  exact utf8Decode?_encode text

theorem basicPair_basicHeader (h : ':' ∉ user) :
    basicPair (basicHeader (user ++ ':' :: secret)) = some (user, secret) := by
  rw [basicPair, basicText_basicHeader]
  exact cut_append h

/-! ### `OAuth2ClientCredentials` -/

/-- `AuthStyle`. -/
inductive AuthStyle where
  | post
  | basic
  deriving DecidableEq, Repr

/-- The arguments of `OAuth2ClientCredentials` that its token request is made of. -/
structure TokenRequest where
  clientId : String
  clientSecret : String
  scope : Option String := none
  extraParams : Headers := []
  authStyle : AuthStyle := .post

namespace TokenRequest

/-- `_form`. -/
def form (c : TokenRequest) : List (String × String) :=
  let form := Dict.update [("grant_type", "client_credentials")] c.extraParams
  let form := match c.scope with
    | none | some "" => form
    | some scope => Dict.set form "scope" scope
  match c.authStyle with
  | .post => Dict.set (Dict.set form "client_id" c.clientId) "client_secret" c.clientSecret
  | .basic => form

/-- `_auth_header`. -/
def authHeader (c : TokenRequest) : Headers :=
  match c.authStyle with
  | .post => []
  | .basic => [("Authorization",
      basicHeader (quotePlus c.clientId.toList ++ ':' :: quotePlus c.clientSecret.toList))]

/-- The client of a header: each half is form-urlencoded. -/
def readClient (header : String) : Option (String × String) :=
  (basicPair header).map fun halves =>
    (String.ofList (unquotePlus halves.1), String.ofList (unquotePlus halves.2))

variable {c : TokenRequest}

/-- The client and its secret are in the form, in the `POST` style. -/
theorem mem_form (h : c.authStyle = .post) :
    ("client_id", c.clientId) ∈ c.form ∧ ("client_secret", c.clientSecret) ∈ c.form := by
  unfold form
  rw [h]
  have hne : "client_id" ≠ "client_secret" := by decide
  exact ⟨Dict.mem_set_of_ne hne Dict.mem_set_self, Dict.mem_set_self⟩

theorem authHeader_basic (h : c.authStyle = .basic) : c.authHeader = [("Authorization",
    basicHeader (quotePlus c.clientId.toList ++ ':' :: quotePlus c.clientSecret.toList))] := by
  rw [authHeader, h]

/-- The halves are read back: neither has a colon once it is quoted. -/
theorem readClient_basicHeader (user secret : String) :
    readClient (basicHeader (quotePlus user.toList ++ ':' :: quotePlus secret.toList)) =
      some (user, secret) := by
  rw [readClient, basicPair_basicHeader notMem_quotePlus, Option.map_some, unquotePlus_quotePlus,
    unquotePlus_quotePlus, String.ofList_toList, String.ofList_toList]

/-- **The client of a token request.**  It is read back from the header of the `BASIC` style, so two
clients never have one header. -/
theorem auth_header_decodes :
    (∀ c : TokenRequest, c.authStyle = .basic → ∃ header,
      c.authHeader = [("Authorization", header)] ∧
        readClient header = some (c.clientId, c.clientSecret)) ∧
    ∀ c c' : TokenRequest, c.authStyle = .basic → c'.authStyle = .basic →
      c.authHeader = c'.authHeader →
        c.clientId = c'.clientId ∧ c.clientSecret = c'.clientSecret := by
  have hread : ∀ c : TokenRequest, c.authStyle = .basic → ∃ header,
      c.authHeader = [("Authorization", header)] ∧
        readClient header = some (c.clientId, c.clientSecret) := fun c hc =>
    ⟨_, authHeader_basic hc, readClient_basicHeader c.clientId c.clientSecret⟩
  refine ⟨hread, fun c c' hc hc' heq => ?_⟩
  obtain ⟨header, hheader, hclient⟩ := hread c hc
  obtain ⟨header', hheader', hclient'⟩ := hread c' hc'
  rw [hheader, hheader'] at heq
  cases heq
  exact Prod.mk.inj (Option.some.inj (hclient.symm.trans hclient'))

/-- A colon and a character past ASCII in the secret. -/
def euro : TokenRequest := { clientId := "id", clientSecret := "sh:ut€up", authStyle := .basic }

theorem auth_header_decodes_euro : ∃ header, euro.authHeader = [("Authorization", header)] ∧
    readClient header = some ("id", "sh:ut€up") :=
  auth_header_decodes.1 euro rfl

end TokenRequest

/-! ### `BasicAuth` -/

/-- `BasicAuth`: its constructor takes every name and every password. -/
structure BasicAuth where
  username : String
  password : String
  deriving DecidableEq

namespace BasicAuth

/-- `_header`. -/
def header (a : BasicAuth) : String := basicHeader (a.username.toList ++ ':' :: a.password.toList)

/-- `headers`. -/
def headers (a : BasicAuth) (_ : SignalKind) : Headers := [("authorization", a.header)]

/-- What a server reads of a header, as RFC 7617 has it. -/
def read (header : String) : Option BasicAuth :=
  (basicPair header).map fun halves => ⟨String.ofList halves.1, String.ofList halves.2⟩

/-- The name has no colon. -/
def IsPlain (a : BasicAuth) : Prop := ':' ∉ a.username.toList

instance (a : BasicAuth) : Decidable a.IsPlain := inferInstanceAs (Decidable (¬ _))

theorem read_header {a : BasicAuth} (h : a.IsPlain) : read a.header = some a := by
  rw [read, header, basicPair_basicHeader h, Option.map_some, String.ofList_toList,
    String.ofList_toList]

example : (⟨"Aladdin", "open sesame"⟩ : BasicAuth).header =
    "Basic QWxhZGRpbjpvcGVuIHNlc2FtZQ==" := by decide

/-- A name with a colon is read up to it: another pair has the same header. -/
theorem exists_plain (a : BasicAuth) (h : ¬ a.IsPlain) :
    ∃ b : BasicAuth, b.IsPlain ∧ b.header = a.header ∧ b ≠ a := by
  obtain ⟨user, rest, huser, hplain⟩ := List.eq_append_cons_of_mem (not_not.mp h)
  refine ⟨⟨String.ofList user, String.ofList (rest ++ ':' :: a.password.toList)⟩, ?_, ?_, ?_⟩
  · rwa [IsPlain, String.toList_ofList]
  · rw [header, header, huser, String.toList_ofList, String.toList_ofList, List.append_assoc,
      List.cons_append]
  · intro heq
    rw [← congrArg BasicAuth.username heq, String.toList_ofList] at huser
    exact absurd (congrArg List.length huser) (by simp)

/-- **The user of a header.**  It is read back exactly where its name has no colon; and exactly
there no other user whose name has none has its header. -/
theorem basic_decodes_iff (a : BasicAuth) (kind : SignalKind) :
    ((∃ header, a.headers kind = [("authorization", header)] ∧ read header = some a) ↔
      a.IsPlain) ∧
    ((∀ b : BasicAuth, b.IsPlain → b.headers kind = a.headers kind → b = a) ↔ a.IsPlain) := by
  have hheaders : ∀ b : BasicAuth, b.headers kind = a.headers kind ↔ b.header = a.header := by
    intro b
    simp [headers]
  constructor
  · constructor
    · rintro ⟨header, hheader, hread⟩
      by_contra hplain
      cases hheader
      -- The server reads the plain one of the two.
      obtain ⟨b, hb, hheader, hne⟩ := a.exists_plain hplain
      rw [← hheader, read_header hb] at hread
      exact hne (Option.some.inj hread)
    · intro hplain
      exact ⟨a.header, rfl, read_header hplain⟩
  · constructor
    · intro hunique
      by_contra hplain
      obtain ⟨b, hb, hheader, hne⟩ := a.exists_plain hplain
      exact hne (hunique b hb ((hheaders b).mpr hheader))
    · intro hplain b hb hheader
      have hread := read_header hb
      rw [(hheaders b).mp hheader, read_header hplain] at hread
      exact (Option.some.inj hread).symm

/-- A user whose name has a colon is read as another one, which has the same header. -/
theorem colon_not_read : (⟨"a:b", "c"⟩ : BasicAuth).header = (⟨"a", "b:c"⟩ : BasicAuth).header ∧
    read (⟨"a:b", "c"⟩ : BasicAuth).header = some ⟨"a", "b:c"⟩ ∧
    read (⟨"a:b", "c"⟩ : BasicAuth).header ≠ some ⟨"a:b", "c"⟩ := by
  have hsame : (⟨"a:b", "c"⟩ : BasicAuth).header = (⟨"a", "b:c"⟩ : BasicAuth).header := rfl
  have hread : read (⟨"a", "b:c"⟩ : BasicAuth).header = some ⟨"a", "b:c"⟩ :=
    read_header (by decide)
  rw [hsame, hread]
  exact ⟨rfl, rfl, by decide⟩

end BasicAuth

end OtlpClient
