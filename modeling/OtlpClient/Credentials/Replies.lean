import OtlpClient.Credentials.Machine

/-!
# Credentials — what a reply comes to

The ladder of `_refresh` for every reply the token endpoint can give: the exception it raises, and
the token and the time to live it stores.

* `refresh_ok_iff`: which replies a token is stored of, and which token.
* `refresh_transient`, `refresh_refused`: the failures, by their class.
* `refresh_overflow`: the one failure that is neither.
* `classified_iff`: every other reply is classified.
-/

namespace OtlpClient

/-- An int greater in magnitude than any double, to the nearest of which it would be rounded. -/
def BeyondDouble (n : Int) : Prop := 2 ^ 1024 - 2 ^ 970 ≤ n.natAbs

instance (n : Int) : Decidable (BeyondDouble n) := inferInstanceAs (Decidable (_ ≤ _))

theorem not_beyondDouble {n : Int} (h : n.natAbs < 2 ^ 255) : ¬ BeyondDouble n := by
  have hlow : 2 ^ 255 ≤ 2 ^ 1024 - 2 ^ 970 := by decide +kernel
  intro hn
  exact absurd (le_trans hlow hn) (by omega)

/-- `float()` raises `TypeError` or `ValueError`, and `OverflowError` at exactly the ints beyond the
doubles. -/
structure TokenLib.Lawful {T : Type} (lib : TokenLib T) : Prop where
  json : lib.json.Lawful
  float_error : ∀ {j e}, lib.float j = .error e → (∃ message, e = .typeError message) ∨
    (∃ message, e = .valueError message) ∨ ∃ n, j = .int n ∧ BeyondDouble n
  float_int : ∀ {n}, BeyondDouble n → ∃ message, lib.float (.int n) = .error (.overflowError message)

/-- What is under a key of a document fits when the document does. -/
theorem Proto.Json.digitsFit_get {doc : Proto.Json} (h : doc.DigitsFit) (k : String) :
    (doc.get k).DigitsFit := by
  cases doc with
  | obj kvs =>
      rw [get]
      cases hk : kvs.lookup k with
      | none => simp [DigitsFit]
      | some j => exact digitsFit_lookup h hk
  | _ => simp [get, DigitsFit]

namespace OAuth2ClientCredentials

variable {T : Type} (c : OAuth2ClientCredentials T)

/-- The time to live a response asks for, before it is made nonnegative. -/
def requestedTtl : Proto.Json → Except PyError T
  | .null => .ok c.defaultTtl
  | expiresIn => c.lib.float expiresIn

/-- What an exception of `float()` at `expires_in` is raised as. -/
def ttlError : PyError → Exn
  | .typeError _ | .valueError _ => .permanent "token endpoint returned a malformed expires_in"
  | e => .builtin e

/-- The reply says nothing about the credentials: no response, or a status from 500 up. -/
inductive Transient : Reply → Prop where
  | failed (type message : String) : Transient (.failed type message)
  | status {r : Response} (h : 500 ≤ r.status) : Transient (.response r)

/-- The response is one no token can be had of.  `"expires_in": null` is no `expires_in`. -/
inductive Refused : Reply → Prop where
  | notJson {r : Response} {e : PyError} (h : c.lib.json.loads r.body = .error e) :
      Refused (.response r)
  | status {r : Response} (h : 400 ≤ r.status) : Refused (.response r)
  | notObject {r : Response} {doc : Proto.Json} (h : c.lib.json.loads r.body = .ok doc)
      (hd : ∀ kvs, doc ≠ .obj kvs) : Refused (.response r)
  | noToken {r : Response} {doc : Proto.Json} (h : c.lib.json.loads r.body = .ok doc)
      (ht : (doc.get "access_token").truthy = false) : Refused (.response r)
  | expiresIn {r : Response} {doc : Proto.Json} {e : PyError}
      (h : c.lib.json.loads r.body = .ok doc) (hp : doc.get "expires_in" ≠ .null)
      (he : c.lib.float (doc.get "expires_in") = .error e) : Refused (.response r)

variable [Zero T] [LT T] [DecidableLT T]

/-- A response below 400 that carries a token, with the time to live it is stored for. -/
structure Grants (r : Response) (token : String) (ttl : T) : Prop where
  status : r.status < 400
  body : ∃ doc, c.lib.json.loads r.body = .ok doc ∧ (doc.get "access_token").truthy = true ∧
    Proto.Json.strOf c.lib.json (doc.get "access_token") = .ok token ∧
    ∃ x, c.requestedTtl (doc.get "expires_in") = .ok x ∧ ttl = atLeastZero x

/-- What the code is to do with a reply: store a token, or raise one of two exceptions. -/
structure Classified (reply : Reply) : Prop where
  transient : Transient reply → ∃ message, c.refresh reply = .error (.transport message)
  refused : ¬ Transient reply → c.Refused reply →
    ∃ message, c.refresh reply = .error (.permanent message)
  stored : ¬ Transient reply → ¬ c.Refused reply → ∃ minted, c.refresh reply = .ok minted

/-- The response would carry a token, but for an `expires_in` that is an int beyond the doubles. -/
def Overflows (reply : Reply) : Prop :=
  ∃ r doc n, reply = .response r ∧ r.status < 400 ∧ c.lib.json.loads r.body = .ok doc ∧
    (doc.get "access_token").truthy = true ∧ doc.get "expires_in" = .int n ∧ BeyondDouble n

variable {c}

/-! ### The ladder -/

theorem refresh_transient {reply : Reply} (h : Transient reply) :
    ∃ message, c.refresh reply = .error (.transport message) := by
  cases h with
  | failed type message => exact ⟨_, rfl⟩
  | @status r h => exact ⟨_, by rw [refresh, if_pos h]⟩

/-- Below 500, a body that is JSON is read. -/
theorem refresh_response {r : Response} {doc : Proto.Json} (hs : ¬ 500 ≤ r.status)
    (h : c.lib.json.loads r.body = .ok doc) :
    c.refresh (.response r) = c.readToken r.status doc := by
  rw [refresh, if_neg hs, h]

omit [Zero T] [LT T] [DecidableLT T] in
theorem rejectionDetail_ok {doc : Proto.Json} (h : doc.DigitsFit) :
    ∃ detail, c.rejectionDetail doc = .ok detail := by
  cases doc with
  | obj kvs =>
      have herror : ((kvs.lookup "error").getD (.str "unknown_error")).DigitsFit := by
        cases hk : kvs.lookup "error" with
        | none => simp [Proto.Json.DigitsFit]
        | some j => exact Proto.Json.digitsFit_lookup h hk
      obtain ⟨error, he⟩ := Proto.Json.strOf_ok c.lib.json herror
      obtain ⟨text, ht⟩ := Proto.Json.strOf_ok c.lib.json
        (Proto.Json.digitsFit_get h "error_description")
      simp only [rejectionDetail, he, ht]
      dsimp only [bind, Except.bind]
      split
      · exact ⟨_, rfl⟩
      · exact ⟨_, rfl⟩
  | _ => exact ⟨"", rfl⟩

theorem readToken_rejected {status : Int} {doc : Proto.Json} (hd : doc.DigitsFit)
    (hs : 400 ≤ status) : ∃ message, c.readToken status doc = .error (.permanent message) := by
  obtain ⟨detail, h⟩ := rejectionDetail_ok (c := c) hd
  refine ⟨"token endpoint rejected the credentials (" ++ detail ++ ")", ?_⟩
  rw [readToken, if_pos hs, h]
  rfl

theorem readToken_noToken {status : Int} {doc : Proto.Json} (hs : ¬ 400 ≤ status)
    (ht : (doc.get "access_token").truthy = false) :
    c.readToken status doc =
      .error (.permanent "token endpoint returned no access_token") := by
  rw [readToken, if_neg hs, if_neg (by simp [ht])]

/-- A token is read with its time to live. -/
theorem readToken_token {status : Int} {doc : Proto.Json} {token : String} (hs : ¬ 400 ≤ status)
    (ht : (doc.get "access_token").truthy = true)
    (hstr : Proto.Json.strOf c.lib.json (doc.get "access_token") = .ok token) :
    c.readToken status doc =
      (c.readTtl (doc.get "expires_in")).map fun ttl => (token, ttl) := by
  rw [readToken, if_neg hs, if_pos ht, hstr]
  dsimp only [Except.mapError, bind, Except.bind]
  cases c.readTtl (doc.get "expires_in") with
  | ok ttl => rfl
  | error e => rfl

theorem readTtl_ok {expiresIn : Proto.Json} {x : T} (h : c.requestedTtl expiresIn = .ok x) :
    c.readTtl expiresIn = .ok (atLeastZero x) := by
  by_cases hnull : expiresIn = .null
  · subst hnull
    cases h
    rfl
  · rw [requestedTtl.eq_2 c expiresIn hnull] at h
    rw [readTtl.eq_2 c expiresIn hnull, h]

/-- What `float()` raises at `expires_in` is classified, but for an `OverflowError`. -/
theorem readTtl_error {expiresIn : Proto.Json} {e : PyError}
    (h : c.requestedTtl expiresIn = .error e) :
    c.readTtl expiresIn = .error (ttlError e) := by
  by_cases hnull : expiresIn = .null
  · subst hnull
    cases h
  · rw [requestedTtl.eq_2 c expiresIn hnull] at h
    rw [readTtl.eq_2 c expiresIn hnull, h]
    cases e <;> rfl

/-- The time to live is the one asked for, and nonnegative. -/
theorem readTtl_ok_iff {expiresIn : Proto.Json} {ttl : T} : c.readTtl expiresIn = .ok ttl ↔
    ∃ x, c.requestedTtl expiresIn = .ok x ∧ ttl = atLeastZero x := by
  cases h : c.requestedTtl expiresIn with
  | ok x =>
      rw [readTtl_ok h]
      exact ⟨fun he => ⟨x, rfl, (Except.ok.inj he).symm⟩, fun ⟨y, hy, he⟩ => by
        rw [he, Except.ok.inj hy]⟩
  | error e =>
      rw [readTtl_error h]
      exact ⟨nofun, fun ⟨y, hy, _⟩ => nomatch hy⟩

/-- A token is stored of exactly the responses that grant one. -/
theorem refresh_ok_iff {reply : Reply} {token : String} {ttl : T} :
    c.refresh reply = .ok (token, ttl) ↔ ∃ r, reply = .response r ∧ c.Grants r token ttl := by
  constructor
  · intro h
    cases reply with
    | failed type message => cases h
    | response r =>
        rw [refresh] at h
        split at h
        · cases h
        · split at h
          · cases h
          · cases h
          · rename_i h500 doc hdoc
            unfold readToken at h
            split at h
            · -- A rejection raises, whatever its detail.
              cases hd : c.rejectionDetail doc <;> rw [hd] at h <;> cases h
            · rename_i h400
              split at h
              · rename_i htok
                cases hstr : Proto.Json.strOf c.lib.json (doc.get "access_token") with
                | error e =>
                    rw [hstr] at h
                    cases h
                | ok t =>
                    rw [hstr] at h
                    cases httl : c.readTtl (doc.get "expires_in") with
                    | error e =>
                        simp only [Except.mapError, httl, bind, Except.bind] at h
                        cases h
                    | ok x =>
                        simp only [Except.mapError, httl, bind, Except.bind] at h
                        cases h
                        exact ⟨r, rfl, by omega, doc, hdoc, htok, hstr, readTtl_ok_iff.mp httl⟩
              · cases h
  · rintro ⟨r, rfl, hs, doc, hdoc, htok, hstr, hx⟩
    rw [refresh_response (by omega) hdoc, readToken_token (by omega) htok hstr,
      readTtl_ok_iff.mpr hx]
    rfl

/-! ### The classes -/

omit [Zero T] [LT T] [DecidableLT T] in
theorem requestedTtl_error {expiresIn : Proto.Json} {e : PyError}
    (h : c.requestedTtl expiresIn = .error e) :
    expiresIn ≠ .null ∧ c.lib.float expiresIn = .error e := by
  cases expiresIn with
  | null => cases h
  | _ => exact ⟨nofun, h⟩

/-- A response a token is stored of is not refused. -/
theorem Grants.not_refused {r : Response} {token : String} {ttl : T} (h : c.Grants r token ttl) :
    ¬ c.Refused (.response r) := by
  obtain ⟨hs, doc, hdoc, htok, -, x, hx, -⟩ := h
  have hsame : ∀ {doc' : Proto.Json}, c.lib.json.loads r.body = .ok doc' → doc' = doc :=
    fun h => Except.ok.inj (h.symm.trans hdoc)
  intro hr
  cases hr with
  | notJson h =>
      rw [hdoc] at h
      cases h
  | status h => omega
  | @notObject _ doc' h hd =>
      obtain rfl := hsame h
      cases doc' with
      | obj kvs => exact hd kvs rfl
      | _ => cases htok
  | noToken h ht =>
      obtain rfl := hsame h
      rw [ht] at htok
      cases htok
  | expiresIn h hp he =>
      obtain rfl := hsame h
      rw [requestedTtl.eq_2 c _ hp, he] at hx
      cases hx

omit [Zero T] [LT T] [DecidableLT T] in
theorem Overflows.not_transient {reply : Reply} (h : c.Overflows reply) : ¬ Transient reply := by
  obtain ⟨r, doc, n, rfl, hs, -⟩ := h
  rintro (_ | h500)
  omega

omit [Zero T] [LT T] [DecidableLT T] in
/-- `float()` cannot convert it. -/
theorem Overflows.refused (hl : c.lib.Lawful) {reply : Reply} (h : c.Overflows reply) :
    c.Refused reply := by
  obtain ⟨r, doc, n, rfl, -, hdoc, -, hn, hbig⟩ := h
  obtain ⟨message, hf⟩ := hl.float_int hbig
  exact .expiresIn hdoc (by rw [hn]; exact nofun) (by rw [hn]; exact hf)

/-- An int beyond the doubles makes `float()` raise what nobody catches. -/
theorem refresh_overflow (hl : c.lib.Lawful) {reply : Reply} (h : c.Overflows reply) :
    ∃ message, c.refresh reply = .error (.builtin (.overflowError message)) := by
  obtain ⟨r, doc, n, rfl, hs, hdoc, htok, hn, hbig⟩ := h
  obtain ⟨message, hf⟩ := hl.float_int hbig
  obtain ⟨token, hstr⟩ := Proto.Json.strOf_ok c.lib.json
    (Proto.Json.digitsFit_get (hl.json.loads_digits hdoc) "access_token")
  have hx : c.requestedTtl (.int n) = .error (.overflowError message) := hf
  refine ⟨message, ?_⟩
  rw [refresh_response (by omega) hdoc, readToken_token (by omega) htok hstr, hn, readTtl_error hx]
  rfl

theorem refresh_refused (hl : c.lib.Lawful) {reply : Reply} (ht : ¬ Transient reply)
    (hr : c.Refused reply) (ho : ¬ c.Overflows reply) :
    ∃ message, c.refresh reply = .error (.permanent message) := by
  cases reply with
  | failed type message => exact absurd (.failed type message) ht
  | response r =>
      have h500 : ¬ 500 ≤ r.status := fun h => ht (.status h)
      cases hdoc : c.lib.json.loads r.body with
      | error e =>
          obtain ⟨m, rfl⟩ := hl.json.loads_error hdoc
          exact ⟨_, by rw [refresh, if_neg h500, hdoc]⟩
      | ok doc =>
          have hfit := hl.json.loads_digits hdoc
          rw [refresh_response h500 hdoc]
          by_cases h400 : 400 ≤ r.status
          · exact readToken_rejected hfit h400
          by_cases htok : (doc.get "access_token").truthy = true
          · obtain ⟨token, hstr⟩ := Proto.Json.strOf_ok c.lib.json
              (Proto.Json.digitsFit_get hfit "access_token")
            rw [readToken_token h400 htok hstr]
            cases hx : c.requestedTtl (doc.get "expires_in") with
            | ok x =>
                -- Then the response grants the token.
                have hg : c.Grants r token (atLeastZero x) :=
                  ⟨by omega, doc, hdoc, htok, hstr, x, hx, rfl⟩
                exact absurd hr hg.not_refused
            | error e =>
                obtain ⟨-, hf⟩ := requestedTtl_error hx
                rw [readTtl_error hx]
                rcases hl.float_error hf with ⟨m, rfl⟩ | ⟨m, rfl⟩ | ⟨n, hn, hbig⟩
                · exact ⟨_, rfl⟩
                · exact ⟨_, rfl⟩
                · exact absurd ⟨r, doc, n, rfl, by omega, hdoc, htok, hn, hbig⟩ ho
          · exact ⟨_, readToken_noToken h400 (Bool.not_eq_true _ ▸ htok)⟩

theorem refresh_stored (hl : c.lib.Lawful) {reply : Reply} (ht : ¬ Transient reply)
    (hr : ¬ c.Refused reply) : ∃ minted, c.refresh reply = .ok minted := by
  cases reply with
  | failed type message => exact absurd (.failed type message) ht
  | response r =>
      cases hdoc : c.lib.json.loads r.body with
      | error e => exact absurd (.notJson hdoc) hr
      | ok doc =>
          have h400 : ¬ 400 ≤ r.status := fun h => hr (.status h)
          obtain ⟨token, hstr⟩ := Proto.Json.strOf_ok c.lib.json
            (Proto.Json.digitsFit_get (hl.json.loads_digits hdoc) "access_token")
          cases hx : c.requestedTtl (doc.get "expires_in") with
          | error e =>
              obtain ⟨hp, hf⟩ := requestedTtl_error hx
              exact absurd (.expiresIn hdoc hp hf) hr
          | ok x =>
              have htok : (doc.get "access_token").truthy = true := by
                by_contra htok
                exact hr (.noToken hdoc (Bool.not_eq_true _ ▸ htok))
              exact ⟨_, refresh_ok_iff.mpr
                ⟨r, rfl, by omega, doc, hdoc, htok, hstr, x, hx, rfl⟩⟩

/-- **Every reply is classified, but one.**  A connection that fails and a status from 500 up are
transport errors, a response no token can be had of is a permanent one, and a token is stored of any
other: exactly where `expires_in` is no int beyond the doubles. -/
theorem classified_iff (hl : c.lib.Lawful) (reply : Reply) :
    c.Classified reply ↔ ¬ c.Overflows reply := by
  constructor
  · intro h ho
    obtain ⟨m, hm⟩ := h.refused ho.not_transient (ho.refused hl)
    obtain ⟨m', hm'⟩ := refresh_overflow hl ho
    rw [hm] at hm'
    cases hm'
  · intro ho
    exact ⟨refresh_transient, fun ht hr => refresh_refused hl ht hr ho, refresh_stored hl⟩

end OAuth2ClientCredentials

/-! ### Replies of one kind -/

/-- `{"access_token": "t", "expires_in": n}`. -/
def expiringDoc (n : Nat) : Proto.Json :=
  .obj [("access_token", .str "t"), ("expires_in", .int n)]

def expiringText (n : Nat) : Bytes :=
  ascii ("\x7b\"access_token\": \"t\", \"expires_in\": " ++ n.repr ++ "\x7d")

def expiringReply (n : Nat) : Reply :=
  .response { status := 200, header := fun _ => none, body := expiringText n }

/-- Reads such a document, in whole seconds. -/
def wholeSeconds (n : Nat) : TokenLib Int where
  json := .only (expiringText n) (expiringDoc n)
  float
    | .int n =>
        if BeyondDouble n then .error (.overflowError "int too large to convert to float")
        else .ok n
    | .str _ => .error (.valueError "could not convert string to float")
    | .bool b => .ok b.toNat
    | .float x => .ok x.truncate
    | .null | .arr _ | .obj _ => .error (.typeError "float() argument must be a string or a number")

theorem expiringText_ne_nil (n : Nat) : expiringText n ≠ [] := by
  simp [expiringText, ascii]

theorem expiringDoc_digitsFit {n : Nat} (h : n < 10 ^ maxStrDigits) :
    (expiringDoc n).DigitsFit := by
  simp [expiringDoc, Proto.Json.DigitsFit, Proto.Json.DigitsFitEntries,
    Proto.Json.DigitsFitEntry, h]

theorem wholeSeconds_lawful {n : Nat} (h : n < 10 ^ maxStrDigits) : (wholeSeconds n).Lawful where
  json := Proto.JsonLib.only_lawful (expiringText_ne_nil n) (expiringDoc_digitsFit h)
  float_error := by
    intro j e hf
    cases j with
    | int m =>
        by_cases hm : BeyondDouble m
        · exact Or.inr (Or.inr ⟨m, rfl, hm⟩)
        · simp only [wholeSeconds, if_neg hm] at hf
          cases hf
    | str s =>
        cases hf
        exact Or.inr (Or.inl ⟨_, rfl⟩)
    | bool b => cases hf
    | float x => cases hf
    | _ =>
        cases hf
        exact Or.inl ⟨_, rfl⟩
  float_int := by
    intro m hm
    refine ⟨"int too large to convert to float", ?_⟩
    simp only [wholeSeconds, if_pos hm]

namespace OAuth2ClientCredentials

/-- A provider with the default skew and time to live, whose token expires in so many seconds. -/
def expiring (n : Nat) : OAuth2ClientCredentials Int where
  lib := wholeSeconds n
  expirySkew := 30
  defaultTtl := 300

theorem expiring_refresh {n : Nat} (h : ¬ BeyondDouble n) :
    (expiring n).refresh (expiringReply n) = .ok ("t", n) := by
  have hx : (expiring n).requestedTtl (.int n) = .ok (n : Int) := by
    simp only [requestedTtl, expiring, wholeSeconds, if_neg h]
  refine refresh_ok_iff.mpr ⟨_, rfl, show (200 : Int) < 400 by decide, expiringDoc n,
    Proto.JsonLib.only_loads _ _, rfl, rfl, n, hx, ?_⟩
  rw [atLeastZero, if_neg (by omega)]

theorem classified_expiring : (expiring 300).Classified (expiringReply 300) := by
  have hfit : 300 < 10 ^ maxStrDigits :=
    lt_of_lt_of_le (b := 10 ^ 3) (by decide) (Nat.pow_le_pow_right (by decide) (by decide))
  refine (classified_iff (wholeSeconds_lawful hfit) _).mpr ?_
  rintro ⟨r, doc, n, hr, -, hdoc, -, hn, hbig⟩
  cases hr
  cases (Proto.JsonLib.only_loads _ _).symm.trans hdoc
  cases hn
  exact not_beyondDouble (by decide) hbig

theorem expiring_overflows {n : Nat} (h : BeyondDouble n) :
    (expiring n).Overflows (expiringReply n) :=
  ⟨_, expiringDoc n, n, rfl, show (200 : Int) < 400 by decide, Proto.JsonLib.only_loads _ _, rfl,
    rfl, h⟩

/-- `10 ** k` seconds. -/
def tenTo (k : Nat) : Nat := 10 ^ k

theorem tenTo_fits {k : Nat} (h : k < maxStrDigits) : tenTo k < 10 ^ maxStrDigits :=
  Nat.pow_lt_pow_right (by decide) h

theorem tenTo_beyond : BeyondDouble (tenTo 400) := by
  rw [BeyondDouble, Int.natAbs_natCast, tenTo]
  decide +kernel

/-- `OverflowError` escapes. -/
theorem tenTo_not_classified :
    (∃ message, (expiring (tenTo 400)).refresh (expiringReply (tenTo 400)) =
        .error (.builtin (.overflowError message))) ∧
      ¬ (expiring (tenTo 400)).Classified (expiringReply (tenTo 400)) := by
  have ho := expiring_overflows tenTo_beyond
  have hl : (expiring (tenTo 400)).lib.Lawful := wholeSeconds_lawful (tenTo_fits (by decide))
  obtain ⟨m, hm⟩ := refresh_overflow hl ho
  refine ⟨⟨m, hm⟩, fun h => ?_⟩
  obtain ⟨m', hm'⟩ := h.refused ho.not_transient (ho.refused hl)
  rw [hm] at hm'
  cases hm'

end OAuth2ClientCredentials

end OtlpClient
