import ShairportRtsp.Codec.Message

/-! `rtsp_auth`: digest authentication of a request against the configured password, with
the nonce the connection makes at its first request, and the gate in front of the method
handlers that remembers a success in `conn->authorized`.
-/

namespace Shairport.Rtsp

/-- What `rtsp_auth` reads besides the request: `config.password` and the MD5 of the
crypto library, giving the 16 digest bytes.
-/
structure AuthConfig where
  password : Option Bytes
  md5 : Bytes → Bytes

def hexDigit (n : Nat) : UInt8 := if n < 10 then UInt8.ofNat (48 + n) else UInt8.ofNat (87 + n)

/-- `snprintf (.., "%02x", b)` for each byte. -/
def hex (bs : Bytes) : Bytes := bs.flatMap fun b => [hexDigit (b.toNat / 16), hexDigit (b.toNat % 16)]

/-- `field = strchr (field, '"') + 1; if (!(quote = strchr (field, '"'))) goto authenticate;
*quote = 0;` for a field whose name was found at `pos` of the header buffer `hdr`: the buffer
with the closing quote overwritten and where the value starts, `some none` for a missing
closing quote, and `none` when the first `strchr` finds no quote and `NULL + 1` is used.
-/
def quoteField (hdr : Bytes) (pos : Nat) : Option (Option (Bytes × Nat)) :=
  match strchr (hdr.drop pos) 34 with
  | none => none
  | some off =>
      match strchr (hdr.drop (pos + off + 1)) 34 with
      | none => some none
      | some q => some (some (hdr.set (pos + off + 1 + q) 0, pos + off + 1))

/-- The fields cut out one after the other, each on the buffer the previous cuts left: the
final buffer and where each value starts.
-/
def quoteFields (hdr : Bytes) : List Nat → Option (Option (Bytes × List Nat))
  | [] => some (some (hdr, []))
  | pos :: rest =>
      match quoteField hdr pos with
      | none => none
      | some none => some none
      | some (some (hdr', start)) =>
          match quoteFields hdr' rest with
          | none => none
          | some none => some none
          | some (some (final, starts)) => some (some (final, start :: starts))

/-- `hex (MD5 (hex (MD5 (username:realm:password)) : nonce : hex (MD5 (method:uri))))`. -/
def expectedResponse (md5 : Bytes → Bytes) (password nonce method username realm uri : Bytes)
    : Bytes :=
  hex (md5 (hex (md5 (username ++ ascii ":" ++ realm ++ ascii ":" ++ password)) ++ ascii ":"
    ++ nonce ++ ascii ":" ++ hex (md5 (method ++ ascii ":" ++ uri))))

/-- The digest check of `rtsp_auth` against the nonce: `some true` when the quoted `response`
equals the expected digest, `some false` for every `goto authenticate`, `none` where
`NULL + 1` is used.
-/
def checkDigest (md5 : Bytes → Bytes) (password nonce : Bytes) (req : RtspMessage)
    : Option Bool :=
  match msgGetHeader req (ascii "Authorization") with
  | none => some false
  | some hdr =>
      if !hasPrefix hdr (ascii "Digest ") then some false
      else
        match strstr hdr (ascii "realm=\""), strstr hdr (ascii "username=\""),
          strstr hdr (ascii "response=\""), strstr hdr (ascii "uri=\"") with
        | some realm, some username, some response, some uri =>
            match quoteFields hdr [realm, username, response, uri] with
            | none => none
            | some none => some false
            | some (some (final, starts)) =>
                match starts.map fun start => cstr (final.drop start) with
                | [realm, username, response, uri] =>
                    some (response == expectedResponse md5 (cstr password) (cstr nonce)
                      (cstr req.method) username realm uri)
                | _ => some false
        | _, _, _, _ => some false

/-- The `authenticate:` exit: code 401 and `WWW-Authenticate: Digest realm="raop", nonce="N"`. -/
def authenticate (nonce : Bytes) (resp : RtspMessage) : RtspMessage :=
  (msgAddHeader { resp with respcode := 401 } (ascii "WWW-Authenticate")
    (ascii "Digest realm=\"raop\", nonce=\"" ++ cstr nonce ++ ascii "\"")).1

/-- `rtsp_auth (&conn->auth_nonce, req, resp)` with `make_nonce ()` giving `fresh`: the
result code, the nonce afterwards and the response; `none` where `NULL + 1` is used.
-/
def rtspAuth (cfg : AuthConfig) (fresh : Bytes) (nonce : Option Bytes) (req resp : RtspMessage)
    : Option (Int × Option Bytes × RtspMessage) :=
  match cfg.password with
  | none => some (0, nonce, resp)
  | some password =>
      match nonce with
      | none => some (1, some fresh, authenticate fresh resp)
      | some n =>
          match checkDigest cfg.md5 password n req with
          | none => none
          | some true => some (0, nonce, resp)
          | some false => some (1, nonce, authenticate n resp)

/-- The connection's `auth_nonce` and `authorized`. -/
structure AuthGate where
  nonce : Option Bytes
  authorized : Bool
  deriving DecidableEq, Repr

/-- `if ((conn->authorized == 1) || (rtsp_auth (&conn->auth_nonce, req, resp)) == 0)`: whether
the request goes to a method handler, the gate afterwards and the response so far; `none`
where `rtsp_auth` uses `NULL + 1`.
-/
def AuthGate.authorize (g : AuthGate) (cfg : AuthConfig) (fresh : Bytes) (req resp : RtspMessage)
    : Option (Bool × AuthGate × RtspMessage) :=
  if g.authorized then some (true, g, resp)
  else
    match rtspAuth cfg fresh g.nonce req resp with
    | none => none
    | some (rc, nonce, resp') =>
        if rc = 0 then some (true, ⟨nonce, true⟩, resp') else some (false, ⟨nonce, false⟩, resp')

-----------------------------------------------------------------------------------------
-- What the gate decides
-----------------------------------------------------------------------------------------

/-- Everything the gate can do with a password configured: let an authorized connection
through as it is; make the nonce and refuse; or check the digest against the nonce, letting
the request through and remembering it exactly when the digest checks.
-/
theorem AuthGate.authorize_cases {g : AuthGate} {cfg : AuthConfig} {password : Bytes}
    (configured : cfg.password = some password) {fresh : Bytes} {req resp : RtspMessage}
    {pass : Bool} {g' : AuthGate} {resp' : RtspMessage}
    (h : g.authorize cfg fresh req resp = some (pass, g', resp'))
    : (g.authorized = true ∧ pass = true ∧ g' = g)
      ∨ (g.authorized = false ∧ g.nonce = none ∧ pass = false ∧ g' = ⟨some fresh, false⟩)
      ∨ ∃ n, g.authorized = false ∧ g.nonce = some n ∧ g' = ⟨some n, pass⟩
          ∧ checkDigest cfg.md5 password n req = some pass := by
  unfold AuthGate.authorize at h
  cases passed : g.authorized with
  | true =>
      simp only [passed, if_true, Option.some.injEq, Prod.mk.injEq] at h
      exact .inl ⟨rfl, h.1.symm, h.2.1.symm⟩
  | false =>
      cases hn : g.nonce with
      | none =>
          simp only [passed, Bool.false_eq_true, if_false, rtspAuth, configured, hn] at h
          simp at h
          exact .inr (.inl ⟨rfl, rfl, h.1, h.2.1.symm⟩)
      | some n =>
          simp only [passed, Bool.false_eq_true, if_false, rtspAuth, configured, hn] at h
          refine .inr (.inr ⟨n, rfl, rfl, ?_⟩)
          cases digest : checkDigest cfg.md5 password n req with
          | none => simp [digest] at h
          | some ok =>
              cases ok <;> simp [digest] at h <;> simp [← h.1, ← h.2.1]

/-- A second request on a connection, after the 401 that gave it its nonce, whose
`Authorization` header names `username="` inside the quoted realm: cutting out the realm
overwrites the quote `strchr` then looks for in the username, and `rtsp_auth` goes on with
`NULL + 1` instead of answering 401.
-/
theorem rtspAuth_overlapping_fields_undefined (password nonce fresh : Bytes)
    (md5 : Bytes → Bytes) (resp : RtspMessage)
    : (AuthGate.mk (some nonce) false).authorize ⟨some password, md5⟩ fresh
        { msgInit 1 with
          method := ascii "OPTIONS",
          headers := [(ascii "Authorization",
            ascii "Digest realm=\"username=\" response=\"x\" uri=\"y\"")] } resp = none := rfl

end Shairport.Rtsp
