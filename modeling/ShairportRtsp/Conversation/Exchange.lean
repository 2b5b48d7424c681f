import ShairportRtsp.Conversation.Auth
import ShairportRtsp.Codec.Response

/-! The conversation loop of `rtsp_conversation_thread_func`. Each request read is answered
by a response begun at 400, with `apple_challenge`'s `Apple-Response`, the request's `CSeq`
and `Server: AirTunes/105.1`; then the authentication gate, the handler `method_handlers[]`
names, if any, and one `msg_write_response`. A read that fails ends the conversation or is
skipped, as its kind says. `rtsp_read_request_attempt_count` starts at 1, so the retry
branch after a closed channel is never taken.
-/

namespace Shairport.Rtsp

-----------------------------------------------------------------------------------------
-- apple_challenge
-----------------------------------------------------------------------------------------

/-- The address `getsockname` gives for the connection's socket, as `apple_challenge`
copies it: the 4 bytes of `sin_addr` or the 16 of `sin6_addr`.
-/
inductive SockAddr
  | inet (addr : Bytes) (four : addr.length = 4)
  | inet6 (addr : Bytes) (sixteen : addr.length = 16)
  deriving DecidableEq

def SockAddr.bytes : SockAddr → Bytes
  | .inet addr _ => addr
  | .inet6 addr _ => addr

/-- What `apple_challenge` reads besides the request: the socket's address,
`config.hw_addr`, and `base64_dec`, `rsa_apply (.., RSA_MODE_AUTH)` and `base64_enc`, which
are not under `src/`.
-/
structure ChallengeEnv where
  sockAddr : SockAddr
  hwAddr : Bytes
  six : hwAddr.length = 6
  base64Dec : Bytes → Bytes
  rsaAuth : Bytes → Bytes
  base64Enc : Bytes → Bytes

/-- `memcpy (buf + off, src, n)` of all of `src`. -/
def writeAt (buf : Bytes) (off : Nat) (src : Bytes) : Bytes :=
  buf.take off ++ src ++ buf.drop (off + src.length)

/-- `uint8_t buf[48]` after the `memset`, the `memcpy` of the challenge, the `memcpy` of the
address and the six stores `*bp++ = config.hw_addr[i]`.
-/
def challengeBuffer (chall addr hw : Bytes) : Bytes :=
  (List.range 6).foldl (fun buf i => buf.set (chall.length + addr.length + i) (hw.getD i 0))
    (writeAt (writeAt (List.replicate 48 0) 0 chall) chall.length addr)

/-- The stores into `buf`, each as its offset and size, in the order they are made. -/
def challengeStores (chall addr : Bytes) : List (Nat × Nat) :=
  [(0, chall.length), (chall.length, addr.length)]
    ++ (List.range 6).map fun i => (chall.length + addr.length + i, 1)

/-- What `apple_challenge` does: the response, every store into `buf` (the `memset`
first), and the `buflen` bytes of `buf` it hands to `rsa_apply`.
-/
structure ChallengeOutcome where
  resp : RtspMessage
  stores : List (Nat × Nat)
  signed : Option Bytes

/-- `apple_challenge (fd, req, resp)`. The `=` that `strchr` finds in the encoding becomes
the NUL that ends the header's value.
-/
def appleChallenge (env : ChallengeEnv) (req resp : RtspMessage) : ChallengeOutcome :=
  match msgGetHeader req (ascii "Apple-Challenge") with
  | none => ⟨resp, [], none⟩
  | some hdr =>
      let chall := env.base64Dec hdr
      if 16 < chall.length then ⟨resp, [(0, 48)], none⟩
      else
        let addr := env.sockAddr.bytes
        let buflen := max (chall.length + addr.length + 6) 32
        let signed := (challengeBuffer chall addr env.hwAddr).take buflen
        let encoded := env.base64Enc (env.rsaAuth signed)
        let encoded := match strchr encoded 61 with
          | some i => encoded.set i 0
          | none => encoded
        ⟨(msgAddHeader resp (ascii "Apple-Response") encoded).1,
          (0, 48) :: challengeStores chall addr, some signed⟩

-----------------------------------------------------------------------------------------
-- One request's response
-----------------------------------------------------------------------------------------

/-- The handlers of `method_handlers[]`. -/
inductive HandlerId
  | options
  | announce
  | flush
  | teardown
  | setup
  | getParameter
  | setParameter
  | record
  deriving DecidableEq, Repr

/-- `method_handlers[]`, in order. -/
def methodHandlers : List (Bytes × HandlerId) :=
  [(ascii "OPTIONS", .options), (ascii "ANNOUNCE", .announce), (ascii "FLUSH", .flush),
    (ascii "TEARDOWN", .teardown), (ascii "SETUP", .setup),
    (ascii "GET_PARAMETER", .getParameter), (ascii "SET_PARAMETER", .setParameter),
    (ascii "RECORD", .record)]

/-- The loop over `method_handlers` with `strcmp`: the first entry named by the method. -/
def selectHandler (method : Bytes) : Option HandlerId :=
  (methodHandlers.find? fun entry => cstr entry.1 == cstr method).map Prod.snd

/-- What a method handler does to the response. Each handler of `method_handlers[]` sets
the code, adds headers with `msg_add_header` (`Public`, `Connection`, `Audio-Latency`,
`Transport` and `Session`) and, for GET_PARAMETER of the volume, sets the content and its
length.
-/
structure HandlerReply where
  respcode : Int
  headers : List (Bytes × Bytes)
  content : Option (Bytes × Int)

def HandlerReply.apply (r : HandlerReply) (resp : RtspMessage) : RtspMessage :=
  let resp := { r.headers.foldl (fun resp h => (msgAddHeader resp h.1 h.2).1) resp with
                respcode := r.respcode }
  match r.content with
  | some (content, length) => { resp with content := some content, contentlength := length }
  | none => resp

/-- The response before the gate: `msg_init`, code 400, `apple_challenge`, the request's
`CSeq` when it has one, and `Server`.
-/
def responseHead (env : ChallengeEnv) (index : Int) (req : RtspMessage) : RtspMessage :=
  let resp := (appleChallenge env req { msgInit index with respcode := 400 }).resp
  let resp := match msgGetHeader req (ascii "CSeq") with
    | some hdr => (msgAddHeader resp (ascii "CSeq") hdr).1
    | none => resp
  (msgAddHeader resp (ascii "Server") (ascii "AirTunes/105.1")).1

/-- The stores of the loop that logs the content of a request whose method names no handler:
`int y = req->contentlength`, cut to 4096, then for each of the `y` bytes
`snprintf (obfp, 3, "%02X", ..)`, which stores two digits and a NUL at `obfp`, with `obfp`
two bytes further each time, and the closing `*obfp = 0`. Each store is its offset in
`char obf[4096]` and its size.
-/
def obfStores (contentlength : Int) : List (Nat × Nat) :=
  let y := if contentlength > 4096 then 4096 else contentlength
  if y > 0 then (List.range y.toNat).map (fun i => (2 * i, 3)) ++ [(2 * y.toNat, 1)] else []

/-- What a request's pass makes up to `msg_write_response`: the gate afterwards, the
response, the handler the request went to, and the stores into `obf` when it went to none.
-/
structure ExchangeOutcome where
  gate : AuthGate
  resp : RtspMessage
  handler : Option HandlerId
  dumped : List (Nat × Nat)
  deriving DecidableEq, Repr

/-- A request's pass up to `msg_write_response`. `reply` says what each handler does, from
the state of the session. `none` where `rtsp_auth` uses `NULL + 1`.
-/
def exchangeResponse (cfg : AuthConfig) (env : ChallengeEnv)
    (reply : HandlerId → RtspMessage → HandlerReply) (gate : AuthGate) (fresh : Bytes)
    (index : Int) (req : RtspMessage) : Option ExchangeOutcome :=
  (gate.authorize cfg fresh req (responseHead env index req)).map fun (pass, gate, resp) =>
    if pass then
      match selectHandler req.method with
      | some h => ⟨gate, (reply h req).apply resp, some h, []⟩
      | none => ⟨gate, resp, none, obfStores req.contentlength⟩
    else ⟨gate, resp, none, []⟩

-----------------------------------------------------------------------------------------
-- Headers are only ever added
-----------------------------------------------------------------------------------------

/-- A header found in a message is found the same in every message whose headers begin with
its headers.
-/
theorem msgGetHeader_of_kept {m m' : RtspMessage} {name v : Bytes}
    (found : msgGetHeader m name = some v) (kept : m.headers <+: m'.headers)
    : msgGetHeader m' name = some v := by
  obtain ⟨more, split⟩ := kept
  unfold msgGetHeader at found ⊢
  obtain ⟨h, first, rfl⟩ := Option.map_eq_some'.mp found
  rw [← split, List.find?_append, first]
  rfl

theorem msgAddHeader_keeps_headers (m : RtspMessage) (name value : Bytes)
    : m.headers <+: (msgAddHeader m name value).1.headers := by
  unfold msgAddHeader
  split
  · exact List.prefix_refl _
  · exact List.prefix_append _ _

theorem HandlerReply.apply_keeps_headers (r : HandlerReply) (resp : RtspMessage)
    : resp.headers <+: (r.apply resp).headers := by
  have added : ∀ (hs : List (Bytes × Bytes)) (resp : RtspMessage),
      resp.headers <+: (hs.foldl (fun resp h => (msgAddHeader resp h.1 h.2).1) resp).headers := by
    intro hs
    induction hs with
    | nil => exact fun resp => List.prefix_refl _
    | cons h hs ih => exact fun resp => (msgAddHeader_keeps_headers resp h.1 h.2).trans (ih _)
  unfold HandlerReply.apply
  split <;> exact added _ _

/-- The gate only adds `WWW-Authenticate` to the response it is given. -/
theorem AuthGate.authorize_keeps_headers {g : AuthGate} {cfg : AuthConfig} {fresh : Bytes}
    {req resp : RtspMessage} {pass : Bool} {g' : AuthGate} {resp' : RtspMessage}
    (h : g.authorize cfg fresh req resp = some (pass, g', resp')) : resp.headers <+: resp'.headers := by
  unfold AuthGate.authorize at h
  split at h
  · cases h; exact List.prefix_refl _
  · split at h
    · cases h
    · rename_i rc nonce resp'' auth
      have : resp'' = resp ∨ ∃ n, resp'' = authenticate n resp := by
        unfold rtspAuth at auth
        split at auth
        · cases auth; exact .inl rfl
        · split at auth
          · cases auth; exact .inr ⟨_, rfl⟩
          · split at auth
            · cases auth
            · cases auth; exact .inl rfl
            · cases auth; exact .inr ⟨_, rfl⟩
      have kept : resp.headers <+: resp''.headers := by
        rcases this with rfl | ⟨n, rfl⟩
        · exact List.prefix_refl _
        · exact msgAddHeader_keeps_headers { resp with respcode := 401 } _ _
      split at h <;> cases h <;> exact kept

/-- `apple_challenge` adds `Apple-Response` and nothing else. -/
theorem appleChallenge_headers (env : ChallengeEnv) (req resp : RtspMessage)
    : ∃ more, (appleChallenge env req resp).resp.headers = resp.headers ++ more
      ∧ more.length ≤ 1 ∧ ∀ h ∈ more, h.1 = ascii "Apple-Response" := by
  unfold appleChallenge
  split
  · exact ⟨[], by simp, by simp, by simp⟩
  · dsimp only
    split
    · exact ⟨[], by simp, by simp, by simp⟩
    · simp only [msgAddHeader]
      split
      · exact ⟨[], by simp, by simp, by simp⟩
      · exact ⟨_, rfl, by simp, by simp; rfl⟩

/-- Past the `Apple-Response` headers, a header of another name is looked up in the rest. -/
theorem msgGetHeader_past_challenge {m : RtspMessage} {more rest : List (Bytes × Bytes)}
    (split : m.headers = more ++ rest) (named : ∀ h ∈ more, h.1 = ascii "Apple-Response")
    {name : Bytes} (other : strcaseEq (ascii "Apple-Response") name = false)
    : msgGetHeader m name = (rest.find? fun h => strcaseEq h.1 name).map Prod.snd := by
  rw [msgGetHeader, split, List.find?_append, List.find?_eq_none.mpr fun h mem => by
    rw [named h mem, other]; decide]
  rfl

theorem msgAddHeader_headers {m : RtspMessage} (room : m.headers.length < 16) (name value : Bytes)
    : (msgAddHeader m name value).1.headers = m.headers ++ [(cstr name, cstr value)] := by
  simp [msgAddHeader, Nat.not_le.mpr room]

/-- The response head's headers: at most one `Apple-Response`, the request's `CSeq` when it
has one, and `Server`.
-/
theorem responseHead_headers_eq (env : ChallengeEnv) (index : Int) (req : RtspMessage)
    : ∃ more, (∀ h ∈ more, h.1 = ascii "Apple-Response") ∧ more.length ≤ 1
      ∧ (responseHead env index req).headers = more
          ++ (((msgGetHeader req (ascii "CSeq")).map fun cseq => (cstr (ascii "CSeq"), cstr cseq)).toList
            ++ [(cstr (ascii "Server"), cstr (ascii "AirTunes/105.1"))]) := by
  obtain ⟨more, challenged, few, named⟩ :=
    appleChallenge_headers env req { msgInit index with respcode := 400 }
  refine ⟨more, named, few, ?_⟩
  unfold responseHead
  generalize (appleChallenge env req { msgInit index with respcode := 400 }).resp = r at challenged
  simp only [msgInit, List.nil_append] at challenged
  have room : r.headers.length < 15 := by rw [challenged]; omega
  cases msgGetHeader req (ascii "CSeq") with
  | none =>
      dsimp only
      rw [msgAddHeader_headers (by omega), challenged]
      rfl
  | some cseq =>
      dsimp only
      rw [msgAddHeader_headers (by rw [msgAddHeader_headers (by omega)]; simp; omega),
        msgAddHeader_headers (by omega), challenged]
      simp

/-- The response head answers `Server: AirTunes/105.1`, and the request's `CSeq` when it has
one.
-/
theorem responseHead_headers (env : ChallengeEnv) (index : Int) (req : RtspMessage)
    : msgGetHeader (responseHead env index req) (ascii "Server") = some (ascii "AirTunes/105.1")
      ∧ ∀ cseq, msgGetHeader req (ascii "CSeq") = some cseq →
          msgGetHeader (responseHead env index req) (ascii "CSeq") = some (cstr cseq) := by
  obtain ⟨more, named, -, headers⟩ := responseHead_headers_eq env index req
  have server : strcaseEq (ascii "Apple-Response") (ascii "Server") = false := by decide
  have cseqName : strcaseEq (ascii "Apple-Response") (ascii "CSeq") = false := by decide
  have names : strcaseEq (cstr (ascii "CSeq")) (ascii "Server") = false
      ∧ strcaseEq (cstr (ascii "CSeq")) (ascii "CSeq") = true
      ∧ strcaseEq (cstr (ascii "Server")) (ascii "Server") = true
      ∧ cstr (ascii "AirTunes/105.1") = ascii "AirTunes/105.1" := by decide
  refine ⟨?_, fun cseq given => ?_⟩
  · rw [msgGetHeader_past_challenge headers named server]
    cases msgGetHeader req (ascii "CSeq") <;> simp [names]
  · rw [msgGetHeader_past_challenge headers named cseqName, given]
    simp [names]

/-- The gate and the handler only add headers after the response head's. -/
theorem exchangeResponse_headers {cfg : AuthConfig} {env : ChallengeEnv}
    {reply : HandlerId → RtspMessage → HandlerReply} {gate : AuthGate} {fresh : Bytes}
    {index : Int} {req : RtspMessage} {o : ExchangeOutcome}
    (answered : exchangeResponse cfg env reply gate fresh index req = some o)
    : (responseHead env index req).headers <+: o.resp.headers := by
  obtain ⟨⟨pass, g, r⟩, gated, rfl⟩ := Option.map_eq_some'.mp answered
  refine (AuthGate.authorize_keeps_headers gated).trans ?_
  dsimp only
  split
  · split
    · exact HandlerReply.apply_keeps_headers _ _
    · exact List.prefix_refl _
  · exact List.prefix_refl _

/-- Every response the loop hands to `msg_write_response` carries `Server: AirTunes/105.1`
and, for a request with a `CSeq`, that `CSeq` as its first: whatever the gate decides and
whatever the handler adds.
-/
theorem exchangeResponse_echoes {cfg : AuthConfig} {env : ChallengeEnv}
    {reply : HandlerId → RtspMessage → HandlerReply} {gate : AuthGate} {fresh : Bytes}
    {index : Int} {req : RtspMessage} {o : ExchangeOutcome}
    (answered : exchangeResponse cfg env reply gate fresh index req = some o)
    : msgGetHeader o.resp (ascii "Server") = some (ascii "AirTunes/105.1")
      ∧ ∀ cseq, msgGetHeader req (ascii "CSeq") = some cseq →
          msgGetHeader o.resp (ascii "CSeq") = some (cstr cseq) := by
  have kept := exchangeResponse_headers answered
  have head := responseHead_headers env index req
  exact ⟨msgGetHeader_of_kept head.1 kept,
    fun cseq given => msgGetHeader_of_kept (head.2 cseq given) kept⟩

/-- Witness: a request refused by the gate is still answered with its `CSeq`. -/
theorem exchangeResponse_echoes_refused :
    exchangeResponse ⟨some (ascii "pw"), id⟩ ⟨.inet [127, 0, 0, 1] rfl, [1, 2, 3, 4, 5, 6], rfl, id, id, id⟩
        (fun _ _ => ⟨200, [], none⟩) ⟨none, false⟩ (ascii "n") 1
        { msgInit 1 with
          method := ascii "OPTIONS",
          headers := [(ascii "CSeq", ascii "7")] }
      = some ⟨⟨some (ascii "n"), false⟩,
          { msgInit 1 with
            respcode := 401,
            headers := [(ascii "CSeq", ascii "7"), (ascii "Server", ascii "AirTunes/105.1"),
              (ascii "WWW-Authenticate", ascii "Digest realm=\"raop\", nonce=\"n\"")] }, none, []⟩
    ∧ msgGetHeader { msgInit 1 with
                     respcode := 401,
                     headers := [(ascii "CSeq", ascii "7"), (ascii "Server", ascii "AirTunes/105.1"),
                       (ascii "WWW-Authenticate", ascii "Digest realm=\"raop\", nonce=\"n\"")] }
        (ascii "CSeq") = some (ascii "7") := by
  have answered : exchangeResponse ⟨some (ascii "pw"), id⟩
      ⟨.inet [127, 0, 0, 1] rfl, [1, 2, 3, 4, 5, 6], rfl, id, id, id⟩ (fun _ _ => ⟨200, [], none⟩)
      ⟨none, false⟩ (ascii "n") 1
      { msgInit 1 with
        method := ascii "OPTIONS",
        headers := [(ascii "CSeq", ascii "7")] }
      = some ⟨⟨some (ascii "n"), false⟩,
          { msgInit 1 with
            respcode := 401,
            headers := [(ascii "CSeq", ascii "7"), (ascii "Server", ascii "AirTunes/105.1"),
              (ascii "WWW-Authenticate", ascii "Digest realm=\"raop\", nonce=\"n\"")] }, none, []⟩ := by
    decide
  exact ⟨answered, (exchangeResponse_echoes answered).2 (ascii "7") (by decide)⟩

-----------------------------------------------------------------------------------------
-- The loop
-----------------------------------------------------------------------------------------

/-- The conversation's state across passes: the gate, `conn->stop`,
`rtsp_read_request_attempt_count`, the bytes handed to `write`, and the requests handed to a
handler, in order.
-/
structure Conversation where
  gate : AuthGate
  stop : Bool
  attempts : Int
  written : List Bytes
  handled : List (HandlerId × RtspMessage)
  dumped : List (Nat × Nat)

/-- The state before the first pass. -/
def Conversation.initial : Conversation := ⟨⟨none, false⟩, false, 1, [], [], []⟩

/-- One pass as the conversation meets it: what `rtsp_read_request` returned and
`*the_packet`, the response's message number, what `make_nonce` gives, whether
`conn->player_thread` is set, whether another thread set `conn->stop` meanwhile, and what
`write` returns.
-/
structure Exchange where
  read : ReadResponse
  packet : Option RtspMessage
  index : Int
  fresh : Bytes
  playerThread : Bool
  stopped : Bool
  wrote : Int

/-- The text written for a bad packet. -/
def badRequestText : Bytes := ascii "RTSP/1.0 400 Bad Request\r\nServer: AirTunes/105.1\r\n\r\n"

/-- One pass of `while (conn->stop == 0)`; `none` where the code dereferences `NULL`. -/
def Conversation.step (cfg : AuthConfig) (env : ChallengeEnv)
    (reply : HandlerId → RtspMessage → HandlerReply) (s : Conversation) (e : Exchange)
    : Option Conversation :=
  match e.read with
  | .ok =>
      match e.packet with
      | none => none
      | some req =>
          (exchangeResponse cfg env reply s.gate e.fresh e.index req).map fun o =>
            let s := { s with gate := o.gate,
                              handled := s.handled ++ (o.handler.map fun h => (h, req)).toList,
                              dumped := s.dumped ++ o.dumped }
            if e.stopped then { s with stop := true }
            else
              let out := msgWriteResponse o.resp e.wrote
              { s with written := s.written ++ out.written.toList,
                       stop := if out.result ≠ 0 then true else s.stop }
  | .immediateShutdownRequested => some { s with stop := true }
  | .channelClosed | .readError =>
      if e.playerThread then
        if s.attempts - 1 = 0 then some { s with attempts := s.attempts - 1, stop := true }
        else some { s with attempts := s.attempts - 1 }
      else some { s with stop := true }
  | .badPacket => some { s with written := s.written ++ [badRequestText] }
  | .error => some s

/-- The passes in order, while `conn->stop` is 0. -/
def Conversation.run (cfg : AuthConfig) (env : ChallengeEnv)
    (reply : HandlerId → RtspMessage → HandlerReply) : Conversation → List Exchange → Option Conversation
  | s, [] => some s
  | s, e :: es =>
      if s.stop then some s else (s.step cfg env reply e).bind fun s' => s'.run cfg env reply es

-----------------------------------------------------------------------------------------
-- What one pass does
-----------------------------------------------------------------------------------------

section Loop

variable {cfg : AuthConfig} {env : ChallengeEnv} {reply : HandlerId → RtspMessage → HandlerReply}

/-- What one pass does to the gate and to the handled requests: nothing, unless it reads a
request; the gate then decides on it, and it goes to a handler only if let through.
-/
theorem Conversation.step_gate {s s' : Conversation} {e : Exchange}
    (stepped : s.step cfg env reply e = some s')
    : (s'.gate = s.gate ∧ s'.handled = s.handled)
      ∨ ∃ req pass resp, e.packet = some req
        ∧ s.gate.authorize cfg e.fresh req (responseHead env e.index req) = some (pass, s'.gate, resp)
        ∧ (s'.handled = s.handled ∨ pass = true) := by
  unfold Conversation.step at stepped
  split at stepped
  · split at stepped
    · cases stepped
    · rename_i req found
      obtain ⟨o, answered, rfl⟩ := Option.map_eq_some'.mp stepped
      unfold exchangeResponse at answered
      obtain ⟨⟨pass, g', r'⟩, gated, answer⟩ := Option.map_eq_some'.mp answered
      have decided : o.gate = g' ∧ (o.handler = none ∨ pass = true) := by
        rw [← answer]
        dsimp only
        split
        · split <;> simp_all
        · simp
      obtain ⟨same, routed⟩ := decided
      rw [← same] at gated
      refine .inr ⟨req, pass, r', found, ?_⟩
      dsimp only
      split <;> exact ⟨gated, routed.imp (fun unrouted => by simp [unrouted]) id⟩
  all_goals
    first
    | (cases stepped; exact .inl ⟨rfl, rfl⟩)
    | (split at stepped <;> (try split at stepped) <;> cases stepped <;> exact .inl ⟨rfl, rfl⟩)

/-- A pass from `rtsp_read_request_attempt_count` 1 leaves it at 1, or stops the
conversation.
-/
theorem Conversation.step_attempts {s s' : Conversation} {e : Exchange} (one : s.attempts = 1)
    (stepped : s.step cfg env reply e = some s') : s'.attempts = 1 ∨ s'.stop = true := by
  unfold Conversation.step at stepped
  split at stepped
  · split at stepped
    · cases stepped
    · obtain ⟨o, _, rfl⟩ := Option.map_eq_some'.mp stepped
      dsimp only
      split <;> exact .inl one
  all_goals
    first
    | (cases stepped; exact .inl one)
    | (split at stepped <;> (try split at stepped) <;> cases stepped <;>
        first | exact .inr rfl | omega)

/-- With a password configured: the nonce is one `make_nonce` made in the passes `seen`; a
connection is only ever authorized after a request among them carried a digest that checks
against the nonce; and no request goes to a handler before the connection is authorized.
-/
structure Conversation.GateSound (md5 : Bytes → Bytes) (password : Bytes) (s : Conversation)
    (seen : List Exchange) : Prop where
  made : ∀ n, s.gate.nonce = some n → n ∈ seen.map Exchange.fresh
  digest : s.gate.authorized = true → ∃ n req, s.gate.nonce = some n
    ∧ some req ∈ seen.map Exchange.packet ∧ checkDigest md5 password n req = some true
  authorized : s.handled ≠ [] → s.gate.authorized = true

theorem Conversation.GateSound.mono {md5 : Bytes → Bytes} {password : Bytes} {s : Conversation}
    {seen more : List Exchange} (sound : s.GateSound md5 password seen)
    : s.GateSound md5 password (seen ++ more) := by
  refine ⟨fun n made => ?_, fun auth => ?_, sound.authorized⟩
  · rw [List.map_append]
    exact List.mem_append_left _ (sound.made n made)
  · obtain ⟨n, req, nonce, mem, ok⟩ := sound.digest auth
    rw [List.map_append]
    exact ⟨n, req, nonce, List.mem_append_left _ mem, ok⟩

/-- One pass keeps the gate sound, by the cases of the gate. -/
theorem Conversation.GateSound.step {password : Bytes} (configured : cfg.password = some password)
    {s s' : Conversation} {seen : List Exchange} {e : Exchange}
    (sound : s.GateSound cfg.md5 password seen) (stepped : s.step cfg env reply e = some s')
    : s'.GateSound cfg.md5 password (seen ++ [e]) := by
  have moved := @Conversation.GateSound.mono _ _ _ seen [e] sound
  rcases Conversation.step_gate stepped with ⟨gate, handled⟩ | ⟨req, pass, resp, found, gated, routed⟩
  · refine ⟨fun n made => ?_, fun auth => ?_, fun filled => ?_⟩
    · rw [gate] at made
      exact moved.made n made
    · rw [gate] at auth ⊢
      exact moved.digest auth
    · rw [gate]
      rw [handled] at filled
      exact moved.authorized filled
  · have unrouted : pass = false → s.handled = [] → s'.handled = [] := fun refused empty => by
      rcases routed with same | passed
      · rw [same, empty]
      · rw [passed] at refused
        cases refused
    rcases AuthGate.authorize_cases configured gated with ⟨was, -, same⟩ | ⟨was, -, refused, made⟩
      | ⟨n, was, nonce, made, digest⟩
    · refine ⟨fun n made => ?_, fun auth => ?_, fun _ => ?_⟩
      · rw [same] at made
        exact moved.made n made
      · rw [same] at auth ⊢
        exact moved.digest auth
      · rw [same]
        exact was
    · have empty : s.handled = [] := by
        by_contra filled
        rw [sound.authorized filled] at was
        cases was
      refine ⟨fun n made' => ?_, fun auth => ?_, fun filled => ?_⟩
      · rw [made] at made'
        cases made'
        simp
      · rw [made] at auth
        cases auth
      · exact absurd (unrouted refused empty) filled
    · refine ⟨fun n' made' => ?_, fun auth => ?_, fun filled => ?_⟩
      · rw [made] at made'
        cases made'
        exact moved.made _ nonce
      · rw [made] at auth ⊢
        cases auth
        exact ⟨n, req, rfl, by simp [found], digest⟩
      · rw [made]
        cases pass
        · have empty : s.handled = [] := by
            by_contra filled
            rw [sound.authorized filled] at was
            cases was
          exact absurd (unrouted rfl empty) filled
        · rfl

/-- A run keeps the gate sound over the passes it takes, by induction on the passes. -/
theorem Conversation.GateSound.run {password : Bytes} (configured : cfg.password = some password)
    : ∀ {s s' : Conversation} {seen es : List Exchange}, s.GateSound cfg.md5 password seen →
        s.run cfg env reply es = some s' → s'.GateSound cfg.md5 password (seen ++ es)
  | _, _, _, [], sound, ran => by
      cases ran
      simpa using sound
  | s, _, seen, e :: es, sound, ran => by
      rw [Conversation.run] at ran
      split at ran
      · cases ran
        exact sound.mono
      · obtain ⟨s₁, stepped, rest⟩ := Option.bind_eq_some.mp ran
        simpa using Conversation.GateSound.run configured (sound.step configured stepped) rest

/-- With a password configured, in every state the conversation reaches, a request has gone
to a method handler only if some request of the conversation carried a digest that checks
against the conversation's nonce, a nonce `make_nonce` made for this conversation.
-/
theorem Conversation.handled_after_digest {password : Bytes}
    (configured : cfg.password = some password) (es : List Exchange) {s : Conversation}
    (reached : Conversation.initial.run cfg env reply es = some s) (handled : s.handled ≠ [])
    : ∃ n req, s.gate.nonce = some n ∧ n ∈ es.map Exchange.fresh
        ∧ some req ∈ es.map Exchange.packet ∧ checkDigest cfg.md5 password n req = some true := by
  have start : Conversation.initial.GateSound cfg.md5 password [] :=
    ⟨fun _ absent => (by cases absent), fun auth => (by cases auth),
      fun filled => absurd rfl filled⟩
  have sound := Conversation.GateSound.run configured start reached
  rw [List.nil_append] at sound
  obtain ⟨n, req, nonce, mem, ok⟩ := sound.digest (sound.authorized handled)
  exact ⟨n, req, nonce, sound.made n nonce, mem, ok⟩

/-- Witness: a first OPTIONS is refused with a fresh nonce, and a second one whose digest
checks against it goes to its handler.
-/
theorem Conversation.handled_after_digest_answered :
    let es : List Exchange :=
      [⟨.ok, some ⟨1, 1, [], 0, none, ascii "OPTIONS", 0⟩, 1, ascii "n", false, false, 103⟩,
        ⟨.ok, some ⟨2, 1, [(ascii "Authorization",
            ascii "Digest realm=\"raop\", username=\"u\", response=\"\", uri=\"*\"")], 0, none,
            ascii "OPTIONS", 0⟩, 2, ascii "m", false, true, 0⟩]
    ∃ s, Conversation.initial.run ⟨some (ascii "pw"), fun _ => []⟩
        ⟨.inet [127, 0, 0, 1] rfl, [1, 2, 3, 4, 5, 6], rfl, id, id, id⟩ (fun _ _ => ⟨200, [], none⟩) es
        = some s
      ∧ s.handled ≠ [] ∧ ∃ n req, s.gate.nonce = some n ∧ n ∈ es.map Exchange.fresh
        ∧ some req ∈ es.map Exchange.packet ∧ checkDigest (fun _ => []) (ascii "pw") n req = some true := by
  intro es
  have line : statusLine 401 = ascii "RTSP/1.0 401 Unauthorized\r\n" := by
    simp [statusLine, decimalInt, decimal]; decide
  have wrote : (msgWriteResponse ⟨1, 1, [(ascii "Server", ascii "AirTunes/105.1"),
      (ascii "WWW-Authenticate", ascii "Digest realm=\"raop\", nonce=\"n\"")], 0, none, [], 401⟩
      103).result = 0 := by
    rw [msgWriteResponse, show RtspMessage.respcode _ = 401 from rfl, line]
    decide
  have first : exchangeResponse ⟨some (ascii "pw"), fun _ => []⟩
      ⟨.inet [127, 0, 0, 1] rfl, [1, 2, 3, 4, 5, 6], rfl, id, id, id⟩ (fun _ _ => ⟨200, [], none⟩)
      ⟨none, false⟩ (ascii "n") 1 ⟨1, 1, [], 0, none, ascii "OPTIONS", 0⟩
      = some ⟨⟨some (ascii "n"), false⟩, ⟨1, 1, [(ascii "Server", ascii "AirTunes/105.1"),
          (ascii "WWW-Authenticate", ascii "Digest realm=\"raop\", nonce=\"n\"")], 0, none, [], 401⟩,
          none, []⟩ := by
    decide
  have routedTo : (exchangeResponse ⟨some (ascii "pw"), fun _ => []⟩
      ⟨.inet [127, 0, 0, 1] rfl, [1, 2, 3, 4, 5, 6], rfl, id, id, id⟩ (fun _ _ => ⟨200, [], none⟩)
      ⟨some (ascii "n"), false⟩ (ascii "m") 2 ⟨2, 1, [(ascii "Authorization",
        ascii "Digest realm=\"raop\", username=\"u\", response=\"\", uri=\"*\"")], 0, none,
        ascii "OPTIONS", 0⟩).map (fun o => (o.gate, o.handler))
      = some (⟨some (ascii "n"), true⟩, some .options) := by
    decide
  obtain ⟨⟨g, r, h, d⟩, second, routed⟩ := Option.map_eq_some'.mp routedTo
  simp only [Prod.mk.injEq] at routed
  obtain ⟨rfl, rfl⟩ := routed
  obtain ⟨s, reached, handled⟩ : ∃ s, Conversation.initial.run ⟨some (ascii "pw"), fun _ => []⟩
      ⟨.inet [127, 0, 0, 1] rfl, [1, 2, 3, 4, 5, 6], rfl, id, id, id⟩ (fun _ _ => ⟨200, [], none⟩) es
      = some s ∧ s.handled ≠ [] := by
    rw [show es = _ from rfl, Conversation.run, if_neg (by decide)]
    dsimp only [Conversation.step, Conversation.initial]
    rw [first]
    simp only [Option.map_some', Option.some_bind, Bool.false_eq_true, if_false, wrote, ne_eq,
      not_true_eq_false]
    rw [Conversation.run, if_neg (by decide)]
    dsimp only [Conversation.step]
    rw [second]
    simp only [Option.map_some']
    exact ⟨_, rfl, List.cons_ne_nil _ _⟩
  exact ⟨s, reached, handled, Conversation.handled_after_digest rfl es reached handled⟩

/-- A run from `rtsp_read_request_attempt_count` 1 leaves it at 1 unless it stopped the
conversation, by induction on the passes.
-/
theorem Conversation.run_attempts
    : ∀ {s s' : Conversation} {es : List Exchange}, (s.attempts = 1 ∨ s.stop = true) →
        s.run cfg env reply es = some s' → s'.attempts = 1 ∨ s'.stop = true
  | _, _, [], start, ran => by
      cases ran
      exact start
  | s, _, e :: es, start, ran => by
      rw [Conversation.run] at ran
      split at ran
      · cases ran
        exact start
      · rename_i live
        obtain ⟨s₁, stepped, rest⟩ := Option.bind_eq_some.mp ran
        exact Conversation.run_attempts
          (Conversation.step_attempts (start.resolve_right live) stepped) rest

/-- In every state the conversation reaches without stopping, a closed channel or a read
error ends it at once, with nothing written, nothing handled and the gate as it was, whether
or not a player is running: `rtsp_read_request_attempt_count` starts at 1, so the retry after
`usleep (20000)` is never taken.
-/
theorem Conversation.read_failure_ends (es : List Exchange) {s : Conversation}
    (reached : Conversation.initial.run cfg env reply es = some s) (live : s.stop = false)
    {e : Exchange} (failed : e.read = .channelClosed ∨ e.read = .readError)
    : ∃ s', s.step cfg env reply e = some s' ∧ s'.stop = true ∧ s'.gate = s.gate
        ∧ s'.written = s.written ∧ s'.handled = s.handled := by
  have one : s.attempts = 1 :=
    (Conversation.run_attempts (.inl rfl) reached).resolve_right (by simp [live])
  unfold Conversation.step
  rcases failed with failed | failed <;> simp only [failed] <;>
    by_cases player : e.playerThread <;> simp [player, one]

/-- Witness: a closed channel after a bad packet, with a player running. -/
theorem Conversation.read_failure_ends_after_bad_packet :
    Conversation.initial.run ⟨none, id⟩ ⟨.inet [127, 0, 0, 1] rfl, [1, 2, 3, 4, 5, 6], rfl, id, id, id⟩
        (fun _ _ => ⟨200, [], none⟩) [⟨.badPacket, none, 1, [], true, false, 0⟩]
      = some { Conversation.initial with written := [badRequestText] }
    ∧ ∃ s', ({ Conversation.initial with written := [badRequestText] } : Conversation).step ⟨none, id⟩
        ⟨.inet [127, 0, 0, 1] rfl, [1, 2, 3, 4, 5, 6], rfl, id, id, id⟩ (fun _ _ => ⟨200, [], none⟩)
        ⟨.channelClosed, none, 2, [], true, false, 0⟩ = some s'
      ∧ s'.stop = true ∧ s'.gate = Conversation.initial.gate ∧ s'.written = [badRequestText]
      ∧ s'.handled = [] := by
  have reached : Conversation.initial.run ⟨none, id⟩
      ⟨.inet [127, 0, 0, 1] rfl, [1, 2, 3, 4, 5, 6], rfl, id, id, id⟩ (fun _ _ => ⟨200, [], none⟩)
      [⟨.badPacket, none, 1, [], true, false, 0⟩]
      = some { Conversation.initial with written := [badRequestText] } := rfl
  exact ⟨reached, Conversation.read_failure_ends _ reached rfl (.inl rfl)⟩

theorem headerText_cstr (name value : Bytes) : headerText (cstr name, cstr value) = headerText (name, value) := by
  simp only [headerText, cstr_cstr]

/-- Every response a pass writes for a request carries on the wire the line
`Server: AirTunes/105.1` and, for a request with a `CSeq`, the line `CSeq: <value>`, whatever
the gate decided and the handler added: the headers the gate and the handler add come after
the response head's, and `msg_write_response` writes the text of every header or nothing.
-/
theorem Conversation.step_writes_echo {s s' : Conversation} {e : Exchange} {req : RtspMessage}
    {pkt : Bytes} (stepped : s.step cfg env reply e = some s') (read : e.read = .ok)
    (packet : e.packet = some req) (wrote : s'.written = s.written ++ [pkt])
    : headerText (ascii "Server", ascii "AirTunes/105.1") <:+: pkt
      ∧ ∀ cseq, msgGetHeader req (ascii "CSeq") = some cseq →
          headerText (ascii "CSeq", cseq) <:+: pkt := by
  unfold Conversation.step at stepped
  simp only [read, packet] at stepped
  obtain ⟨o, answered, rfl⟩ := Option.map_eq_some'.mp stepped
  have sent : (msgWriteResponse o.resp e.wrote).written = some pkt := by
    split at wrote
    · simp at wrote
    · cases out : (msgWriteResponse o.resp e.wrote).written <;> simp [out] at wrote
      rw [wrote]
  have onWire : ∀ hd ∈ (responseHead env e.index req).headers, headerText hd <:+: pkt :=
    fun hd mem => (List.infix_of_mem_flatten (List.mem_map_of_mem headerText
      ((exchangeResponse_headers answered).subset mem))).trans
        ((List.suffix_append _ _).isInfix.trans (msgWriteResponse_written sent).isInfix)
  obtain ⟨more, -, -, headers⟩ := responseHead_headers_eq env e.index req
  rw [headers] at onWire
  refine ⟨?_, fun cseq given => ?_⟩
  · rw [← headerText_cstr]
    exact onWire _ (List.mem_append_right _ (List.mem_append_right _ (List.mem_singleton_self _)))
  · rw [← headerText_cstr]
    refine onWire _ (List.mem_append_right _ (List.mem_append_left _ ?_))
    simp [given]

/-- Witness: an OPTIONS with `CSeq: 1`, no password set, answered with a 200 in one write. -/
theorem Conversation.step_writes_echo_options :
    ∃ s', Conversation.initial.step ⟨none, id⟩
        ⟨.inet [127, 0, 0, 1] rfl, [1, 2, 3, 4, 5, 6], rfl, id, id, id⟩ (fun _ _ => ⟨200, [], none⟩)
        ⟨.ok, some ⟨1, 1, [(ascii "CSeq", ascii "1")], 0, none, ascii "OPTIONS", 0⟩, 1, [], false,
          false, 52⟩ = some s'
      ∧ s'.written = Conversation.initial.written
          ++ [ascii "RTSP/1.0 200 OK\r\nCSeq: 1\r\nServer: AirTunes/105.1\r\n\r\n"]
      ∧ msgGetHeader ⟨1, 1, [(ascii "CSeq", ascii "1")], 0, none, ascii "OPTIONS", 0⟩ (ascii "CSeq")
          = some (ascii "1")
      ∧ headerText (ascii "Server", ascii "AirTunes/105.1")
          <:+: ascii "RTSP/1.0 200 OK\r\nCSeq: 1\r\nServer: AirTunes/105.1\r\n\r\n"
      ∧ headerText (ascii "CSeq", ascii "1")
          <:+: ascii "RTSP/1.0 200 OK\r\nCSeq: 1\r\nServer: AirTunes/105.1\r\n\r\n" := by
  have answered : exchangeResponse ⟨none, id⟩
      ⟨.inet [127, 0, 0, 1] rfl, [1, 2, 3, 4, 5, 6], rfl, id, id, id⟩ (fun _ _ => ⟨200, [], none⟩)
      ⟨none, false⟩ [] 1 ⟨1, 1, [(ascii "CSeq", ascii "1")], 0, none, ascii "OPTIONS", 0⟩
      = some ⟨⟨none, true⟩, ⟨1, 1, [(ascii "CSeq", ascii "1"), (ascii "Server", ascii "AirTunes/105.1")],
          0, none, [], 200⟩, some .options, []⟩ := by
    decide
  have sent : (msgWriteResponse ⟨1, 1, [(ascii "CSeq", ascii "1"),
      (ascii "Server", ascii "AirTunes/105.1")], 0, none, [], 200⟩ 52).written
      = some (ascii "RTSP/1.0 200 OK\r\nCSeq: 1\r\nServer: AirTunes/105.1\r\n\r\n") := by
    rw [msgWriteResponse, show RtspMessage.respcode _ = 200 from rfl, statusLine_ok]
    decide
  obtain ⟨s', stepped, wrote⟩ : ∃ s', Conversation.initial.step ⟨none, id⟩
      ⟨.inet [127, 0, 0, 1] rfl, [1, 2, 3, 4, 5, 6], rfl, id, id, id⟩ (fun _ _ => ⟨200, [], none⟩)
      ⟨.ok, some ⟨1, 1, [(ascii "CSeq", ascii "1")], 0, none, ascii "OPTIONS", 0⟩, 1, [], false,
        false, 52⟩ = some s'
      ∧ s'.written = Conversation.initial.written
          ++ [ascii "RTSP/1.0 200 OK\r\nCSeq: 1\r\nServer: AirTunes/105.1\r\n\r\n"] := by
    dsimp only [Conversation.step, Conversation.initial]
    rw [answered]
    simp only [Option.map_some', Bool.false_eq_true, if_false]
    exact ⟨_, rfl, by simp only [sent]; rfl⟩
  have echo := Conversation.step_writes_echo stepped rfl rfl wrote
  exact ⟨s', stepped, wrote, by decide, echo.1, echo.2 _ (by decide)⟩

end Loop

end Shairport.Rtsp
