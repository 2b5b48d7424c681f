import ShairportRtsp.Session.Receiver

/-! `handle_setup` with the player held. The `Transport` header's `control_port=` and
`timing_port=` are each read with `atoi` into a `uint16_t`. The first SETUP of a connection
calls `rtp_setup` with them; a later one only warns, whatever ports it names. A local audio
port other than 0 gives a 200 whose `Transport` names the three local ports, and every other
outcome is a 451 that lets the player go. The `Active-Remote` and `DACP-ID` headers the
handler copies first are modelled in `Conversation.Identity`.
-/

namespace Shairport.Rtsp

-----------------------------------------------------------------------------------------
-- The ports
-----------------------------------------------------------------------------------------

/-- A `uint16_t` port. -/
abbrev Port := Fin (2 ^ 16)

/-- An `int` stored into a `uint16_t`: its value modulo `2 ^ 16`. -/
def toPort (z : Int) : Port := ⟨(z % 2 ^ 16).toNat, by omega⟩

/-- The low 16 bits of a `long` are those of the `int` it converts to. -/
@[simp] theorem toPort_toInt32 (z : Int) : toPort (toInt32 z) = toPort z :=
  Fin.ext (show ((toInt32 z) % 2 ^ 16).toNat = (z % 2 ^ 16).toNat by unfold toInt32; omega)

/-- `p = strstr (hdr, key); p = strchr (p, '=') + 1; port = atoi (p);`, `none` where
`strstr` finds no key. `strchr` finds the key's own `=`.
-/
def transportPort (hdr key : Bytes) : Option Port :=
  (strstr hdr key).bind fun i =>
    (strchr (hdr.drop i) 61).map fun j => toPort (atoi (hdr.drop (i + j + 1)))

/-- The ports a `Transport` value asks for: none without `control_port=`, and none without
`timing_port=`, which is only looked for once the control port is read.
-/
def transportPorts (hdr : Bytes) : Option (Port × Port) :=
  (transportPort hdr (ascii "control_port=")).bind fun cport =>
    (transportPort hdr (ascii "timing_port=")).map fun tport => (cport, tport)

/-- The three UDP ports `rtp_setup` binds on this side. -/
structure LocalPorts where
  audio : Port
  control : Port
  timing : Port
  deriving DecidableEq, Repr

/-- The fields of `rtsp_conn_info` that SETUP reads and writes. -/
structure RtpPorts where
  rtpRunning : Bool
  remoteControlPort : Port
  remoteTimingPort : Port
  localPorts : LocalPorts
  deriving DecidableEq, Repr

/-- Modelled from the spec: `rtp_setup (&conn->local, &conn->remote, cport, tport, conn)`, of
`rtp.c`, is not under src/. As the spec has it, it allocates the three local UDP ports
(`opened` gives what the binds return); and since `handle_setup` afterwards reads
`rtp_running` and compares a later SETUP's ports with the remote ones, it keeps the remote
ports and marks RTP running.
-/
def rtpSetup (opened : Port → Port → LocalPorts) (cport tport : Port) : RtpPorts :=
  ⟨true, cport, tport, opened cport tport⟩

/-- The text of `"RTP/AVP/UDP;unicast;interleaved=0-1;mode=record;control_port=%d;"
"timing_port=%d;server_port=%d"`. -/
def transportText (control timing audio : Nat) : Bytes :=
  ascii "RTP/AVP/UDP;unicast;interleaved=0-1;mode=record;control_port=" ++ decimal control
    ++ ascii ";timing_port=" ++ decimal timing ++ ascii ";server_port=" ++ decimal audio

/-- `snprintf (resphdr, sizeof (resphdr), ..)` of the local ports into `char resphdr[256]`. -/
def transportReply (l : LocalPorts) : Bytes :=
  (transportText l.control l.timing l.audio).take 255

/-- What `handle_setup` leaves: the connection's ports, the response, and the ports of the
`rtp_setup` call it made.
-/
structure SetupOutcome where
  conn : RtpPorts
  resp : RtspMessage
  rtpSetupCall : Option (Port × Port)

/-- The branch that ends in 200: `Transport`, `Session: 1`, and the code. -/
def setupReply (conn : RtpPorts) (resp : RtspMessage) : RtspMessage :=
  let resp := (msgAddHeader resp (ascii "Transport") (transportReply conn.localPorts)).1
  { (msgAddHeader resp (ascii "Session") (ascii "1")).1 with respcode := 200 }

/-- `handle_setup (conn, req, resp)` after the identity headers, `held` being
`have_player (conn)`. The connection's record is read before `rtp_setup` and the audio port
after it.
-/
def handleSetup (opened : Port → Port → LocalPorts) (held : Bool) (conn : RtpPorts)
    (req resp : RtspMessage) : SetupOutcome :=
  let resp := { resp with respcode := 451 }
  if held then
    match (msgGetHeader req (ascii "Transport")).bind transportPorts with
    | none => ⟨conn, resp, none⟩
    | some (cport, tport) =>
        let call := if conn.rtpRunning then none else some (cport, tport)
        let conn := if conn.rtpRunning then conn else rtpSetup opened cport tport
        ⟨conn, if conn.localPorts.audio ≠ 0 then setupReply conn resp else resp, call⟩
  else ⟨conn, resp, none⟩

/-- SETUP after SETUP on one connection, each with `have_player`, the request and the
response begun for it; the connection's ports carry over from each to the next.
-/
def handleSetups (opened : Port → Port → LocalPorts)
    : RtpPorts → List (Bool × RtspMessage × RtspMessage) → List SetupOutcome
  | _, [] => []
  | conn, (held, req, resp) :: rest =>
      let o := handleSetup opened held conn req resp
      o :: handleSetups opened o.conn rest

-----------------------------------------------------------------------------------------
-- Reading a port
-----------------------------------------------------------------------------------------

/-- The port is `atoi` of the text right after the first occurrence of the key, whose only
`=` is its last byte.
-/
theorem transportPort_at {hdr k : Bytes} (noEq : 61 ∉ k) {i : Nat}
    (found : strstr hdr (k ++ [61]) = some i)
    : transportPort hdr (k ++ [61]) = some (toPort (atoi (hdr.drop (i + k.length + 1)))) := by
  have starts := findPrefix_some found
  have inside : i ≤ (cstr hdr).length := by
    have := starts.length_le
    simp only [List.length_drop, List.length_append, List.length_singleton] at this
    omega
  obtain ⟨u, split⟩ := starts
  have atEq : strchr (hdr.drop i) 61 = some k.length := by
    rw [strchr, cstr_drop inside, ← split, List.append_assoc, List.singleton_append,
      findPrefix_append k _ fun j lt pre => noEq ?_]
    · have self := findPrefix_append_self [61] u (List.cons_ne_nil _ _)
      rw [List.singleton_append] at self
      simp [self]
    · rw [List.drop_append_of_le_length lt.le, List.drop_eq_getElem_cons lt] at pre
      rw [(List.cons_prefix_cons.mp pre).1]
      exact List.getElem_mem _
  simp only [transportPort, found, Option.some_bind, atEq, Option.map_some']

/-- The keys, each with its `=` as its only `=`. -/
theorem control_key : ascii "control_port=" = ascii "control_port" ++ [61] := rfl

theorem timing_key : ascii "timing_port=" = ascii "timing_port" ++ [61] := rfl

/-- No NUL and no digit among the bytes of a numeral. -/
theorem zero_not_mem_decimal (n : Nat) : 0 ∉ decimal n := fun mem => by
  have := List.all_eq_true.mp (decimal_all_isDigit n) 0 mem
  exact absurd this (by decide)

/-- The ports of a `Transport` of the form senders write, whatever follows the timing port's
digits, by locating each key past the numerals before it: each numeral's value, saturated at
`LONG_MAX` by `strtol`, stored into a `uint16_t`.
-/
theorem transportPorts_numerals (control timing : Nat) {rest : Bytes}
    (stop : ∀ b ∈ rest.head?, isDigit b = false)
    : transportPorts (ascii "RTP/AVP/UDP;unicast;interleaved=0-1;mode=record;control_port="
        ++ decimal control ++ ascii ";timing_port=" ++ decimal timing ++ rest)
      = some (toPort (min control (2 ^ 63 - 1)), toPort (min timing (2 ^ 63 - 1))) := by
  have controlA : findPrefix (ascii "control_port=")
      (ascii "RTP/AVP/UDP;unicast;interleaved=0-1;mode=record;control_port=") = some 48 := by
    decide
  have absentA : ∀ i < (ascii "RTP/AVP/UDP;unicast;interleaved=0-1;mode=record;control_port=").length,
      ¬ ascii "timing_port=" <+:
        (ascii "RTP/AVP/UDP;unicast;interleaved=0-1;mode=record;control_port=").drop i := by
    decide
  have lengthA : (ascii "RTP/AVP/UDP;unicast;interleaved=0-1;mode=record;control_port=").length
      = 61 := rfl
  have timingT : findPrefix (ascii "timing_port=") (ascii ";timing_port=") = some 1 := by decide
  have headT : ∀ b ∈ (ascii ";timing_port=" ++ (decimal timing ++ rest)).head?,
      isDigit b = false := by
    rw [show ascii ";timing_port=" = 59 :: ascii "timing_port=" from rfl]
    simp only [List.cons_append, List.head?_cons, Option.mem_def, Option.some.injEq]
    rintro b rfl
    rfl
  have lengthT : (ascii ";timing_port=").length = 13 := rfl
  have plainA : 0 ∉ ascii "RTP/AVP/UDP;unicast;interleaved=0-1;mode=record;control_port=" := by
    decide
  have plainT : 0 ∉ ascii ";timing_port=" := by decide
  generalize ascii "RTP/AVP/UDP;unicast;interleaved=0-1;mode=record;control_port=" = A
    at controlA absentA lengthA plainA ⊢
  generalize ascii ";timing_port=" = T at timingT headT lengthT plainT ⊢
  have text : cstr (A ++ decimal control ++ T ++ decimal timing ++ rest)
      = A ++ (decimal control ++ (T ++ (decimal timing ++ cstr rest))) := by
    have plain : 0 ∉ A ++ decimal control ++ T ++ decimal timing := by
      simp only [List.mem_append, not_or]
      exact ⟨⟨⟨plainA, zero_not_mem_decimal _⟩, plainT⟩, zero_not_mem_decimal _⟩
    rw [cstr_append_of_nul_free plain]
    simp only [List.append_assoc]
  have controlAt : strstr (A ++ decimal control ++ T ++ decimal timing ++ rest)
      (ascii "control_port" ++ [61]) = some 48 := by
    rw [strstr, text, ← control_key]
    exact findPrefix_append_of_some _ controlA (by rw [lengthA]; decide)
  have timingAt : strstr (A ++ decimal control ++ T ++ decimal timing ++ rest)
      (ascii "timing_port" ++ [61]) = some (A.length + (decimal control).length + 1) := by
    rw [strstr, text, ← timing_key, ← List.append_assoc, findPrefix_past_numeral (by decide)
      (by decide) absentA (decimal_ne_nil _) (decimal_all_isDigit _),
      findPrefix_append_of_some _ timingT (by rw [lengthT]; decide), Option.map_some']
    congr 1
    omega
  have dropC : (A ++ decimal control ++ T ++ decimal timing ++ rest).drop
      (48 + (ascii "control_port").length + 1) = decimal control ++ (T ++ (decimal timing ++ rest)) := by
    rw [show 48 + (ascii "control_port").length + 1 = A.length by rw [lengthA]; rfl]
    simp only [List.append_assoc, List.drop_left]
  have dropT : (A ++ decimal control ++ T ++ decimal timing ++ rest).drop
      (A.length + (decimal control).length + 1 + (ascii "timing_port").length + 1)
        = decimal timing ++ rest := by
    rw [show A.length + (decimal control).length + 1 + (ascii "timing_port").length + 1
        = (A ++ decimal control ++ T).length by
      simp only [List.length_append, lengthT, show (ascii "timing_port").length = 11 from rfl],
      List.append_assoc (A ++ decimal control ++ T), List.drop_left]
  rw [transportPorts, control_key, transportPort_at (by decide) controlAt, timing_key,
    transportPort_at (by decide) timingAt]
  simp only [Option.some_bind, Option.map_some', dropC, dropT, atoi_decimal_append _ headT,
    atoi_decimal_append _ stop, toPort_toInt32]

/-- `handle_setup` reads a `Transport` of the form senders write,
`RTP/AVP/UDP;unicast;interleaved=0-1;mode=record;control_port=<c>;timing_port=<t>...`, for
every `c` and `t`, as the ports `c` and `t` modulo `2 ^ 16` below `2 ^ 63`, and as 65535 from
there on, where `strtol` stops at `LONG_MAX`: a number of 65536 or more names another port,
without an error.
-/
theorem transportPorts_decimal (control timing : Nat) {rest : Bytes}
    (stop : ∀ b ∈ rest.head?, isDigit b = false)
    : (transportPorts (ascii "RTP/AVP/UDP;unicast;interleaved=0-1;mode=record;control_port="
        ++ decimal control ++ ascii ";timing_port=" ++ decimal timing ++ rest)).map
          (fun ports => (ports.1.val, ports.2.val))
      = some (if control < 2 ^ 63 then control % 2 ^ 16 else 2 ^ 16 - 1,
          if timing < 2 ^ 63 then timing % 2 ^ 16 else 2 ^ 16 - 1) := by
  rw [transportPorts_numerals control timing stop]
  simp only [Option.map_some', toPort, Option.some.injEq, Prod.mk.injEq]
  constructor <;> split_ifs <;> omega

/-- Witness: a control port of 70000 is read as 4464, and a timing port of `2 ^ 63` as 65535. -/
theorem transportPorts_decimal_wraps :
    (∀ b ∈ ([] : Bytes).head?, isDigit b = false)
      ∧ (transportPorts (ascii "RTP/AVP/UDP;unicast;interleaved=0-1;mode=record;control_port="
          ++ decimal 70000 ++ ascii ";timing_port=" ++ decimal (2 ^ 63) ++ [])).map
            (fun ports => (ports.1.val, ports.2.val))
        = some (if 70000 < 2 ^ 63 then 70000 % 2 ^ 16 else 2 ^ 16 - 1,
            if 2 ^ 63 < 2 ^ 63 then 2 ^ 63 % 2 ^ 16 else 2 ^ 16 - 1)
      ∧ (if 70000 < 2 ^ 63 then 70000 % 2 ^ 16 else 2 ^ 16 - 1) = 4464
      ∧ (if 2 ^ 63 < 2 ^ 63 then 2 ^ 63 % 2 ^ 16 else 2 ^ 16 - 1) = 65535 :=
  ⟨by simp, transportPorts_decimal 70000 (2 ^ 63) (by simp), by decide, by decide⟩

-----------------------------------------------------------------------------------------

section OneSetup

variable {opened : Port → Port → LocalPorts} {held : Bool} {conn : RtpPorts}
  {req resp : RtspMessage}

@[simp] theorem setupReply_respcode (conn : RtpPorts) (resp : RtspMessage)
    : (setupReply conn resp).respcode = 200 := rfl

/-- Everything one SETUP can do: the 451 alone, without the player or without both ports;
or, with the ports asked for, `rtp_setup` on a connection without RTP, and the reply the
audio port decides.
-/
theorem handleSetup_cases
    : handleSetup opened held conn req resp = ⟨conn, { resp with respcode := 451 }, none⟩
      ∨ ∃ cport tport, held = true
        ∧ (msgGetHeader req (ascii "Transport")).bind transportPorts = some (cport, tport)
        ∧ (handleSetup opened held conn req resp).conn
            = (if conn.rtpRunning then conn else rtpSetup opened cport tport)
        ∧ (handleSetup opened held conn req resp).rtpSetupCall
            = (if conn.rtpRunning then none else some (cport, tport))
        ∧ (handleSetup opened held conn req resp).resp
            = if (handleSetup opened held conn req resp).conn.localPorts.audio ≠ 0
              then setupReply (handleSetup opened held conn req resp).conn
                { resp with respcode := 451 }
              else { resp with respcode := 451 } := by
  unfold handleSetup
  cases held with
  | false => exact .inl rfl
  | true =>
      rw [if_pos rfl]
      split
      · exact .inl rfl
      · rename_i cport tport asked
        exact .inr ⟨cport, tport, rfl, asked, rfl, rfl, rfl⟩

/-- A SETUP on a connection whose RTP runs changes none of its ports and calls nothing. -/
theorem handleSetup_running (running : conn.rtpRunning = true)
    : (handleSetup opened held conn req resp).conn = conn
      ∧ (handleSetup opened held conn req resp).rtpSetupCall = none := by
  rcases @handleSetup_cases opened held conn req resp with same | ⟨_, _, _, _, moved, call, _⟩
  · rw [same]; exact ⟨rfl, rfl⟩
  · simp only [running, if_true] at moved call
    exact ⟨moved, call⟩

/-- The outcome of a SETUP on a connection without RTP: nothing changed and no 200, or
`rtp_setup` called once with the ports asked for.
-/
theorem handleSetup_stopped (stopped : conn.rtpRunning = false)
    : ((handleSetup opened held conn req resp).conn = conn
        ∧ (handleSetup opened held conn req resp).rtpSetupCall = none
        ∧ (handleSetup opened held conn req resp).resp.respcode ≠ 200)
      ∨ ∃ cport tport, (handleSetup opened held conn req resp).rtpSetupCall = some (cport, tport)
        ∧ (handleSetup opened held conn req resp).conn = rtpSetup opened cport tport := by
  rcases @handleSetup_cases opened held conn req resp with same | ⟨cport, tport, _, _, moved, call, _⟩
  · rw [same]
    exact .inl ⟨rfl, rfl, (by decide : (451 : Int) ≠ 200)⟩
  · simp only [stopped, Bool.false_eq_true, if_false] at moved call
    exact .inr ⟨cport, tport, call, moved⟩

end OneSetup

-----------------------------------------------------------------------------------------
-- SETUP after SETUP
-----------------------------------------------------------------------------------------

section Run

variable {opened : Port → Port → LocalPorts}

/-- From a connection whose RTP runs, no SETUP changes its ports or calls `rtp_setup`, by
induction on the SETUPs.
-/
theorem handleSetups_running {conn : RtpPorts} (running : conn.rtpRunning = true)
    : ∀ steps, ∀ o ∈ handleSetups opened conn steps, o.conn = conn ∧ o.rtpSetupCall = none
  | [] => by simp [handleSetups]
  | (held, req, resp) :: rest => by
      have first := @handleSetup_running opened held conn req resp running
      simp only [handleSetups, List.mem_cons, first.1]
      rintro o (rfl | later)
      · exact first
      · exact handleSetups_running running rest o later

/-- Over every sequence of SETUPs on one connection, `rtp_setup` is called at most once, and
every SETUP answered 200 leaves the connection with the same ports: a later SETUP that names
other ports than the first is answered 200 with the first one's local ports, and only
warned about.
-/
theorem handleSetups_rtpSetup_once (opened : Port → Port → LocalPorts) (conn : RtpPorts)
    (steps : List (Bool × RtspMessage × RtspMessage))
    : ((handleSetups opened conn steps).filterMap SetupOutcome.rtpSetupCall).length ≤ 1
      ∧ ∀ o ∈ handleSetups opened conn steps, ∀ o' ∈ handleSetups opened conn steps,
          o.resp.respcode = 200 → o'.resp.respcode = 200 → o.conn = o'.conn := by
  have agree : ∀ {l : List SetupOutcome} {c : RtpPorts}, (∀ x ∈ l, x.conn = c) →
      ∀ o ∈ l, ∀ o' ∈ l, o.resp.respcode = 200 → o'.resp.respcode = 200 → o.conn = o'.conn :=
    fun all o mem o' mem' _ _ => (all o mem).trans (all o' mem').symm
  induction steps generalizing conn with
  | nil => simp [handleSetups]
  | cons step rest ih =>
      by_cases running : conn.rtpRunning = true
      · have all := @handleSetups_running opened conn running (step :: rest)
        refine ⟨?_, agree fun o mem => (all o mem).1⟩
        simp [List.filterMap_eq_nil_iff.mpr fun o mem => (all o mem).2]
      · obtain ⟨held, req, resp⟩ := step
        have first := @handleSetup_stopped opened held conn req resp (by simpa using running)
        rw [show handleSetups opened conn ((held, req, resp) :: rest)
          = handleSetup opened held conn req resp
            :: handleSetups opened (handleSetup opened held conn req resp).conn rest from rfl]
        generalize handleSetup opened held conn req resp = o at first ⊢
        rcases first with ⟨same, noCall, refused⟩ | ⟨cport, tport, call, moved⟩
        · rw [same, List.filterMap_cons_none noCall]
          refine ⟨(ih conn).1, fun x hx y hy ax ay => ?_⟩
          rcases List.mem_cons.mp hx with rfl | hx
          · exact absurd ax refused
          rcases List.mem_cons.mp hy with rfl | hy
          · exact absurd ay refused
          exact (ih conn).2 x hx y hy ax ay
        · have later := @handleSetups_running opened o.conn (by rw [moved]; rfl) rest
          rw [List.filterMap_cons_some call, List.filterMap_eq_nil_iff.mpr fun x mem => (later x mem).2]
          refine ⟨le_refl _, @agree _ o.conn fun x hx => ?_⟩
          rcases List.mem_cons.mp hx with rfl | hx
          exacts [rfl, (later x hx).1]

/-- Witness: a second SETUP that names other ports is answered 200 as well, with the ports
the first one set up, and `rtp_setup` runs once.
-/
theorem handleSetups_rtpSetup_once_resetup :
    let setup := fun transport : Bytes =>
      { msgInit 1 with method := ascii "SETUP", headers := [(ascii "Transport", transport)] }
    let outcomes := handleSetups (fun _ _ => ⟨6000, 6001, 6002⟩) ⟨false, 0, 0, ⟨0, 0, 0⟩⟩
      [(true, setup (ascii "RTP/AVP/UDP;unicast;mode=record;control_port=50000;timing_port=50001"),
          msgInit 2),
        (true, setup (ascii "RTP/AVP/UDP;unicast;mode=record;control_port=7;timing_port=8"),
          msgInit 3)]
    outcomes.map (·.resp.respcode) = [200, 200]
      ∧ outcomes.filterMap SetupOutcome.rtpSetupCall = [(50000, 50001)]
      ∧ (outcomes.filterMap SetupOutcome.rtpSetupCall).length ≤ 1
      ∧ ∀ o ∈ outcomes, ∀ o' ∈ outcomes,
          o.resp.respcode = 200 → o'.resp.respcode = 200 → o.conn = o'.conn := by
  intro setup outcomes
  have once := handleSetups_rtpSetup_once (fun _ _ => ⟨6000, 6001, 6002⟩) ⟨false, 0, 0, ⟨0, 0, 0⟩⟩
    [(true, setup (ascii "RTP/AVP/UDP;unicast;mode=record;control_port=50000;timing_port=50001"),
        msgInit 2),
      (true, setup (ascii "RTP/AVP/UDP;unicast;mode=record;control_port=7;timing_port=8"),
        msgInit 3)]
  exact ⟨by decide, by decide, once.1, once.2⟩

end Run

end Shairport.Rtsp
