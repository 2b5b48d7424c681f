import ShairportRtsp.Conversation.Announce

/-! What `handle_announce` does with the SDP body after its scan. An `a=fmtp:` line is cut by
`strsep` into up to twelve `atoi` values over the defaults, and the player's parameters are
taken from them as they stand. A body whose stream type stays unknown is logged line by line
from the buffer the scan has marked with NULs. Neither is checked: every value list of an
`a=fmtp:` line reaches the player, and the logging loop takes off the length of the line
after the cursor where it means the one it skipped, so that it reads past the body's NUL
whenever the first line has two bytes or more.
-/

namespace Shairport.Rtsp

-----------------------------------------------------------------------------------------
-- The fmtp parameters
-----------------------------------------------------------------------------------------

/-- The pieces successive `strsep (&s, " \t")` calls return until `NULL`: the text between
single blanks or tabs, an empty piece between two in a row, with `cur` the piece read so far.
-/
def strsepPieces (cur : Bytes) : Bytes → List Bytes
  | [] => [cur]
  | b :: rest =>
      if b = 32 ∨ b = 9 then cur :: strsepPieces [] rest else strsepPieces (cur ++ [b]) rest

/-- `conn->stream.fmtp` as `handle_announce` sets it before the parse. -/
def fmtpDefaults : List Int := [96, 352, 0, 16, 40, 10, 14, 2, 255, 0, 0, 44100]

/-- `conn->stream.fmtp` after the parse: `atoi` of the first `max_param` pieces, the
defaults after them.
-/
def fmtpParse (pfmtp : Bytes) : List Int :=
  let values := ((strsepPieces [] pfmtp).take fmtpDefaults.length).map atoi
  values ++ fmtpDefaults.drop values.length

/-- The player's parameters `handle_announce` sets. -/
structure CodecParameters where
  maxFramesPerPacket : Int
  inputRate : Int
  inputNumChannels : Int
  inputBitDepth : Int
  inputBytesPerFrame : Int
  deriving DecidableEq, Repr

/-- `input_num_channels * ((input_bit_depth + 7) / 8)` in `int`: C's `/` rounds toward zero,
and a sum or product past `int` wraps as the compiled code does.
-/
def bytesPerFrame (channels depth : Int) : Int := toInt32 (channels * (toInt32 (depth + 7)).tdiv 8)

/-- The parameters after the scan, from `prior`: the PCM values for an
`a=rtpmap:96 L16/44100/2` line, then for an `a=fmtp:` line `fmtp[1]`, `fmtp[11]`, `fmtp[7]`
and `fmtp[3]` in their place.
-/
def codecParameters (prior : CodecParameters) (lines : List Bytes) : CodecParameters :=
  let pcm : CodecParameters :=
    if (sdpAttribute lines (ascii "a=rtpmap:96 L16/44100/2")).isSome
    then ⟨352, 44100, 2, 16, bytesPerFrame 2 16⟩ else prior
  match sdpAttribute lines (ascii "a=fmtp:") with
  | none => pcm
  | some pfmtp =>
      let fmtp := fmtpParse pfmtp
      ⟨fmtp.getD 1 0, fmtp.getD 11 0, fmtp.getD 7 0, fmtp.getD 3 0,
        bytesPerFrame (fmtp.getD 7 0) (fmtp.getD 3 0)⟩

/-- Fields written with one blank between them, as a sender writes an `a=fmtp:` line. -/
def blankSeparated : List Bytes → Bytes
  | [] => []
  | [t] => t
  | t :: u :: ts => t ++ 32 :: blankSeparated (u :: ts)

/-- Bytes other than blank and tab extend the current piece, by induction on them. -/
theorem strsepPieces_word (cur : Bytes) {word : Bytes} (plain : ∀ b ∈ word, b ≠ 32 ∧ b ≠ 9)
    (rest : Bytes) : strsepPieces cur (word ++ rest) = strsepPieces (cur ++ word) rest := by
  induction word generalizing cur with
  | nil => simp
  | cons b word ih =>
      simp only [List.mem_cons, forall_eq_or_imp] at plain
      rw [List.cons_append, strsepPieces, if_neg (not_or.mpr plain.1), ih _ plain.2]
      simp

/-- `strsep` gives back the fields of a blank-separated list, by induction on the fields. -/
theorem strsepPieces_blankSeparated : ∀ {ts : List Bytes}, ts ≠ [] →
    (∀ t ∈ ts, ∀ b ∈ t, b ≠ 32 ∧ b ≠ 9) → strsepPieces [] (blankSeparated ts) = ts
  | [], filled, _ => absurd rfl filled
  | [t], _, plain => by
      simpa [strsepPieces] using strsepPieces_word [] (plain t (List.mem_singleton_self t)) []
  | t :: u :: ts, _, plain => by
      rw [blankSeparated, strsepPieces_word [] (plain t (List.mem_cons_self t _)), strsepPieces,
        if_pos (.inl rfl), strsepPieces_blankSeparated (List.cons_ne_nil u ts)
          (fun s mem => plain s (List.mem_cons_of_mem t mem))]
      simp

theorem mem_blankSeparated {b : UInt8} : ∀ {ts : List Bytes}, b ∈ blankSeparated ts →
    b = 32 ∨ ∃ t ∈ ts, b ∈ t
  | [], mem => by simp [blankSeparated] at mem
  | [t], mem => .inr ⟨t, List.mem_singleton_self t, mem⟩
  | t :: u :: ts, mem => by
      rw [blankSeparated, List.mem_append, List.mem_cons] at mem
      rcases mem with inT | rfl | inRest
      · exact .inr ⟨t, List.mem_cons_self t _, inT⟩
      · exact .inl rfl
      · rcases mem_blankSeparated inRest with blank | ⟨s, mem, inS⟩
        · exact .inl blank
        · exact .inr ⟨s, List.mem_cons_of_mem t mem, inS⟩

/-- A byte of a `%d` numeral is a minus sign or a digit. -/
theorem decimalInt_glyph {z : Int} {b : UInt8} (mem : b ∈ decimalInt z)
    : b ≠ 0 ∧ b ≠ 9 ∧ b ≠ 10 ∧ b ≠ 13 ∧ b ≠ 32 := by
  have glyph : b = 45 ∨ isDigit b = true := by
    unfold decimalInt at mem
    split at mem
    · rcases List.mem_cons.mp mem with minus | digit
      · exact .inl minus
      · exact .inr (List.all_eq_true.mp (decimal_all_isDigit _) b digit)
    · exact .inr (List.all_eq_true.mp (decimal_all_isDigit _) b mem)
  rcases glyph with rfl | digit
  · decide
  · refine ⟨?_, ?_, ?_, ?_, ?_⟩ <;> rintro rfl <;> revert digit <;> decide

/-- The `fmtp` array read from a blank-separated list of `%d` numerals of `int`s: the first
twelve values, the defaults after them.
-/
theorem fmtpParse_blankSeparated {vs : List Int} (given : vs ≠ []) (fits : ∀ z ∈ vs, FitsInt z)
    : fmtpParse (blankSeparated (vs.map decimalInt)) = vs.take 12 ++ fmtpDefaults.drop vs.length := by
  have pieces : strsepPieces [] (blankSeparated (vs.map decimalInt)) = vs.map decimalInt :=
    strsepPieces_blankSeparated (by simpa using given) (fun t mem b inT => by
      obtain ⟨z, -, rfl⟩ := List.mem_map.mp mem
      exact ⟨(decimalInt_glyph inT).2.2.2.2, (decimalInt_glyph inT).2.1⟩)
  have values : ((vs.map decimalInt).take 12).map atoi = vs.take 12 := by
    rw [← List.map_take, List.map_map]
    exact (List.map_congr_left fun z mem =>
      atoi_decimalInt z (fits z (List.mem_of_mem_take mem))).trans (List.map_id _)
  have defaults : fmtpDefaults.drop (min 12 vs.length) = fmtpDefaults.drop vs.length := by
    rcases Nat.le_total vs.length 12 with short | long
    · rw [Nat.min_eq_right short]
    · rw [Nat.min_eq_left long, List.drop_eq_nil_of_le (show fmtpDefaults.length ≤ vs.length from long)]
      rfl
  simp only [fmtpParse, pieces, show fmtpDefaults.length = 12 from rfl, values, List.length_take,
    defaults]

/-- A body of one line with no line break is that line. -/
theorem parameterLines_single {line : Bytes} (filled : line ≠ [])
    (plain : ∀ b ∈ line, b ≠ 13 ∧ b ≠ 10) : parameterLines line = [line] := by
  obtain ⟨n, length⟩ : ∃ n, line.length = n + 1 :=
    Nat.exists_eq_succ_of_ne_zero (by simpa using filled)
  rw [parameterLines, length, parameterLinesFrom, if_neg filled, nextline_eq_none.mpr plain]

/-- Every list of `int` values an `a=fmtp:` line can carry is taken: the body of that one
line is accepted as Apple Lossless, unencrypted, and the player's parameters are `fmtp[1]`,
`fmtp[11]`, `fmtp[7]` and `fmtp[3]` of the values over the defaults, with no check of sign
or size and `int` arithmetic on the bit depth.
-/
theorem announceSdp_fmtp_unchecked (base64Dec rsaApply : Bytes → Bytes) (prior : CodecParameters)
    {vs : List Int} (given : vs ≠ []) (fits : ∀ z ∈ vs, FitsInt z) :
    let body := ascii "a=fmtp:" ++ blankSeparated (vs.map decimalInt)
    let fmtp := vs.take 12 ++ fmtpDefaults.drop vs.length
    announceSdp base64Dec rsaApply body = .accepted .appleLossless none
      ∧ codecParameters prior (parameterLines body)
        = ⟨fmtp.getD 1 0, fmtp.getD 11 0, fmtp.getD 7 0, fmtp.getD 3 0,
            bytesPerFrame (fmtp.getD 7 0) (fmtp.getD 3 0)⟩ := by
  intro body fmtp
  have plain : ∀ b ∈ blankSeparated (vs.map decimalInt), b ≠ 0 ∧ b ≠ 13 ∧ b ≠ 10 := by
    intro b mem
    rcases mem_blankSeparated mem with rfl | ⟨t, inVs, inT⟩
    · decide
    · obtain ⟨z, -, rfl⟩ := List.mem_map.mp inVs
      have glyph := decimalInt_glyph inT
      exact ⟨glyph.1, glyph.2.2.2.1, glyph.2.2.1⟩
  have noNul : 0 ∉ body := by
    simp only [body, List.mem_append, not_or]
    exact ⟨by decide, fun mem => (plain 0 mem).1 rfl⟩
  have single : parameterLines body = [body] :=
    parameterLines_single (List.append_ne_nil_of_left_ne_nil (by decide) _) (by
      simp only [body, List.mem_append]
      rintro b (lit | rest)
      · revert b lit; decide
      · exact (plain b rest).2)
  have scanned : ∀ lit, sdpAttribute [body] lit
      = if lit.isPrefixOf body then some (cstr (body.drop lit.length)) else none := by
    intro lit
    simp only [sdpAttribute, List.foldl, hasPrefix, cstr_of_nul_free noNul]
  have pfmtp : cstr (body.drop (ascii "a=fmtp:").length) = blankSeparated (vs.map decimalInt) := by
    rw [cstr_of_nul_free (fun mem => noNul (List.mem_of_mem_drop mem))]
    simp [body]
  have fmtpLine : (ascii "a=fmtp:").isPrefixOf body = true :=
    List.isPrefixOf_iff_prefix.mpr (List.prefix_append _ _)
  have other : ∀ lit ∈ [ascii "a=aesiv:", ascii "a=rsaaeskey:", ascii "a=rtpmap:96 L16/44100/2"],
      lit.isPrefixOf body = false := by
    simp only [body, List.mem_cons, List.mem_singleton, List.not_mem_nil, or_false]
    rintro lit (rfl | rfl | rfl) <;> rfl
  refine ⟨?_, ?_⟩
  · simp [announceSdp, single, scanned, fmtpLine, other, sdpStreamType, announceFinish]
  · simp only [codecParameters, single, scanned, fmtpLine, if_true, pfmtp,
      fmtpParse_blankSeparated given fits]

/-- Witness: an `a=fmtp:` line with no frames per packet and a bit depth of `INT_MAX`, whose
`input_bit_depth + 7` wraps, so that the bytes per frame come out negative.
-/
theorem announceSdp_fmtp_unchecked_zero_frames :
    let body := ascii "a=fmtp:" ++ blankSeparated ([96, 0, 0, 2147483647].map decimalInt)
    let params := codecParameters ⟨352, 44100, 2, 16, 4⟩ (parameterLines body)
    announceSdp id id body = .accepted .appleLossless none
      ∧ params.maxFramesPerPacket = 0 ∧ ¬ FitsInt (params.inputBitDepth + 7)
      ∧ params.inputBytesPerFrame = -536870910 :=
  let accepted := @announceSdp_fmtp_unchecked id id ⟨352, 44100, 2, 16, 4⟩ [96, 0, 0, 2147483647]
    (by simp) (by decide)
  ⟨accepted.1, congrArg CodecParameters.maxFramesPerPacket accepted.2, by rw [accepted.2]; decide,
    by rw [accepted.2]; decide⟩

-----------------------------------------------------------------------------------------
-- The dump of a body of unknown type
-----------------------------------------------------------------------------------------

/-- The body as the scan leaves it: each `nextline` call has put NULs on its line's
terminator, and a last line with none is left as it is.
-/
def markedFrom : Nat → Bytes → Bytes
  | 0, buf => buf
  | fuel + 1, buf =>
      if buf = [] then []
      else
        match nextline buf with
        | none => buf
        | some (marked, next) => marked.take next ++ markedFrom fuel (marked.drop next)

def markedContent (content : Bytes) : Bytes := markedFrom content.length content

/-- `strlen (cp)` for `cp` at `pos` in the readable bytes `buf`: `none` when no NUL is left
from `pos` on, so that `strlen` reads past them.
-/
def strlenAt (buf : Bytes) (pos : Nat) : Option Nat :=
  if 0 ∈ buf.drop pos then some (cstr (buf.drop pos)).length else none

/-- The loop that logs a body of unknown stream type, over the readable bytes `buf`
(`content[0 .. contentlength]`), from the cursor `pos` with `cp_left = left`: while
`cp_left > 1` it logs the line at the cursor, steps past its NUL, and takes off the length
of the line it now stands on, plus one. The lines logged, or the cursor whose `strlen` reads
past the readable bytes.
-/
def announceDump (buf : Bytes) (pos : Nat) (left : Int) : Except Nat (List Bytes) :=
  if left ≤ 1 then .ok []
  else
    match strlenAt buf pos with
    | none => .error pos
    | some n =>
        match strlenAt buf (pos + n + 1) with
        | none => .error (pos + n + 1)
        | some m =>
            (fun rest => (if n = 0 then [] else [cstr (buf.drop pos)]) ++ rest) <$>
              announceDump buf (pos + n + 1) (left - (m + 1))
termination_by left.toNat
decreasing_by omega

/-- The scan leaves the body's length alone, by induction on its passes. -/
theorem markedFrom_length : ∀ (fuel : Nat) (buf : Bytes), (markedFrom fuel buf).length = buf.length
  | 0, _ => rfl
  | fuel + 1, buf => by
      unfold markedFrom
      split
      · simp [*]
      · split
        · rfl
        · rename_i found
          have bounds := nextline_bounds found
          rw [List.length_append, markedFrom_length, List.length_take, List.length_drop]
          omega

/-- The C string of a buffer with a NUL put after `s` is no longer than `s`. -/
theorem cstr_append_nul_length_le : ∀ s : Bytes, (cstr (s ++ [0])).length ≤ s.length
  | [] => by simp [cstr_cons]
  | b :: s => by
      rw [List.cons_append, cstr_cons]
      split
      · simp
      · simpa using cstr_append_nul_length_le s

section Dump

variable {body : Bytes}

/-- `strlen` from a cursor inside the body stops at the body's NUL at the latest. -/
theorem strlenAt_within {pos : Nat} (within : pos ≤ body.length)
    : ∃ n, strlenAt (body ++ [0]) pos = some n ∧ pos + n ≤ body.length := by
  rw [strlenAt, List.drop_append_of_le_length within, if_pos (by simp)]
  have := cstr_append_nul_length_le (body.drop pos)
  simp only [List.length_drop] at this
  exact ⟨_, rfl, by omega⟩

/-- One step on from a line that ends at the body's NUL, `strlen` reads past it; from any
other line, it finds the next one inside the body.
-/
theorem strlenAt_next {pos n : Nat} (within : pos + n ≤ body.length)
    : (pos + n = body.length ∧ strlenAt (body ++ [0]) (pos + n + 1) = none)
      ∨ pos + n < body.length
        ∧ ∃ m, strlenAt (body ++ [0]) (pos + n + 1) = some m ∧ pos + n + 1 + m ≤ body.length := by
  rcases Nat.lt_or_ge (pos + n) body.length with inside | last
  · obtain ⟨m, found, bound⟩ := strlenAt_within (show pos + n + 1 ≤ body.length by omega)
    exact .inr ⟨inside, m, found, bound⟩
  · refine .inl ⟨by omega, ?_⟩
    rw [strlenAt, List.drop_eq_nil_of_le (by simp only [List.length_append, List.length_singleton]; omega)]
    simp

/-- With a first line of two bytes or more the loop never stops: `cp_left` is the bytes
after the cursor plus the first line's length less the current one's, so it stays above 1,
and the pass over the line that ends at the body's NUL moves the cursor past it. By
induction on the loop.
-/
theorem announceDump_past (long : 2 ≤ (cstr (body ++ [0])).length) {pos n : Nat} {left : Int}
    (len : strlenAt (body ++ [0]) pos = some n) (within : pos + n ≤ body.length)
    (count : left = (body.length : Int) - pos + (cstr (body ++ [0])).length - n)
    : announceDump (body ++ [0]) pos left = .error (body.length + 1) := by
  induction pos, left using announceDump.induct (body ++ [0]) generalizing n with
  | case1 pos left stops => omega
  | case2 pos left _ missing => simp [missing] at len
  | case3 pos left more n' found past =>
      cases len.symm.trans found
      rw [announceDump, if_neg more, found]
      rcases strlenAt_next within with ⟨last, -⟩ | ⟨-, m, next, -⟩
      · simp only [past]
        rw [last]
      · simp [next] at past
  | case4 pos left more n' found m next ih =>
      cases len.symm.trans found
      rw [announceDump, if_neg more, found]
      rcases strlenAt_next within with ⟨-, past⟩ | ⟨-, m', next', bound⟩
      · simp [next] at past
      · cases next.symm.trans next'
        simp only [next, ih next bound (by omega)]
        rfl

/-- With a first line of at most one byte the loop stops inside the body: `cp_left` runs
out before the cursor reaches the line that ends at the body's NUL. By induction on the
loop.
-/
theorem announceDump_ok (short : (cstr (body ++ [0])).length ≤ 1) {pos n : Nat} {left : Int}
    (len : strlenAt (body ++ [0]) pos = some n) (within : pos + n ≤ body.length)
    (count : left = (body.length : Int) - pos + (cstr (body ++ [0])).length - n)
    : ∃ lines, announceDump (body ++ [0]) pos left = .ok lines := by
  induction pos, left using announceDump.induct (body ++ [0]) generalizing n with
  | case1 pos left stops => exact ⟨[], by rw [announceDump, if_pos stops]⟩
  | case2 pos left _ missing => simp [missing] at len
  | case3 pos left more n' found past =>
      cases len.symm.trans found
      rcases strlenAt_next within with ⟨last, -⟩ | ⟨-, m, next, -⟩
      · omega
      · simp [next] at past
  | case4 pos left more n' found m next ih =>
      cases len.symm.trans found
      rcases strlenAt_next within with ⟨-, past⟩ | ⟨-, m', next', bound⟩
      · simp [next] at past
      · cases next.symm.trans next'
        obtain ⟨lines, run⟩ := ih next bound (by omega)
        exact ⟨_, by rw [announceDump, if_neg more, found]; simp only [next, run]; rfl⟩

end Dump

/-- The dump of a body of unknown type, over the body as the scan has marked it: when the
first line, as the loop sees it, has two bytes or more, `strlen` reads
`content[contentlength + 1]`, past the body's NUL; when it has at most one, the loop stops
inside the body.
-/
theorem announceDump_first_line (content : Bytes) :
    let buf := markedContent content ++ [0]
    (2 ≤ (cstr buf).length → announceDump buf 0 content.length = .error (content.length + 1))
      ∧ ((cstr buf).length ≤ 1 → ∃ lines, announceDump buf 0 content.length = .ok lines) := by
  intro buf
  have size : (markedContent content).length = content.length := markedFrom_length _ _
  obtain ⟨n, len, within⟩ := @strlenAt_within (markedContent content) 0 (Nat.zero_le _)
  have first : n = (cstr (markedContent content ++ [0])).length := by
    simpa [strlenAt] using len.symm
  rw [← size]
  exact ⟨fun long => announceDump_past long len within (by omega),
    fun short => announceDump_ok short len within (by omega)⟩

/-- Witness: a body with no codec line, refused with 456, whose first line `v=0` sends the
dump past the body's NUL.
-/
theorem announceDump_first_line_unknown :
    let content := ascii "v=0\r\nm=audio\r\n"
    announceSdp id id content = .refused
      ∧ announceDump (markedContent content ++ [0]) 0 content.length = .error (content.length + 1) :=
  ⟨by decide, (announceDump_first_line (ascii "v=0\r\nm=audio\r\n")).1 (by decide)⟩

end Shairport.Rtsp
