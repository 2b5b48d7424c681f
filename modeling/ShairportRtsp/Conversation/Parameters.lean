import ShairportRtsp.Metadata.Dmap

/-! `handle_set_parameter_parameter` in full: the lines its `nextline` loop visits, and the
`player_volume` and `prgr` calls it makes for them. `Receiver.setParameterParameter` and
`progressCalls` are its two halves; both are shown to be read off this model. The lines are
compared with the terminator grammar the protocol gives (CRLF, a lone CR or a lone LF), as a
separate definition.
-/

namespace Shairport.Rtsp

-----------------------------------------------------------------------------------------
-- The terminator grammar
-----------------------------------------------------------------------------------------

/-- The lines of a buffer from `cur`, the line read so far: a line ends at CRLF, at a lone
CR or at a lone LF, and a last line may go unterminated; nothing follows the last
terminator but the end of the buffer, so it adds no empty line.
-/
def linesFrom (cur : Bytes) : Bytes → List Bytes
  | [] => if cur = [] then [] else [cur]
  | [b] => if b = 13 ∨ b = 10 then [cur] else [cur ++ [b]]
  | b :: c :: rest =>
      if b = 13 ∧ c = 10 then cur :: linesFrom [] rest
      else if b = 13 ∨ b = 10 then cur :: linesFrom [] (c :: rest)
      else linesFrom (cur ++ [b]) (c :: rest)

/-- The lines of a buffer by the CRLF / CR / LF grammar. -/
def splitLines (buf : Bytes) : List Bytes := linesFrom [] buf

theorem linesFrom_cons_plain (cur : Bytes) {a : UInt8} (plain : a ≠ 13 ∧ a ≠ 10) (rest : Bytes)
    : linesFrom cur (a :: rest) = linesFrom (cur ++ [a]) rest := by
  cases rest with
  | nil => simp [linesFrom, plain]
  | cons c more => simp [linesFrom, plain]

/-- Bytes other than CR and LF extend the current line, by induction on them. -/
theorem linesFrom_plain (cur : Bytes) {pre : Bytes} (plain : ∀ c ∈ pre, c ≠ 13 ∧ c ≠ 10)
    (rest : Bytes) : linesFrom cur (pre ++ rest) = linesFrom (cur ++ pre) rest := by
  induction pre generalizing cur with
  | nil => simp
  | cons a pre ih =>
      simp only [List.mem_cons, forall_eq_or_imp] at plain
      rw [List.cons_append, linesFrom_cons_plain _ plain.1, ih _ plain.2]
      simp

/-- A terminator ends the current line; a CR takes the LF after it along. -/
theorem linesFrom_terminator (cur : Bytes) {b : UInt8} (ends : b = 13 ∨ b = 10) (rest : Bytes)
    : linesFrom cur (b :: rest)
      = cur :: linesFrom [] (rest.drop ((if b = 13 ∧ rest.head? = some 10 then 2 else 1) - 1)) := by
  rcases ends with rfl | rfl <;> cases rest with
  | nil => simp [linesFrom]
  | cons c more => by_cases lf : c = 10 <;> simp [linesFrom, lf]

/-- A buffer with a CR or LF splits at the first one. -/
theorem exists_first_terminator : ∀ {s : Bytes}, (∃ b ∈ s, b = 13 ∨ b = 10) →
    ∃ pre b rest, s = pre ++ b :: rest ∧ (∀ c ∈ pre, c ≠ 13 ∧ c ≠ 10) ∧ (b = 13 ∨ b = 10)
  | [], found => by simp at found
  | a :: s, found => by
      by_cases ends : a = 13 ∨ a = 10
      · exact ⟨[], a, s, rfl, by simp, ends⟩
      · obtain ⟨pre, b, rest, rfl, plain, term⟩ :=
          exists_first_terminator (by simpa [ends] using found)
        refine ⟨a :: pre, b, rest, rfl, ?_, term⟩
        simp only [List.mem_cons, forall_eq_or_imp]
        exact ⟨not_or.mp ends, plain⟩

-----------------------------------------------------------------------------------------
-- The loop's lines
-----------------------------------------------------------------------------------------

/-- What `nextline` leaves at the start of a line is the line, as a C string. -/
theorem cstr_marked {pre : Bytes} (noNul : 0 ∉ pre) {t : Nat} (pos : 0 < t) (rest : Bytes)
    : cstr (pre ++ List.replicate t 0 ++ rest) = pre := by
  obtain ⟨t, rfl⟩ : ∃ k, t = k + 1 := ⟨t - 1, by omega⟩
  rw [List.append_assoc, List.replicate_succ, List.cons_append, cstr_append_nul noNul]

/-- Once the buffer is used up, more passes of the loop change nothing: each pass consumes a
byte at least. By induction on the passes allowed.
-/
theorem parameterLinesFrom_stable : ∀ {fuel fuel' : Nat} {buf : Bytes},
    buf.length ≤ fuel → buf.length ≤ fuel' → parameterLinesFrom fuel buf = parameterLinesFrom fuel' buf
  | 0, _, buf, short, _ => by
      rw [List.eq_nil_of_length_eq_zero (Nat.le_zero.mp short)]
      cases ‹Nat› <;> rfl
  | _ + 1, 0, buf, _, short => by
      rw [List.eq_nil_of_length_eq_zero (Nat.le_zero.mp short)]
      rfl
  | fuel + 1, fuel' + 1, buf, enough, enough' => by
      simp only [parameterLinesFrom]
      split
      · rfl
      · split
        · rfl
        · rename_i found
          obtain ⟨len, pos, _⟩ := nextline_bounds found
          rw [@parameterLinesFrom_stable fuel fuel' _ (by simp; omega) (by simp; omega)]

/-- The loop visits exactly the lines of the grammar, in order, by induction on the passes
allowed: each pass takes the line up to the first terminator.
-/
theorem parameterLinesFrom_lines : ∀ {fuel : Nat} {buf : Bytes}, 0 ∉ buf → buf.length ≤ fuel →
    (parameterLinesFrom fuel buf).map cstr = splitLines buf
  | 0, buf, _, short => by
      rw [List.eq_nil_of_length_eq_zero (Nat.le_zero.mp short)]
      simp [parameterLinesFrom, splitLines, linesFrom]
  | fuel + 1, buf, noNul, enough => by
      by_cases empty : buf = []
      · subst empty; simp [parameterLinesFrom, splitLines, linesFrom]
      by_cases term : ∃ b ∈ buf, b = 13 ∨ b = 10
      · obtain ⟨pre, b, rest, rfl, plain, ends⟩ := exists_first_terminator term
        have preNoNul : 0 ∉ pre := fun mem => noNul (List.mem_append_left _ mem)
        have restNoNul : 0 ∉ rest := fun mem => noNul (by simp [mem])
        rw [parameterLinesFrom, if_neg empty, nextline_first_terminator plain ends]
        dsimp only
        rw [splitLines, linesFrom_plain [] plain, linesFrom_terminator _ ends, List.map_cons,
          cstr_marked preNoNul (by split <;> omega), List.nil_append]
        congr 1
        have dropped : ∀ t, (pre ++ List.replicate t 0 ++ rest.drop (t - 1)).drop (pre.length + t)
            = rest.drop (t - 1) := fun t => by simp [List.drop_append_eq_append_drop]
        rw [dropped]
        exact parameterLinesFrom_lines (fun mem => restNoNul (List.mem_of_mem_drop mem))
          (by simp at enough ⊢; omega)
      · have plain : ∀ c ∈ buf, c ≠ 13 ∧ c ≠ 10 := fun c mem =>
          ⟨fun cr => term ⟨c, mem, .inl cr⟩, fun lf => term ⟨c, mem, .inr lf⟩⟩
        rw [parameterLinesFrom, if_neg empty, nextline_eq_none.mpr plain, splitLines,
          ← List.append_nil buf, linesFrom_plain [] plain]
        simp [linesFrom, empty, cstr_of_nul_free noNul]

-----------------------------------------------------------------------------------------
-- handle_set_parameter_parameter
-----------------------------------------------------------------------------------------

/-- A call `handle_set_parameter_parameter` makes: `player_volume` with what `atof` gives,
or a `send_metadata` call. -/
inductive ParameterCall (α : Type)
  | playerVolume (volume : α)
  | metadata (call : MetadataCall)
  deriving DecidableEq, Repr

/-- `handle_set_parameter_parameter (conn, req, resp)`, with `atof` (not under src/) a
parameter: for each line, `player_volume (atof (cp + strlen ("volume: ")))` for a
`volume: ` line, `send_ssnc_metadata ('prgr', progress, strlen (progress), 1)` for a
`progress: ` line, and only a debug message otherwise.
-/
def handleSetParameterParameter {α : Type} (atof : Bytes → α) (content : Bytes)
    : List (ParameterCall α) :=
  (parameterLines content).filterMap fun cp =>
    if hasPrefix cp (ascii "volume: ") then
      some (.playerVolume (atof (cstr (cp.drop (ascii "volume: ").length))))
    else if hasPrefix cp (ascii "progress: ") then
      let progress := cstr (cp.drop (ascii "progress: ").length)
      some (.metadata ⟨fourcc (ascii "ssnc"), fourcc (ascii "prgr"), .text progress,
        progress.length, false, true⟩)
    else none

/-- The rest of a line after a prefix it starts with, as a C string, is the rest of the line. -/
theorem cstr_drop_prefix {cp lit : Bytes} (starts : hasPrefix cp lit = true)
    : cstr (cp.drop lit.length) = (cstr cp).drop lit.length :=
  cstr_drop (List.isPrefixOf_iff_prefix.mp starts).length_le

-----------------------------------------------------------------------------------------
-- What the loop visits and what it calls
-----------------------------------------------------------------------------------------

/-- `nextline (in, n)` finds no line end exactly when none of the `n` bytes is CR or LF.
Otherwise, with `pre` the bytes before the first CR or LF, it NULs out that byte and the LF
after a CR when one follows, changes nothing else, and returns a pointer past them, at least
one byte on; so the loop over it visits the lines of the CRLF / CR / LF grammar.
-/
theorem nextline_splits_lines (s : Bytes)
    : (nextline s = none ↔ ∀ b ∈ s, b ≠ 13 ∧ b ≠ 10)
      ∧ (∀ pre b rest, s = pre ++ b :: rest → (∀ c ∈ pre, c ≠ 13 ∧ c ≠ 10) → (b = 13 ∨ b = 10) →
          let t := if b = 13 ∧ rest.head? = some 10 then 2 else 1
          nextline s = some (pre ++ List.replicate t 0 ++ rest.drop (t - 1), pre.length + t)
            ∧ 0 < pre.length + t)
      ∧ (0 ∉ s → (parameterLines s).map cstr = splitLines s) := by
  refine ⟨nextline_eq_none, fun pre b rest split plain ends => ?_,
    fun noNul => parameterLinesFrom_lines noNul (le_refl _)⟩
  subst split
  exact ⟨nextline_first_terminator plain ends rest, by split <;> omega⟩

/-- Witness: a CRLF, then the loop over a body with every kind of line end and an empty
line.
-/
theorem nextline_splits_lines_mixed :
    nextline (ascii "ab\r\nc") = some ([97, 98, 0, 0, 99], 4)
      ∧ (parameterLines (ascii "ab\r\nc\rd\n\ne")).map cstr
        = [ascii "ab", ascii "c", ascii "d", [], ascii "e"] :=
  ⟨((nextline_splits_lines (ascii "ab\r\nc")).2.1 (ascii "ab") 13 (ascii "\nc") rfl (by decide)
      (by decide)).1,
    ((nextline_splits_lines (ascii "ab\r\nc\rd\n\ne")).2.2 (by decide)).trans (by decide)⟩

/-- For a body without NUL, the loop visits exactly the grammar's lines, in order, and has
stopped once it has made as many passes as the body has bytes. Each `volume: ` line gives one
`player_volume` of `atof` of the rest of the line, each `progress: ` line one `prgr` item
whose data is the rest of the line, and other lines nothing.
-/
theorem handleSetParameterParameter_lines {α : Type} (atof : Bytes → α) {body : Bytes}
    (noNul : 0 ∉ body)
    : (parameterLines body).map cstr = splitLines body
      ∧ (∀ fuel, body.length ≤ fuel → parameterLinesFrom fuel body = parameterLines body)
      ∧ handleSetParameterParameter atof body
        = (splitLines body).filterMap fun line =>
            if (ascii "volume: ").isPrefixOf line then some (.playerVolume (atof (line.drop 8)))
            else if (ascii "progress: ").isPrefixOf line then
              some (.metadata ⟨fourcc (ascii "ssnc"), fourcc (ascii "prgr"), .text (line.drop 10),
                (line.drop 10).length, false, true⟩)
            else none := by
  have lines := parameterLinesFrom_lines noNul (le_refl body.length)
  refine ⟨lines, fun fuel enough => parameterLinesFrom_stable enough (le_refl _), ?_⟩
  rw [← lines, List.filterMap_map, handleSetParameterParameter]
  congr 1
  funext cp
  have volumeText : (ascii "volume: ").isPrefixOf (cstr cp) = hasPrefix cp (ascii "volume: ") := rfl
  have progressText : (ascii "progress: ").isPrefixOf (cstr cp) = hasPrefix cp (ascii "progress: ") :=
    rfl
  simp only [Function.comp, volumeText, progressText]
  by_cases volume : hasPrefix cp (ascii "volume: ")
  · simp only [if_pos volume, cstr_drop_prefix volume]
    rfl
  · by_cases progress : hasPrefix cp (ascii "progress: ")
    · simp only [if_neg volume, if_pos progress, cstr_drop_prefix progress]
      rfl
    · simp only [if_neg volume, if_neg progress]

/-- Witness: a volume line and a progress line. -/
theorem handleSetParameterParameter_lines_volume :
    handleSetParameterParameter id (ascii "volume: -15.000000\r\nprogress: 1/2/3\r\n")
      = [.playerVolume (ascii "-15.000000"),
         .metadata ⟨fourcc (ascii "ssnc"), fourcc (ascii "prgr"), .text (ascii "1/2/3"), 5, false,
           true⟩] :=
  (handleSetParameterParameter_lines id (by decide)).2.2.trans (by decide)

end Shairport.Rtsp
