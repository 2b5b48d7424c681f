import ShairportRtsp.Codec.RoundTrip

/-! How the result of `rtsp_read_request` depends on the way a connection's bytes are cut
into `read` results: a CR that ends one arrival is a line end on its own, and the bytes
that follow a request within the 4 KiB header `read` are kept as its content.
-/

namespace Shairport.Rtsp

/-- Bytes that follow a request in its arrival, as far as the 4 KiB the header `read` asks
for, are read with it and kept as part of its content.
-/
theorem rtspReadRequest_trailing {r : WireRequest} (wf : r.WellFormed) (t : Bytes)
    (fits : r.head.length + r.body.length + t.length ≤ 4096) (b0 b1 : Nat) (index : Int)
    : rtspReadRequest false ⟨some b0, some b1⟩ index [.data (r.encode ++ t)]
      = .returned ⟨.ok, some { r.parsed index with contentlength := (r.body ++ t).length,
                                                   content := some (r.body ++ t) }, [], []⟩ := by
  have feed : [Delivery.data (r.encode ++ t)] = dataFeed (r.encode ++ t) := by
    simp [dataFeed, WireRequest.encode, r.head_ne_nil]
  have all : (r.body ++ t).length ≤ 4096 - r.head.length := by simp; omega
  have small : ¬ (4096 : Int) < r.body.length := by omega
  simp only [rtspReadRequest, feed, readHeaders_request wf, List.take_of_length_le all,
    List.drop_of_length_le all, dataFeed_nil, if_neg small, finishBody]
  rw [readBody_eq_complete (by simp)]

/-- A stream cut right after the CR of its request line: that CR ends the line on its own,
the LF that arrives next reads as the blank line, and the header lines become the content.
-/
theorem rtspReadRequest_cut_after_cr {r : WireRequest} (wf : r.WellFormed)
    (fits : r.head.length + r.body.length ≤ 4096) (b0 b1 : Nat) (index : Int)
    : rtspReadRequest false ⟨some b0, some b1⟩ index
        [.data (r.requestLine ++ [13]), .data (10 :: (headerBlock r.headers ++ crlf ++ r.body))]
      = .returned ⟨.ok,
          some { msgInit index with
                 method := r.method, contentlength := (headerBlock r.headers ++ crlf ++ r.body).length,
                 content := some (headerBlock r.headers ++ crlf ++ r.body) }, [], []⟩ := by
  have plain := wf.requestLine_plain
  have noNul : 0 ∉ r.requestLine := fun h => (plain 0 h).1 rfl
  have head : r.head.length = r.requestLine.length + (headerBlock r.headers).length + 4 := by
    simp [WireRequest.head, crlf]; omega
  have line := nextline_cr_end (fun h => (plain 13 h).2.1 rfl) (fun h => (plain 10 h).2.2 rfl)
  have cut : scanLines index none ([] ++ (r.requestLine ++ [13]))
      = .pending (some { msgInit index with method := r.method }) [] := by
    rw [List.nil_append, scanLines_eq_line line
      (by rw [msgHandleLine_nul index none noNul, msgHandleLine_requestLine wf]),
      if_pos (by decide), List.drop_of_length_le (by simp)]
    exact scanLines_eq_pending (by rfl)
  have blank := msgHandleLine_nul index (some { msgInit index with method := r.method })
    (List.not_mem_nil 0) (headerBlock r.headers ++ crlf ++ r.body)
  rw [List.nil_append, msgHandleLine_blank] at blank
  have rest : scanLines index (some { msgInit index with method := r.method })
      ([] ++ 10 :: (headerBlock r.headers ++ crlf ++ r.body))
      = .complete { msgInit index with method := r.method } 0
          (headerBlock r.headers ++ crlf ++ r.body) := by
    rw [List.nil_append, scanLines_eq_line (nextline_lf _) blank]
    rfl
  simp only [rtspReadRequest]
  rw [readHeaders_eq_read (by rfl) (sysRead_fits (by simp; omega) _) (by simp)]
  simp only [cut]
  rw [readHeaders_eq_read (by rfl) (sysRead_fits (by simp [crlf]; omega) _) (by simp)]
  simp only [rest, if_neg (show ¬ (4096 : Int) < 0 by decide), finishBody]
  rw [readBody_eq_complete (by omega)]

-----------------------------------------------------------------------------------------
-- At `OPTIONS * RTSP/1.0` with `CSeq: 1`
-----------------------------------------------------------------------------------------

theorem options_wellFormed
    : WireRequest.WellFormed ⟨ascii "OPTIONS", ascii "*", [(ascii "CSeq", ascii "1")], []⟩ :=
  ⟨by decide, by decide, by decide, by decide, by decide, by decide, by decide, by decide,
    by decide, by decide, .inr ⟨rfl, by decide⟩⟩

/-- The same 31 bytes, in one arrival and cut after the CR of the request line, give two
different requests: the cut one has no header and its header line as content.
-/
theorem rtspReadRequest_cut_changes_request :
    rtspReadRequest false ⟨some 0, some 0⟩ 0
        [.data (ascii "OPTIONS * RTSP/1.0\r\nCSeq: 1\r\n\r\n")]
      = .returned ⟨.ok,
          some { msgInit 0 with
                 method := ascii "OPTIONS", headers := [(ascii "CSeq", ascii "1")],
                 content := some [] }, [], []⟩
    ∧ rtspReadRequest false ⟨some 0, some 0⟩ 0
        [.data (ascii "OPTIONS * RTSP/1.0\r"), .data (ascii "\nCSeq: 1\r\n\r\n")]
      = .returned ⟨.ok,
          some { msgInit 0 with
                 method := ascii "OPTIONS", contentlength := 11,
                 content := some (ascii "CSeq: 1\r\n\r\n") }, [], []⟩ :=
  ⟨(rtspReadRequest_trailing options_wellFormed [] (by decide) 0 0 0).trans rfl,
    (rtspReadRequest_cut_after_cr options_wellFormed (by decide) 0 0 0).trans rfl⟩

/-- The next request, sent right after the first, is read with it and becomes the first
request's content; nothing is left for the next call.
-/
theorem rtspReadRequest_swallows_next_request :
    rtspReadRequest false ⟨some 0, some 0⟩ 0
        [.data (ascii "OPTIONS * RTSP/1.0\r\nCSeq: 1\r\n\r\nOPTIONS * RTSP/1.0\r\nCSeq: 2\r\n\r\n")]
      = .returned ⟨.ok,
          some { msgInit 0 with
                 method := ascii "OPTIONS", headers := [(ascii "CSeq", ascii "1")],
                 contentlength := 31,
                 content := some (ascii "OPTIONS * RTSP/1.0\r\nCSeq: 2\r\n\r\n") }, [], []⟩ :=
  (rtspReadRequest_trailing options_wellFormed (ascii "OPTIONS * RTSP/1.0\r\nCSeq: 2\r\n\r\n")
    (by decide) 0 0 0).trans rfl

end Shairport.Rtsp
