import Mathlib.Data.List.Infix
import Wisp.Socket.Link

/-!
# Losing the frame

Two ways in which a receiver loses its place in the stream. A frame longer than the buffer
is reported as -2, and its payload is left in the socket, where the next call takes it for
a header. A timeout in the middle of a frame is reported as -1 like one between two frames,
and the next call takes the rest of the frame for a header.

Both callers carry on in either case, `handle_readable` and `wispc_control` after -2 and
`wispc_control` after -1.
-/

namespace Wisp

open Transition System
open ControlPlane (Received)

/-- The receiver takes the next byte for a part of a header. -/
def RecvPc.expectsHeader : RecvPc → Bool
  | .first | .header _ _ => true
  | .payload _ _ _ _ | .done _ => false

namespace Link

variable {call : RecvCall} {msgs : List WireMsg} {link next : Link} {ev : LinkEvent}
variable {trace : List (Link × LinkEvent)}

/-- No byte of a payload is taken for a part of a header. -/
def HeadersOnly (link : Link) (ev : LinkEvent) : Prop :=
  ∀ n, ev = .read n → link.receiver.expectsHeader = true →
    ∀ cell ∈ link.wire.take n, cell.part = .header

/-- What the receiving process should hand on: the messages that fit, in order. -/
def fitting (call : RecvCall) (msgs : List WireMsg) : List Received :=
  (msgs.filter fun msg => msg.Fits call).map (WireMsg.expected call)

/-- The receiver drops the frames that are too long and nothing else: whatever happens on
the connection, it hands on the messages that fit, and finds every header in its place. -/
def DropsOversized (call : RecvCall) (msgs : List WireMsg) : Prop :=
  ∀ trace link, (system call).Run (start msgs) trace link →
    link.dispatched <+: fitting call msgs ∧
      (link.Settled call → link.dispatched = fitting call msgs) ∧ Meets HeadersOnly trace

section InPlace

theorem bare_part {part : Part} {bytes : List UInt8} {cell : Cell}
    (member : cell ∈ bare part bytes) : cell.part = part := by
  obtain ⟨byte, -, rfl⟩ := List.mem_map.mp member
  rfl

theorem attach_part {fds : List Int} {part : Part} {bytes : List UInt8} {cell : Cell}
    (member : cell ∈ attach fds (bare part bytes)) : cell.part = part := by
  cases bytes with
  | nil => cases member
  | cons byte bytes =>
      rcases List.mem_cons.mp member with rfl | later
      · rfl
      · exact bare_part later

/-- A receiver in its place asks for header bytes where there are header bytes. -/
theorem headersOnly_of_reading {rest : List WireMsg} {unread : List Cell} {pc : RecvPc} {n : Nat}
    (reading : Reading call rest unread pc) (asked : n ≤ pc.request)
    (expects : pc.expectsHeader = true) : ∀ cell ∈ unread.take n, cell.part = .header := by
  intro cell member
  cases reading with
  | first =>
      cases rest with
      | nil => simp at member
      | cons msg rest =>
          have within : n ≤ msg.header.length := asked
          rw [frames_cons, WireMsg.cells, List.append_assoc, take_attach_append _ within] at member
          exact attach_part member
  | @header msg rest j begun short =>
      have within : n ≤ (msg.header.drop j).length :=
        Reading.request_header_le asked
      rw [take_bare_append within] at member
      exact bare_part member
  | payload => cases expects
  | done => cases expects
  | failed => cases expects

theorem Framed.headersOnly (framed : link.Framed call msgs)
    (taken : (system call).step link ev = some next) : link.HeadersOnly ev := by
  rintro n rfl expects
  obtain ⟨past, rest, -, -, reading⟩ := framed.aligned
  obtain ⟨⟨-, asked, available⟩, -⟩ := Option.ite_none_right_eq_some.mp taken
  have chunk : link.unread.take n = link.wire.take n := List.take_append_of_le_length available
  rw [← chunk]
  exact headersOnly_of_reading reading asked expects

/-- Without a frame that is too long nothing is dropped, and nothing goes wrong. -/
theorem dropsOversized_of_fits (blocking : call.rcvtimeo = false)
    (fits : ∀ msg ∈ msgs, msg.Fits call) (carries : ∀ msg ∈ msgs, msg.Carries call) :
    DropsOversized call msgs := by
  intro trace link run
  have always : Meets (fun _ _ => True) trace := fun _ _ => trivial
  have kept : ∀ link ev next, link.Framed call msgs → True →
      (system call).step link ev = some next → next.Framed call msgs := by
    intro link ev next framed _ taken
    refine framed.step fits carries ?_ taken
    rintro rfl
    simp [system, step, blocking] at taken
  have framed := run.invariant always framed_start kept
  have all : fitting call msgs = msgs.map (WireMsg.expected call) := by
    rw [fitting, List.filter_eq_self.mpr fun msg member => decide_eq_true (fits msg member)]
  refine ⟨?_, ?_, ?_⟩
  · obtain ⟨past, rest, same, handed, -⟩ := framed.aligned
    rw [all, handed, same, List.map_append]
    exact List.prefix_append _ _
  · rw [all]
    exact framed.settled
  · exact run.meets always framed_start kept fun _ _ _ framed _ taken => framed.headersOnly taken

end InPlace

section Driving

/-- The header goes out in one piece. -/
theorem ctrlSendFds_write {msg : WireMsg} (room : msg.fds.length ≤ numBuffers) :
    (ctrlSendFds msg.kind msg.payload msg.fds).write headerSize =
      some (attach msg.fds (bare .header msg.header), SendPc.atPayload msg.payload) := by
  unfold ctrlSendFds
  split
  · rename_i none
    rw [List.isEmpty_iff] at none
    rw [none, attach_bare_nil]
    rfl
  · rw [if_neg (by omega)]
    rfl

/-- The header of the next message is sent and read. -/
theorem run_header {msg : WireMsg} (carries : msg.Carries call) (calls : List WireMsg)
    (returned : List Received) :
    ∃ trace, (system call).Run ⟨msg :: calls, .done 0, [], .first, returned⟩ trace
      ⟨calls, SendPc.atPayload msg.payload, [],
        RecvPc.atHeader call msg.header (msg.kept call), returned⟩ := by
  have sent : (system call).step ⟨msg :: calls, .done 0, [], .first, returned⟩ .send =
      some ⟨calls, ctrlSendFds msg.kind msg.payload msg.fds, [], .first, returned⟩ := rfl
  have written : (system call).step
      ⟨calls, ctrlSendFds msg.kind msg.payload msg.fds, [], .first, returned⟩ (.write headerSize) =
      some ⟨calls, SendPc.atPayload msg.payload, attach msg.fds (bare .header msg.header), .first,
        returned⟩ := by
    simp [system, step, ctrlSendFds_write carries.sends]
  have all : (attach msg.fds (bare .header msg.header)).take headerSize =
      attach msg.fds (bare .header msg.header) := List.take_of_length_le (by simp)
  have read : (system call).step
      ⟨calls, SendPc.atPayload msg.payload, attach msg.fds (bare .header msg.header), .first,
        returned⟩ (.read headerSize) =
      some ⟨calls, SendPc.atPayload msg.payload, [],
        RecvPc.atHeader call msg.header (msg.kept call), returned⟩ := by
    have whole : msg.header.take headerSize = msg.header := List.take_of_length_le (by simp)
    have harvested := Reading.harvest_first carries (n := headerSize) (Nat.succ_pos _)
    rw [whole] at harvested
    simp [system, step, RecvPc.request, RecvPc.took, all, harvested]
  exact ⟨_, .snoc (.snoc (.snoc .nil sent) written) read⟩

/-- The payload is sent and read. -/
theorem run_payload (call : RecvCall) (calls : List WireMsg) (kind : UInt8) (bytes : List UInt8)
    (fds : List Int) (returned : List Received) :
    ∃ trace, (system call).Run
      ⟨calls, SendPc.atPayload bytes, [], RecvPc.atPayload kind bytes.length [] fds, returned⟩ trace
      ⟨calls, .done 0, [], .done (.message kind bytes fds), returned⟩ := by
  cases bytes with
  | nil => exact ⟨_, .nil⟩
  | cons byte bytes =>
      have written : (system call).step
          ⟨calls, SendPc.atPayload (byte :: bytes), [],
            RecvPc.atPayload kind (byte :: bytes).length [] fds, returned⟩
          (.write (byte :: bytes).length) =
          some ⟨calls, .done 0, bare .payload (byte :: bytes),
            RecvPc.atPayload kind (byte :: bytes).length [] fds, returned⟩ := by
        simp [system, step, SendPc.atPayload, SendPc.write]
      have read : (system call).step
          ⟨calls, .done 0, bare .payload (byte :: bytes),
            RecvPc.atPayload kind (byte :: bytes).length [] fds, returned⟩
          (.read (byte :: bytes).length) =
          some ⟨calls, .done 0, [], .done (.message kind (byte :: bytes) fds), returned⟩ := by
        simp [system, step, RecvPc.atPayload, RecvPc.request, RecvPc.took, List.take_of_length_le]
      exact ⟨_, .snoc (.snoc .nil written) read⟩

/-- Messages that fit can be delivered one by one. -/
theorem run_messages {before : List WireMsg} (fits : ∀ msg ∈ before, msg.Fits call)
    (carries : ∀ msg ∈ before, msg.Carries call) (calls : List WireMsg)
    (returned : List Received) :
    ∃ trace returned', (system call).Run ⟨before ++ calls, .done 0, [], .first, returned⟩ trace
      ⟨calls, .done 0, [], .first, returned'⟩ := by
  induction before generalizing returned with
  | nil => exact ⟨_, _, .nil⟩
  | cons msg before ih =>
      have msgFits := fits msg List.mem_cons_self
      have short : msg.payload.length < 2 ^ 32 :=
        Nat.lt_of_le_of_lt msgFits call.bufsize.toNat_lt
      obtain ⟨head, header⟩ :=
        run_header (carries msg List.mem_cons_self) (before ++ calls) returned
      rw [Reading.atHeader_whole short, if_pos msgFits] at header
      obtain ⟨body, payload⟩ :=
        run_payload call (before ++ calls) msg.kind msg.payload (msg.kept call) returned
      have ret : (system call).step
          ⟨before ++ calls, .done 0, [], .done (msg.expected call), returned⟩ .ret =
          some ⟨before ++ calls, .done 0, [], .first, returned ++ [msg.expected call]⟩ := rfl
      obtain ⟨tail, returned', rest⟩ :=
        ih (fun m member => fits m (List.mem_cons_of_mem _ member))
          (fun m member => carries m (List.mem_cons_of_mem _ member))
          (returned ++ [msg.expected call])
      exact ⟨_, returned', (Run.snoc (header.trans payload) ret).trans rest⟩

/-- The first frame that is too long is reported, and the next call reads its payload. -/
theorem not_headersOnly_of_oversized {before : List WireMsg} {msg : WireMsg}
    (fits : ∀ msg ∈ before, msg.Fits call) (carries : ∀ msg ∈ before, msg.Carries call)
    (msgCarries : msg.Carries call) (short : msg.payload.length < 2 ^ 32)
    (oversized : ¬ msg.Fits call) (calls : List WireMsg) :
    ∃ trace link, (system call).Run (start (before ++ msg :: calls)) trace link ∧
      ¬ Meets HeadersOnly trace := by
  obtain ⟨first, returned, delivered⟩ := run_messages fits carries (msg :: calls) []
  obtain ⟨second, header⟩ := run_header msgCarries calls returned
  rw [Reading.atHeader_whole short, if_neg oversized] at header
  cases body : msg.payload with
  | nil => exact absurd (by simp [WireMsg.Fits, body]) oversized
  | cons byte bytes =>
      rw [body] at header
      have ret : (system call).step
          ⟨calls, SendPc.atPayload (byte :: bytes), [], .done .oversized, returned⟩ .ret =
          some ⟨calls, SendPc.atPayload (byte :: bytes), [], .first,
            returned ++ [.oversized]⟩ := rfl
      have written : (system call).step
          ⟨calls, SendPc.atPayload (byte :: bytes), [], .first, returned ++ [.oversized]⟩
          (.write 1) =
          some ⟨calls, SendPc.atPayload bytes, [⟨byte, [], .payload⟩], .first,
            returned ++ [.oversized]⟩ := by
        simp [system, step, SendPc.atPayload, SendPc.write, bare]
      obtain ⟨after, read⟩ : ∃ after, (system call).step
          ⟨calls, SendPc.atPayload bytes, [⟨byte, [], .payload⟩], .first, returned ++ [.oversized]⟩
          (.read 1) = some after := by
        simp [system, step, RecvPc.request, headerSize]
      refine ⟨_, _, .snoc (.snoc (.snoc (delivered.trans header) ret) written) read, ?_⟩
      intro meets
      have last := (meets_snoc.mp meets).2 1 rfl rfl ⟨byte, [], .payload⟩ (by simp)
      cases last

end Driving

/-- The receiver drops exactly the frames that are too long if and only if there are none:
after one of them it takes the payload for the next header. -/
theorem dropsOversized_iff (blocking : call.rcvtimeo = false)
    (carries : ∀ msg ∈ msgs, msg.Carries call) (short : ∀ msg ∈ msgs, msg.payload.length < 2 ^ 32) :
    DropsOversized call msgs ↔ ∀ msg ∈ msgs, msg.payload.length ≤ call.bufsize.toNat := by
  constructor
  · intro drops
    by_contra long
    obtain ⟨msg, found⟩ : ∃ msg, msgs.find? (fun msg => ¬ msg.Fits call) = some msg := by
      rw [← Option.isSome_iff_exists, List.find?_isSome]
      simpa [WireMsg.Fits] using long
    obtain ⟨oversized, before, calls, rfl, fit⟩ := List.find?_eq_some_iff_append.mp found
    obtain ⟨trace, link, run, lost⟩ := not_headersOnly_of_oversized
      (fun msg member => by simpa using fit msg member)
      (fun msg member => carries msg (List.mem_append_left _ member))
      (carries msg (by simp)) (short msg (by simp)) (by simpa using oversized) calls
    exact lost (drops trace link run).2.2
  · intro fits
    exact dropsOversized_of_fits blocking fits carries

/-- Two messages that fit. -/
theorem dropsOversized_iff_fits :
    DropsOversized serverCall [⟨8, [], []⟩, ⟨6, [1, 2, 3, 4], []⟩] :=
  (dropsOversized_iff rfl (by decide) (by decide)).mpr (by decide)

/-- A payload that is one byte too long and begins like a DISCONNECT. -/
def smuggled : List UInt8 :=
  MsgKind.disconnect.toByte :: List.replicate 4096 0

/-- One frame that is too long: it is dropped, and its payload is handed on as a
DISCONNECT that nobody sent. -/
theorem not_dropsOversized_of_smuggled :
    ∃ trace link, (system serverCall).Run (start [⟨MsgKind.heartbeat.toByte, smuggled, []⟩]) trace
        link ∧
      trace.map Prod.snd =
        [.send, .write 5, .write 5, .read 5, .ret, .read 5, .ret] ∧
      fitting serverCall [⟨MsgKind.heartbeat.toByte, smuggled, []⟩] = [] ∧
      link.returned = [.oversized, .message MsgKind.disconnect.toByte [] []] ∧
      ¬ DropsOversized serverCall [⟨MsgKind.heartbeat.toByte, smuggled, []⟩] := by
  have none : fitting serverCall [⟨MsgKind.heartbeat.toByte, smuggled, []⟩] = [] := by
    decide +kernel
  refine Demonstrates.exists_run
    (P := fun _ link => link.returned = [.oversized, .message MsgKind.disconnect.toByte [] []])
    (by decide +kernel) ?_
  intro trace link run returned
  refine ⟨none, returned, fun drops => ?_⟩
  have handed := (drops trace link run).1
  simp [none, dispatched, returned, Received.isMessage] at handed

section Timeouts

/-- What the sender has yet to write are whole frames: it stands between two of them. -/
def BetweenFrames (msgs : List WireMsg) (link : Link) : Prop :=
  ∃ todo ∈ msgs.tails, link.sender.cells ++ frames link.calls = frames todo

/-- A timeout strikes only while the sender stands between two frames. -/
def TimesOutBetween (msgs : List WireMsg) (link : Link) (ev : LinkEvent) : Prop :=
  ev = .timeout → link.BetweenFrames msgs

instance (msgs : List WireMsg) (link : Link) : Decidable (link.BetweenFrames msgs) :=
  inferInstanceAs (Decidable (∃ todo ∈ msgs.tails, _))

instance (msgs : List WireMsg) (link : Link) (ev : LinkEvent) :
    Decidable (link.TimesOutBetween msgs ev) :=
  inferInstanceAs (Decidable (_ → _))

/-- The steps of the sender keep it on its way, whatever the receiver makes of them. -/
structure Sending (msgs : List WireMsg) (link : Link) : Prop where
  calls : link.calls <:+ msgs
  sender : link.sender.Proper

theorem Sending.step (sending : link.Sending msgs) (carries : ∀ msg ∈ msgs, msg.Carries call)
    (taken : (system call).step link ev = some next) : next.Sending msgs := by
  cases ev with
  | send =>
      simp only [system, Link.step] at taken
      split at taken
      · rename_i rc msg calls idle ahead
        cases taken
        have suffix := sending.calls
        rw [ahead] at suffix
        have member : msg ∈ msgs := suffix.subset List.mem_cons_self
        exact ⟨(List.suffix_cons msg calls).trans suffix,
          (ctrlSendFds_spec (carries msg member).sends).2⟩
      · cases taken
  | write n =>
      obtain ⟨⟨sent, sender⟩, written, rfl⟩ := Option.map_eq_some_iff.mp taken
      exact ⟨sending.calls, (SendPc.write_spec written).2.2.2⟩
  | read n =>
      obtain ⟨-, same⟩ := Option.ite_none_right_eq_some.mp taken
      cases same
      exact ⟨sending.calls, sending.sender⟩
  | ret =>
      simp only [system, Link.step] at taken
      split at taken
      · cases taken
        exact ⟨sending.calls, sending.sender⟩
      · cases taken
  | interrupt =>
      cases taken
      exact sending
  | timeout =>
      obtain ⟨-, failed⟩ := Option.ite_none_right_eq_some.mp taken
      obtain ⟨receiver, -, rfl⟩ := Option.map_eq_some_iff.mp failed
      exact ⟨sending.calls, sending.sender⟩

/-- Part of a frame is not a number of whole frames of the same messages. -/
theorem frames_ne {past rest todo : List WireMsg} {msg : WireMsg} {cells : List Cell}
    (suffix : todo <:+ past ++ msg :: rest) (some : cells ≠ [])
    (partly : cells.length < msg.cells.length) : cells ++ frames rest ≠ frames todo := by
  intro same
  have length := congrArg List.length same
  rw [List.length_append] at length
  have positive : 0 < cells.length := List.length_pos_iff.mpr some
  have grows {a b : List WireMsg} (suffix : a <:+ b) : (frames a).length ≤ (frames b).length := by
    obtain ⟨front, rfl⟩ := suffix
    simp [frames]
  rcases List.suffix_or_suffix_of_suffix suffix (List.suffix_append past (msg :: rest)) with
    shorter | longer
  · rcases List.suffix_cons_iff.mp shorter with rfl | later
    · rw [frames_cons, List.length_append] at length
      omega
    · have := grows later
      omega
  · have := grows longer
    rw [frames_cons, List.length_append] at this
    omega

/-- A timeout leaves the receiver in step exactly if the sender stands between two frames. -/
theorem inStep_timeout_iff (inStep : link.InStep call msgs)
    (taken : (system call).step link .timeout = some next) :
    next.InStep call msgs ↔ link.BetweenFrames msgs := by
  obtain ⟨⟨rcvtimeo, drained⟩, failed⟩ := Option.ite_none_right_eq_some.mp taken
  obtain ⟨receiver, failed, rfl⟩ := Option.map_eq_some_iff.mp failed
  have nothing : link.wire = [] := by simpa using drained
  have left : link.unread = link.sender.cells ++ frames link.calls := by simp [unread, nothing]
  have closed : receiver = .done .closed := by
    cases stands : link.receiver <;> simp_all [RecvPc.fail]
  subst closed
  constructor
  · rintro ⟨past, rest, rfl, -, reading⟩
    have whole : link.unread = frames rest := by
      have reading : Reading call rest link.unread (.done .closed) := reading
      generalize link.unread = unread at reading
      cases reading with
      | failed => rfl
    exact ⟨rest, (List.mem_tails _ _).mpr (List.suffix_append _ _), left.symm.trans whole⟩
  · rintro ⟨todo, member, whole⟩
    have suffix := (List.mem_tails _ _).mp member
    rw [← left] at whole
    obtain ⟨past, rest, rfl, handed, reading⟩ := inStep
    refine ⟨past, rest, rfl, handed, ?_⟩
    show Reading call rest link.unread (.done .closed)
    generalize there : link.receiver = pc at reading failed
    generalize link.unread = unread at reading whole
    cases reading with
    | first => exact .failed rcvtimeo
    | @header msg rest j begun short =>
        rw [← List.append_assoc] at whole
        refine absurd whole (frames_ne suffix ?_ ?_)
        · intro none
          have size := congrArg List.length none
          simp only [List.length_append, bare_length, List.length_drop, WireMsg.header_length,
            List.length_nil] at size
          omega
        · simp only [WireMsg.cells, List.length_append, attach_length, bare_length,
            List.length_drop, WireMsg.header_length]
          omega
    | @payload msg rest j short =>
        refine absurd whole (frames_ne suffix ?_ ?_)
        · intro none
          have size := congrArg List.length none
          simp only [bare_length, List.length_drop, List.length_nil] at size
          omega
        · simp only [WireMsg.cells, List.length_append, attach_length, bare_length,
            List.length_drop, WireMsg.header_length, headerSize]
          omega
    | done => cases failed
    | failed => cases failed

/-- Whatever the control plane sends fits the buffers of `wispc_control`. -/
theorem serverMsg_fits (msg : ServerMsg) :
    msg.wire.Fits clientCall ∧ msg.wire.Carries clientCall := by
  have bufsize : clientCall.bufsize.toNat = 256 := rfl
  refine ⟨?_, ?_, fun _ => ?_⟩
  · rw [WireMsg.Fits, bufsize]
    cases msg with
    | dmabufAck accepted reason =>
        simp only [ServerMsg.wire, List.length_append, List.length_cons, List.length_replicate,
          List.length_take]
        omega
    | _ => simp [ServerMsg.wire, u32Bytes]
  · cases msg <;> simp [ServerMsg.wire, numBuffers]
  · cases msg <;> simp [ServerMsg.wire, clientCall]

theorem InStep.isPrefix_dispatched (inStep : link.InStep call msgs) :
    link.dispatched <+: msgs.map (WireMsg.expected call) := by
  obtain ⟨past, rest, rfl, handed, -⟩ := inStep
  rw [handed, List.map_append]
  exact List.prefix_append _ _

/-- `wispc_control` stays in step with the control plane throughout a run exactly if every
timeout strikes while the control plane stands between two frames. It then hands on a
prefix of the messages. -/
theorem inStep_run_iff {sent : List ServerMsg}
    (run : (system clientCall).Run (start (sent.map ServerMsg.wire)) trace link) :
    ((Through (InStep clientCall (sent.map ServerMsg.wire)) trace ∧
        link.InStep clientCall (sent.map ServerMsg.wire)) ↔
      Meets (TimesOutBetween (sent.map ServerMsg.wire)) trace) ∧
    (Meets (TimesOutBetween (sent.map ServerMsg.wire)) trace →
      link.dispatched <+: sent.map fun msg => msg.wire.expected clientCall) := by
  have valid : ∀ msg ∈ sent.map ServerMsg.wire,
      msg.Fits clientCall ∧ msg.Carries clientCall := by
    intro msg member
    obtain ⟨origin, -, rfl⟩ := List.mem_map.mp member
    exact serverMsg_fits origin
  have carries := fun msg member => (valid msg member).2
  have exactly : (Through (InStep clientCall (sent.map ServerMsg.wire)) trace ∧
      link.InStep clientCall (sent.map ServerMsg.wire)) ↔
        Meets (TimesOutBetween (sent.map ServerMsg.wire)) trace := by
    refine run.exact_states (A := fun _ _ => True) (I := Sending (sent.map ServerMsg.wire))
      (fun _ _ => trivial) ⟨List.suffix_rfl, rfl⟩ framed_start.aligned
      (fun _ _ _ sending _ taken => sending.step carries taken) ?_
    intro link ev next sending _ inStep taken
    have framed : link.Framed clientCall (sent.map ServerMsg.wire) :=
      ⟨sending.calls, sending.sender, fun _ _ => .inr rfl, inStep⟩
    by_cases strikes : ev = .timeout
    · subst strikes
      rw [inStep_timeout_iff inStep taken]
      exact ⟨fun whole _ => whole, fun between => between rfl⟩
    · have kept := framed.step (fun msg member => (valid msg member).1) carries strikes taken
      exact ⟨fun _ timesOut => absurd timesOut strikes, fun _ => kept.aligned⟩
  refine ⟨exactly, fun between => ?_⟩
  have handed := (exactly.mpr between).2.isPrefix_dispatched
  rw [List.map_map] at handed
  exact handed

/-- A client waits for its turn and then gets it. -/
def turn : List ServerMsg :=
  [.activateQueued 1, .activateGrant 7 3]

/-- The client times out before and between the two messages. -/
theorem inStep_run_waiting :
    ∃ trace link, (system clientCall).Run (start (turn.map ServerMsg.wire)) trace link ∧
      trace.map Prod.snd =
        [.timeout, .ret, .send, .write 5, .write 4, .read 5, .read 4, .ret, .send, .timeout, .ret,
          .write 5, .write 32, .read 2, .read 3, .read 32, .ret] ∧
      link.InStep clientCall (turn.map ServerMsg.wire) ∧ link.dispatched.length = 2 := by
  refine Demonstrates.exists_run (P := fun trace link =>
      Meets (TimesOutBetween (turn.map ServerMsg.wire)) trace ∧ link.dispatched.length = 2)
    (by decide +kernel) ?_
  rintro trace link run ⟨between, both⟩
  exact ⟨((inStep_run_iff run).1.mpr between).2, both⟩

/-- A timeout between the header and the payload of ACTIVATE_QUEUED. The payload and the
header of the ACTIVATE_GRANT after it are taken for a CONNECT, and the grant is lost. -/
theorem not_inStep_of_timeout :
    ∃ trace link, (system clientCall).Run (start (turn.map ServerMsg.wire)) trace link ∧
      trace.map Prod.snd =
        [.send, .write 5, .read 5, .timeout, .ret, .write 4, .read 4, .send, .write 5, .read 1,
          .read 4, .ret] ∧
      link.dispatched = [.message MsgKind.connect.toByte [0, 0, 0, 32] []] ∧
      ¬ link.dispatched <+: turn.map fun msg => msg.wire.expected clientCall :=
  Demonstrates.run (by decide +kernel)

end Timeouts

end Link

end Wisp
