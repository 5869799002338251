import Wisp.Lib.Transition
import Wisp.Socket.Framing

/-!
# One direction of a connection

A process that sends messages one after the other, a reliable stream in between, and a
process that calls a receiver again and again. The kernel splits every transfer as it
likes, and `EINTR` may interrupt any system call.

`Reading` says what the receiver has consumed of the frame it stands in. It is kept by
every chunk, whatever its size, so the messages come out as they went in.
-/

namespace Wisp

open Transition System
open ControlPlane (Received)

/-- The call returned a message, not an error. -/
def ControlPlane.Received.isMessage : Received → Bool
  | .message _ _ _ => true
  | .closed | .oversized => false

namespace WireMsg

/-- The descriptors a receiver with room for them returns. -/
def kept (call : RecvCall) (msg : WireMsg) : List Int :=
  if call.plain then [] else msg.fds

/-- What a receiver should return for the message. -/
def expected (call : RecvCall) (msg : WireMsg) : Received :=
  .message msg.kind msg.payload (msg.kept call)

/-- The payload fits the receiver's buffer. -/
def Fits (call : RecvCall) (msg : WireMsg) : Prop :=
  msg.payload.length ≤ call.bufsize.toNat

instance (call : RecvCall) (msg : WireMsg) : Decidable (msg.Fits call) :=
  inferInstanceAs (Decidable (_ ≤ _))

/-- The sender can attach the descriptors, and the receiver has room for them. -/
structure Carries (call : RecvCall) (msg : WireMsg) : Prop where
  sends : msg.fds.length ≤ numBuffers
  room : call.plain = false → msg.fds.length ≤ call.maxFds

instance (call : RecvCall) (msg : WireMsg) : Decidable (msg.Carries call) :=
  decidable_of_iff (msg.fds.length ≤ numBuffers ∧
    (call.plain = false → msg.fds.length ≤ call.maxFds)) ⟨fun h => ⟨h.1, h.2⟩, fun h => ⟨h.1, h.2⟩⟩

end WireMsg

/-- The frames of a list of messages. -/
def frames (msgs : List WireMsg) : List Cell :=
  msgs.flatMap WireMsg.cells

@[simp] theorem frames_nil : frames [] = [] := rfl

@[simp] theorem frames_cons (msg : WireMsg) (msgs : List WireMsg) :
    frames (msg :: msgs) = msg.cells ++ frames msgs := rfl

/-- Messages `rest` are still to be returned, the bytes `unread` are still to be read, and
the receiver has read what is missing between the two. -/
inductive Reading (call : RecvCall) : List WireMsg → List Cell → RecvPc → Prop where
  | first {rest : List WireMsg} : Reading call rest (frames rest) .first
  | header {msg : WireMsg} {rest : List WireMsg} {j : Nat} (begun : 0 < j) (short : j < headerSize) :
      Reading call (msg :: rest)
        (bare .header (msg.header.drop j) ++ (bare .payload msg.payload ++ frames rest))
        (.header (msg.header.take j) (msg.kept call))
  | payload {msg : WireMsg} {rest : List WireMsg} {j : Nat} (short : j < msg.payload.length) :
      Reading call (msg :: rest) (bare .payload (msg.payload.drop j) ++ frames rest)
        (.payload msg.kind msg.payload.length (msg.payload.take j) (msg.kept call))
  | done {msg : WireMsg} {rest : List WireMsg} :
      Reading call (msg :: rest) (frames rest) (.done (msg.expected call))
  | failed {rest : List WireMsg} (rcvtimeo : call.rcvtimeo = true) :
      Reading call rest (frames rest) (.done .closed)

namespace Reading

variable {call : RecvCall} {msg : WireMsg} {rest : List WireMsg} {unread : List Cell}
variable {pc : RecvPc} {n j : Nat}

/-- The receiver stands in the payload, or has just finished it. -/
theorem atPayload (within : j ≤ msg.payload.length) :
    Reading call (msg :: rest) (bare .payload (msg.payload.drop j) ++ frames rest)
      (RecvPc.atPayload msg.kind msg.payload.length (msg.payload.take j) (msg.kept call)) := by
  unfold RecvPc.atPayload
  split
  · rename_i short
    rw [List.length_take] at short
    exact .payload (by omega)
  · rename_i long
    rw [List.length_take] at long
    rw [List.take_of_length_le (by omega), List.drop_of_length_le (by omega)]
    exact .done

/-- A complete header is parsed: the payload follows, or the frame is refused. -/
theorem atHeader_whole (short : msg.payload.length < 2 ^ 32) (fds : List Int) :
    RecvPc.atHeader call msg.header fds =
      if msg.Fits call then RecvPc.atPayload msg.kind msg.payload.length [] fds
      else .done .oversized := by
  have length : (UInt32.ofNat msg.payload.length).toNat = msg.payload.length :=
    UInt32.toNat_ofNat_of_lt' short
  have parsed : ntohl (msg.header.drop 1) = UInt32.ofNat msg.payload.length := ntohl_htonl _
  have refused : UInt32.ofNat msg.payload.length > call.bufsize ↔ ¬ msg.Fits call := by
    rw [gt_iff_lt, UInt32.lt_iff_toNat_lt, length]
    exact Nat.not_le.symm
  show (if ntohl (msg.header.drop 1) > call.bufsize then RecvPc.done .oversized
    else RecvPc.atPayload msg.kind (ntohl (msg.header.drop 1)).toNat [] fds) = _
  rw [parsed, length]
  by_cases fits : msg.Fits call
  · rw [if_neg (mt refused.mp (not_not.mpr fits)), if_pos fits]
  · rw [if_pos (refused.mpr fits), if_neg fits]

/-- The receiver stands in the header, or has just finished it. -/
theorem atHeader (fits : msg.Fits call) (begun : 0 < j) (within : j ≤ headerSize) :
    Reading call (msg :: rest)
      (bare .header (msg.header.drop j) ++ (bare .payload msg.payload ++ frames rest))
      (RecvPc.atHeader call (msg.header.take j) (msg.kept call)) := by
  rcases Nat.lt_or_eq_of_le within with short | whole
  · have partly : RecvPc.atHeader call (msg.header.take j) (msg.kept call) =
        .header (msg.header.take j) (msg.kept call) := by
      refine if_pos ?_
      rw [List.length_take, WireMsg.header_length]
      omega
    rw [partly]
    exact .header begun short
  · have all : msg.header.take j = msg.header := List.take_of_length_le (by simp [whole])
    have none : msg.header.drop j = [] := List.drop_of_length_le (by simp [whole])
    have short : msg.payload.length < 2 ^ 32 := Nat.lt_of_le_of_lt fits call.bufsize.toNat_lt
    rw [all, none, atHeader_whole short, if_pos fits]
    exact atPayload (j := 0) (Nat.zero_le _)

/-- The first chunk of a frame comes with all its descriptors. -/
theorem harvest_first (carries : msg.Carries call) (begun : 0 < n) :
    RecvPc.harvest call (attach msg.fds (bare .header (msg.header.take n))) = msg.kept call := by
  unfold RecvPc.harvest WireMsg.kept
  cases plain : call.plain with
  | true => rfl
  | false =>
      obtain ⟨k, rfl⟩ : ∃ k, n = k + 1 := ⟨n - 1, by omega⟩
      have rest (bytes : List UInt8) : (bare .header bytes).flatMap Cell.fds = [] := by
        simp [bare]
      have all : (attach msg.fds (bare .header (msg.header.take (k + 1)))).flatMap Cell.fds =
          msg.fds := by
        show msg.fds ++ (bare .header _).flatMap Cell.fds = msg.fds
        rw [rest, List.append_nil]
      simp only [Bool.false_eq_true, if_false]
      rw [all, List.take_of_length_le (carries.room plain)]

/-- No more of a header is asked for than is left of it. -/
theorem request_header_le {fds : List Int}
    (asked : n ≤ (RecvPc.header (msg.header.take j) fds).request) :
    n ≤ (msg.header.drop j).length := by
  simp only [RecvPc.request, List.length_take, WireMsg.header_length] at asked
  rw [List.length_drop, WireMsg.header_length]
  omega

/-- The receiver keeps its place, however many bytes a system call returns. -/
theorem took (reading : Reading call rest unread pc) (fits : ∀ msg ∈ rest, msg.Fits call)
    (carries : ∀ msg ∈ rest, msg.Carries call) (positive : 0 < n) (asked : n ≤ pc.request)
    (available : n ≤ unread.length) :
    Reading call rest (unread.drop n) (pc.took call (unread.take n)) := by
  cases reading with
  | first =>
      cases rest with
      | nil =>
          rw [frames_nil, List.length_nil] at available
          omega
      | cons msg rest =>
          have msgFits := fits msg List.mem_cons_self
          have msgCarries := carries msg List.mem_cons_self
          have within : n ≤ msg.header.length := asked
          rw [frames_cons, WireMsg.cells, List.append_assoc, take_attach_append _ within,
            drop_attach_append _ positive within]
          simp only [RecvPc.took]
          rw [harvest_first msgCarries positive]
          have bytes : (attach msg.fds (bare .header (msg.header.take n))).map Cell.byte =
              msg.header.take n := by
            rw [attach_bytes, bare_bytes]
          rw [bytes]
          exact atHeader msgFits positive asked
  | @header msg rest j begun short =>
      have msgFits := fits msg List.mem_cons_self
      have within : n ≤ (msg.header.drop j).length := request_header_le asked
      rw [take_bare_append within, drop_bare_append within, List.drop_drop]
      simp only [RecvPc.took, bare_bytes]
      rw [← List.take_add]
      rw [List.length_drop, WireMsg.header_length] at within
      exact atHeader msgFits (by omega) (by omega)
  | @payload msg rest j short =>
      have within : n ≤ (msg.payload.drop j).length := by
        simp only [RecvPc.request, List.length_take] at asked
        rw [List.length_drop]
        omega
      rw [take_bare_append within, drop_bare_append within, List.drop_drop]
      simp only [RecvPc.took, bare_bytes]
      rw [← List.take_add]
      rw [List.length_drop] at within
      exact atPayload (by omega)
  | done =>
      simp only [RecvPc.request] at asked
      omega
  | failed =>
      simp only [RecvPc.request] at asked
      omega

/-- Nothing is left to read and no call is at its return: everything has come out. -/
theorem rest_eq_nil (reading : Reading call rest [] pc) (waits : ∀ received, pc ≠ .done received) :
    rest = [] := by
  generalize nothing : ([] : List Cell) = unread at reading
  cases reading with
  | first =>
      cases rest with
      | nil => rfl
      | cons msg rest =>
          have size := congrArg List.length nothing
          simp only [frames_cons, WireMsg.cells, List.length_append, attach_length, bare_length,
            WireMsg.header_length, headerSize, List.length_nil] at size
          omega
  | header begun short =>
      have size := congrArg List.length nothing
      simp at size
      omega
  | payload short =>
      have size := congrArg List.length nothing
      simp at size
      omega
  | done => exact absurd rfl (waits _)
  | failed => exact absurd rfl (waits _)

/-- A receiver that has not returned asks for bytes. -/
theorem request_pos (reading : Reading call rest unread pc)
    (waits : ∀ received, pc ≠ .done received) : 0 < pc.request := by
  cases reading with
  | first => exact Nat.succ_pos _
  | header begun short =>
      simp only [RecvPc.request, List.length_take, WireMsg.header_length]
      omega
  | payload short =>
      simp only [RecvPc.request, List.length_take]
      omega
  | done => exact absurd rfl (waits _)
  | failed => exact absurd rfl (waits _)

end Reading

/-- One direction of a connection: the messages whose sending has not begun, the call of the
sender, the bytes in the socket, the call of the receiver, and what earlier calls of the
receiver returned. -/
structure Link where
  calls : List WireMsg
  sender : SendPc
  wire : List Cell
  receiver : RecvPc
  returned : List Received

/-- A system call that transfers `n` bytes, is interrupted or times out, the begin of the
next call of the sender, or the return of the receiver, which is called again. -/
inductive LinkEvent where
  | send
  | write (n : Nat)
  | read (n : Nat)
  | ret
  | interrupt
  | timeout
  deriving DecidableEq

/-- The receive call of `handle_readable`. -/
def serverCall : RecvCall :=
  ⟨4096, numBuffers, false, false⟩

/-- The receive call of `wispc_control`, which sets `SO_RCVTIMEO`. -/
def clientCall : RecvCall :=
  ⟨256, 1, false, true⟩

/-- The event is a step of one of the two processes. -/
def LinkEvent.counts : LinkEvent → Bool
  | .interrupt => false
  | _ => true

/-- A receiver at its return. -/
def RecvPc.returns : RecvPc → Nat
  | .done _ => 1
  | _ => 0

namespace Link

variable {call : RecvCall}

/-- A connection on which these messages are to be sent. -/
def start (msgs : List WireMsg) : Link :=
  ⟨msgs, .done 0, [], .first, []⟩

/-- One step of the sender, the receiver or the kernel. The retry loops make `EINTR`
invisible. A call that waits for bytes may time out if a timeout is set. -/
def step (call : RecvCall) (link : Link) : LinkEvent → Option Link
  | .send =>
      match link.sender, link.calls with
      | .done _, msg :: calls =>
          some { link with calls, sender := ctrlSendFds msg.kind msg.payload msg.fds }
      | _, _ => none
  | .write n => (link.sender.write n).map fun (sent, sender) =>
      { link with sender, wire := link.wire ++ sent }
  | .read n =>
      if 0 < n ∧ n ≤ link.receiver.request ∧ n ≤ link.wire.length then
        some { link with
          wire := link.wire.drop n
          receiver := link.receiver.took call (link.wire.take n) }
      else none
  | .ret =>
      match link.receiver with
      | .done received =>
          some { link with receiver := .first, returned := link.returned ++ [received] }
      | _ => none
  | .interrupt => some link
  | .timeout =>
      if call.rcvtimeo ∧ link.wire.isEmpty then
        link.receiver.fail.map fun receiver => { link with receiver }
      else none

/-- The connection as a transition system. -/
def system (call : RecvCall) : System Link LinkEvent where
  step := step call

/-- What is still to be read: the bytes in the socket and all that will be written. -/
def unread (link : Link) : List Cell :=
  link.wire ++ (link.sender.cells ++ frames link.calls)

/-- The messages handed on by the receiving process, which ignores errors. -/
def dispatched (link : Link) : List Received :=
  link.returned.filter Received.isMessage

/-- A prefix of the messages has been handed on, and the receiver stands in the next one
where it takes itself to be. -/
def InStep (call : RecvCall) (msgs : List WireMsg) (link : Link) : Prop :=
  ∃ past rest, msgs = past ++ rest ∧ link.dispatched = past.map (WireMsg.expected call) ∧
    Reading call rest link.unread link.receiver

/-- The sender is on its way, errors come from timeouts only, and the receiver is in step. -/
structure Framed (call : RecvCall) (msgs : List WireMsg) (link : Link) : Prop where
  calls : link.calls <:+ msgs
  sender : link.sender.Proper
  returned : ∀ received ∈ link.returned, received.isMessage = true ∨ call.rcvtimeo = true
  aligned : link.InStep call msgs

section Steps

variable {msgs : List WireMsg} {link next : Link} {ev : LinkEvent}

theorem framed_start : (start msgs).Framed call msgs where
  calls := List.suffix_rfl
  sender := rfl
  returned := by simp [start]
  aligned := ⟨[], msgs, rfl, rfl, .first⟩

theorem Framed.send (framed : link.Framed call msgs) (carries : ∀ msg ∈ msgs, msg.Carries call)
    (taken : (system call).step link .send = some next) : next.Framed call msgs := by
  obtain ⟨past, rest, all, handed, reading⟩ := framed.aligned
  simp only [system, step] at taken
  split at taken
  · rename_i rc msg calls idle ahead
    cases taken
    have suffix := framed.calls
    rw [ahead] at suffix
    have member : msg ∈ msgs := suffix.subset List.mem_cons_self
    obtain ⟨cells, proper⟩ := ctrlSendFds_spec (carries msg member).sends
    have same : link.unread = link.wire ++ (msg.cells ++ frames calls) := by
      simp [unread, idle, ahead, SendPc.cells]
    refine ⟨(List.suffix_cons msg calls).trans suffix, proper, framed.returned, past, rest, all,
      handed, ?_⟩
    rw [same] at reading
    simpa only [unread, cells] using reading
  · cases taken

theorem Framed.write (framed : link.Framed call msgs) {n : Nat}
    (taken : (system call).step link (.write n) = some next) : next.Framed call msgs := by
  obtain ⟨past, rest, all, handed, reading⟩ := framed.aligned
  obtain ⟨⟨sent, sender⟩, written, rfl⟩ := Option.map_eq_some_iff.mp taken
  obtain ⟨-, -, cells, proper⟩ := SendPc.write_spec written
  refine ⟨framed.calls, proper, framed.returned, past, rest, all, handed, ?_⟩
  have same : link.unread = link.wire ++ sent ++ (sender.cells ++ frames link.calls) := by
    rw [unread, cells]
    simp only [List.append_assoc]
  rw [same] at reading
  exact reading

theorem Framed.read (framed : link.Framed call msgs) (fits : ∀ msg ∈ msgs, msg.Fits call)
    (carries : ∀ msg ∈ msgs, msg.Carries call) {n : Nat}
    (taken : (system call).step link (.read n) = some next) : next.Framed call msgs := by
  obtain ⟨past, rest, rfl, handed, reading⟩ := framed.aligned
  obtain ⟨⟨positive, asked, available⟩, same⟩ := Option.ite_none_right_eq_some.mp taken
  cases same
  refine ⟨framed.calls, framed.sender, framed.returned, past, rest, rfl, handed, ?_⟩
  have chunk : link.unread.take n = link.wire.take n :=
    List.take_append_of_le_length available
  have left : link.unread.drop n =
      link.wire.drop n ++ (link.sender.cells ++ frames link.calls) :=
    List.drop_append_of_le_length available
  have later := reading.took (fun msg member => fits msg (List.mem_append_right past member))
    (fun msg member => carries msg (List.mem_append_right past member)) positive asked
    (Nat.le_trans available (by simp [unread]))
  rw [chunk, left] at later
  exact later

theorem Framed.ret (framed : link.Framed call msgs)
    (taken : (system call).step link .ret = some next) : next.Framed call msgs := by
  obtain ⟨past, rest, all, handed, reading⟩ := framed.aligned
  simp only [system, step] at taken
  split at taken
  · rename_i received stands
    cases taken
    rw [stands] at reading
    generalize there : link.unread = unread at reading
    cases reading with
    | @done msg rest =>
        refine ⟨framed.calls, framed.sender, ?_, past ++ [msg], rest, by simp [all], ?_,
          there ▸ .first⟩
        · intro received member
          rcases List.mem_append.mp member with earlier | last
          · exact framed.returned received earlier
          · rw [List.mem_singleton.mp last]
            exact .inl rfl
        · simp only [dispatched] at handed ⊢
          simp [handed, WireMsg.expected, Received.isMessage]
    | failed rcvtimeo =>
        refine ⟨framed.calls, framed.sender, fun _ _ => .inr rcvtimeo, past, rest, all, ?_,
          there ▸ .first⟩
        simp only [dispatched] at handed ⊢
        simp [handed, Received.isMessage]
  · cases taken

/-- Every step but a timeout keeps the receiver in its place. -/
theorem Framed.step (framed : link.Framed call msgs) (fits : ∀ msg ∈ msgs, msg.Fits call)
    (carries : ∀ msg ∈ msgs, msg.Carries call) (patient : ev ≠ .timeout)
    (taken : (system call).step link ev = some next) : next.Framed call msgs := by
  cases ev with
  | send => exact framed.send carries taken
  | write n => exact framed.write taken
  | read n => exact framed.read fits carries taken
  | ret => exact framed.ret taken
  | interrupt =>
      cases taken
      exact framed
  | timeout => exact absurd rfl patient

end Steps

/-- What sending these messages will take. -/
def outlay : List WireMsg → Nat
  | [] => 0
  | msg :: msgs => 1 + 3 * (ctrlSendFds msg.kind msg.payload msg.fds).cells.length + outlay msgs

/-- How many steps are still to be made: each byte is written and read, each message begins
and ends. -/
def effort (link : Link) : Nat :=
  outlay link.calls + 3 * link.sender.cells.length + 2 * link.wire.length +
    link.receiver.returns

section Progress

variable {msgs : List WireMsg} {link next : Link} {ev : LinkEvent}
variable {trace : List (Link × LinkEvent)}

theorem effort_falls (blocking : call.rcvtimeo = false)
    (taken : (system call).step link ev = some next) :
    next.effort + (if ev.counts then 1 else 0) ≤ link.effort := by
  cases ev with
  | send =>
      simp only [system, step] at taken
      split at taken
      · rename_i rc msg calls idle ahead
        cases taken
        simp only [effort, idle, ahead, SendPc.cells, outlay, List.length_nil, LinkEvent.counts,
          if_true]
        omega
      · cases taken
  | write n =>
      obtain ⟨⟨sent, sender⟩, written, rfl⟩ := Option.map_eq_some_iff.mp taken
      obtain ⟨positive, length, cells, -⟩ := SendPc.write_spec written
      simp only [effort, cells, List.length_append, LinkEvent.counts, if_true]
      omega
  | read n =>
      obtain ⟨⟨positive, asked, available⟩, same⟩ := Option.ite_none_right_eq_some.mp taken
      cases same
      have waits : link.receiver.returns = 0 := by
        cases stands : link.receiver with
        | done received =>
            simp only [stands, RecvPc.request] at asked
            omega
        | _ => rfl
      have one : (link.receiver.took call (link.wire.take n)).returns ≤ 1 := by
        cases link.receiver.took call (link.wire.take n) <;> simp [RecvPc.returns]
      simp only [effort, List.length_drop, waits, LinkEvent.counts, if_true]
      omega
  | ret =>
      simp only [system, step] at taken
      split at taken
      · rename_i received stands
        cases taken
        simp [effort, stands, RecvPc.returns, LinkEvent.counts]
      · cases taken
  | interrupt =>
      cases taken
      exact Nat.le_refl _
  | timeout => simp [system, step, blocking] at taken

/-- Nothing but interrupts can happen any more. -/
def Settled (call : RecvCall) (link : Link) : Prop :=
  ∀ ev, ev ≠ .interrupt → (system call).step link ev = none

/-- A settled connection has delivered everything. -/
theorem Framed.settled (framed : link.Framed call msgs) (settled : link.Settled call) :
    link.dispatched = msgs.map (WireMsg.expected call) := by
  obtain ⟨past, rest, all, handed, reading⟩ := framed.aligned
  have waits : ∀ received, link.receiver ≠ .done received := by
    intro received stands
    have stuck := settled .ret (by simp)
    simp [system, Link.step, stands] at stuck
  have idle : link.sender = .done 0 := by
    by_contra busy
    obtain ⟨written, enabled⟩ := SendPc.write_enabled framed.sender busy
    have stuck := settled (.write 1) (by simp)
    simp [system, Link.step, enabled] at stuck
  have sent : link.calls = [] := by
    cases ahead : link.calls with
    | nil => rfl
    | cons msg calls =>
        have stuck := settled .send (by simp)
        simp [system, Link.step, idle, ahead] at stuck
  have read : link.wire = [] := by
    by_contra some
    have asked := reading.request_pos waits
    have available : 0 < link.wire.length := List.length_pos_iff.mpr some
    have stuck := settled (.read 1) (by simp)
    simp only [system, Link.step] at stuck
    rw [if_pos ⟨Nat.one_pos, asked, available⟩] at stuck
    cases stuck
  have empty : link.unread = [] := by simp [unread, read, idle, sent, SendPc.cells]
  rw [empty] at reading
  rw [handed, all, reading.rest_eq_nil waits, List.append_nil]

/-- The messages of a run come out as they went in, however the transfers are split: always
a prefix of them, at the end all of them, and after a bounded number of steps. -/
theorem returned_of_run (blocking : call.rcvtimeo = false) (fits : ∀ msg ∈ msgs, msg.Fits call)
    (carries : ∀ msg ∈ msgs, msg.Carries call)
    (run : (system call).Run (start msgs) trace link) :
    link.returned <+: msgs.map (WireMsg.expected call) ∧
      (link.Settled call → link.returned = msgs.map (WireMsg.expected call)) ∧
      trace.countP (fun p => p.2.counts) ≤ (start msgs).effort := by
  have framed : link.Framed call msgs := by
    refine run.invariant (C := fun _ _ => True) (fun _ _ => trivial) framed_start ?_
    intro link ev next framed _ taken
    refine framed.step fits carries ?_ taken
    rintro rfl
    simp [system, step, blocking] at taken
  have all : link.dispatched = link.returned := by
    refine List.filter_eq_self.mpr fun received member => ?_
    exact (framed.returned received member).resolve_right (by simp [blocking])
  refine ⟨?_, ?_, ?_⟩
  · obtain ⟨past, rest, rfl, handed, -⟩ := framed.aligned
    rw [← all, handed, List.map_append]
    exact List.prefix_append _ _
  · intro settled
    rw [← all]
    exact framed.settled settled
  · have bounded := run.count_le effort fun _ _ _ => effort_falls blocking
    omega

/-- A DMABUF_ANNOUNCE with its descriptors and a DISCONNECT, in small pieces. -/
theorem returned_of_run_pieces :
    ∃ trace link, (system serverCall).Run (start [⟨9, [7, 8], [20, 21, 22]⟩, ⟨8, [], []⟩]) trace
        link ∧
      trace.map Prod.snd =
        [.send, .write 2, .read 1, .interrupt, .write 3, .write 1, .read 4, .read 1, .interrupt,
          .write 1, .send, .write 4, .read 1, .ret, .write 1, .read 3, .read 2, .ret] ∧
      link.returned <+: [.message 9 [7, 8] [20, 21, 22], .message 8 [] []] ∧
      link.returned = [.message 9 [7, 8] [20, 21, 22], .message 8 [] []] := by
  refine Demonstrates.exists_run
    (P := fun _ link => link.returned = [.message 9 [7, 8] [20, 21, 22], .message 8 [] []])
    (by decide +kernel) ?_
  intro trace link run returned
  exact ⟨(returned_of_run rfl (by decide) (by decide) run).1, returned⟩

end Progress

end Link

end Wisp
