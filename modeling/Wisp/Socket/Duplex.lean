import Wisp.Client.Context
import Wisp.Lib.Channel
import Wisp.Protocol.Codec
import Wisp.Socket.Resync

/-!
# The control socket as two queues

The threads at the two ends of a control socket treat it as a queue of whole messages in each
direction. Below that, a message is a frame on a stream of bytes, every send and receive takes
several system calls, and the kernel splits them as it likes.

A `Dialect` says how the messages of one direction are framed and what their receiver reads
off a frame. If every message can be read back, the bytes are a `Channel`: a message is in
the queue once its sender begins to write it, and out of it when the receiver returns it.
-/

namespace Wisp

open Transition System
open ControlPlane (Received)

/-- The receive call for the messages of one direction, their frames, and what the receiver
reads off type, payload and descriptors. -/
structure Dialect (α : Type) where
  call : RecvCall
  wire : α → WireMsg
  read : UInt8 → List UInt8 → List Int → Option α

/-- A message of the SDK is read by its type, the payload as it is. -/
def ClientMsg.read (type : UInt8) (payload : List UInt8) (fds : List Int) : Option ClientMsg :=
  (MsgKind.ofByte type).map fun kind => ⟨kind, payload, fds⟩

/-- The characters before the first NUL. -/
def textOf (bytes : List UInt8) : String :=
  (String.fromUTF8? (bytes.takeWhile (· != 0)).toByteArray).getD ""

/-- The payload structures of the control plane, copied out of the buffer. A grant without a
descriptor carries `-1`. -/
def ServerMsg.read (type : UInt8) (payload : List UInt8) (fds : List Int) : Option ServerMsg :=
  match MsgKind.ofByte type with
  | some .mode =>
      some (.mode (payload.getD 0 0 != 0)
        ⟨leU32 payload 4, leU32 payload 8, leU32 payload 12⟩)
  | some .versionMismatch => some (.versionMismatch (leU32 payload 0) (leU32 payload 4))
  | some .activateGrant => some (.activateGrant (leU32 payload 0) (fds.headD (-1)))
  | some .activateQueued => some (.activateQueued (leU32 payload 0))
  | some .evictPending => some (.evictPending (leU32 payload 0))
  | some .livenessTimeout => some .livenessTimeout
  | some .deactivate => some .deactivate
  | some .dmabufAck => some (.dmabufAck (payload.getD 0 0 != 0) (textOf (payload.drop 1)))
  | _ => none

/-- Client to server: `wisp_ctrl_send` of the SDK and `handle_readable`. -/
def upward : Dialect ClientMsg where
  call := serverCall
  wire msg := ⟨msg.kind.toByte, msg.payload, msg.fds⟩
  read := ClientMsg.read

/-- Server to client: the senders of the control plane and `wispc_control`. -/
def downward : Dialect ServerMsg where
  call := clientCall
  wire := ServerMsg.wire
  read := ServerMsg.read

namespace Dialect

variable {α : Type} {d : Dialect α} {msgs : List α} {link next : Link} {c : Channel α}

/-- The message the receiver takes the result of a call for. -/
def heard (d : Dialect α) : Received → Option α
  | .message type payload fds => d.read type payload fds
  | .closed | .oversized => none

/-- The frame fits the receiver's buffers, and is read as the message it was made of. -/
structure Legible (d : Dialect α) (msg : α) : Prop where
  fits : (d.wire msg).Fits d.call
  carries : (d.wire msg).Carries d.call
  read : d.heard ((d.wire msg).expected d.call) = some msg

/-- A receive timeout strikes only while the sender stands between two frames. -/
def Timely (d : Dialect α) (msgs : List α) (link : Link) (ev : LinkEvent) : Prop :=
  d.call.rcvtimeo = true → link.TimesOutBetween (msgs.map d.wire) ev

instance (d : Dialect α) (msgs : List α) (link : Link) (ev : LinkEvent) :
    Decidable (d.Timely msgs link ev) :=
  inferInstanceAs (Decidable (_ → _))

/-- What a step of the connection is to the queue. -/
def action (link : Link) : LinkEvent → Option Channel.Action
  | .send => some .put
  | .ret =>
      match link.receiver with
      | .done (.message _ _ _) => some .take
      | _ => none
  | _ => none

/-- The connection stands for the queue. -/
structure Carries (d : Dialect α) (msgs : List α) (link : Link) (c : Channel α) : Prop where
  all : c.all = msgs
  calls : link.calls = c.unsent.map d.wire
  framed : link.Framed d.call (msgs.map d.wire)
  heard : link.returned.filterMap d.heard = c.received

/-- Errors are not heard. -/
theorem heard_dispatched (d : Dialect α) (link : Link) :
    link.dispatched.filterMap d.heard = link.returned.filterMap d.heard := by
  unfold Link.dispatched
  induction link.returned with
  | nil => rfl
  | cons received rest ih =>
      cases received with
      | message type payload fds =>
          simp only [List.filter_cons, Received.isMessage, if_true, List.filterMap_cons]
          rw [ih]
      | closed | oversized =>
          rw [List.filterMap_cons_none rfl]
          exact ih

/-- Legible messages are heard as they were said. -/
theorem heard_expected (legible : ∀ msg ∈ msgs, d.Legible msg) :
    ((msgs.map d.wire).map (WireMsg.expected d.call)).filterMap d.heard = msgs := by
  induction msgs with
  | nil => rfl
  | cons msg msgs ih =>
      have first := (legible msg List.mem_cons_self).read
      have rest := ih fun msg member => legible msg (List.mem_cons_of_mem _ member)
      simp only [List.map_cons, List.filterMap_cons, first, rest]

theorem carries_start (d : Dialect α) (msgs : List α) :
    d.Carries msgs (.start (msgs.map d.wire)) (.start msgs) where
  all := Channel.all_start msgs
  calls := rfl
  framed := Link.framed_start
  heard := rfl

section Legible

variable (legible : ∀ msg ∈ msgs, d.Legible msg)
include legible

theorem wire_fits : ∀ frame ∈ msgs.map d.wire, frame.Fits d.call := by
  intro frame member
  obtain ⟨msg, there, rfl⟩ := List.mem_map.mp member
  exact (legible msg there).fits

theorem wire_carries : ∀ frame ∈ msgs.map d.wire, frame.Carries d.call := by
  intro frame member
  obtain ⟨msg, there, rfl⟩ := List.mem_map.mp member
  exact (legible msg there).carries

/-- Where the receiver stands, in terms of the queue: what was heard so far is what was taken
out, and the rest is being read. -/
theorem Carries.reading (carries : d.Carries msgs link c) :
    Reading d.call ((c.queue ++ c.unsent).map d.wire) link.unread link.receiver := by
  obtain ⟨past, rest, all, handed, reading⟩ := carries.framed.aligned
  obtain ⟨said, left, parts, rfl, rfl⟩ := List.map_eq_append_iff.mp all
  have heard : c.received = said := by
    rw [← carries.heard, ← heard_dispatched, handed]
    refine heard_expected fun msg member => legible msg ?_
    rw [parts]
    exact List.mem_append_left left member
  have whole := carries.all
  rw [Channel.all, heard, parts] at whole
  rw [List.append_cancel_left whole]
  exact reading

/-- The message that a receiver returns is the first one in the queue: it was written. -/
theorem Carries.taken {type : UInt8} {payload : List UInt8} {fds : List Int}
    (carries : d.Carries msgs link c)
    (stands : link.receiver = .done (.message type payload fds)) :
    ∃ msg rest, c.queue = msg :: rest ∧ d.heard (.message type payload fds) = some msg := by
  have reading := carries.reading legible
  rw [stands] at reading
  generalize left : (c.queue ++ c.unsent).map d.wire = rest at reading
  generalize there : link.unread = unread at reading
  cases reading with
  | @done frame rest =>
      obtain ⟨msg, later, parts, rfl, rfl⟩ := List.map_eq_cons_iff.mp left
      have member : msg ∈ msgs := by
        rw [← carries.all, Channel.all, parts]
        exact List.mem_append_right _ List.mem_cons_self
      refine ⟨msg, ?_⟩
      cases queue : c.queue with
      | cons first rest =>
          rw [queue] at parts
          cases parts
          exact ⟨rest, rfl, (legible msg member).read⟩
      | nil =>
          -- its frame would be still to be written, and has been read
          rw [queue, List.nil_append] at parts
          have size := congrArg List.length there
          rw [Link.unread, carries.calls, parts] at size
          simp only [List.map_cons, frames_cons, WireMsg.cells, List.length_append, attach_length,
            bare_length, WireMsg.header_length, headerSize] at size
          omega

theorem Carries.ret (carries : d.Carries msgs link c)
    (stepped : (Link.system d.call).step link .ret = some next) :
    (∃ c', (Channel.system α).step c .take = some c' ∧ action link .ret = some .take ∧
        d.Carries msgs next c') ∨
      action link .ret = none ∧ d.Carries msgs next c := by
  have framed := carries.framed.ret stepped
  simp only [Link.system, Link.step] at stepped
  split at stepped
  · rename_i received stands
    cases stepped
    cases received with
    | closed | oversized =>
        refine .inr ⟨by simp [action, stands], carries.all, carries.calls, framed, ?_⟩
        simp [carries.heard, Dialect.heard]
    | message type payload fds =>
        obtain ⟨msg, rest, queue, said⟩ := carries.taken legible stands
        have taken : (Channel.system α).step c .take =
            some { c with queue := rest, received := c.received ++ [msg] } := by
          simp only [Channel.system, Channel.step, queue]
        refine .inl ⟨_, taken, by simp [action, stands], ?_, carries.calls, framed, ?_⟩
        · exact (Channel.all_step taken).trans carries.all
        · simp [carries.heard, said]
  · cases stepped

theorem Carries.send (carries : d.Carries msgs link c)
    (stepped : (Link.system d.call).step link .send = some next) :
    ∃ c', (Channel.system α).step c .put = some c' ∧ d.Carries msgs next c' := by
  have framed := carries.framed.send (wire_carries legible) stepped
  simp only [Link.system, Link.step] at stepped
  split at stepped
  · rename_i rc frame calls idle ahead
    cases stepped
    have unsent := carries.calls
    rw [ahead] at unsent
    obtain ⟨msg, rest, first, -, later⟩ := List.map_eq_cons_iff.mp unsent.symm
    have taken : (Channel.system α).step c .put =
        some { c with unsent := rest, queue := c.queue ++ [msg] } := by
      simp only [Channel.system, Channel.step, first]
    exact ⟨_, taken, (Channel.all_step taken).trans carries.all, later.symm, framed,
      carries.heard⟩
  · cases stepped

/-- The bytes do what the queue does. -/
theorem simulates :
    ((Link.system d.call).restrict (d.Timely msgs)).Simulates (Channel.system α) (d.Carries msgs)
      action := by
  intro link ev next c carries taken
  obtain ⟨timely, stepped⟩ := Option.ite_none_right_eq_some.mp taken
  have still (calls : next.calls = link.calls) (returned : next.returned = link.returned)
      (framed : next.Framed d.call (msgs.map d.wire)) : d.Carries msgs next c :=
    ⟨carries.all, calls.trans carries.calls, framed, by rw [returned]; exact carries.heard⟩
  have kept (patient : ev ≠ .timeout) : next.Framed d.call (msgs.map d.wire) :=
    carries.framed.step (wire_fits legible) (wire_carries legible) patient stepped
  cases ev with
  | send =>
      obtain ⟨c', put, after⟩ := carries.send legible stepped
      exact .inl ⟨.put, c', rfl, put, after⟩
  | ret =>
      rcases carries.ret legible stepped with ⟨c', take, named, after⟩ | ⟨unnamed, after⟩
      · exact .inl ⟨.take, c', named, take, after⟩
      · exact .inr ⟨unnamed, after⟩
  | write n =>
      have framed := kept (by simp)
      obtain ⟨⟨sent, sender⟩, -, rfl⟩ := Option.map_eq_some_iff.mp stepped
      exact .inr ⟨rfl, still rfl rfl framed⟩
  | read n =>
      have framed := kept (by simp)
      obtain ⟨-, same⟩ := Option.ite_none_right_eq_some.mp stepped
      cases same
      exact .inr ⟨rfl, still rfl rfl framed⟩
  | interrupt =>
      cases stepped
      exact .inr ⟨rfl, carries⟩
  | timeout =>
      have framed : next.Framed d.call (msgs.map d.wire) := by
        obtain ⟨⟨rcvtimeo, -⟩, -⟩ := Option.ite_none_right_eq_some.mp stepped
        have aligned := (Link.inStep_timeout_iff carries.framed.aligned stepped).mpr
          (timely rcvtimeo rfl)
        obtain ⟨-, failed⟩ := Option.ite_none_right_eq_some.mp stepped
        obtain ⟨receiver, -, rfl⟩ := Option.map_eq_some_iff.mp failed
        exact ⟨carries.framed.calls, carries.framed.sender, carries.framed.returned, aligned⟩
      obtain ⟨-, failed⟩ := Option.ite_none_right_eq_some.mp stepped
      obtain ⟨receiver, -, rfl⟩ := Option.map_eq_some_iff.mp failed
      exact .inr ⟨rfl, still rfl rfl framed⟩

/-- Once nothing can happen any more, everything has been heard. -/
theorem Carries.settled (carries : d.Carries msgs link c) (settled : link.Settled d.call) :
    c.received = msgs := by
  have handed := carries.framed.settled settled
  rw [← carries.heard, ← heard_dispatched, handed]
  exact heard_expected legible

end Legible

end Dialect

/-- What the SDK sends: payloads within the server's buffer, and as many descriptors as a
message can carry. -/
structure ClientMsg.Sendable (msg : ClientMsg) : Prop where
  payload : msg.payload.length ≤ 4096
  fds : msg.fds.length ≤ numBuffers

/-- The text of a refusal fits its field, and has no NUL in it. -/
def ServerMsg.Printable : ServerMsg → Prop
  | .dmabufAck _ reason => reason.toUTF8.toList.length < 64 ∧ 0 ∉ reason.toUTF8.toList
  | _ => True

section Legible

theorem legible_upward {msg : ClientMsg} (sendable : msg.Sendable) : upward.Legible msg where
  fits := sendable.payload
  carries := ⟨sendable.fds, fun _ => sendable.fds⟩
  read := by
    show (MsgKind.ofByte msg.kind.toByte).map _ = some msg
    rw [MsgKind.ofByte_toByte]
    rfl

theorem toList_loop (bytes : ByteArray) (i : Nat) (r : List UInt8) :
    ByteArray.toList.loop bytes i r = r.reverse ++ bytes.data.toList.drop i := by
  fun_induction ByteArray.toList.loop bytes i r with
  | case1 i r within ih =>
      have inside : i < bytes.data.size := within
      have byte : bytes.get! i = bytes.data.toList[i] := by
        show bytes.data[i]! = _
        rw [getElem!_pos bytes.data i inside, Array.getElem_toList]
      rw [ih, List.reverse_cons, List.append_assoc, byte, List.singleton_append,
        ← List.drop_eq_getElem_cons]
  | case2 i r beyond =>
      have outside : bytes.data.toList.length ≤ i := Nat.not_lt.mp beyond
      rw [List.drop_of_length_le outside, List.append_nil]

/-- A string that was copied into a field is found there. -/
theorem textOf_utf8 {reason : String} (plain : 0 ∉ reason.toUTF8.toList) (n : Nat) :
    textOf (reason.toUTF8.toList ++ List.replicate n 0) = reason := by
  have whole : (reason.toUTF8.toList ++ List.replicate n 0).takeWhile (· != 0) =
      reason.toUTF8.toList := by
    rw [List.takeWhile_append_of_pos]
    · cases n <;> simp [List.replicate_succ]
    · intro byte member
      simp only [bne_iff_ne, ne_eq]
      rintro rfl
      exact plain member
  have same : reason.toUTF8.toList.toByteArray = reason.toUTF8 := by
    have listed : reason.toUTF8.toList = reason.toUTF8.data.toList := by
      rw [ByteArray.toList, toList_loop]
      rfl
    apply ByteArray.ext
    rw [← Array.toList_inj, List.toList_data_toByteArray, listed]
  rw [textOf, whole, same, String.toUTF8_eq_toByteArray, String.fromUTF8?,
    dif_pos reason.isValidUTF8]
  rfl

theorem flag_ne_zero (flag : Bool) : ((if flag then 1 else 0 : UInt8) != 0) = flag := by
  cases flag <;> rfl

theorem legible_downward {msg : ServerMsg} (printable : msg.Printable) :
    downward.Legible msg where
  fits := (Link.serverMsg_fits msg).1
  carries := (Link.serverMsg_fits msg).2
  read := by
    cases msg with
    | mode accepted chosen =>
        show some (ServerMsg.mode ((if accepted then 1 else 0 : UInt8) != 0) ⟨_, _, _⟩) = _
        rw [leU32_of_drop chosen.width rfl, leU32_of_drop chosen.height rfl,
          @leU32_of_drop _ [] _ chosen.fps rfl, flag_ne_zero]
    | versionMismatch magic major =>
        show some (ServerMsg.versionMismatch _ _) = _
        rw [leU32_of_drop magic rfl, @leU32_of_drop _ [] _ major rfl]
    | activateGrant generation frameFd =>
        show some (ServerMsg.activateGrant _ frameFd) = _
        rw [leU32_of_drop generation rfl]
    | activateQueued queuePosition =>
        show some (ServerMsg.activateQueued _) = _
        rw [@leU32_of_drop _ [] _ queuePosition rfl]
    | evictPending graceMs =>
        show some (ServerMsg.evictPending _) = _
        rw [@leU32_of_drop _ [] _ graceMs rfl]
    | livenessTimeout | deactivate => rfl
    | dmabufAck accepted reason =>
        obtain ⟨short, plain⟩ := printable
        have text : reason.toUTF8.toList.take 63 = reason.toUTF8.toList :=
          List.take_of_length_le (by omega)
        show some (ServerMsg.dmabufAck ((if accepted then 1 else 0 : UInt8) != 0)
          (textOf (reason.toUTF8.toList.take 63 ++
            List.replicate (64 - (reason.toUTF8.toList.take 63).length) 0))) = _
        rw [text, textOf_utf8 plain, flag_ne_zero]

end Legible

namespace Duplex

/-- A control socket: the bytes to the server and those to the client. -/
def system : System (Link × Link) (LinkEvent ⊕ LinkEvent) :=
  (Link.system upward.call).pair (Link.system downward.call)

/-- The same as two queues. -/
def queues : System (Channel ClientMsg × Channel ServerMsg) (Channel.Action ⊕ Channel.Action) :=
  (Channel.system ClientMsg).pair (Channel.system ServerMsg)

/-- A connected socket on which these messages are to be sent. -/
def start (up : List ClientMsg) (down : List ServerMsg) : Link × Link :=
  (.start (up.map upward.wire), .start (down.map downward.wire))

/-- What a step is to the queues. -/
def action (x : Link × Link) (e : LinkEvent ⊕ LinkEvent) :
    Option (Channel.Action ⊕ Channel.Action) :=
  e.elim (fun e => (Dialect.action x.1 e).map .inl) fun e => (Dialect.action x.2 e).map .inr

/-- The client's receive timeout strikes only while the server stands between two frames. -/
def Timely (down : List ServerMsg) (x : Link × Link) : LinkEvent ⊕ LinkEvent → Prop
  | .inl _ => True
  | .inr e => x.2.TimesOutBetween (down.map downward.wire) e

instance (down : List ServerMsg) (x : Link × Link) :
    ∀ e, Decidable (Timely down x e)
  | .inl _ => inferInstanceAs (Decidable True)
  | .inr e => inferInstanceAs (Decidable (x.2.TimesOutBetween (down.map downward.wire) e))

/-- The socket shows what the queues hold: at each end what was heard is what was taken out,
what is not being sent yet is not put in yet, and at rest everything was heard. -/
structure Delivers (up : List ClientMsg) (down : List ServerMsg) (x : Link × Link)
    (c : Channel ClientMsg × Channel ServerMsg) : Prop where
  heardUp : x.1.returned.filterMap upward.heard = c.1.received
  heardDown : x.2.returned.filterMap downward.heard = c.2.received
  callsUp : x.1.calls = c.1.unsent.map upward.wire
  callsDown : x.2.calls = c.2.unsent.map downward.wire
  settledUp : x.1.Settled upward.call → c.1.received = up
  settledDown : x.2.Settled downward.call → c.2.received = down

/-- The control socket is a queue of whole messages in each direction: every run of the bytes,
with any split of the transfers, interrupts and timeouts between frames, is a run of the
queues, in which a message goes in when its sender begins and comes out when the receiver
returns it. -/
theorem queues_of_run {up : List ClientMsg} {down : List ServerMsg} {x : Link × Link}
    {trace : List ((Link × Link) × (LinkEvent ⊕ LinkEvent))}
    (sendable : ∀ msg ∈ up, msg.Sendable) (printable : ∀ msg ∈ down, msg.Printable)
    (run : system.Run (start up down) trace x) (timely : Meets (Timely down) trace) :
    ∃ trace' c, queues.Run (.start up, .start down) trace' c ∧
      trace'.map Prod.snd = answers action trace ∧ Delivers up down x c := by
  have legibleUp := fun msg member => legible_upward (sendable msg member)
  have legibleDown := fun msg member => legible_downward (printable msg member)
  have meets : Meets (fun x e => Sum.elim (upward.Timely up x.1) (downward.Timely down x.2) e)
      trace := by
    rintro ⟨x, e⟩ member
    cases e with
    | inl e => exact fun blocking => by cases blocking
    | inr e => exact fun _ => timely (x, .inr e) member
  have simulates := (Dialect.simulates legibleUp).pair (Dialect.simulates legibleDown)
  obtain ⟨trace', c, run', ⟨carriesUp, carriesDown⟩, -, same⟩ :=
    (run.pair_restrict meets).simulate (C := fun _ _ => True) (D := fun _ _ => True) simulates
      (fun _ _ _ _ _ _ _ => trivial) (fun _ _ => trivial)
      (a := (.start up, .start down)) ⟨upward.carries_start up, downward.carries_start down⟩
  exact ⟨trace', c, run', same, carriesUp.heard, carriesDown.heard, carriesUp.calls,
    carriesDown.calls, carriesUp.settled legibleUp, carriesDown.settled legibleDown⟩

/-- A client asks for its turn, waits and gets it; it times out in between, and the transfers
come in pieces. -/
theorem queues_of_run_turn :
    ∃ trace x, system.Run (start [⟨.activateRequest, [], []⟩] Link.turn) trace x ∧
      trace.map Prod.snd =
        [.inr .timeout, .inl .send, .inl (.write 2), .inr .ret, .inl (.write 3), .inl (.read 5),
          .inl .ret, .inr .send, .inr (.write 5), .inr (.read 3), .inr (.write 4),
          .inr .interrupt, .inr (.read 2), .inr (.read 4), .inr .ret, .inr .timeout, .inr .send,
          .inr (.write 5), .inr .ret, .inr (.write 32), .inr (.read 5), .inr (.read 32),
          .inr .ret] ∧
      ∃ trace' c, queues.Run (.start [⟨.activateRequest, [], []⟩], .start Link.turn) trace' c ∧
        trace'.map Prod.snd =
          [.inl .put, .inl .take, .inr .put, .inr .take, .inr .put, .inr .take] ∧
        c.2.received = Link.turn := by
  refine Demonstrates.exists_run (P := fun trace x =>
      Meets (Timely Link.turn) trace ∧
        answers action trace =
          [.inl .put, .inl .take, .inr .put, .inr .take, .inr .put, .inr .take] ∧
        x.2.returned.filterMap downward.heard = Link.turn)
    (by decide +kernel) ?_
  rintro trace x run ⟨timely, actions, heard⟩
  obtain ⟨trace', c, run', same, delivers⟩ := queues_of_run
    (by simpa using ⟨by decide, by decide⟩)
    (by simp [Link.turn, ServerMsg.Printable]) run timely
  exact ⟨trace', c, run', same.trans actions, delivers.heardDown.symm.trans heard⟩

end Duplex

end Wisp
