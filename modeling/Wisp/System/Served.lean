import Wisp.Client.Converse
import Wisp.System.Connection
import Wisp.System.Grants

/-!
# The control thread and one connection

`Served` lists what an event handled by the control thread is for a client: its own message,
its own end, or something between the server and others.

The clients are those of the SDK, and the server relies on how they behave: a connection is
accepted once, CONNECT comes first and once, and GRANT_DECLINE never. `Wired` says so, and
that the table, the descriptors and the generation are in order.
-/

namespace Wisp

open Transition System Effect
open ControlPlane (Received)

/-- The control thread reads a message of a client. -/
def ClientMsg.arrival (msg : ClientMsg) (i : Slot) (clock : Timespec) : Event :=
  .readable i (.message msg.kind.toByte msg.payload msg.fds) clock

namespace World

/-- The messages to a connection that the control thread is about to send. -/
def tidings (w : World) (c : Nat) : List ServerMsg :=
  w.todo.filterMap (Effect.sentTo c)

/-- The session of a connection. -/
def session (w : World) (c : Nat) : Option SessionState :=
  w.server.table.session c

/-- What a client has sent and not had read, and where its session stands. -/
structure Orderly (client : Client) (state : Option SessionState) : Prop where
  unsent : client.control.phase = .unsent → client.outbox = []
  hello : client.control.phase = .unsent ∨ (∃ msg ∈ client.outbox, msg.kind = .connect) →
    state = none ∨ state = some .connected
  once : ∀ msg ∈ client.outbox.tail, msg.kind ≠ .connect
  kinds : ∀ msg ∈ client.outbox, msg.kind ≠ .grantDecline
  leaves : (∃ msg ∈ client.outbox, msg.kind = .disconnect) → client.closed = true
  done : client.closed = true → client.control = .done

/-- The control thread and its connections. The ring will have the generation that the
control thread has in mind once all its effects have happened. -/
structure Wired (w : World) : Prop where
  coherent : w.server.arbiter.Coherent
  tracks : ∃ used used', w.todo.foldlM stamp (w.ring.generation, used) =
    some (w.server.ring.generation, used')
  distinct : w.server.table.Distinct
  accepted : ∀ i, (w.server.table.slots i).inUse = true → ∃ c : Nat,
    (w.server.table.slots i).ctrlFd = c ∧ (w.clients c).accepted = true
  sane : ∀ c, (w.clients c).Sane
  orderly : ∀ c, Orderly (w.clients c) (w.session c)

/-- The messages that a handler sends to a connection. -/
def sent (w : World) (ev : Event) (c : Nat) : List ServerMsg :=
  (w.attentive.quiesce.handle ev).out.filterMap (Effect.sentTo c)

/-- The session of a connection after a handler. -/
def after (w : World) (ev : Event) (c : Nat) : Option SessionState :=
  (w.attentive.quiesce.handle ev).table.session c

/-- What an event handled by the control thread is for one client: the messages sent to it,
and what becomes of its session and of its end of the connection. -/
inductive Served (client : Client) (state : Option SessionState) (sent : List ServerMsg)
    (client' : Client) (state' : Option SessionState) : Prop where
  | apart (same : client' = client) (exchange : Exchange state sent state')
      (mute : state = some .connected →
        (∀ msg ∈ sent, msg.grant = none) ∧ state' = some .connected)
      (present : state ≠ none → state' ≠ none) (absent : state = none → sent = [] ∧ state' = none)
  | accepted (same : client' = { client with accepted := true })
      (first : client.accepted = false) (before : state = none) (silent : sent = [])
      (after : state' = none ∨ state' = some .connected)
  | introduced (msg : ClientMsg) (rest : List ClientMsg) (outbox : client.outbox = msg :: rest)
      (same : client' = { client with outbox := rest }) (named : msg.kind = .connect)
      (before : state = some .connected) (reply : ∃ answer, sent = [answer] ∧ answer.replies = true)
      (after : state' = none ∨ state' = some .negotiated)
  | spoken (msg : ClientMsg) (rest : List ClientMsg) (outbox : client.outbox = msg :: rest)
      (same : client' = { client with outbox := rest }) (named : msg.kind ≠ .connect)
      (before : state ≠ none) (exchange : Exchange state sent state')
      (mute : state = some .connected →
        (∀ msg ∈ sent, msg.grant = none) ∧ (state' = none ∨ state' = some .connected))
      (present : msg.kind ≠ .disconnect → state' ≠ none)
      (ready : msg.kind = .readyForRt → state' ≠ some .grantedWarmup)
  | ended (same : client' = client) (closed : client.closed = true) (outbox : client.outbox = [])
      (before : state ≠ none) (exchange : Exchange state sent state')

/-- Reading from a connection changes nothing but the queue it is read from. -/
theorem Served.unchanged {client client' : Client} {state state' : Option SessionState}
    {sent : List ServerMsg} (served : Served client state sent client' state') :
    client'.inbox = client.inbox ∧ client'.control = client.control ∧ client'.app = client.app ∧
      client'.active = client.active ∧ client'.closed = client.closed := by
  cases served with
  | apart same | accepted same | ended same =>
      rw [same]
      exact ⟨rfl, rfl, rfl, rfl, rfl⟩
  | introduced msg rest outbox same | spoken msg rest outbox same =>
      rw [same]
      exact ⟨rfl, rfl, rfl, rfl, rfl⟩

/-- The sockets offer the next message, or the end of the stream. -/
theorem consumed_spec {client client' : Client} {received : Received}
    (took : consumed client received = some client') :
    (∃ msg rest, client.outbox = msg :: rest ∧
        received = .message msg.kind.toByte msg.payload msg.fds ∧
        client' = { client with outbox := rest }) ∨
      received = .closed ∧ client.closed = true ∧ client.outbox = [] ∧ client' = client := by
  unfold consumed at took
  split at took
  · rename_i offered
    obtain ⟨msg, first, rfl⟩ := Option.map_eq_some_iff.mp offered
    obtain ⟨rest, outbox⟩ : ∃ rest, client.outbox = msg :: rest := List.head?_eq_some_iff.mp first
    cases took
    exact .inl ⟨msg, rest, outbox, rfl, by rw [outbox]; rfl⟩
  · obtain ⟨⟨ended, closed, outbox⟩, same⟩ := Option.ite_none_right_eq_some.mp took
    cases same
    exact .inr ⟨ended, closed, outbox, rfl⟩

theorem toByte_inj {a b : MsgKind} (same : a.toByte = b.toByte) : a = b := by
  have named := congrArg MsgKind.ofByte same
  rw [MsgKind.ofByte_toByte, MsgKind.ofByte_toByte] at named
  exact Option.some.inj named

/-- An event that reads a message of this kind reads it from this slot. -/
theorem kind_of_arrival {msg : ClientMsg} {i j : Slot} {clock clock' : Timespec} {kind : MsgKind}
    {payload : List UInt8} {fds : List Int}
    (same : msg.arrival i clock = .readable j (.message kind.toByte payload fds) clock') :
    msg.kind = kind := by
  obtain ⟨-, received, -⟩ := Event.readable.inj same
  exact toByte_inj (Received.message.inj received).1

namespace Wired

variable {w next : World} {ev : Event}

/-- When the control thread has caught up, it sees the generation it has in mind. -/
theorem attentive_coherent (wired : Wired w) (settled : w.todo = []) :
    w.attentive.arbiter.Coherent := by
  obtain ⟨used, used', stamped⟩ := wired.tracks
  rw [settled] at stamped
  have same : w.ring.generation = w.server.ring.generation := by
    have pair := Option.some.inj stamped
    exact congrArg Prod.fst pair
  have arbiter : w.attentive.arbiter = w.server.arbiter := by
    show { w.server.arbiter with generation := w.ring.generation } = w.server.arbiter
    rw [same]
    rfl
  rw [arbiter]
  exact wired.coherent

/-- The client behind a slot, from which an event has read a message. -/
theorem client_of_slot (wired : Wired w) {i : Slot}
    (inUse : (w.server.table.slots i).inUse = true) :
    ∃ c : Nat, (w.server.table.slots i).ctrlFd = c ∧
      w.session c = some (w.server.table.slots i).state := by
  obtain ⟨c, ctrlFd, -⟩ := wired.accepted i inUse
  exact ⟨c, ctrlFd, SessionTable.session_of_slot wired.distinct inUse ctrlFd⟩

/-- An event of a client takes its input from that client alone. -/
theorem read_spec {fed : World} {i : Slot} {c : Nat} {received : Received} {clock : Timespec}
    (ctrlFd : (w.server.table.slots i).ctrlFd = c)
    (took : w.feed (.readable i received clock) = some fed) :
    ∃ client, consumed (w.clients c) received = some client ∧ fed = w.setClient c client := by
  simp only [feed, ctrlFd] at took
  rw [if_neg (by omega), Int.toNat_natCast] at took
  obtain ⟨client, consumed, rfl⟩ := Option.map_eq_some_iff.mp took
  exact ⟨client, consumed, rfl⟩

theorem hangup_spec {fed : World} {i : Slot} {c : Nat} {clock : Timespec}
    (ctrlFd : (w.server.table.slots i).ctrlFd = c)
    (took : w.feed (.hangup i clock) = some fed) :
    (w.clients c).closed = true ∧ (w.clients c).outbox = [] ∧
      fed = w.setClient c (w.clients c) := by
  simp only [feed, ctrlFd] at took
  rw [if_neg (by omega), Int.toNat_natCast] at took
  obtain ⟨client, consumed, rfl⟩ := Option.map_eq_some_iff.mp took
  rcases consumed_spec consumed with ⟨msg, rest, -, other, -⟩ | ⟨-, closed, outbox, rfl⟩
  · cases other
  · exact ⟨closed, outbox, rfl⟩

section Input

variable {fed : World} (wired : Wired w) (on : ev.enabled w.attentive = true)
variable (took : w.feed ev = some fed)

include wired on took

/-- CONNECT is the first thing the server reads from a connection. -/
theorem connected_of_connects {i : Slot} (connects : ControlPlane.Event.Connects i ev) :
    (w.server.table.slots i).state = .connected := by
  obtain ⟨payload, fds, clock, rfl⟩ := connects
  obtain ⟨c, ctrlFd, found⟩ := wired.client_of_slot on
  obtain ⟨client, consumed, -⟩ := read_spec ctrlFd took
  rcases consumed_spec consumed with ⟨msg, rest, outbox, same, -⟩ | ⟨ended, -, -⟩
  · have named : MsgKind.connect = msg.kind := toByte_inj (Received.message.inj same).1
    have first := (wired.orderly c).hello (.inr ⟨msg, by simp [outbox], named.symm⟩)
    rcases first with missing | connected
    · rw [found] at missing
      cases missing
    · rw [found] at connected
      exact Option.some.inj connected
  · cases ended

/-- No client declines a grant. -/
theorem not_declines : ¬ ControlPlane.Event.Declines ev := by
  rintro ⟨i, payload, fds, clock, rfl⟩
  obtain ⟨c, ctrlFd, -⟩ := wired.client_of_slot on
  obtain ⟨client, consumed, -⟩ := read_spec ctrlFd took
  rcases consumed_spec consumed with ⟨msg, rest, outbox, same, -⟩ | ⟨ended, -, -⟩
  · have named : MsgKind.grantDecline = msg.kind := toByte_inj (Received.message.inj same).1
    exact (wired.orderly c).kinds msg (by simp [outbox]) named.symm
  · cases ended

end Input

section Handled

variable {fed : World} (wired : Wired w) (settled : w.todo = [])
variable (on : ev.enabled w.attentive = true)
variable (took : w.feed ev = some fed) (arrived : ∀ fd, ev ≠ .accept fd) {c : Nat}

include wired settled on took arrived

/-- An event between the server and others. -/
theorem served_apart (foreign : ∀ i, (w.server.table.slots i).ctrlFd = c →
      ¬ ControlPlane.Event.Connects i ev ∧ ¬ ControlPlane.Event.Drops i ev) :
    Served (w.clients c) (w.session c) (sent w ev c) (w.clients c) (after w ev c) := by
  have coh := wired.attentive_coherent settled
  have declines := wired.not_declines on took
  have once (i : Slot) (connects : ControlPlane.Event.Connects i ev) :
      (w.attentive.table.slots i).state = .connected := wired.connected_of_connects on took connects
  obtain ⟨exchange, mute⟩ := ControlPlane.exchange_handle coh on arrived declines wired.distinct
    fun i same => (foreign i same).1
  have present := ControlPlane.session_handle_ne_none coh on once wired.distinct arrived declines
    foreign
  refine .apart rfl exchange (fun connected => ?_) present fun missing => ?_
  · obtain ⟨quiet, stays⟩ := mute connected
    refine ⟨quiet, stays.resolve_left (present ?_)⟩
    show w.session c ≠ none
    rw [connected]
    simp
  · exact (ControlPlane.keeps_handle coh on arrived declines).absent missing

end Handled

section Own

variable {fed : World} {i : Slot} {c : Nat} {msg : ClientMsg} {rest : List ClientMsg}
variable {clock : Timespec} (wired : Wired w) (settled : w.todo = [])
variable (inUse : (w.server.table.slots i).inUse = true)
variable (ctrlFd : (w.server.table.slots i).ctrlFd = c)
variable (outbox : (w.clients c).outbox = msg :: rest)
variable (took : w.feed (msg.arrival i clock) = some fed)

include wired settled inUse ctrlFd outbox took

/-- The server reads the CONNECT of a client. -/
theorem served_introduced (named : msg.kind = .connect) :
    Served (w.clients c) (w.session c) (sent w (msg.arrival i clock) c)
      { w.clients c with outbox := rest } (after w (msg.arrival i clock) c) := by
  have coh := wired.attentive_coherent settled
  have arrived (fd : Int) : msg.arrival i clock ≠ .accept fd := by simp [ClientMsg.arrival]
  have connects : ControlPlane.Event.Connects i (msg.arrival i clock) :=
    ⟨msg.payload, msg.fds, clock, by rw [ClientMsg.arrival, named]⟩
  have on : (msg.arrival i clock).enabled w.attentive = true := inUse
  have connected := wired.connected_of_connects on took connects
  have keeps := ControlPlane.keeps_handle coh on arrived (wired.not_declines on took)
  have handled : w.attentive.quiesce.handle (msg.arrival i clock) =
      w.attentive.quiesce.handleConnect i (ControlPlane.connectOf msg.payload) clock := by
    simp [ClientMsg.arrival, named, ControlPlane.handle, ControlPlane.handleReadable]
  have answered := ControlPlane.answered_handleConnect w.attentive.quiesce i
    (ControlPlane.connectOf msg.payload) clock
  rw [← handled] at answered
  refine .introduced msg rest outbox rfl named ?_ ?_ ?_
  · rw [← connected]
    exact SessionTable.session_of_slot wired.distinct inUse ctrlFd
  · obtain ⟨answer, others, out, replies, silent⟩ := answered.reply
    refine ⟨answer, ?_, replies⟩
    have nothing : others.filterMap (Effect.sentTo c) = [] := by
      rw [List.filterMap_eq_nil_iff]
      intro effect member
      cases effect with
      | send j fd msg => exact absurd member (silent j fd msg)
      | _ => rfl
    show (w.attentive.quiesce.handle _).out.filterMap _ = _
    rw [out]
    show (Effect.send i (w.server.table.slots i).ctrlFd answer :: others).filterMap _ = _
    rw [List.filterMap_cons, ctrlFd, nothing]
    simp [Effect.sentTo]
  · have same := keeps.session wired.distinct inUse
    rw [show (w.attentive.table.slots i).ctrlFd = c from ctrlFd] at same
    show (w.attentive.quiesce.handle _).table.session c = none ∨ _
    unfold after
    rw [same]
    split
    · exact .inr (congrArg some (answered.negotiated ‹_›).2)
    · exact .inl rfl

/-- The server reads any other message of a client. -/
theorem served_spoken (named : msg.kind ≠ .connect) :
    Served (w.clients c) (w.session c) (sent w (msg.arrival i clock) c)
      { w.clients c with outbox := rest } (after w (msg.arrival i clock) c) := by
  have coh := wired.attentive_coherent settled
  have arrived (fd : Int) : msg.arrival i clock ≠ .accept fd := by simp [ClientMsg.arrival]
  have on : (msg.arrival i clock).enabled w.attentive = true := inUse
  have declines := wired.not_declines on took
  have once (j : Slot) (connects : ControlPlane.Event.Connects j (msg.arrival i clock)) :
      (w.attentive.table.slots j).state = .connected := wired.connected_of_connects on took connects
  have keeps := ControlPlane.keeps_handle coh on arrived declines
  have found : w.session c = some (w.server.table.slots i).state :=
    SessionTable.session_of_slot wired.distinct inUse ctrlFd
  have notConnects (j : Slot) : ¬ ControlPlane.Event.Connects j (msg.arrival i clock) := by
    rintro ⟨payload, fds, clock', same⟩
    exact named (kind_of_arrival same)
  have present : w.session c ≠ none := by simp [found]
  obtain ⟨exchange, mute⟩ := ControlPlane.exchange_handle coh on arrived declines wired.distinct
    fun j (_ : (w.attentive.table.slots j).ctrlFd = c) => notConnects j
  refine .spoken msg rest outbox rfl named present exchange mute ?_ ?_
  · intro stays
    refine ControlPlane.session_handle_ne_none coh on once wired.distinct arrived declines
      (fun j _ => ⟨notConnects j, ?_⟩) present
    rintro (⟨clock', same⟩ | ⟨clock', same⟩ | ⟨payload, fds, clock', same⟩)
    · cases same
    · cases same
    · exact stays (kind_of_arrival same)
  · intro ready warm
    have same := keeps.session wired.distinct inUse
    rw [show (w.attentive.table.slots i).ctrlFd = c from ctrlFd] at same
    unfold after at warm
    rw [same] at warm
    split at warm
    · rename_i used
      have reads : msg.arrival i clock =
          .readable i (.message MsgKind.readyForRt.toByte msg.payload msg.fds) clock := by
        rw [ClientMsg.arrival, ready]
      exact ControlPlane.state_of_ready coh on once reads used (Option.some.inj warm)
    · cases warm

end Own

/-- A descriptor that has not been accepted is not in the table. -/
theorem admit_spec {fed : World} {fd : Int} (wired : Wired w) (valid : 0 ≤ fd)
    (took : w.feed (.accept fd) = some fed) :
    (w.clients fd.toNat).accepted = false ∧ w.server.table.session fd = none ∧
      fed = w.setClient fd.toNat { w.clients fd.toNat with accepted := true } := by
  simp only [feed] at took
  rw [if_neg (Int.not_lt.mpr valid)] at took
  obtain ⟨client, admits, rfl⟩ := Option.map_eq_some_iff.mp took
  obtain ⟨⟨-, first⟩, same⟩ := Option.ite_none_right_eq_some.mp admits
  cases same
  refine ⟨Bool.eq_false_iff.mpr first, ?_, rfl⟩
  refine SessionTable.session_eq_none.mpr fun i inUse ctrlFd => first ?_
  obtain ⟨d, known, accepted⟩ := wired.accepted i inUse
  obtain rfl : d = fd.toNat := by omega
  exact accepted

/-- The server takes a new connection. -/
theorem served_accept {fed : World} {fd : Int} (wired : Wired w)
    (took : w.feed (.accept fd) = some fed) (c : Nat) :
    Served (w.clients c) (w.session c) (sent w (.accept fd) c) (fed.clients c)
      (after w (.accept fd) c) := by
  obtain ⟨silent, table⟩ := w.attentive.handleAccept_spec fd
  have nothing : sent w (.accept fd) c = [] := by
    refine List.filterMap_eq_nil_iff.mpr fun effect member => ?_
    cases effect with
    | send j fd msg => exact absurd member (silent j fd msg)
    | _ => rfl
  have apart (same : fed.clients c = w.clients c) (kept : after w (.accept fd) c = w.session c) :
      Served (w.clients c) (w.session c) (sent w (.accept fd) c) (fed.clients c)
        (after w (.accept fd) c) := by
    rw [nothing, kept]
    exact .apart same (.refl _) (fun connected => ⟨by simp, connected⟩) id fun missing =>
      ⟨rfl, missing⟩
  by_cases valid : 0 ≤ fd
  · obtain ⟨first, missing, rfl⟩ := wired.admit_spec valid took
    by_cases own : (c : Int) = fd
    · subst own
      refine .accepted (setClient_same _ _ _) first missing nothing ?_
      rcases table with kept | ⟨-, idx, session, unused, ctrlFd, inUse, connected, entered⟩
      · exact .inl ((congrArg (SessionTable.session · _) kept).trans missing)
      · right
        have own : ((w.attentive.table.setSlot idx session).slots idx) = session :=
          Function.update_self ..
        have found : (w.attentive.table.setSlot idx session).session c =
            some ((w.attentive.table.setSlot idx session).slots idx).state := by
          refine SessionTable.session_of_slot
            (SessionTable.Distinct.setSlot (ctrlFd ▸ missing) wired.distinct) ?_ ?_
          · rw [own]
            exact inUse
          · rw [own]
            exact ctrlFd
        show (w.attentive.quiesce.handleAccept c).table.session _ = _
        rw [entered, found, own, connected]
    · refine apart (setClient_other _ _ _ (by omega)) ?_
      rcases table with kept | ⟨-, idx, session, unused, ctrlFd, -, -, entered⟩
      · exact congrArg (SessionTable.session · c) kept
      · show (w.attentive.quiesce.handleAccept fd).table.session _ = _
        rw [entered]
        exact SessionTable.session_setSlot_of_ne (ctrlFd ▸ missing) wired.distinct unused
          (by omega)
  · have same : fed = w := by
      simp only [feed] at took
      rw [if_pos (Int.not_le.mp valid)] at took
      exact (Option.some.inj took).symm
    refine apart (by rw [same]) ?_
    rcases table with kept | ⟨other, -⟩
    · exact congrArg (SessionTable.session · c) kept
    · exact absurd other valid

/-- The list is complete. -/
theorem served_of_serve (wired : Wired w) (taken : w.serve ev = some next) (c : Nat) :
    Served (w.clients c) (w.session c) (next.tidings c) (next.clients c) (next.session c) := by
  obtain ⟨settled, fed, server, took, moved, rfl⟩ := serve_eq_some taken
  obtain ⟨on, rfl⟩ := ControlPlane.step_eq_some.mp moved
  show Served (w.clients c) (w.session c) (sent w ev c) (fed.clients c) (after w ev c)
  cases ev with
  | accept fd => exact wired.served_accept took c
  | readable i received clock =>
      obtain ⟨d, ctrlFd, found⟩ := wired.client_of_slot on
      obtain ⟨client, consumed, rfl⟩ := read_spec ctrlFd took
      by_cases own : c = d
      · subst own
        rw [setClient_same]
        rcases consumed_spec consumed with
          ⟨msg, rest, outbox, rfl, rfl⟩ | ⟨rfl, closed, outbox, rfl⟩
        · by_cases named : msg.kind = .connect
          · exact wired.served_introduced settled on ctrlFd outbox took named
          · exact wired.served_spoken settled on ctrlFd outbox took named
        · have coh := wired.attentive_coherent settled
          obtain ⟨exchange, -⟩ := ControlPlane.exchange_handle coh on (by simp)
            (wired.not_declines on took) wired.distinct
            fun j (_ : (w.attentive.table.slots j).ctrlFd = c) ⟨payload, fds, clock', same⟩ => by
              cases same
          exact .ended rfl closed outbox (by simp [found]) exchange
      · rw [setClient_other _ _ _ own]
        refine wired.served_apart settled on took (by simp) fun j same => ?_
        have other : j ≠ i := by
          rintro rfl
          exact own (Int.ofNat_inj.mp (same.symm.trans ctrlFd))
        constructor
        · rintro ⟨payload, fds, clock', equal⟩
          exact other (Event.readable.inj equal).1.symm
        · rintro (⟨clock', equal⟩ | ⟨clock', equal⟩ | ⟨payload, fds, clock', equal⟩)
          · cases equal
          · exact other (Event.readable.inj equal).1.symm
          · exact other (Event.readable.inj equal).1.symm
  | hangup i clock =>
      obtain ⟨d, ctrlFd, found⟩ := wired.client_of_slot on
      obtain ⟨closed, outbox, rfl⟩ := hangup_spec ctrlFd took
      have connects (j : Slot) : ¬ ControlPlane.Event.Connects j (.hangup i clock) := by
        rintro ⟨payload, fds, clock', same⟩
        cases same
      by_cases own : c = d
      · subst own
        rw [setClient_same]
        have coh := wired.attentive_coherent settled
        obtain ⟨exchange, -⟩ := ControlPlane.exchange_handle coh on (by simp)
          (wired.not_declines on took) wired.distinct
          fun j (_ : (w.attentive.table.slots j).ctrlFd = c) => connects j
        exact .ended rfl closed outbox (by simp [found]) exchange
      · rw [setClient_other _ _ _ own]
        refine wired.served_apart settled on took (by simp) fun j same => ⟨connects j, ?_⟩
        rintro (⟨clock', equal⟩ | ⟨clock', equal⟩ | ⟨payload, fds, clock', equal⟩)
        · cases equal
          exact own (Int.ofNat_inj.mp (same.symm.trans ctrlFd))
        · cases equal
        · cases equal
  | list | switch | tick =>
      cases took
      refine wired.served_apart settled on rfl (by simp) fun j _ => ⟨?_, ?_⟩
      · rintro ⟨payload, fds, clock', same⟩
        cases same
      · rintro (⟨clock', equal⟩ | ⟨clock', equal⟩ | ⟨payload, fds, clock', equal⟩) <;> cases equal

end Wired

end World

end Wisp
