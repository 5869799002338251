import Wisp.System.Threads

/-!
# What a client of the admin socket gets

The admin thread serves one connection at a time, and hands its request over to the control
thread. What has happened on a connection is recorded: what was received, between which two
states of the control plane the query was answered, what was sent, and how often the descriptor
was closed.

A request is answered at one moment between its arrival and the reply, with what the control
plane was then. Anything else than a request is closed without an answer.
-/

namespace Wisp

open Transition System
open ControlPlane (Received)

namespace ControlPlane

variable {cp : ControlPlane}

/-- What the admin plane is told about a slot. -/
def adminInfo (cp : ControlPlane) (i : Slot) : AdminClientInfo where
  clientId := (cp.table.slots i).clientId.strncpy
  state := translateState (cp.table.slots i).state
  negotiatedMode := (cp.table.slots i).negotiatedMode
  payloadKind := (cp.table.slots i).payloadKind

/-- The entries of all slots in use. -/
def directory (cp : ControlPlane) : List AdminClientInfo :=
  ((List.finRange sessionMaxClients).filter fun i => (cp.table.slots i).inUse).map cp.adminInfo

/-- What a query does to the control plane, and how it is answered. A list leaves nobody out. A
switch that is accepted is done, on its way to the client, or next in line; one that is not
accepted changes nothing. -/
inductive Settles (before after : ControlPlane) : ControlQuery → ControlReply → Prop where
  | list (same : after.table = before.table) :
      Settles before after .list (.list before.directory)
  | unknown {id : ClientId} (absent : before.table.findByClientId id = none)
      (same : after.table = before.table) :
      Settles before after (.switch id) (.switch false "app not connected")
  | active {id : ClientId} {idx : Slot} (named : before.table.findByClientId id = some idx)
      (active : (before.table.slots idx).state = .activeRt) (same : after.table = before.table) :
      Settles before after (.switch id) (.switch true "")
  | unable {id : ClientId} {idx : Slot} (named : before.table.findByClientId id = some idx)
      (inactive : (before.table.slots idx).state ≠ .activeRt)
      (busy : (before.table.slots idx).state ≠ .negotiated ∧
        (before.table.slots idx).state ≠ .queued) (same : after.table = before.table) :
      Settles before after (.switch id) (.switch false "app not in a switchable state")
  | granted {id : ClientId} {idx : Slot} (named : before.table.findByClientId id = some idx)
      (able : (before.table.slots idx).state = .negotiated ∨
        (before.table.slots idx).state = .queued)
      (due : after.pendingGrantTarget = some idx ∨
        (after.table.slots idx).state = .grantedWarmup) :
      Settles before after (.switch id) (.switch true "")

theorem Settles.answers {after : ControlPlane} {query : ControlQuery} {reply : ControlReply}
    (settles : Settles cp after query reply) : reply.answers query = true := by
  cases settles <;> rfl

theorem answerOf_append (before after : List Effect) :
    answerOf (before ++ after) = (answerOf before).or (answerOf after) :=
  List.findSome?_append

/-- Granting the slot answers nobody. -/
theorem answerOf_grantSlot (idx : Slot) (clock : Timespec) :
    answerOf (cp.grantSlot idx clock).out = answerOf cp.out := by
  have granted : answerOf (cp.doGrant idx).out = answerOf cp.out := by
    by_cases attached : cp.dp = true <;>
      simp [doGrant, evictClient, send, emit, attached, answerOf_append] <;> exact Option.or_none
  have evicted (prev : Slot) :
      answerOf (cp.beginEviction prev idx clock).out = answerOf cp.out := by
    simp only [beginEviction, send, emit, answerOf_append]
    exact Option.or_none
  unfold grantSlot
  split
  · split
    · exact evicted _
    · split
      · rfl
      · exact granted
  · split
    · rfl
    · exact granted

/-- The slot is granted at once, or its grant is pending. -/
theorem due_of_grantSlot (idx : Slot) (clock : Timespec) :
    (cp.grantSlot idx clock).pendingGrantTarget = some idx ∨
      ((cp.grantSlot idx clock).table.slots idx).state = .grantedWarmup := by
  have granted : ((cp.doGrant idx).table.slots idx).state = .grantedWarmup := by
    by_cases attached : cp.dp = true <;>
      simp [doGrant, evictClient, send, emit, attached, SessionTable.grant, SessionTable.setSlot]
  unfold grantSlot
  split
  · split
    · exact .inl rfl
    · split
      · exact .inl rfl
      · exact .inr granted
  · split
    · exact .inl rfl
    · exact .inr granted

/-- The handler of a query answers it. -/
theorem settles_of_drainAdminQuery (cp : ControlPlane) (query : ControlQuery) (clock : Timespec) :
    ∃ reply, answerOf (cp.quiesce.drainAdminQuery (some query) clock).out = some reply ∧
      Settles cp (cp.quiesce.drainAdminQuery (some query) clock) query reply := by
  cases query with
  | list =>
      have whole : ((List.finRange sessionMaxClients).filter fun i =>
          (cp.table.slots i).inUse).length ≤ adminMaxClients :=
        Nat.le_trans (List.length_filter_le ..) (by decide)
      refine ⟨.list cp.directory, ?_, .list rfl⟩
      simp only [drainAdminQuery, handleListQuery, quiesce_table, List.take_of_length_le whole]
      rfl
  | switch id =>
      unfold drainAdminQuery handleSwitchQuery
      dsimp only
      split
      · rename_i absent
        exact ⟨_, rfl, .unknown absent rfl⟩
      · rename_i idx named
        split
        · rename_i active
          exact ⟨_, rfl, .active named active rfl⟩
        · rename_i inactive
          split
          · rename_i busy
            exact ⟨_, rfl, .unable named inactive busy rfl⟩
          · rename_i able
            refine ⟨.switch true "", ?_, .granted named ?_ ?_⟩
            · simp only [emit, answerOf_append, answerOf_grantSlot]
              rfl
            · rw [← Decidable.not_not (p := _ ∨ _), not_or]
              exact able
            · exact due_of_grantSlot idx clock

end ControlPlane

/-- A connection of the admin socket: what was received on it, between which states of the
control plane a query was answered, what was sent, and how often it was closed. -/
structure Visit where
  received : List Received
  settled : List (ControlQuery × ControlPlane × ControlPlane)
  sent : List SendPc
  closes : Nat

/-- The query that stands for a message, if it is a request. -/
def requested (received : Received) : Option ControlQuery :=
  match handleConnection 0 received with
  | .submit _ query => some query
  | _ => none

namespace Visit

/-- The connection has been accepted. -/
def begun : Visit := ⟨[], [], [], 0⟩

/-- All that ever happens on a connection, in this order: a message, the answer of the control
plane if it is a request, the reply, and the close. -/
inductive Complete : Visit → Prop where
  | dropped {received : Received} (unasked : requested received = none) :
      Complete ⟨[received], [], [], 1⟩
  | answered {received : Received} {query : ControlQuery} {before after : ControlPlane}
      {reply : ControlReply} (asked : requested received = some query)
      (settles : before.Settles after query reply) :
      Complete ⟨[received], [(query, before, after)], [reply.send], 1⟩

/-- The connection is being served. -/
inductive Underway : Visit → Prop where
  | begun : Underway begun
  | asked {received : Received} {query : ControlQuery} (asked : requested received = some query) :
      Underway ⟨[received], [], [], 0⟩
  | settled {received : Received} {query : ControlQuery} {before after : ControlPlane}
      {reply : ControlReply} (asked : requested received = some query)
      (settles : before.Settles after query reply) :
      Underway ⟨[received], [(query, before, after)], [], 0⟩
  | closing {visit : Visit} (unclosed : visit.closes = 0)
      (complete : Complete { visit with closes := 1 }) : Underway visit

end Visit

/-- Add to the record of the connection that is being served. -/
def amend (f : Visit → Visit) : List Visit → List Visit
  | [] => []
  | visit :: earlier => f visit :: earlier

namespace Server

/-- Keep a record of the connections, the last one first. -/
def note (visits : List Visit) (s : Server) (e : ServerEvent) (t : Server) : List Visit :=
  match e with
  | .adminAccept fd => if fd < 0 then visits else .begun :: visits
  | .adminRecv received =>
      amend (fun v => { v with received := v.received ++ [received] }) visits
  | .controlDrain _ =>
      match s.chan.drain with
      | .fill n =>
          amend (fun v => { v with
            settled := v.settled ++ [(s.chan.query n, s.control.loop.cp, t.control.loop.cp)] })
            visits
      | _ => visits
  | .adminSent =>
      match s.admin.pc with
      | .serve (.send _ pc) => amend (fun v => { v with sent := v.sent ++ [pc] }) visits
      | _ => visits
  | .adminClose => amend (fun v => { v with closes := v.closes + 1 }) visits
  | _ => visits

/-- How far the admin thread has come with a connection. -/
inductive Serves (s : Server) (phase : Rendezvous.Phase) : Visit → Prop where
  | reads {fd : Int} (stands : s.admin.pc = .serve (.recv fd)) : Serves s phase .begun
  | asks {fd : Int} {query : ControlQuery} {received : Received}
      (stands : s.admin.pc = .serve (.submit fd query)) (asked : requested received = some query)
      (open' : phase.replied = false)
      (same : phase ≠ .quiet → s.chan.query s.chan.serial = query) :
      Serves s phase ⟨[received], [], [], 0⟩
  | waits {fd : Int} {query : ControlQuery} {received : Received} {before after : ControlPlane}
      {reply : ControlReply} (stands : s.admin.pc = .serve (.submit fd query))
      (asked : requested received = some query) (settled : phase.replied = true)
      (known : s.chan.response s.chan.serial = some reply)
      (settles : before.Settles after query reply) :
      Serves s phase ⟨[received], [(query, before, after)], [], 0⟩
  | sends {fd : Int} {query : ControlQuery} {received : Received} {before after : ControlPlane}
      {reply : ControlReply} (stands : s.admin.pc = .serve (.send fd reply.send))
      (asked : requested received = some query) (settles : before.Settles after query reply) :
      Serves s phase ⟨[received], [(query, before, after)], [], 0⟩
  | closes {fd : Int} {visit : Visit} (stands : s.admin.pc = .serve (.close fd))
      (unclosed : visit.closes = 0) (complete : Visit.Complete { visit with closes := 1 }) :
      Serves s phase visit

/-- The admin thread serves nobody. -/
def Vacant (s : Server) : Prop :=
  ∀ pc, s.admin.pc = .serve pc → pc = .poll

/-- The connections that have been accepted: the last one may still be served. -/
inductive Conducts (s : Server) : List Visit → Prop where
  | vacant {visits : List Visit} (vacant : s.Vacant) (complete : ∀ v ∈ visits, v.Complete) :
      Conducts s visits
  | serves {phase : Rendezvous.Phase} {visit : Visit} {earlier : List Visit}
      (fits : s.Fits phase) (serves : Serves s phase visit)
      (complete : ∀ v ∈ earlier, v.Complete) : Conducts s (visit :: earlier)

variable {s t : Server} {e : ServerEvent} {phase phase' : Rendezvous.Phase} {visits : List Visit}

theorem eq_of_stands {r : Rendezvous} (first : r.Stands phase) (second : r.Stands phase') :
    phase = phase' := by
  have submit := first.submit.symm.trans second.submit
  have drain := first.drain.symm.trans second.drain
  have pipe := first.pipe.symm.trans second.pipe
  cases phase <;> cases phase' <;>
    simp_all [Rendezvous.Phase.submit, Rendezvous.Phase.drain, Rendezvous.Phase.pipe]

/-- A handler is told what kind of message has arrived. -/
theorem handleConnection_eq (fd : Int) (received : Received) :
    handleConnection fd received =
      match requested received with
      | some query => .submit fd query
      | none => .close fd := by
  unfold requested handleConnection
  split <;> try rfl
  split <;> try rfl
  split <;> rfl

/-- Nothing that the record is about has changed. -/
theorem Conducts.keep (conducts : Conducts s visits) (good : t.Good) (chan : t.chan = s.chan)
    (pc : t.admin.pc = s.admin.pc) : Conducts t visits := by
  cases conducts with
  | vacant vacant complete => exact .vacant (fun _ stands => vacant _ (pc ▸ stands)) complete
  | @serves phase visit earlier fits serves complete =>
      obtain ⟨phase', fits'⟩ := good.fits
      obtain rfl := eq_of_stands (chan ▸ fits.stands) fits'.stands
      refine .serves fits' ?_ complete
      cases serves with
      | reads stands => exact .reads (pc.trans stands)
      | asks stands asked early same => exact .asks (pc.trans stands) asked early (chan ▸ same)
      | waits stands asked settled known settles =>
          exact .waits (pc.trans stands) asked settled (chan ▸ known) settles
      | sends stands asked settles => exact .sends (pc.trans stands) asked settles
      | closes stands unclosed complete => exact .closes (pc.trans stands) unclosed complete

/-- The admin thread takes a step outside the rendezvous. -/
theorem Conducts.admin {backlog : Nat} {pc : AdminLoopPc} (conducts : Conducts s visits)
    (good : Server.Good { s with admin := { s.admin with backlog, pc } })
    (goes : AdminGoes s.admin e pc) :
    Conducts { s with admin := { s.admin with backlog, pc } } (note visits s e t) := by
  obtain ⟨phase', fits'⟩ := good.fits
  cases conducts with
  | vacant vacant complete =>
      cases goes with
      | received stands => cases vacant _ stands
      | sent stands => cases vacant _ stands
      | closed stands => cases vacant _ stands
      | accepted stands valid =>
          rw [note, if_neg valid]
          exact .serves fits' (.reads rfl) complete
      | refused stands failed =>
          rw [note, if_pos failed]
          exact .vacant nofun complete
      | enters => exact .vacant (fun _ same => by cases same; rfl) complete
      | _ => exact .vacant nofun complete
  | @serves phase visit earlier fits serves complete =>
      have same := eq_of_stands fits.stands fits'.stands
      cases goes with
      | @received fd received stands =>
          obtain rfl := fits.quiet (by simp [stands])
          cases serves with
          | reads =>
              refine .serves fits' ?_ complete
              have answers := handleConnection_eq fd received
              cases asked : requested received with
              | some query =>
                  rw [asked] at answers
                  exact .asks (congrArg AdminLoopPc.serve answers) asked (same ▸ rfl)
                    fun busy => absurd same.symm busy
              | none =>
                  rw [asked] at answers
                  exact .closes (congrArg AdminLoopPc.serve answers) rfl (.dropped asked)
          | _ => simp_all
      | @sent fd pc stands =>
          cases serves with
          | @sends fd' _ _ _ _ _ stands' asked settles =>
              cases stands.symm.trans stands'
              rw [note, stands]
              exact .serves fits' (.closes rfl rfl (.answered asked settles)) complete
          | _ => simp_all
      | closed stands =>
          cases serves with
          | closes stands' unclosed done =>
              refine .vacant nofun fun v member => ?_
              rcases List.mem_cons.mp member with rfl | member
              · dsimp only
                rw [unclosed]
                exact done
              · exact complete v member
          | _ => simp_all
      | _ => cases serves <;> simp_all

/-- A step of the rendezvous in which no query is answered. -/
theorem Conducts.exchange {ev : RendezvousEvent} {chan : Rendezvous} (conducts : Conducts s visits)
    (next : t.Good) (pc : t.admin.pc = s.admin.pc) (moved : t.chan = chan)
    (taken : s.chan.step ev = some chan)
    (own : ev ≠ .observe ∧ ∀ reply, ev ≠ .fill reply)
    (asks : ∀ query, ev = .submit query → ∃ fd, s.admin.pc = .serve (.submit fd query)) :
    Conducts t visits := by
  cases conducts with
  | vacant vacant complete => exact .vacant (fun _ stands => vacant _ (pc ▸ stands)) complete
  | @serves phase visit earlier fits serves complete =>
      obtain ⟨phase', fits'⟩ := next.fits
      obtain ⟨_, goes, stands'⟩ := fits.goes taken
      obtain rfl := eq_of_stands stands' (moved ▸ fits'.stands)
      refine .serves fits' ?_ complete
      cases serves with
      | reads stands => exact .reads (pc.trans stands)
      | sends stands asked settles => exact .sends (pc.trans stands) asked settles
      | closes stands unclosed complete => exact .closes (pc.trans stands) unclosed complete
      | @asks fd query received stands asked early same =>
          refine .asks (pc.trans stands) asked ?_ fun _ => ?_
          · cases goes with
            | fill => exact absurd rfl (own.2 _)
            | observe => exact absurd rfl own.1
            | complete => cases early
            | _ => rfl
          · rw [moved]
            cases goes with
            | submit =>
                obtain ⟨fd', stands'⟩ := asks _ rfl
                cases stands.symm.trans stands'
                exact Function.update_self ..
            | observe => exact absurd rfl own.1
            | _ => exact same nofun
      | waits stands asked settled known settles =>
          cases goes with
          | complete =>
              exact .waits (pc.trans stands) asked rfl (by rw [moved]; exact known) settles
          | observe => exact absurd rfl own.1
          | fill => exact absurd rfl (own.2 _)
          | _ => cases settled

/-- The admin thread gets the answer. -/
theorem Conducts.observe {chan : Rendezvous} {a : AdminThread} {fd : Int} {query : ControlQuery}
    {reply : ControlReply} (conducts : Conducts s visits)
    (next : Server.Good { s with chan, admin := a })
    (stands : s.admin.pc = .serve (.submit fd query))
    (taken : s.chan.step .observe = some chan)
    (known : s.chan.response s.chan.serial = some reply)
    (moved : a.pc = .serve (.send fd reply.send)) :
    Conducts { s with chan, admin := a } visits := by
  cases conducts with
  | vacant vacant => cases vacant _ stands
  | serves fits serves complete =>
      obtain ⟨phase', fits'⟩ := next.fits
      obtain ⟨_, goes, -⟩ := fits.goes taken
      cases goes
      cases serves with
      | waits _ asked _ known' settles =>
          cases known.symm.trans known'
          exact .serves fits' (.sends moved asked settles) complete
      | asks _ _ early => cases early
      | _ => simp_all

/-- The control thread answers the query. -/
theorem Conducts.fill {chan : Rendezvous} {c : ControlThread} {plane : Exposed} {n : Nat}
    {reply : ControlReply} {after : ControlPlane} (conducts : Conducts s visits) (good : s.Good)
    (next : Server.Good { s with chan, plane, control := c }) (works : s.chan.drain = .fill n)
    (taken : s.chan.step (.fill reply) = some chan)
    (settles : s.control.loop.cp.Settles after (s.chan.query n) reply) :
    Conducts { s with chan, plane, control := c }
      (amend (fun v => { v with
        settled := v.settled ++ [(s.chan.query n, s.control.loop.cp, after)] }) visits) := by
  cases conducts with
  | vacant vacant complete =>
      obtain ⟨phase, fits⟩ := good.fits
      obtain rfl := fits.quiet fun fd query stands => by cases vacant _ stands
      cases works.symm.trans fits.stands.drain
  | serves fits serves complete =>
      obtain ⟨phase', fits'⟩ := next.fits
      obtain ⟨_, goes, stands'⟩ := fits.goes taken
      obtain rfl := eq_of_stands stands' fits'.stands
      have asking := fits.asking
      have current := fits.stands.drain
      cases goes
      cases works.symm.trans current
      obtain ⟨fd, query, asks⟩ := asking nofun
      cases serves with
      | asks stands asked _ same =>
          rw [same nofun] at settles
          refine .serves fits' ?_ complete
          rw [same nofun]
          exact .waits stands asked rfl (Function.update_self ..) settles
      | waits _ _ settled => cases settled
      | _ => simp_all

/-- What a step does to the record of the connections. -/
theorem Conducts.act (conducts : Conducts s visits) (good : s.Good) (next : t.Good)
    (acts : Acts s e t) : Conducts t (note visits s e t) := by
  cases acts with
  | admin goes => exact conducts.admin next goes
  | main taken =>
      obtain ⟨chan, pc, -⟩ := frame_of_mainStep taken
      exact conducts.keep next chan pc
  | submits stands taken =>
      refine conducts.exchange next rfl rfl taken ⟨nofun, nofun⟩ ?_
      rintro query ⟨⟩
      exact ⟨_, stands⟩
  | exchanges own taken =>
      refine conducts.exchange next rfl rfl taken ⟨?_, fun reply => ?_⟩ fun query submits => ?_
      · obtain rfl | rfl | rfl := own <;> simp
      · obtain rfl | rfl | rfl := own <;> simp
      · obtain rfl | rfl | rfl := own <;> cases submits
  | works own unsent taken =>
      refine conducts.exchange next rfl rfl taken ⟨?_, fun reply => ?_⟩ fun query submits => ?_
      · obtain rfl | rfl | rfl := own <;> simp
      · obtain rfl | rfl | rfl := own <;> simp
      · obtain rfl | rfl | rfl := own <;> cases submits
  | notices stands unsent going taken =>
      exact conducts.exchange next rfl rfl taken ⟨nofun, nofun⟩ nofun
  | observes stands taken known => exact conducts.observe next stands taken known rfl
  | @fills chan loop ready n reply clock _ _ stands _ works drained known taken =>
      obtain ⟨phase, fits⟩ := good.fits
      obtain ⟨_, goes, -⟩ := fits.goes taken
      have reported : ready.chan = true := by
        cases goes
        obtain ⟨ready', stands', reported⟩ := fits.draining (.inr (.inr rfl))
        cases stands.symm.trans stands'
        exact reported
      have after := PollLoop.cp_of_drain stands reported drained
      obtain ⟨reply', known', settles⟩ := ControlPlane.settles_of_drainAdminQuery
        s.control.loop.cp (s.chan.query n) clock
      rw [← after] at known' settles
      cases known.symm.trans known'
      have kept := conducts.fill good next works taken settles
      simpa [note, works] using kept
  | control goes =>
      have same := conducts.keep next rfl rfl
      cases goes with
      | drains _ idle => simpa [note, idle] using same
      | _ => exact same
  | _ => exact conducts.keep next rfl rfl

/-- What holds of the connections in every state. -/
structure Conducted (s : Server) (visits : List Visit) : Prop where
  earlier : ∀ v ∈ visits.tail, v.Complete
  last : ∀ v ∈ visits.head?, v.Complete ∨ v.Underway
  vacant : s.Vacant → ∀ v ∈ visits, v.Complete

theorem Serves.underway {visit : Visit} (serves : Serves s phase visit) : visit.Underway := by
  cases serves with
  | reads => exact .begun
  | asks _ asked => exact .asked asked
  | waits _ asked _ _ settles => exact .settled asked settles
  | sends _ asked settles => exact .settled asked settles
  | closes _ unclosed complete => exact .closing unclosed complete

theorem Serves.busy {visit : Visit} (serves : Serves s phase visit) : ¬ s.Vacant := by
  intro vacant
  cases serves with
  | reads stands | asks stands | waits stands | sends stands | closes stands =>
      cases vacant _ stands

theorem Conducts.conducted (conducts : Conducts s visits) : Conducted s visits := by
  cases conducts with
  | vacant _ complete =>
      exact ⟨fun v member => complete v (List.mem_of_mem_tail member),
        fun v member => .inl (complete v (List.mem_of_mem_head? member)), fun _ => complete⟩
  | serves _ serves complete =>
      refine ⟨complete, fun v member => .inr ?_, fun vacant => absurd vacant serves.busy⟩
      cases member
      exact serves.underway

/-- In every run each connection of the admin socket gets what its message asks for and nothing
else: one reply with the answer that the control plane gives at one moment, or none, and then it
is closed. The next one is not looked at before. -/
theorem conducted_of_run {cp : ControlPlane} {taken : Int → Bool} {stale : Nat → Bool} {ring : Ring}
    {width height : UInt32} {trace : List ((Server × List Visit) × ServerEvent)}
    {finish : Server × List Visit}
    (run : (server.record note).Run (boot cp taken stale ring width height, []) trace finish)
    (candid : Meets (fun x e => x.1.Candid e) trace) :
    Through (fun x => Conducted x.1 x.2) trace ∧ Conducted finish.1 finish.2 := by
  have initial : (boot cp taken stale ring width height).Good ∧
      Conducts (boot cp taken stale ring width height) [] :=
    ⟨good_of_boot .., .vacant nofun nofun⟩
  have kept (x : Server × List Visit) (e : ServerEvent) (y : Server × List Visit)
      (known : x.1.Good ∧ Conducts x.1 x.2) (candid : x.1.Candid e)
      (taken : (server.record note).step x e = some y) : y.1.Good ∧ Conducts y.1 y.2 := by
    obtain ⟨stepped, same⟩ := record_step.mp taken
    have acts := acts_of_step stepped
    have next := known.1.act candid acts
    exact ⟨next, same ▸ known.2.act known.1 next acts⟩
  constructor
  · exact (run.through (I := fun x => x.1.Good ∧ Conducts x.1 x.2) candid initial kept).mono
      fun _ _ known => known.2.conducted
  · exact (run.invariant (I := fun x => x.1.Good ∧ Conducts x.1 x.2) candid initial
      kept).2.conducted

/-- One pass of the poll loop, with a query and a client to accept. -/
def errandPass : List ServerEvent :=
  [.controlTest, .controlPoll true fun _ => .quiet, .exchange .read, .exchange .take,
    .controlDrain ⟨0, 0⟩, .exchange .complete, .controlAccept 10] ++
  List.replicate (sessionMaxClients + 1) (.controlDispatch ⟨0, 0⟩) ++
  [.controlTick ⟨0, 0⟩ ⟨0, 0⟩]

/-- A message that is too long is dropped, and the next connection gets its list. -/
def twoConnections : List ServerEvent :=
  [.connect, .connect, .adminTest, .adminPoll, .adminAccept 20, .adminRecv .oversized, .adminClose,
    .adminTest, .adminPoll, .adminAccept 20, .adminRecv (.message 1 [] []), .adminSubmit,
    .exchange .clear, .exchange .store, .exchange .write] ++
  errandPass ++
  [.exchange .observe, .adminSent, .adminClose]

theorem conducted_of_run_twoConnections :
    ∃ trace finish, (server.record note).Run
        (boot .booted (fun fd => decide (fd < 10)) (fun _ => true) .create 320 240, []) trace
        finish ∧
      trace.map Prod.snd = twoConnections ∧
      finish.2.map (fun v => (v.settled.length, v.sent.length)) = [(1, 1), (0, 0)] ∧
      Through (fun x => Conducted x.1 x.2) trace ∧ Conducted finish.1 finish.2 := by
  refine Demonstrates.exists_run (P := fun trace finish => Meets (fun x e => x.1.Candid e) trace ∧
    finish.2.map (fun v => (v.settled.length, v.sent.length)) = [(1, 1), (0, 0)])
    (by decide +kernel) ?_
  rintro trace finish run ⟨candid, counted⟩
  exact ⟨counted, conducted_of_run run candid⟩

end Server

end Wisp
