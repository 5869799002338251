import Wisp.System.Served

/-!
# The system and one connection

`Turn` lists what a step of the system is for one connection: an event of the control thread,
the delivery of a message, a step of the client, or nothing. All that is said about the two
ends of a connection is derived from this list. The first of it is that the connections stay
in order, in every run of a server and any number of clients.
-/

namespace Wisp

open Transition System Effect

namespace World

/-- What a step of the system is for one connection. -/
inductive Turn (w : World) (c : Nat) (next : World) : WorldEvent → Prop where
  | served {ev : Event} (settled : w.todo = [])
      (served : Served (w.clients c) (w.session c) (next.tidings c) (next.clients c)
        (next.session c)) : Turn w c next (.serve ev)
  | delivered (msg : ServerMsg) (tidings : w.tidings c = msg :: next.tidings c)
      (client : next.clients c = (w.clients c).deliver msg)
      (session : next.session c = w.session c) : Turn w c next .effect
  | idle {ev : WorldEvent} (hungUp : Bool) (client : next.clients c = { w.clients c with hungUp })
      (tidings : next.tidings c = w.tidings c) (session : next.session c = w.session c) :
      Turn w c next ev
  | control {ok : Bool} {now : Timespec}
      (converses : Client.Converses ok (w.clients c) (next.clients c))
      (sane : (w.clients c).Sane → (next.clients c).Sane)
      (accepted : (next.clients c).accepted = (w.clients c).accepted)
      (tidings : next.tidings c = w.tidings c) (session : next.session c = w.session c) :
      Turn w c next (.control c ok now)
  | app {choice : Choice} (parts : Client.Parts (w.clients c) (next.clients c))
      (sane : (w.clients c).Sane → (next.clients c).Sane)
      (accepted : (next.clients c).accepted = (w.clients c).accepted)
      (tidings : next.tidings c = w.tidings c) (session : next.session c = w.session c) :
      Turn w c next (.app c choice)
  | crashed (client : next.clients c = (w.clients c).exit .gone)
      (tidings : next.tidings c = w.tidings c) (session : next.session c = w.session c) :
      Turn w c next (.crash c)

section Turns

variable {w next : World} {ev : WorldEvent}

theorem turn_of_perform {effect : Effect} {rest : List Effect} (todo : w.todo = effect :: rest)
    (c : Nat) : Turn w c { w.perform effect with todo := rest } .effect := by
  have tidings (other : effect.sentTo c = none) :
      rest.filterMap (Effect.sentTo c) = w.tidings c := by
    simp [World.tidings, todo, other]
  have away {fd : Int} (other : fd ≠ c) (change : Client → Client) :
      (w.atPeer fd change).clients c = w.clients c := by
    unfold atPeer
    split
    · rfl
    · exact setClient_other _ _ _ (by omega)
  have here (change : Client → Client) :
      (w.atPeer (c : Int) change).clients c = change (w.clients c) := by
    unfold atPeer
    rw [if_neg (by omega), Int.toNat_natCast, setClient_same]
  have server (fd : Int) (change : Client → Client) : (w.atPeer fd change).server = w.server := by
    unfold atPeer
    split <;> rfl
  have session (fd : Int) (change : Client → Client) :
      (w.atPeer fd change).server.table.session c = w.session c := by
    rw [server]
    rfl
  cases effect with
  | send idx fd msg =>
      by_cases own : fd = c
      · subst own
        refine .delivered msg ?_ (here fun client => client.deliver msg) (session _ _)
        simp [World.tidings, todo, Effect.sentTo]
      · exact .idle (w.clients c).hungUp (away own _) (tidings (if_neg own)) (session _ _)
  | close fd =>
      by_cases own : fd = c
      · subst own
        exact .idle true (here fun client => { client with hungUp := true }) (tidings rfl)
          (session _ _)
      · exact .idle (w.clients c).hungUp (away own _) (tidings rfl) (session _ _)
  | evictClient | kick | setMode | listReply | switchReply =>
      exact .idle (w.clients c).hungUp rfl (tidings rfl) rfl

/-- The list is complete. -/
theorem turn_of_step (wired : Wired w) (taken : world.step w ev = some next) (c : Nat) :
    Turn w c next ev := by
  change w.step ev = some next at taken
  cases ev with
  | serve ev => exact .served (serve_spec taken).1 (wired.served_of_serve taken c)
  | effect =>
      simp only [step] at taken
      split at taken
      · cases taken
      · cases taken
        exact turn_of_perform ‹_› c
  | control d ok now =>
      obtain ⟨client, stepped, rfl⟩ := Option.map_eq_some_iff.mp taken
      by_cases own : c = d
      · subst own
        refine .control ?_ ?_ ?_ rfl rfl <;> rw [setClient_same]
        · exact Client.converses_of_controlStep stepped
        · exact fun sane => Client.sane_of_controlStep sane stepped
        · exact Client.controlStep_accepted stepped
      · exact .idle (w.clients c).hungUp (setClient_other _ _ _ own) rfl rfl
  | app d choice =>
      obtain ⟨⟨client, ring⟩, stepped, rfl⟩ := Option.map_eq_some_iff.mp taken
      by_cases own : c = d
      · subst own
        refine .app ?_ ?_ ?_ rfl rfl <;> rw [setRing_clients, setClient_same]
        · exact Client.parts_of_appStep stepped
        · exact fun sane => Client.sane_of_appStep sane stepped
        · exact Client.appStep_accepted stepped
      · exact .idle (w.clients c).hungUp (setClient_other _ _ _ own) rfl rfl
  | crash d =>
      cases taken
      by_cases own : c = d
      · subst own
        exact .crashed (setClient_same _ _ _) rfl rfl
      · exact .idle (w.clients c).hungUp (setClient_other _ _ _ own) rfl rfl
  | checkout | release =>
      obtain ⟨display, stepped, rfl⟩ := Option.map_eq_some_iff.mp taken
      exact .idle (w.clients c).hungUp rfl rfl rfl

/-- The rule for an invariant of the connections that have not been closed: what is on its way
to the client, and where its session stands. -/
theorem Turn.live {P : Client → List ServerMsg → Option SessionState → Prop} {c : Nat}
    (turn : Turn w c next ev) (live : (next.clients c).closed = false)
    (h : P (w.clients c) (w.tidings c) (w.session c))
    (served : ∀ {sent client state}, P (w.clients c) [] (w.session c) →
      Served (w.clients c) (w.session c) sent client state → client.closed = false →
      P client sent state)
    (delivered : ∀ {msg tidings}, P (w.clients c) (msg :: tidings) (w.session c) →
      (w.clients c).closed = false → P ((w.clients c).deliver msg) tidings (w.session c))
    (idle : ∀ hungUp, P { w.clients c with hungUp } (w.tidings c) (w.session c))
    (conversed : ∀ {ok now}, ev = .control c ok now →
      Client.Converses ok (w.clients c) (next.clients c) →
      P (next.clients c) (w.tidings c) (w.session c))
    (parted : Client.Parts (w.clients c) (next.clients c) →
      P (next.clients c) (w.tidings c) (w.session c)) :
    P (next.clients c) (next.tidings c) (next.session c) := by
  cases turn with
  | served settled step =>
      rw [show w.tidings c = [] by simp [World.tidings, settled]] at h
      exact served h step live
  | delivered msg tidings client session =>
      rw [tidings] at h
      rw [session, client]
      refine delivered h (Bool.eq_false_iff.mpr fun closed => ?_)
      rw [client, Client.deliver, if_pos closed, closed] at live
      cases live
  | idle hungUp client tidings session =>
      rw [client, tidings, session]
      exact idle hungUp
  | control converses keeps accepted tidings session =>
      rw [tidings, session]
      exact conversed rfl converses
  | app parts keeps accepted tidings session =>
      rw [tidings, session]
      exact parted parts
  | crashed client =>
      rw [client] at live
      cases live

end Turns

namespace Orderly

variable {a b : Client} {state state' : Option SessionState}

/-- The session has not changed, or was not to be connected any more. -/
theorem mono (h : Orderly a state) (control : b.control = a.control) (outbox : b.outbox = a.outbox)
    (closed : b.closed = a.closed) (known : state = none ∨ state = some .connected →
      state' = none ∨ state' = some .connected) : Orderly b state' where
  unsent := by
    rw [control, outbox]
    exact h.unsent
  hello first := by
    rw [control, outbox] at first
    exact known (h.hello first)
  once := by
    rw [outbox]
    exact h.once
  kinds := by
    rw [outbox]
    exact h.kinds
  leaves := by
    rw [outbox, closed]
    exact h.leaves
  done := by
    rw [control, closed]
    exact h.done

/-- The server has read a message. -/
theorem read {msg : ClientMsg} {rest : List ClientMsg} (h : Orderly a state)
    (outbox : a.outbox = msg :: rest) (known : (∃ m ∈ rest, m.kind = .connect) →
      state' = none ∨ state' = some .connected) :
    Orderly { a with outbox := rest } state' := by
  have within {m : ClientMsg} (member : m ∈ rest) : m ∈ a.outbox := by simp [outbox, member]
  have later : ∀ m ∈ rest, m.kind ≠ .connect := by
    have once := h.once
    rwa [outbox] at once
  refine ⟨?_, ?_, fun m member => later m (List.mem_of_mem_tail member),
    fun m member => h.kinds m (within member), ?_, h.done⟩
  · intro unsent
    have none := h.unsent unsent
    rw [outbox] at none
    cases none
  · rintro (unsent | another)
    · have none := h.unsent unsent
      rw [outbox] at none
      cases none
    · exact known another
  · rintro ⟨m, member, named⟩
    exact h.leaves ⟨m, within member, named⟩

/-- The client has sent at most one more message. -/
theorem extend (more : List ClientMsg) (h : Orderly a state) (outbox : b.outbox = a.outbox ++ more)
    (single : more.length ≤ 1)
    (unsent : b.control.phase = .unsent → a.control.phase = .unsent ∧ more = [])
    (first : ∀ msg ∈ more, msg.kind = .connect → a.control.phase = .unsent)
    (kinds : ∀ msg ∈ more, msg.kind ≠ .grantDecline)
    (leaves : ∀ msg ∈ more, msg.kind = .disconnect → b.closed = true)
    (closed : a.closed = true → b.closed = true)
    (done : b.closed = true → b.control = .done) : Orderly b state := by
  have split {msg : ClientMsg} (member : msg ∈ b.outbox) : msg ∈ a.outbox ∨ msg ∈ more := by
    rw [outbox] at member
    exact List.mem_append.mp member
  constructor
  · intro still
    obtain ⟨before, none⟩ := unsent still
    rw [outbox, none, h.unsent before]
    rfl
  · rintro (still | ⟨msg, member, named⟩)
    · exact h.hello (.inl (unsent still).1)
    · rcases split member with early | late
      · exact h.hello (.inr ⟨msg, early, named⟩)
      · exact h.hello (.inl (first msg late named))
  · intro msg member named
    rw [outbox] at member
    cases before : a.outbox with
    | nil =>
        rw [before, List.nil_append] at member
        have short := List.length_pos_of_mem member
        rw [List.length_tail] at short
        omega
    | cons head rest =>
        rw [before] at member
        rcases List.mem_append.mp member with early | late
        · exact h.once msg (by simpa [before] using early) named
        · have nothing := h.unsent (first msg late named)
          rw [before] at nothing
          cases nothing
  · intro msg member
    rcases split member with early | late
    · exact h.kinds msg early
    · exact kinds msg late
  · rintro ⟨msg, member, named⟩
    rcases split member with early | late
    · exact closed (h.leaves ⟨msg, early, named⟩)
    · exact leaves msg late named
  · exact done

/-- The client has sent nothing, and is neither closed nor before its CONNECT. -/
theorem keep (h : Orderly a state) (outbox : b.outbox = a.outbox) (closed : b.closed = a.closed)
    (unsent : b.control.phase = .unsent → a.control.phase = .unsent)
    (live : a.control.phase = .done → b.control.phase = .done) : Orderly b state := by
  refine h.extend [] (by rw [outbox, List.append_nil]) (by simp)
    (fun still => ⟨unsent still, rfl⟩) (by simp) (by simp) (by simp)
    (fun ended => closed ▸ ended) ?_
  intro ended
  rw [closed] at ended
  exact ControlPc.eq_done (live (by rw [h.done ended]; rfl))

theorem conversed {ok : Bool} (h : Orderly a state) (step : Client.Converses ok a b) :
    Orderly b state := by
  cases step with
  | moves silent phase =>
      refine h.keep silent.outbox silent.closed (fun still => ?_) fun ended => ?_
      · simp only [still] at phase
        simpa [eq_comm] using phase
      · simpa [ended] using phase
  | refuses silent before after =>
      exact h.keep silent.outbox silent.closed (by simp [after]) (by simp [before])
  | quits outbox closed after =>
      exact h.extend [] (by rw [outbox, List.append_nil]) (by simp)
        (by simp [after, ControlPc.phase]) (by simp) (by simp) (by simp) (fun _ => closed)
        fun _ => after
  | hears msg inbox outbox active closed phase =>
      have after : b.control.phase ≠ .unsent := by cases phase <;> simp [*]
      have before : a.control.phase ≠ .done := by
        cases phase with
        | granted waits => rcases waits with stands | stands <;> simp [stands]
        | _ => simp [*]
      exact h.keep outbox closed (fun still => absurd still after) fun ended => absurd ended before
  | speaks msg inbox outbox active closed phase =>
      have before : a.control.phase ≠ .done := by
        cases phase with
        | other stands => rcases stands with stands | stands <;> simp [stands]
        | _ => simp [*]
      have after : b.control.phase ≠ .unsent := by
        cases phase with
        | other stands goes => rcases stands with stands | stands <;> simp [goes, stands]
        | _ => simp [*]
      have named : (msg.kind = .connect → a.control.phase = .unsent) ∧
          msg.kind ≠ .grantDecline ∧ msg.kind ≠ .disconnect := by
        cases phase with
        | connect unsent goes named => exact ⟨fun _ => unsent, by simp [named], by simp [named]⟩
        | ready stands goes named => simp [named]
        | other stands goes named => rcases named with named | named | named <;> simp [named]
      refine h.extend [msg] outbox (by simp) (fun still => absurd still after)
        (by simpa using named.1) (by simpa using named.2.1)
        (by simpa using fun left => absurd left named.2.2)
        (fun ended => closed ▸ ended) fun ended => ?_
      rw [closed] at ended
      exact absurd (by rw [h.done ended]; rfl) before
  | arms inbox outbox active closed before after =>
      exact h.keep outbox closed (by simp [after]) (by simp [before])
  | disarms inbox outbox active closed before after =>
      exact h.keep outbox closed (by simp [after]) (by simp [before])

theorem parted (h : Orderly a state) (sane : a.Sane) (step : Client.Parts a b) :
    Orderly b state := by
  cases step with
  | works inbox outbox closed control => exact h.mono control outbox closed id
  | announces msg inbox outbox closed control active named online =>
      have sent : a.control.phase ≠ .unsent := by
        intro unsent
        apply online
        apply sane
        revert unsent
        cases a.control <;> simp [ControlPc.phase, ControlPc.connecting]
      refine h.extend [msg] outbox (by simp) (fun still => absurd (control ▸ still) sent)
        (by simp [named]) (by simp [named]) (by simp [named]) (fun ended => closed ▸ ended) ?_
      rw [closed, control]
      exact h.done
  | leaves closed control outbox =>
      have after : b.control.phase ≠ .unsent := by simp [control, ControlPc.phase]
      rcases outbox with same | last
      · exact h.extend [] (by rw [same, List.append_nil]) (by simp)
          (fun still => absurd still after) (by simp) (by simp) (by simp) (fun _ => closed)
          fun _ => control
      · exact h.extend _ last (by simp) (fun still => absurd still after) (by simp) (by simp)
          (fun _ _ _ => closed) (fun _ => closed) fun _ => control

theorem served {sent : List ServerMsg} (h : Orderly a state) (step : Served a state sent b state') :
    Orderly b state' := by
  cases step with
  | apart same exchange mute present absent =>
      refine h.mono (by rw [same]) (by rw [same]) (by rw [same]) ?_
      rintro (missing | connected)
      · exact .inl (absent missing).2
      · exact .inr (mute connected).2
  | accepted same first before silent after =>
      exact h.mono (by rw [same]) (by rw [same]) (by rw [same]) fun _ => after
  | introduced msg rest outbox same named before reply after =>
      rw [same]
      refine h.read outbox fun ⟨m, member, again⟩ => absurd again (h.once m ?_)
      rwa [outbox]
  | spoken msg rest outbox same named before exchange mute present ready =>
      rw [same]
      refine h.read outbox fun ⟨m, member, again⟩ => ?_
      rcases h.hello (.inr ⟨m, by simp [outbox, member], again⟩) with missing | connected
      · exact absurd missing before
      · exact (mute connected).2
  | ended same closed outbox before exchange =>
      have done : ControlPc.phase a.control ≠ .unsent := by simp [h.done closed, ControlPc.phase]
      rw [same]
      refine ⟨fun unsent => absurd unsent done, ?_, h.once, h.kinds, h.leaves, h.done⟩
      rintro (unsent | ⟨m, member, -⟩)
      · exact absurd unsent done
      · rw [outbox] at member
        cases member

end Orderly

section Preserved

variable {w next : World} {ev : WorldEvent}

theorem orderly_turn {c : Nat} (turn : Turn w c next ev) (sane : (w.clients c).Sane)
    (h : Orderly (w.clients c) (w.session c)) : Orderly (next.clients c) (next.session c) := by
  cases turn with
  | served settled served => exact h.served served
  | delivered msg tidings client session =>
      rw [session, client]
      unfold Client.deliver
      split
      · exact h
      · exact h.mono rfl rfl rfl id
  | idle hungUp client tidings session =>
      rw [session, client]
      exact h.mono rfl rfl rfl id
  | control converses keeps accepted tidings session =>
      rw [session]
      exact h.conversed converses
  | app parts keeps accepted tidings session =>
      rw [session]
      exact h.parted sane parts
  | crashed client tidings session =>
      rw [session, client]
      exact h.extend [] (by simp [Client.exit]) (by simp) (by simp [Client.exit, ControlPc.phase])
        (by simp) (by simp) (by simp) (fun _ => rfl) fun _ => rfl

theorem sane_turn {c : Nat} (turn : Turn w c next ev) (sane : (w.clients c).Sane) :
    (next.clients c).Sane := by
  cases turn with
  | served settled served =>
      obtain ⟨-, control, app, -, -⟩ := served.unchanged
      unfold Client.Sane
      rw [control, app]
      exact sane
  | delivered msg tidings client =>
      rw [client]
      unfold Client.deliver
      split <;> exact sane
  | idle hungUp client =>
      rw [client]
      exact sane
  | control converses keeps | app parts keeps => exact keeps sane
  | crashed client =>
      rw [client]
      intro connecting
      cases connecting

/-- A client does not come back. -/
theorem live_turn {c : Nat} (turn : Turn w c next ev) (live : (next.clients c).closed = false) :
    (w.clients c).closed = false := by
  rw [Bool.eq_false_iff] at live ⊢
  intro closed
  apply live
  cases turn with
  | served settled served => exact served.unchanged.2.2.2.2.trans closed
  | delivered msg tidings client =>
      rw [client, Client.deliver, if_pos closed]
      exact closed
  | idle hungUp client =>
      rw [client]
      exact closed
  | control converses =>
      cases converses with
      | moves silent | refuses silent => exact silent.closed.trans closed
      | quits outbox after => exact after
      | hears msg inbox outbox active same | speaks msg inbox outbox active same
      | arms inbox outbox active same | disarms inbox outbox active same =>
          exact same.trans closed
  | app parts =>
      cases parts with
      | works inbox outbox same | announces msg inbox outbox same => exact same.trans closed
      | leaves after => exact after
  | crashed client =>
      rw [client]
      rfl

/-- Only the control thread changes its own state. -/
theorem server_of_step (taken : world.step w ev = some next) (other : ∀ ev', ev ≠ .serve ev') :
    next.server = w.server := by
  change w.step ev = some next at taken
  cases ev with
  | serve ev => exact absurd rfl (other ev)
  | effect =>
      simp only [step] at taken
      split at taken
      · cases taken
      · cases taken
        rename_i effect rest _
        have server (fd : Int) (change : Client → Client) :
            (w.atPeer fd change).server = w.server := by
          unfold atPeer
          split <;> rfl
        cases effect with
        | send | close => exact server _ _
        | _ => rfl
  | control | app | checkout | release =>
      obtain ⟨moved, -, rfl⟩ := Option.map_eq_some_iff.mp taken
      rfl
  | crash =>
      cases taken
      rfl

/-- The rest of the effects is stamped from the generation that the first one leaves. -/
theorem stamped_of_perform {effect : Effect} {rest : List Effect} {used : Bool}
    {final : UInt32 × Bool}
    (stamped : (effect :: rest).foldlM stamp (w.ring.generation, used) = some final) :
    ∃ used, rest.foldlM stamp ((w.perform effect).ring.generation, used) = some final := by
  rw [List.foldlM_cons] at stamped
  by_cases plain : effect.plain = true
  · rw [stamp_of_plain plain] at stamped
    refine ⟨used, ?_⟩
    rw [perform_ring_of_plain plain]
    exact stamped
  · cases effect with
    | evictClient => exact ⟨false, stamped⟩
    | send idx fd msg =>
        cases msg with
        | activateGrant generation frameFd =>
            obtain ⟨⟨reading, mark⟩, checked, later⟩ := Option.bind_eq_some_iff.mp stamped
            obtain ⟨-, same⟩ := Option.ite_none_right_eq_some.mp checked
            cases same
            refine ⟨true, ?_⟩
            show List.foldlM stamp ((w.atPeer fd _).ring.generation, true) _ = _
            rw [atPeer_ring]
            exact later
        | _ => exact absurd rfl plain
    | _ => exact absurd rfl plain

/-- Nobody but the control thread has effects, or changes the generation. -/
theorem generation_of_step (taken : world.step w ev = some next) (serves : ∀ ev', ev ≠ .serve ev')
    (performs : ev ≠ .effect) :
    next.todo = w.todo ∧ next.ring.generation = w.ring.generation := by
  change w.step ev = some next at taken
  cases ev with
  | serve ev => exact absurd rfl (serves ev)
  | effect => exact absurd rfl performs
  | control =>
      obtain ⟨client, -, rfl⟩ := Option.map_eq_some_iff.mp taken
      exact ⟨rfl, rfl⟩
  | app =>
      obtain ⟨⟨client, ring⟩, stepped, rfl⟩ := Option.map_eq_some_iff.mp taken
      refine ⟨rfl, ?_⟩
      rw [setRing_ring]
      exact appStep_generation stepped
  | crash =>
      cases taken
      exact ⟨rfl, rfl⟩
  | checkout =>
      obtain ⟨display, stepped, rfl⟩ := Option.map_eq_some_iff.mp taken
      exact ⟨rfl, (frame_of_display (.inl rfl) stepped).1⟩
  | release =>
      obtain ⟨display, stepped, rfl⟩ := Option.map_eq_some_iff.mp taken
      exact ⟨rfl, (frame_of_display (.inr rfl) stepped).1⟩

/-- The control thread keeps track of the generation. -/
theorem tracks_step (tracks : ∃ used used', w.todo.foldlM stamp (w.ring.generation, used) =
      some (w.server.ring.generation, used')) (taken : world.step w ev = some next) :
    ∃ used used', next.todo.foldlM stamp (next.ring.generation, used) =
      some (next.server.ring.generation, used') := by
  by_cases serves : ∃ ev', ev = .serve ev'
  · obtain ⟨ev, rfl⟩ := serves
    obtain ⟨-, display, stepped, todo, -⟩ := serve_spec taken
    obtain ⟨-, handled⟩ := ControlPlane.step_eq_some.mp stepped
    obtain ⟨effects, used', out, stamped⟩ := ControlPlane.emits_handle w.attentive.quiesce ev true
    refine ⟨true, used', ?_⟩
    have ring : next.ring = w.ring := congrArg Display.ring display
    rw [todo, handled, out, ring]
    exact stamped
  · have other (ev' : Event) (same : ev = .serve ev') : False := serves ⟨ev', same⟩
    obtain ⟨used, used', stamped⟩ := tracks
    rw [server_of_step taken other]
    by_cases performs : ev = .effect
    · subst performs
      change w.step .effect = some next at taken
      simp only [step] at taken
      split at taken
      · cases taken
      · rename_i effect rest todo
        cases taken
        rw [todo] at stamped
        obtain ⟨used, later⟩ := stamped_of_perform stamped
        exact ⟨used, used', later⟩
    · obtain ⟨todo, generation⟩ := generation_of_step taken other performs
      rw [todo, generation]
      exact ⟨used, used', stamped⟩

/-- A connection that has been accepted stays accepted. -/
theorem accepted_turn {c : Nat} (turn : Turn w c next ev)
    (accepted : (w.clients c).accepted = true) : (next.clients c).accepted = true := by
  cases turn with
  | served settled served =>
      cases served with
      | apart same | ended same =>
          rw [same]
          exact accepted
      | accepted same =>
          rw [same]
      | introduced msg rest outbox same | spoken msg rest outbox same =>
          rw [same]
          exact accepted
  | delivered msg tidings client =>
      rw [client]
      unfold Client.deliver
      split <;> exact accepted
  | idle hungUp client =>
      rw [client]
      exact accepted
  | control converses keeps same | app parts keeps same =>
      rw [same]
      exact accepted
  | crashed client =>
      rw [client]
      exact accepted

/-- Slots and descriptors after an event of the control thread. -/
theorem slots_serve {ev : Event} (wired : Wired w) (taken : world.step w (.serve ev) = some next) :
    next.server.arbiter.Coherent ∧ next.server.table.Distinct ∧
      ∀ i, (next.server.table.slots i).inUse = true → ∃ c : Nat,
        (next.server.table.slots i).ctrlFd = c ∧ (next.clients c).accepted = true := by
  have turn (c : Nat) := turn_of_step wired taken c
  obtain ⟨settled, fed, server, took, moved, rfl⟩ := serve_eq_some taken
  obtain ⟨on, rfl⟩ := ControlPlane.step_eq_some.mp moved
  have coh := wired.attentive_coherent settled
  have once (i : Slot) (connects : ControlPlane.Event.Connects i ev) :
      (w.attentive.table.slots i).state = .connected := wired.connected_of_connects on took connects
  have known {i : Slot} (inUse : (w.server.table.slots i).inUse = true) : ∃ c : Nat,
      (w.server.table.slots i).ctrlFd = c ∧ (fed.clients c).accepted = true := by
    obtain ⟨c, ctrlFd, accepted⟩ := wired.accepted i inUse
    have still := accepted_turn (turn c) accepted
    exact ⟨c, ctrlFd, still⟩
  refine ⟨(ControlPlane.step_of_once coh on once).coherent coh, ?_⟩
  by_cases arrives : ∃ fd, ev = .accept fd
  · obtain ⟨fd, rfl⟩ := arrives
    obtain ⟨-, kept | ⟨valid, idx, session, unused, ctrlFd, inUse, -, entered⟩⟩ :=
      w.attentive.handleAccept_spec fd
    · show (w.attentive.quiesce.handleAccept fd).table.Distinct ∧ _
      refine ⟨kept ▸ wired.distinct, fun i inUse => ?_⟩
      change ((w.attentive.quiesce.handleAccept fd).table.slots i).inUse = true at inUse
      show ∃ c : Nat, ((w.attentive.quiesce.handleAccept fd).table.slots i).ctrlFd = c ∧ _
      rw [kept] at inUse ⊢
      exact known inUse
    · obtain ⟨-, missing, rfl⟩ := wired.admit_spec valid took
      show (w.attentive.quiesce.handleAccept fd).table.Distinct ∧ _
      refine ⟨?_, fun i inUse => ?_⟩
      · rw [entered]
        exact SessionTable.Distinct.setSlot (ctrlFd ▸ missing) wired.distinct
      · change ((w.attentive.quiesce.handleAccept fd).table.slots i).inUse = true at inUse
        show ∃ c : Nat, ((w.attentive.quiesce.handleAccept fd).table.slots i).ctrlFd = c ∧ _
        rw [entered] at inUse ⊢
        by_cases new : i = idx
        · subst new
          refine ⟨fd.toNat, ?_, congrArg Client.accepted (setClient_same _ _ _)⟩
          simp only [SessionTable.setSlot, Function.update_self, ctrlFd]
          omega
        · rw [SessionTable.setSlot] at inUse ⊢
          simp only [Function.update_of_ne new] at inUse ⊢
          exact known inUse
  · have keeps := ControlPlane.keeps_handle coh on (fun fd same => arrives ⟨fd, same⟩)
      (wired.not_declines on took)
    refine ⟨keeps.distinct wired.distinct, fun i inUse => ?_⟩
    obtain ⟨before, same⟩ := keeps.kept i inUse
    obtain ⟨c, ctrlFd, accepted⟩ := known before
    exact ⟨c, same.trans ctrlFd, accepted⟩

theorem Wired.step (wired : Wired w) (taken : world.step w ev = some next) : Wired next := by
  have turn (c : Nat) := turn_of_step wired taken c
  have sane (c : Nat) := sane_turn (turn c) (wired.sane c)
  have orderly (c : Nat) := orderly_turn (turn c) (wired.sane c) (wired.orderly c)
  have tracks := tracks_step wired.tracks taken
  by_cases serves : ∃ ev', ev = .serve ev'
  · obtain ⟨ev, rfl⟩ := serves
    obtain ⟨coherent, distinct, accepted⟩ := slots_serve wired taken
    exact ⟨coherent, tracks, distinct, accepted, sane, orderly⟩
  · have server := server_of_step taken fun ev' same => serves ⟨ev', same⟩
    refine ⟨server ▸ wired.coherent, tracks, server ▸ wired.distinct, fun i inUse => ?_, sane,
      orderly⟩
    rw [server] at inUse ⊢
    obtain ⟨c, ctrlFd, accepted⟩ := wired.accepted i inUse
    exact ⟨c, ctrlFd, accepted_turn (turn c) accepted⟩

/-- Nobody is connected yet. -/
theorem Booted.session {start : World} (booted : Booted start) (c : Nat) :
    start.session c = none := by
  obtain ⟨generation, frameFd, dp, supportedModes, created⟩ := booted.server
  have vacant := ControlPlane.vacant_of_init created
  refine SessionTable.session_eq_none.mpr fun i inUse => ?_
  cases inUse.symm.trans (start.server.arbiter_status_eq_none.mp (vacant.absent i))

theorem Booted.wired {start : World} (booted : Booted start) : Wired start := by
  obtain ⟨generation, frameFd, dp, supportedModes, created⟩ := booted.server
  have vacant := ControlPlane.vacant_of_init created
  have unused (i : Slot) : (start.server.table.slots i).inUse ≠ true := by
    rw [ne_eq, Bool.not_eq_true]
    exact start.server.arbiter_status_eq_none.mp (vacant.absent i)
  refine ⟨vacant.coherent, ⟨true, true, ?_⟩, fun i j inUse => absurd inUse (unused i),
    fun i inUse => absurd inUse (unused i), fun c => ?_, fun c => ?_⟩
  · have ring : start.ring = start.server.ring := by rw [World.ring, booted.display]
    rw [booted.todo, ring]
    rfl
  · obtain ⟨clientId, modes, fresh⟩ := booted.clients c
    rw [fresh]
    exact Client.sane_fresh clientId modes
  · obtain ⟨clientId, modes, fresh⟩ := booted.clients c
    rw [booted.session c, fresh]
    exact ⟨fun _ => rfl, fun _ => .inl rfl, by simp [Client.fresh], by simp [Client.fresh],
      by simp [Client.fresh], by simp [Client.fresh]⟩

/-- The connections stay in order. -/
theorem wired_of_run {start finish : World} {trace : List (World × WorldEvent)}
    (booted : Booted start) (run : world.Run start trace finish) : Wired finish := by
  have always : Meets (fun _ _ => True) trace := fun _ _ => trivial
  exact run.invariant always booted.wired fun _ _ _ wired _ taken => wired.step taken

end Preserved

end World

end Wisp
