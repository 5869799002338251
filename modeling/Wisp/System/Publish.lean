import Wisp.System.Grants

/-!
# Frames of an evicted client

`wispc_publish` compares the ring's generation with the granted one and then writes to
the ring, without looking again. The two loads and the three writes are separate steps,
and only the last of them is made under the mutex that `wisps_evict_client` takes. So
the writes are confined to the client's own generation exactly as long as no eviction
falls between the load of `ring->generation` and the end of the locked section.

The order of the two loads matters: with the granted generation loaded first, an
eviction in between is noticed.
-/

namespace Wisp

open Transition System Epoch Effect

/-- Inside `wispc_publish`. -/
def AppPc.publishing : AppPc → Bool
  | .publish _ | .compare _ | .ringLoaded _ _ | .grantedLoaded _ _ | .drop | .storeFrameId _ _
  | .storeWriteTs _ _ | .publishLocked _ _ | .signal => true
  | _ => false

/-- The generation for which a publish has passed its check, until it has written. -/
def AppPc.compared : AppPc → Option UInt32
  | .storeFrameId _ generation | .storeWriteTs _ generation | .publishLocked _ generation =>
      some generation
  | _ => none

/-- A publish that has loaded a generation and not finished writing. -/
def AppPc.loaded : AppPc → Bool
  | .ringLoaded _ _ | .grantedLoaded _ _ | .storeFrameId _ _ | .storeWriteTs _ _
  | .publishLocked _ _ => true
  | _ => false

/-- What `wispc_publish` may write to is the same in both rings. -/
def Ring.SameFrames (a b : Ring) : Prop :=
  b.latestReady = a.latestReady ∧ b.clientLocked = a.clientLocked ∧
    (∀ i, b.frameId i = a.frameId i) ∧ ∀ i, b.writeTsNs i = a.writeTsNs i

instance (a b : Ring) : Decidable (a.SameFrames b) :=
  inferInstanceAs (Decidable (_ ∧ _ ∧ (∀ _, _) ∧ ∀ _, _))

namespace World

/-- The ring's generation has moved away from the client's: from the one it has stored,
or from the one its publish has compared. -/
def Evicted (w : World) (c : Nat) : Prop :=
  w.ring.generation ≠ (w.clients c).grantedGeneration ∨
    ∃ generation ∈ (w.clients c).app.compared, w.ring.generation ≠ generation

/-- The publish of an evicted client changes nothing that the data plane looks at. -/
def Inert (w : World) (ev : WorldEvent) : Prop :=
  match ev with
  | .app c _ => (w.clients c).app.publishing = true → w.Evicted c →
      ∀ next ∈ world.step w ev, w.ring.SameFrames next.ring
  | _ => True

/-- A publish that will not notice an eviction: it has loaded the ring's generation, that
one is the client's or will be, and the locked section is still to come. -/
def Exposed (client : Client) : Prop :=
  match client.app with
  | .ringLoaded _ generation =>
      generation = client.grantedGeneration ∨ generation ∈ client.pending
  | .storeFrameId _ _ | .storeWriteTs _ _ | .publishLocked _ _ => True
  | _ => False

/-- `wisps_evict_client` does not run while a client is exposed. -/
def EvictsUnexposed (w : World) : WorldEvent → Prop
  | .effect =>
      match w.todo with
      | .evictClient :: _ => ∀ c, ¬ Exposed (w.clients c)
      | _ => True
  | _ => True

/-- What a publish in progress knows about the generations. -/
def Informed (base generation : UInt32) (client : Client) : Prop :=
  match client.app with
  | .ringLoaded _ g => g = generation ∨
      age base g < age base generation ∧ g ≠ client.grantedGeneration ∧ g ∉ client.pending
  | .grantedLoaded _ g => g = client.grantedGeneration ∨
      age base g < age base client.grantedGeneration
  | .storeFrameId _ g | .storeWriteTs _ g | .publishLocked _ g =>
      g = generation ∧ g = client.grantedGeneration
  | _ => True

section Informed

variable {base generation : UInt32} {a b : Client}

theorem informed_of_unloaded (unloaded : a.app.loaded = false) : Informed base generation a := by
  cases stands : a.app <;> simp only [Informed, stands]
  all_goals
    rw [stands] at unloaded
    cases unloaded

/-- Where the application stands and what is stored are the same; only the current
generation may be newly pending. -/
theorem Informed.mono (h : Informed base generation a) (app : b.app = a.app)
    (granted : b.grantedGeneration = a.grantedGeneration)
    (pending : ∀ g ∈ b.pending, g ∈ a.pending ∨ g = generation) :
    Informed base generation b := by
  cases stands : a.app <;> simp only [Informed, app, granted, stands] at h ⊢
  case ringLoaded idx g =>
      rcases h with same | ⟨older, other, missing⟩
      · exact .inl same
      · refine .inr ⟨older, other, fun member => ?_⟩
        rcases pending g member with before | rfl
        · exact missing before
        · exact Nat.lt_irrefl _ older
  all_goals exact h

theorem Informed.keep (h : Informed base generation a) (app : b.app = a.app)
    (granted : b.grantedGeneration = a.grantedGeneration) (pending : b.pending.Sublist a.pending) :
    Informed base generation b :=
  h.mono app granted fun _ member => .inl (pending.subset member)

/-- A grant of the current generation arrives. -/
theorem Informed.deliver_grant (h : Informed base generation a) (frameFd : Int) :
    Informed base generation (a.deliver (.activateGrant generation frameFd)) := by
  unfold Client.deliver
  split
  · exact h
  · refine h.mono rfl rfl fun g member => ?_
    simpa [Client.pending, ServerMsg.grant, or_assoc] using member

/-- An eviction passes by a publish that is not exposed. -/
theorem Informed.evict (h : Informed base generation a) (unexposed : ¬ Exposed a)
    {generation' : UInt32} (later : age base generation < age base generation') :
    Informed base generation' a := by
  cases stands : a.app <;> simp only [Informed, Exposed, stands] at h unexposed ⊢
  case ringLoaded idx g =>
      obtain ⟨other, missing⟩ := not_or.mp unexposed
      rcases h with rfl | ⟨older, -, -⟩
      · exact .inr ⟨later, other, missing⟩
      · exact .inr ⟨Nat.lt_trans older later, other, missing⟩
  case grantedLoaded => exact h
  case storeFrameId | storeWriteTs | publishLocked => exact absurd trivial unexposed

variable {l : Ledger Int} {c : Nat}

/-- The stored generation of a client at work is not ahead of the ring's. -/
theorem age_granted_le (ordered : l.Ordered) (few : l.bumps < 2 ^ 32)
    (entitled : Entitled l c a) (busy : a.app.busy = true) :
    age l.base a.grantedGeneration ≤ age l.base l.current := by
  rw [Ledger.age_current few]
  exact ordered.past _ (entitled.held (.inr (.inr busy)))

/-- A new grant is stored while a publish is in progress. A publish that has passed its
check holds the current generation, and there is none beyond it. -/
theorem Informed.adopt (h : Informed l.base l.current a) (ordered : l.Ordered)
    (few : l.bumps < 2 ^ 32) (entitled : Entitled l c a)
    (pending : a.pending = b.grantedGeneration :: b.pending) (app : b.app = a.app) :
    Informed l.base l.current b := by
  have member : b.grantedGeneration ∈ a.pending := by simp [pending]
  have reached : age l.base b.grantedGeneration ≤ age l.base l.current := by
    rw [Ledger.age_current few]
    exact ordered.past _ (entitled.pending _ member)
  have rises (busy : a.app.busy = true) :
      age l.base a.grantedGeneration < age l.base b.grantedGeneration :=
    entitled.behind (.inr (.inr busy)) _ member
  cases stands : a.app <;> simp only [Informed, app, stands] at h ⊢
  case ringLoaded idx g =>
      rcases h with same | ⟨older, -, missing⟩
      · exact .inl same
      · refine .inr ⟨older, ?_, ?_⟩
        · rintro rfl
          exact missing member
        · intro later
          exact missing (by simp [pending, later])
  case grantedLoaded idx g =>
      have rises := rises (by rw [stands]; rfl)
      rcases h with rfl | older
      · exact .inr rises
      · exact .inr (Nat.lt_trans older rises)
  case storeFrameId idx g | storeWriteTs idx g | publishLocked idx g =>
      have rises := rises (by rw [stands]; rfl)
      rw [← h.2, h.1] at rises
      omega

/-- A step of the control thread next to a publish in progress. -/
theorem Informed.handled (h : Informed l.base l.current a) (ordered : l.Ordered)
    (few : l.bumps < 2 ^ 32) (entitled : Entitled l c a) (step : Client.Handled a b) :
    Informed l.base l.current b := by
  cases step with
  | keep pending granted active before after app =>
      rcases app with same | ⟨-, idle⟩
      · exact h.keep same granted pending
      · apply informed_of_unloaded
        rcases idle with top | gone
        · rw [top]
          rfl
        · rw [gone]
          rfl
  | adopt pending active after app => exact h.adopt ordered few entitled pending app
  | arm pending granted active before after app | clear pending granted active before after app =>
      exact h.keep app granted (pending ▸ List.Sublist.refl _)

/-- A step of the publish itself: the check lets it pass only in its own generation. -/
theorem Informed.acted {ring ring' : Ring} {choice : Choice} (h : Informed l.base l.current a)
    (ordered : l.Ordered) (few : l.bumps < 2 ^ 32) (entitled : Entitled l c a)
    (current : ring.generation = l.current)
    (stepped : a.appStep ring choice = some (b, ring')) : Informed l.base l.current b := by
  have idles := Client.appStep_top stepped
  cases stands : a.app <;> simp only [Client.appStep, stands] at stepped <;>
    simp only [Informed, stands] at h
  case compare idx =>
      cases stepped
      cases choice.left with
      | true => exact .inl current
      | false => exact .inl rfl
  case ringLoaded idx g =>
      cases stepped
      by_cases same : g = a.grantedGeneration
      · simp only [Informed, Client.turn, same, if_true]
        rcases h with now | ⟨-, other, -⟩
        · exact ⟨same ▸ now, trivial⟩
        · exact absurd same other
      · simp only [Informed, Client.turn, same, if_false]
  case grantedLoaded idx g =>
      cases stepped
      by_cases same : ring.generation = g
      · simp only [Informed, Client.turn, same, if_true]
        refine ⟨same ▸ current, ?_⟩
        rcases h with stored | older
        · exact stored
        · have reached := age_granted_le ordered few entitled (by rw [stands]; rfl)
          rw [← same, current] at older
          omega
      · simp only [Informed, Client.turn, same, if_false]
  case storeFrameId | storeWriteTs =>
      cases stepped
      exact h
  case offline | gone | aborted => cases stepped
  case top =>
      apply informed_of_unloaded
      obtain ⟨-, running, ack, app, rfl, goes⟩ := idles stands
      rcases goes with ⟨rfl, -⟩ | rfl | rfl | ⟨payload, fds, rfl⟩ <;> rfl
  case awaitAck =>
      apply informed_of_unloaded
      cases stepped
      change (if _ then AppPc.top else .awaitAck).loaded = false
      split <;> rfl
  case claim =>
      apply informed_of_unloaded
      split at stepped <;> cases stepped <;> rfl
  case publish idx =>
      apply informed_of_unloaded
      cases stepped
      change (if a.active = true then AppPc.compare idx else .top).loaded = false
      split <;> rfl
  case join =>
      apply informed_of_unloaded
      split at stepped
      · cases stepped
        rfl
      · cases stepped
  all_goals
    apply informed_of_unloaded
    cases stepped
    rfl

end Informed

/-- The step lemma: publishes stay informed, whatever thread moves. -/
theorem informed_step {l : Ledger Int} {w next : World} {ev : WorldEvent} (sound : Sound l w)
    (moves : Moves w ev next) (few : (note l w ev).bumps < 2 ^ 32)
    (unexposed : EvictsUnexposed w ev)
    (informed : ∀ c, Informed l.base w.ring.generation (w.clients c)) (c : Nat) :
    Informed l.base next.ring.generation (next.clients c) := by
  have few' : l.bumps < 2 ^ 32 := Nat.lt_of_le_of_lt (bumps_le_note l w ev) few
  rw [sound.current] at informed
  cases moves with
  | background noted stamped quiet generation =>
      rw [generation, sound.current]
      exact (informed c).keep (quiet c).app (quiet c).granted
        ((quiet c).pending ▸ List.Sublist.refl _)
  | evict todo ring clients =>
      have noted : note l w .effect = l.bump := by simp [note, todo, Effect.note]
      have after := (sound.evict todo ring clients (noted ▸ few)).current
      simp only [EvictsUnexposed, todo] at unexposed
      rw [clients, after]
      refine (informed c).evict (unexposed c) ?_
      have now := Ledger.age_current (noted ▸ few)
      rw [Ledger.age_current few']
      change l.bumps < age l.bump.base l.bump.current
      rw [now]
      exact Nat.lt_succ_self _
  | @grant _ idx fd frameFd g todo ring clients =>
      obtain ⟨rfl, -, -⟩ := sound.fresh todo
      rw [ring, sound.current, clients]
      refine forall_atPeer (P := fun _ => Informed l.base l.current) informed ?_ c
      intro d _
      exact (informed d).deliver_grant frameFd
  | @control d _ _ _ stepped =>
      have entitled := sound.entitled d
      rw [setClient_ring, sound.current]
      refine forall_setClient (P := fun _ => Informed l.base l.current) ?_
        (fun d _ => informed d) c
      exact (informed d).handled sound.ordered few' entitled
        (Client.handled_of_controlStep entitled.sane stepped)
  | @app d _ _ _ stepped =>
      rw [setRing_ring, appStep_generation stepped, sound.current]
      refine forall_setClient (P := fun _ => Informed l.base l.current) ?_
        (fun d _ => informed d) c
      exact (informed d).acted sound.ordered few' (sound.entitled d) sound.current stepped
  | @crash d =>
      rw [setClient_ring, sound.current]
      exact forall_setClient (P := fun _ => Informed l.base l.current)
        (informed_of_unloaded rfl) (fun d _ => informed d) c

/-- An informed publish writes in its own generation, so that of an evicted client does
not write. -/
theorem inert_of_informed {base : UInt32} {w : World}
    (informed : ∀ c, Informed base w.ring.generation (w.clients c)) (ev : WorldEvent) :
    Inert w ev := by
  cases ev with
  | app c choice =>
      intro publishing evicted next taken
      obtain ⟨⟨client, ring⟩, stepped, rfl⟩ := Option.map_eq_some_iff.mp taken
      have known := informed c
      change w.ring.SameFrames ring
      cases stands : (w.clients c).app <;> rw [stands] at publishing <;>
        simp only [Client.appStep, stands] at stepped
      case storeFrameId idx g | storeWriteTs idx g | publishLocked idx g =>
          simp only [Informed, stands] at known
          rcases evicted with moved | ⟨h, compared, moved⟩
          · exact absurd (known.1.symm.trans known.2) moved
          · rw [stands] at compared
            cases compared
            exact absurd known.1.symm moved
      case publish | compare | ringLoaded | grantedLoaded | drop | signal =>
          cases stepped
          exact ⟨rfl, rfl, fun _ => rfl, fun _ => rfl⟩
      all_goals cases publishing
  | _ => trivial

/-- In every interleaving in which no eviction falls into an exposed publish, the
publish of an evicted client changes nothing. -/
theorem inert_of_run {start finish : World} {trace : List (World × WorldEvent)}
    (booted : Booted start) (run : world.Run start trace finish)
    (few : (ledger start.ring.generation trace).bumps < 2 ^ 32)
    (unexposed : Meets EvictsUnexposed trace) : Meets Inert trace := by
  refine meets_of_run
    (I := fun l w => ∀ c, Informed l.base w.ring.generation (w.clients c))
    booted run few unexposed ?_ ?_ ?_
  · intro c
    obtain ⟨clientId, modes, fresh⟩ := booted.clients c
    rw [fresh]
    exact informed_of_unloaded rfl
  · intro l w ev next sound informed unexposed moves few
    rw [note_base]
    exact informed_step sound moves few unexposed informed
  · intro l w ev _ informed _ _
    exact inert_of_informed informed ev

instance (w : World) (c : Nat) : Decidable (w.Evicted c) :=
  inferInstanceAs (Decidable (_ ∨ ∃ generation ∈ _, _))

instance (w : World) (ev : WorldEvent) : Decidable (Inert w ev) :=
  match ev with
  | .app c choice => inferInstanceAs (Decidable (_ → _ →
      ∀ next ∈ world.step w (.app c choice), w.ring.SameFrames next.ring))
  | .serve _ | .effect | .control _ _ _ | .crash _ | .checkout | .release => isTrue trivial

/-- A client exposed to an eviction, as a test. -/
def exposed (client : Client) : Bool :=
  match client.app with
  | .ringLoaded _ generation =>
      generation == client.grantedGeneration || client.pending.contains generation
  | .storeFrameId _ _ | .storeWriteTs _ _ | .publishLocked _ _ => true
  | _ => false

theorem exposed_iff (client : Client) : exposed client = true ↔ Exposed client := by
  unfold exposed Exposed
  split <;> simp

/-- Among the first `n` clients none is exposed to an eviction. -/
def EvictsUnexposedBelow (n : Nat) (w : World) : WorldEvent → Bool
  | .effect =>
      match w.todo with
      | .evictClient :: _ => (List.range n).all fun c => !exposed (w.clients c)
      | _ => true
  | _ => true

/-- Where only the first `n` clients take steps, only these can be exposed. -/
theorem evictsUnexposed_of_below {n : Nat} {start finish : World}
    {trace : List (World × WorldEvent)} (run : world.Run start trace finish)
    (offline : ∀ c ≥ n, (start.clients c).app = .offline)
    (below : Meets (fun w ev => Involves n ev = true ∧ EvictsUnexposedBelow n w ev = true) trace) :
    Meets EvictsUnexposed trace := by
  refine run.meets (I := fun w => ∀ c ≥ n, (w.clients c).app = .offline) below offline ?_ ?_
  · intro w ev next offline both taken
    exact offline_step offline both.1 (moves_of_step taken)
  · intro w ev next offline both _
    cases ev with
    | effect =>
        simp only [EvictsUnexposed]
        split
        · rename_i rest todo
          intro c shown
          have clear := both.2
          simp only [EvictsUnexposedBelow, todo, List.all_eq_true, List.mem_range,
            Bool.not_eq_true'] at clear
          by_cases named : c < n
          · cases (clear c named).symm.trans ((exposed_iff _).mpr shown)
          · simp [Exposed, offline c (by omega)] at shown
        · trivial
    | _ => trivial

/-- A frame is published, the client is timed out, and its next frame is dropped. -/
def timeout : List WorldEvent :=
  opening ++ apps 0 10 ++ serves (.tick ⟨10, 0⟩ ⟨0, 0⟩) 4 ++ apps 0 7

theorem inert_of_run_timeout :
    ∃ trace finish, world.Run studio trace finish ∧ trace.map Prod.snd = timeout ∧
      Meets Inert trace := by
  refine Demonstrates.exists_run
    (P := fun trace _ => (ledger studio.ring.generation trace).bumps < 2 ^ 32 ∧
      Meets (fun w ev => Involves 1 ev = true ∧ EvictsUnexposedBelow 1 w ev = true) trace)
    (by decide +kernel) ?_
  rintro trace finish run ⟨few, below⟩
  exact inert_of_run booted_studio run few (evictsUnexposed_of_below run (fun _ _ => rfl) below)

/-- The client has passed the check of `wispc_publish` when it is timed out. -/
def late : List WorldEvent :=
  opening ++ apps 0 6 ++ serves (.tick ⟨10, 0⟩ ⟨0, 0⟩) 4 ++ [.app 0 { word := 7 }] ++ apps 0 2

/-- The frame lands all the same: its id is stored and the ring offers it as ready. -/
theorem not_inert_of_late :
    ∃ trace finish, world.Run studio trace finish ∧ trace.map Prod.snd = late ∧
      (ledger studio.ring.generation trace).bumps < 2 ^ 32 ∧ ¬ Meets Inert trace ∧
      finish.ring.latestReady = 0 ∧ finish.ring.frameId 0 = 7 ∧ finish.Evicted 0 :=
  Demonstrates.run (by decide +kernel)

end World

end Wisp
