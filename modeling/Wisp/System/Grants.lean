import Wisp.System.Step

/-!
# At most one client may publish

The effects of the control thread are stamped, so the ledger stays ordered and no
generation is granted twice. A client's copy of the generation lags behind by any
number of messages in flight, but every grant on its way to `granted_generation`, and
the one stored there by the time `active` is set, is an entry of the ledger under that
client's number. Two clients that both pass the check of `wispc_publish` would own the
same entry.
-/

namespace Wisp

open Transition System Epoch Effect

namespace World

/-- The right of a client to the grants it knows of: the ledger has them under its
number, and they rise in the order in which they will be stored. -/
structure Entitled (l : Ledger Int) (c : Nat) (client : Client) : Prop where
  sane : client.Sane
  rising : client.pending.Pairwise fun g h => age l.base g < age l.base h
  pending : ∀ g ∈ client.pending, ((c : Int), g) ∈ l.issued
  held : client.Seasoned → ((c : Int), client.grantedGeneration) ∈ l.issued
  behind : client.Seasoned → ∀ g ∈ client.pending,
    age l.base client.grantedGeneration < age l.base g

/-- The ledger tells the truth about the world. -/
structure Sound (l : Ledger Int) (w : World) : Prop where
  ordered : l.Ordered
  current : w.ring.generation = l.current
  stamped : (w.todo.foldlM stamp (l.current, decide (l.Issued l.current))).isSome = true
  entitled : ∀ c, Entitled l c (w.clients c)

namespace Entitled

variable {l : Ledger Int} {c : Nat} {a b : Client}

/-- Nothing new is pending, and the same grant is stored. -/
theorem mono (h : Entitled l c a) (sane : b.Sane) (pending : b.pending.Sublist a.pending)
    (granted : b.grantedGeneration = a.grantedGeneration)
    (seasoned : b.Seasoned → a.Seasoned) : Entitled l c b where
  sane := sane
  rising := h.rising.sublist pending
  pending g member := h.pending g (pending.subset member)
  held acts := by
    rw [granted]
    exact h.held (seasoned acts)
  behind acts g member := by
    rw [granted]
    exact h.behind (seasoned acts) g (pending.subset member)

/-- A step of the control thread. -/
theorem handled (h : Entitled l c a) (sane : b.Sane) (step : Client.Handled a b) :
    Entitled l c b := by
  cases step with
  | keep pending granted active before after app =>
      refine h.mono sane pending granted ?_
      rintro (set | stores | busy)
      · exact .inl (active ▸ set)
      · exact absurd stores after
      · rcases app with same | ⟨-, idle⟩
        · exact .inr (.inr (same ▸ busy))
        · rcases idle with top | gone
          · cases top ▸ busy
          · cases gone ▸ busy
  | adopt pending active after app =>
      have rising := h.rising
      rw [pending] at rising
      obtain ⟨first, rest⟩ := List.pairwise_cons.mp rising
      have member : b.grantedGeneration ∈ a.pending := by simp [pending]
      exact
        { sane
          rising := rest
          pending := fun g later => h.pending g (by simp [pending, later])
          held := fun _ => h.pending _ member
          behind := fun _ => first }
  | arm pending granted active before after app =>
      exact h.mono sane (pending ▸ List.Sublist.refl _) granted fun _ => .inr (.inl before)
  | clear pending granted active before after app =>
      refine h.mono sane (pending ▸ List.Sublist.refl _) granted ?_
      rintro (set | stores | busy)
      · cases active.symm.trans set
      · exact absurd stores after
      · exact .inr (.inr (app ▸ busy))

/-- A step of the application thread. -/
theorem acted (h : Entitled l c a) (sane : b.Sane) (step : Client.Acted a b) :
    Entitled l c b := by
  refine h.mono sane step.pending step.granted ?_
  rintro (set | stores | busy)
  · exact .inl (step.active set)
  · rcases step.control with same | ended
    · exact .inr (.inl (same ▸ stores))
    · cases ended.symm.trans stores
  · rcases step.busy busy with acts | set
    · exact .inr (.inr acts)
    · exact .inl set

/-- More entries in the ledger take no right away. -/
theorem issue (h : Entitled l c a) (fd : Int) (g : UInt32) : Entitled (l.issue fd g) c a where
  sane := h.sane
  rising := h.rising
  pending g member := Ledger.mem_issue.mpr (.inl (h.pending g member))
  held acts := Ledger.mem_issue.mpr (.inl (h.held acts))
  behind := h.behind

theorem bump (h : Entitled l c a) : Entitled l.bump c a :=
  ⟨h.sane, h.rising, h.pending, h.held, h.behind⟩

/-- Nothing about the grants of the client changes. -/
theorem quiet (h : Entitled l c a) (step : Client.Quiet a b) : Entitled l c b := by
  refine h.mono ?_ (step.pending ▸ List.Sublist.refl _) step.granted ?_
  · intro connecting
    rw [step.app]
    exact h.sane (step.control ▸ connecting)
  · rintro (set | stores | busy)
    · exact .inl (step.active ▸ set)
    · exact .inr (.inl (step.control ▸ stores))
    · exact .inr (.inr (step.app ▸ busy))

/-- A grant of the current generation arrives: it lies after all earlier ones. -/
theorem deliver_grant (h : Entitled l c a) (ordered : l.Ordered) (few : l.bumps < 2 ^ 32)
    (unissued : ¬ l.Issued l.current) (frameFd : Int) :
    Entitled (l.issue c l.current) c (a.deliver (.activateGrant l.current frameFd)) := by
  have latest {g : UInt32} (member : ((c : Int), g) ∈ l.issued) :
      age l.base g < age l.base l.current := ordered.age_lt_current few unissued member
  have known := h.issue c l.current
  unfold Client.deliver
  split
  · exact known
  · have arrives : Client.pending
        { a with inbox := a.inbox ++ [.activateGrant l.current frameFd] } =
          a.pending ++ [l.current] := by
      simp [Client.pending, ServerMsg.grant]
    constructor
    · exact h.sane
    · rw [arrives]
      refine List.pairwise_append.mpr ⟨known.rising, List.pairwise_singleton _ _, ?_⟩
      intro g member new last
      rw [List.mem_singleton.mp last]
      exact latest (h.pending g member)
    · intro g member
      rw [arrives, List.mem_append, List.mem_singleton] at member
      rcases member with old | rfl
      · exact known.pending g old
      · exact Ledger.mem_issue.mpr (.inr rfl)
    · exact known.held
    · intro acts g member
      rw [arrives, List.mem_append, List.mem_singleton] at member
      rcases member with old | rfl
      · exact known.behind acts g old
      · exact latest (h.held acts)

end Entitled

namespace Sound

variable {l : Ledger Int} {w next : World}

/-- A grant that is about to go out carries the current generation, and that one has
not been granted. -/
theorem fresh (sound : Sound l w) {idx : Slot} {fd frameFd : Int} {g : UInt32}
    {rest : List Effect} (todo : w.todo = .send idx fd (.activateGrant g frameFd) :: rest) :
    g = l.current ∧ ¬ l.Issued l.current ∧
      (rest.foldlM stamp (l.current, true)).isSome = true := by
  have stamped := sound.stamped
  rw [todo, List.foldlM_cons] at stamped
  by_cases fresh : g = l.current ∧ decide (l.Issued l.current) = false
  · refine ⟨fresh.1, of_decide_eq_false fresh.2, ?_⟩
    simpa only [stamp, fresh.1, fresh.2, and_self, if_true, Option.bind_eq_bind,
      Option.bind_some] using stamped
  · simp only [stamp, if_neg fresh] at stamped
    cases stamped

/-- `wisps_evict_client`. The generation it brings up has never been granted. -/
theorem evict (sound : Sound l w) (todo : w.todo = .evictClient :: next.todo)
    (ring : next.ring = w.ring.evictClient) (clients : next.clients = w.clients)
    (few : l.bump.bumps < 2 ^ 32) : Sound l.bump next where
  ordered := sound.ordered.bump
  current := by
    rw [Ledger.bump_current, ← sound.current, ring]
    rfl
  stamped := by
    have stamped := sound.stamped
    rw [todo] at stamped
    rw [decide_eq_false (sound.ordered.unissued_bump few), Ledger.bump_current]
    exact stamped
  entitled c := by
    rw [clients]
    exact (sound.entitled c).bump

/-- A grant goes out. -/
theorem grant (sound : Sound l w) {idx : Slot} {fd frameFd : Int} {g : UInt32}
    (todo : w.todo = .send idx fd (.activateGrant g frameFd) :: next.todo)
    (ring : next.ring = w.ring)
    (clients : next.clients =
      (w.atPeer fd fun client => client.deliver (.activateGrant g frameFd)).clients)
    (few : l.bumps < 2 ^ 32) : Sound (l.issue fd g) next := by
  obtain ⟨rfl, unissued, stamped⟩ := sound.fresh todo
  have issued : (l.issue fd l.current).Issued l.current :=
    ⟨_, Ledger.mem_issue.mpr (.inr rfl), rfl⟩
  constructor
  · exact sound.ordered.issue few unissued
  · rw [ring]
    exact sound.current
  · rw [Ledger.issue_current, decide_eq_true issued]
    exact stamped
  · rw [clients]
    refine forall_atPeer (fun c => (sound.entitled c).issue fd _) ?_
    rintro c rfl
    exact (sound.entitled c).deliver_grant sound.ordered few unissued frameFd

/-- A step of a client changes its own entry only, and the generation never. -/
theorem client (sound : Sound l w) {c : Nat} {client : Client} {ring : Ring}
    (entitled : Entitled l c client) (generation : ring.generation = w.ring.generation) :
    Sound l ((w.setClient c client).setRing ring) where
  ordered := sound.ordered
  current := generation.trans sound.current
  stamped := sound.stamped
  entitled := forall_setClient entitled fun d _ => sound.entitled d

end Sound

/-- The step lemma: whatever thread moves, the ledger stays true. -/
theorem sound_step {l : Ledger Int} {w next : World} {ev : WorldEvent} (sound : Sound l w)
    (moves : Moves w ev next) (few : (note l w ev).bumps < 2 ^ 32) :
    Sound (note l w ev) next := by
  cases moves with
  | background noted stamped quiet generation =>
      rw [noted]
      constructor
      · exact sound.ordered
      · exact generation.trans sound.current
      · rw [← sound.current]
        apply stamped
        rw [sound.current]
        exact sound.stamped
      · exact fun c => (sound.entitled c).quiet (quiet c)
  | evict todo ring clients =>
      have noted : note l w .effect = l.bump := by simp [note, todo, Effect.note]
      rw [noted] at few ⊢
      exact sound.evict todo ring clients few
  | @grant _ idx fd frameFd g todo ring clients =>
      have noted : note l w .effect = l.issue fd g := by simp [note, todo, Effect.note]
      rw [noted] at few ⊢
      exact sound.grant todo ring clients few
  | @control c _ _ _ stepped =>
      have h := sound.entitled c
      exact sound.client (h.handled (Client.sane_of_controlStep h.sane stepped)
        (Client.handled_of_controlStep h.sane stepped)) rfl
  | @app c _ _ _ stepped =>
      have h := sound.entitled c
      exact sound.client (h.acted (Client.sane_of_appStep h.sane stepped)
        (Client.acted_of_appStep stepped)) (appStep_generation stepped)
  | @crash c =>
      exact sound.client ((sound.entitled c).acted (fun connecting => by cases connecting)
        (.of_exit rfl rfl rfl rfl)) rfl

/-- The server has just been initialised on a fresh ring, whatever generation that starts
with, and no client has connected. -/
structure Booted (w : World) : Prop where
  server : ∃ generation frameFd dp supportedModes,
    ControlPlane.init { Ring.create with generation } frameFd dp supportedModes = some w.server
  todo : w.todo = []
  display : w.display = ⟨w.server.ring, none⟩
  clients : ∀ c, ∃ clientId modes, w.clients c = .fresh clientId modes

theorem Booted.entitled {start : World} (booted : Booted start) (l : Ledger Int) (c : Nat) :
    Entitled l c (start.clients c) := by
  obtain ⟨clientId, modes, fresh⟩ := booted.clients c
  have unseasoned : ¬ (Client.fresh clientId modes).Seasoned := by
    simp [Client.Seasoned, Client.fresh, AppPc.busy]
  rw [fresh]
  constructor
  · exact Client.sane_fresh clientId modes
  · exact List.Pairwise.nil
  · intro g member
    cases member
  · intro acts
    exact absurd acts unseasoned
  · intro acts
    exact absurd acts unseasoned

theorem Booted.sound {start : World} (booted : Booted start) :
    Sound (.opened start.ring.generation) start where
  ordered := Ledger.ordered_opened _
  current := by simp [Ledger.current, Ledger.opened]
  stamped := by
    rw [booted.todo]
    rfl
  entitled := booted.entitled _

/-- The run lemma: as long as the generation has not come round, the ledger of a run
is true at its end. -/
theorem sound_of_run {start finish : World} {trace : List (World × WorldEvent)}
    (booted : Booted start) (run : world.Run start trace finish)
    (few : (ledger start.ring.generation trace).bumps < 2 ^ 32) :
    Sound (ledger start.ring.generation trace) finish := by
  induction run with
  | nil => exact booted.sound
  | @snoc trace w ev next prior taken ih =>
      rw [ledger_snoc] at few ⊢
      exact sound_step (ih (Nat.lt_of_le_of_lt (bumps_le_note _ _ _) few)) (moves_of_step taken) few

/-- The invariant rule for properties that refer to the ledger. A step has to keep the
invariant where the ledger is sound and the condition imposed on the run is met. -/
theorem invariant_of_run {start finish : World} {trace : List (World × WorldEvent)}
    {C : World → WorldEvent → Prop} {I : Ledger Int → World → Prop}
    (booted : Booted start) (run : world.Run start trace finish)
    (few : (ledger start.ring.generation trace).bumps < 2 ^ 32) (met : Meets C trace)
    (initial : I (.opened start.ring.generation) start)
    (preserved : ∀ l w ev next, Sound l w → I l w → C w ev → Moves w ev next →
      (note l w ev).bumps < 2 ^ 32 → I (note l w ev) next) :
    I (ledger start.ring.generation trace) finish := by
  induction run with
  | nil => exact initial
  | @snoc trace w ev next prior taken ih =>
      rw [ledger_snoc] at few ⊢
      obtain ⟨before, last⟩ := meets_snoc.mp met
      have few' := Nat.lt_of_le_of_lt (bumps_le_note _ w ev) few
      exact preserved _ w ev next (sound_of_run booted prior few') (ih few' before) last
        (moves_of_step taken) few

/-- What the invariant says about the next step holds of every step. -/
theorem meets_of_run {start finish : World} {trace : List (World × WorldEvent)}
    {C G : World → WorldEvent → Prop} {I : Ledger Int → World → Prop}
    (booted : Booted start) (run : world.Run start trace finish)
    (few : (ledger start.ring.generation trace).bumps < 2 ^ 32) (met : Meets C trace)
    (initial : I (.opened start.ring.generation) start)
    (preserved : ∀ l w ev next, Sound l w → I l w → C w ev → Moves w ev next →
      (note l w ev).bumps < 2 ^ 32 → I (note l w ev) next)
    (good : ∀ l w ev, Sound l w → I l w → C w ev → l.bumps < 2 ^ 32 → G w ev) :
    Meets G trace := by
  induction run with
  | nil => exact meets_nil
  | @snoc trace w ev next prior taken ih =>
      rw [ledger_snoc] at few
      obtain ⟨before, last⟩ := meets_snoc.mp met
      have few' := Nat.lt_of_le_of_lt (bumps_le_note _ w ev) few
      refine meets_snoc.mpr ⟨ih few' before, ?_⟩
      exact good _ w ev (sound_of_run booted prior few')
        (invariant_of_run booted prior few' before initial preserved) last few'

/-- The client passes the check of `wispc_publish`. -/
def MayPublish (w : World) (c : Nat) : Prop :=
  (w.clients c).active = true ∧ (w.clients c).grantedGeneration = w.ring.generation

theorem Sound.mayPublish_unique {l : Ledger Int} {w : World} (sound : Sound l w) {c d : Nat}
    (hc : MayPublish w c) (hd : MayPublish w d) : c = d := by
  have owns {c : Nat} (h : MayPublish w c) : ((c : Int), w.ring.generation) ∈ l.issued :=
    h.2 ▸ (sound.entitled c).held (.inl h.1)
  exact Int.ofNat_inj.mp (sound.ordered.owner_unique (owns hc) (owns hd))

/-- In every interleaving of the server and any number of clients, at most one client
may publish, and no two grants carry the same generation. -/
theorem exclusive_of_run {start finish : World} {trace : List (World × WorldEvent)}
    (booted : Booted start) (run : world.Run start trace finish)
    (few : (ledger start.ring.generation trace).bumps < 2 ^ 32) :
    (∀ c d, MayPublish finish c → MayPublish finish d → c = d) ∧
      ((ledger start.ring.generation trace).issued.map Prod.snd).Nodup := by
  have sound := sound_of_run booted run few
  exact ⟨fun _ _ hc hd => sound.mayPublish_unique hc hd, sound.ordered.nodup⟩

instance (w : World) (c : Nat) : Decidable (MayPublish w c) :=
  inferInstanceAs (Decidable (_ ∧ _))

theorem booted_studio : Booted studio where
  server := ⟨_, _, _, _, ControlPlane.init_eq_booted⟩
  todo := rfl
  display := rfl
  clients _ := ⟨_, _, rfl⟩

/-- The right to publish passes from one client to another. -/
theorem exclusive_of_run_succession :
    ∃ trace finish, world.Run studio trace finish ∧ trace.map Prod.snd = opening ++ succession ∧
      MayPublish finish 1 ∧ (∀ c d, MayPublish finish c → MayPublish finish d → c = d) ∧
      ((ledger studio.ring.generation trace).issued.map Prod.snd).Nodup := by
  refine Demonstrates.exists_run
    (P := fun trace finish => MayPublish finish 1 ∧
      (ledger studio.ring.generation trace).bumps < 2 ^ 32) (by decide +kernel) ?_
  rintro trace finish run ⟨publishes, few⟩
  exact ⟨publishes, exclusive_of_run booted_studio run few⟩

end World

end Wisp
