import Mathlib.Data.List.Nodup
import Mathlib.Data.Set.Insert
import Mathlib.Logic.Function.Basic

/-!
# A table of descriptors

The operating system hands out descriptors and takes them back, and uses the same ones again.
The objects whose life is followed are numbered in the order in which they are opened, so two
that had the same descriptor one after the other are told apart. A descriptor that is closed
while it refers to nothing is counted as `stray`: this is what closing an object twice comes to
until its descriptor is used again.
-/

/-- What a descriptor refers to: nothing, something whose life is not followed, or the object
of this number. -/
inductive Descriptors.Entry where
  | free
  | other
  | object (n : Nat)
  deriving DecidableEq, Repr

/-- The table, the number of objects opened so far, and how often each has been closed. -/
structure Descriptors (κ : Type*) where
  entry : κ → Descriptors.Entry
  opened : Nat
  closes : Nat → Nat
  stray : Nat

namespace Descriptors

variable {κ : Type*}

/-- An object that some descriptor refers to. -/
def IsOpen (d : Descriptors κ) (n : Nat) : Prop :=
  ∃ k, d.entry k = .object n

/-- The descriptors that refer to objects. -/
def objects (d : Descriptors κ) : Set κ :=
  {k | ∃ n, d.entry k = .object n}

/-- Each open object has one descriptor and has not been closed, every other one has been
closed once, and nothing else has been closed. -/
structure Sound (d : Descriptors κ) : Prop where
  known : ∀ n, d.IsOpen n → n < d.opened
  unique : ∀ j k n, d.entry j = .object n → d.entry k = .object n → j = k
  live : ∀ n, d.IsOpen n → d.closes n = 0
  gone : ∀ n < d.opened, ¬ d.IsOpen n → d.closes n = 1
  unopened : ∀ n, d.opened ≤ n → d.closes n = 0
  stray : d.stray = 0

/-- A table with the same objects in the same places. -/
theorem Sound.of_entry {d d' : Descriptors κ} (sound : d.Sound)
    (same : ∀ k n, d'.entry k = .object n ↔ d.entry k = .object n) (opened : d'.opened = d.opened)
    (closes : d'.closes = d.closes) (stray : d'.stray = d.stray) : d'.Sound := by
  have isOpen (n : Nat) : d'.IsOpen n ↔ d.IsOpen n := exists_congr fun k => same k n
  refine ⟨fun n => ?_, fun i j n => ?_, fun n => ?_, fun n => ?_, fun n => ?_,
    stray.trans sound.stray⟩
  · rw [isOpen, opened]
    exact sound.known n
  · rw [same, same]
    exact sound.unique i j n
  · rw [isOpen, closes]
    exact sound.live n
  · rw [isOpen, opened, closes]
    exact sound.gone n
  · rw [opened, closes]
    exact sound.unopened n

section Operations

variable [DecidableEq κ]

/-- A new object. -/
def create (d : Descriptors κ) (k : κ) : Descriptors κ :=
  { d with entry := Function.update d.entry k (.object d.opened), opened := d.opened + 1 }

/-- Something else. -/
def install (d : Descriptors κ) (k : κ) : Descriptors κ :=
  { d with entry := Function.update d.entry k .other }

def close (d : Descriptors κ) (k : κ) : Descriptors κ :=
  match d.entry k with
  | .free => { d with stray := d.stray + 1 }
  | .other => { d with entry := Function.update d.entry k .free }
  | .object n =>
      { d with
        entry := Function.update d.entry k .free
        closes := Function.update d.closes n (d.closes n + 1) }

def installAll (d : Descriptors κ) (ks : List κ) : Descriptors κ :=
  ks.foldl install d

def closeAll (d : Descriptors κ) (ks : List κ) : Descriptors κ :=
  ks.foldl close d

variable {d : Descriptors κ} {j k : κ} {ks : List κ} {n : Nat}

theorem closeAll_append (d : Descriptors κ) (first second : List κ) :
    d.closeAll (first ++ second) = (d.closeAll first).closeAll second :=
  List.foldl_append

@[simp] theorem entry_create_self : (d.create k).entry k = .object d.opened :=
  Function.update_self ..

theorem entry_create_of_ne (other : j ≠ k) : (d.create k).entry j = d.entry j :=
  Function.update_of_ne other ..

theorem entry_close_self : (d.close k).entry k = .free := by
  unfold close
  split
  · assumption
  · exact Function.update_self ..
  · exact Function.update_self ..

theorem entry_close_of_ne (other : j ≠ k) : (d.close k).entry j = d.entry j := by
  unfold close
  split
  · rfl
  · exact Function.update_of_ne other ..
  · exact Function.update_of_ne other ..

@[simp] theorem opened_close : (d.close k).opened = d.opened := by
  unfold close
  split <;> rfl

theorem entry_installAll : (d.installAll ks).entry k = if k ∈ ks then .other else d.entry k := by
  induction ks generalizing d with
  | nil => simp [installAll]
  | cons j rest ih =>
      show ((d.install j).installAll rest).entry k = _
      rw [ih]
      by_cases same : k = j
      · simp [install, same]
      · simp [install, same]

@[simp] theorem opened_installAll : (d.installAll ks).opened = d.opened := by
  induction ks generalizing d with
  | nil => rfl
  | cons j rest ih => exact ih (d := d.install j)

@[simp] theorem closes_installAll : (d.installAll ks).closes = d.closes := by
  induction ks generalizing d with
  | nil => rfl
  | cons j rest ih => exact ih (d := d.install j)

@[simp] theorem stray_installAll : (d.installAll ks).stray = d.stray := by
  induction ks generalizing d with
  | nil => rfl
  | cons j rest ih => exact ih (d := d.install j)

@[simp] theorem opened_closeAll : (d.closeAll ks).opened = d.opened := by
  induction ks generalizing d with
  | nil => rfl
  | cons j rest ih => exact (ih (d := d.close j)).trans opened_close

theorem entry_closeAll : (d.closeAll ks).entry k = if k ∈ ks then .free else d.entry k := by
  induction ks generalizing d with
  | nil => simp [closeAll]
  | cons j rest ih =>
      show ((d.close j).closeAll rest).entry k = _
      rw [ih]
      by_cases same : k = j
      · simp [same, entry_close_self]
      · simp [same, entry_close_of_ne same]

theorem stray_close (used : d.entry k ≠ .free) : (d.close k).stray = d.stray := by
  unfold close
  split
  · rename_i nothing
    exact absurd nothing used
  · rfl
  · rfl

theorem entry_of_installAll (names : (d.installAll ks).entry k = .object n) :
    d.entry k = .object n := by
  rw [entry_installAll] at names
  split at names
  · cases names
  · exact names

theorem entry_of_closeAll (names : (d.closeAll ks).entry k = .object n) :
    d.entry k = .object n := by
  rw [entry_closeAll] at names
  split at names
  · cases names
  · exact names

/-- Only the objects behind these descriptors are closed. -/
theorem closes_closeAll (other : ∀ k ∈ ks, d.entry k ≠ .object n) :
    (d.closeAll ks).closes n = d.closes n := by
  induction ks generalizing d with
  | nil => rfl
  | cons j rest ih =>
      have first : (d.close j).closes n = d.closes n := by
        have here := other j List.mem_cons_self
        unfold close
        split
        · rfl
        · rfl
        · rename_i m names
          refine Function.update_of_ne ?_ ..
          rintro rfl
          exact here names
      have later : ∀ k ∈ rest, (d.close j).entry k ≠ .object n := by
        intro k member
        by_cases same : k = j
        · rw [same, entry_close_self]
          exact Entry.noConfusion
        · rw [entry_close_of_ne same]
          exact other k (List.mem_cons_of_mem j member)
      exact (ih later).trans first

theorem objects_create : (d.create k).objects = insert k d.objects := by
  ext j
  rw [Set.mem_insert_iff]
  by_cases same : j = k
  · rw [same]
    exact iff_of_true ⟨_, entry_create_self⟩ (.inl rfl)
  · simp [objects, entry_create_of_ne same, same]

theorem objects_installAll (free : ∀ k ∈ ks, d.entry k = .free) :
    (d.installAll ks).objects = d.objects := by
  ext k
  show (∃ n, (d.installAll ks).entry k = _) ↔ ∃ n, d.entry k = _
  rw [entry_installAll]
  split
  · rename_i member
    simp [free k member]
  · exact Iff.rfl

theorem objects_closeAll : (d.closeAll ks).objects = {k ∈ d.objects | k ∉ ks} := by
  ext k
  show (∃ n, (d.closeAll ks).entry k = _) ↔ (∃ n, d.entry k = _) ∧ k ∉ ks
  rw [entry_closeAll]
  split
  · rename_i member
    simp [member]
  · rename_i new
    exact (and_iff_left new).symm

namespace Sound

theorem create (sound : d.Sound) (free : d.entry k = .free) : (d.create k).Sound := by
  have old {j : κ} {n : Nat} (names : (d.create k).entry j = .object n) (less : n ≠ d.opened) :
      d.entry j = .object n := by
    by_cases same : j = k
    · rw [same, entry_create_self] at names
      cases names
      exact absurd rfl less
    · rwa [entry_create_of_ne same] at names
  have kept {j : κ} {n : Nat} (names : d.entry j = .object n) :
      (d.create k).entry j = .object n := by
    rwa [entry_create_of_ne]
    rintro rfl
    cases free.symm.trans names
  have last {j : κ} (names : (d.create k).entry j = .object d.opened) : j = k := by
    by_contra other
    rw [entry_create_of_ne other] at names
    exact absurd (sound.known _ ⟨j, names⟩) (Nat.lt_irrefl _)
  refine ⟨fun n opens => ?_, fun i j n first second => ?_, fun n opens => ?_,
    fun n before shut => ?_, fun n after => sound.unopened n (Nat.le_of_succ_le after), sound.stray⟩
  · obtain ⟨j, names⟩ := opens
    by_cases new : n = d.opened
    · rw [new]
      exact Nat.lt_succ_self _
    · exact Nat.lt_succ_of_lt (sound.known n ⟨j, old names new⟩)
  · by_cases new : n = d.opened
    · subst new
      rw [last first, last second]
    · exact sound.unique i j n (old first new) (old second new)
  · obtain ⟨j, names⟩ := opens
    by_cases new : n = d.opened
    · exact sound.unopened n (Nat.le_of_eq new.symm)
    · exact sound.live n ⟨j, old names new⟩
  · by_cases new : n = d.opened
    · rw [new] at shut
      exact absurd ⟨k, entry_create_self⟩ shut
    · have before : n < d.opened + 1 := before
      exact sound.gone n (by omega) fun ⟨j, names⟩ => shut ⟨j, kept names⟩

theorem installAll (sound : d.Sound) (free : ∀ k ∈ ks, d.entry k = .free) :
    (d.installAll ks).Sound := by
  refine sound.of_entry (fun k n => ?_) opened_installAll closes_installAll stray_installAll
  rw [entry_installAll]
  split
  · rename_i member
    simp [free k member]
  · exact Iff.rfl

theorem close (sound : d.Sound) (used : d.entry k ≠ .free) : (d.close k).Sound := by
  cases here : d.entry k with
  | free => exact absurd here used
  | other =>
      refine sound.of_entry (fun j n => ?_) opened_close ?_ (stray_close used)
      · by_cases same : j = k
        · rw [same, entry_close_self, here]
          simp
        · rw [entry_close_of_ne same]
      · simp only [Descriptors.close, here]
  | object m =>
      have closes : (d.close k).closes = Function.update d.closes m (d.closes m + 1) := by
        simp only [Descriptors.close, here]
      have names (j : κ) (n : Nat) :
          (d.close k).entry j = .object n ↔ d.entry j = .object n ∧ n ≠ m := by
        by_cases same : j = k
        · rw [same, entry_close_self, here]
          simp [eq_comm]
        · rw [entry_close_of_ne same]
          refine ⟨fun names => ⟨names, ?_⟩, And.left⟩
          rintro rfl
          exact same (sound.unique j k n names here)
      have isOpen (n : Nat) : (d.close k).IsOpen n ↔ d.IsOpen n ∧ n ≠ m := by
        simp only [IsOpen, names, exists_and_right]
      refine ⟨fun n opens => ?_, fun i j n first second => ?_, fun n opens => ?_,
        fun n before shut => ?_, fun n after => ?_, (stray_close used).trans sound.stray⟩
      · rw [opened_close]
        exact sound.known n ((isOpen n).mp opens).1
      · exact sound.unique i j n ((names i n).mp first).1 ((names j n).mp second).1
      · obtain ⟨opens, other⟩ := (isOpen n).mp opens
        rw [closes, Function.update_of_ne other]
        exact sound.live n opens
      · rw [opened_close] at before
        rw [closes]
        by_cases same : n = m
        · rw [same, Function.update_self, sound.live m ⟨k, here⟩]
        · rw [Function.update_of_ne same]
          exact sound.gone n before fun opens => shut ((isOpen n).mpr ⟨opens, same⟩)
      · rw [opened_close] at after
        have known := sound.known m ⟨k, here⟩
        rw [closes, Function.update_of_ne (by omega)]
        exact sound.unopened n after

theorem closeAll (sound : d.Sound) (distinct : ks.Nodup) (used : ∀ k ∈ ks, d.entry k ≠ .free) :
    (d.closeAll ks).Sound := by
  induction ks generalizing d with
  | nil => exact sound
  | cons j rest ih =>
      obtain ⟨new, distinct⟩ := List.nodup_cons.mp distinct
      refine ih (sound.close (used j List.mem_cons_self)) distinct fun k member => ?_
      rw [entry_close_of_ne (by rintro rfl; exact new member)]
      exact used k (List.mem_cons_of_mem j member)

/-- Closing descriptors closes each object that one of them refers to once, and no other. -/
theorem closes_closeAll (sound : d.Sound) (distinct : ks.Nodup)
    (used : ∀ k ∈ ks, d.entry k ≠ .free) (n : Nat) :
    (d.closeAll ks).closes n = d.closes n ∨
      (d.closeAll ks).closes n = d.closes n + 1 ∧ ∃ k ∈ ks, d.entry k = .object n := by
  by_cases named : ∃ k ∈ ks, d.entry k = .object n
  · obtain ⟨k, member, names⟩ := named
    refine .inr ⟨?_, k, member, names⟩
    have opens : d.IsOpen n := ⟨k, names⟩
    rw [sound.live n opens]
    refine (sound.closeAll distinct used).gone n ?_ ?_
    · rw [opened_closeAll]
      exact sound.known n opens
    · rintro ⟨j, still⟩
      rw [entry_closeAll] at still
      split at still
      · cases still
      · rename_i other
        exact other (sound.unique j k n still names ▸ member)
  · refine .inl (Descriptors.closes_closeAll fun k member names => ?_)
    exact named ⟨k, member, names⟩

end Sound

end Operations

end Descriptors
