import MultiDap.Errors

/-!
# The handle store

References into the suspended target. An id is handed out once in the life of a store, and it is
looked up against the stop epoch it was minted in. `Accounts` relates a store to the list of all
handles it ever minted.
-/

namespace MultiDap.Handle

inductive Kind where
  | frame | scope | var | memory
  deriving DecidableEq

/-- The number behind a kind, as `%d` prints it. -/
def Kind.code : Kind → Nat
  | frame => 0
  | scope => 1
  | var => 2
  | memory => 3

end Handle

structure Handle (α : Type) where
  id : Int
  kind : Handle.Kind
  core : Int
  stopEpoch : UInt64
  value : α
  deriving DecidableEq

namespace Handle

def maxID : Int := 2 ^ 31 - 1

/-- `next` is zero once the id space is exhausted. -/
structure Store (α : Type) where
  next : Int := 1
  m : Int → Option (Handle α) := fun _ => none

namespace Store

variable {α : Type}

/-- Mint a handle. Ids are never wrapped around. -/
def alloc (s : Store α) (kind : Kind) (core : Int) (stopEpoch : UInt64) (value : α) :
    Store α × Except Error Int :=
  if s.next ≤ 0 then
    (s, .error (.under s!"alloc kind={kind.code} core={core}" (.of .handlesExhausted)))
  else
    let id := s.next
    ({ next := if id = maxID then 0 else s.next + 1
       m := Function.update s.m id (some ⟨id, kind, core, stopEpoch, value⟩) }, .ok id)

def resolve (s : Store α) (id : Int) (stopEpoch : UInt64) (stopped : Bool) :
    Except Error (Handle α) :=
  match s.m id with
  | some h =>
    if !stopped || h.stopEpoch != stopEpoch then .error (.under s!"handle {id}" (.of .staleHandle))
    else .ok h
  | none => .error (.under s!"handle {id}" (.of .staleHandle))

/-- Forget every handle. The allocator is not rewound. -/
def dropStopBound (s : Store α) : Store α := { s with m := fun _ => none }

@[simp] lemma dropStopBound_next (s : Store α) : s.dropStopBound.next = s.next := rfl

@[simp] lemma dropStopBound_m (s : Store α) (id : Int) : s.dropStopBound.m id = none := rfl

/-! ### Minting -/

variable {s t : Store α} {kind : Kind} {core : Int} {stopEpoch : UInt64} {value : α} {id : Int}

lemma alloc_ok (h : s.alloc kind core stopEpoch value = (t, .ok id)) :
    0 < s.next ∧ id = s.next ∧ t.next = (if s.next = maxID then 0 else s.next + 1) ∧
      t.m = Function.update s.m id (some ⟨id, kind, core, stopEpoch, value⟩) := by
  simp only [alloc] at h
  by_cases hn : s.next ≤ 0
  · rw [if_pos hn] at h
    cases (Prod.mk.inj h).2
  rw [if_neg hn] at h
  obtain ⟨rfl, hid⟩ := Prod.mk.inj h
  cases hid
  exact ⟨not_le.mp hn, rfl, rfl, rfl⟩

lemma alloc_error {err : Error} (h : s.alloc kind core stopEpoch value = (t, .error err)) :
    t = s ∧ s.next ≤ 0 := by
  simp only [alloc] at h
  by_cases hn : s.next ≤ 0
  · rw [if_pos hn] at h
    exact ⟨(Prod.mk.inj h).1.symm, hn⟩
  · rw [if_neg hn] at h
    cases (Prod.mk.inj h).2

lemma alloc_exhausted (h : s.next ≤ 0) : s.alloc kind core stopEpoch value =
      (s, .error (.under s!"alloc kind={kind.code} core={core}" (.of .handlesExhausted))) := by
  rw [alloc, if_pos h]

/-- The store against the handles it has minted, in the order in which they were minted. -/
structure Accounts (issued : List (Handle α)) (s : Store α) : Prop where
  next_nonneg : 0 ≤ s.next
  next_le : s.next ≤ maxID
  positive : ∀ h ∈ issued, 0 < h.id ∧ h.id ≤ maxID
  increasing : (issued.map Handle.id).Pairwise (· < ·)
  below : 0 < s.next → ∀ h ∈ issued, h.id < s.next
  held : ∀ id h, s.m id = some h → h.id = id ∧ h ∈ issued
  /-- Once the last id is gone, nothing is minted any more. -/
  exhausted : ∀ h ∈ issued, h.id = maxID → s.next = 0

lemma accounts_init : Accounts [] ({} : Store α) := by
  constructor <;> simp [maxID]

variable {issued : List (Handle α)}

lemma Accounts.drop (h : Accounts issued s) : Accounts issued s.dropStopBound where
  next_nonneg := h.next_nonneg
  next_le := h.next_le
  positive := h.positive
  increasing := h.increasing
  below := h.below
  held := by simp
  exhausted := h.exhausted

lemma Accounts.fresh (h : Accounts issued s)
    (ha : s.alloc kind core stopEpoch value = (t, .ok id)) : ∀ g ∈ issued, g.id < id := by
  obtain ⟨hpos, rfl, -, -⟩ := alloc_ok ha
  exact h.below hpos

lemma Accounts.alloc (h : Accounts issued s)
    (ha : s.alloc kind core stopEpoch value = (t, .ok id)) :
    Accounts (issued ++ [⟨id, kind, core, stopEpoch, value⟩]) t := by
  have hfr := h.fresh ha
  obtain ⟨hpos, rfl, hnx, hm⟩ := alloc_ok ha
  have hle := h.next_le
  have hnn := h.next_nonneg
  constructor
  case next_nonneg => rw [hnx]; split_ifs <;> omega
  case next_le => rw [hnx]; split_ifs <;> simp only [maxID] at * <;> omega
  case positive =>
    intro g hg
    rcases List.mem_append.mp hg with hg | hg
    · exact h.positive g hg
    · obtain rfl := List.mem_singleton.mp hg
      exact ⟨hpos, hle⟩
  case increasing =>
    rw [List.map_append, List.pairwise_append]
    refine ⟨h.increasing, List.pairwise_singleton _ _, ?_⟩
    intro a ha b hb
    obtain ⟨g, hg, rfl⟩ := List.mem_map.mp ha
    obtain rfl := List.mem_singleton.mp hb
    exact hfr g hg
  case below =>
    intro hpos' g hg
    rw [hnx] at hpos' ⊢
    split_ifs at hpos' ⊢ with hmax
    · exact absurd hpos' (lt_irrefl _)
    rcases List.mem_append.mp hg with hg | hg
    · exact (hfr g hg).trans (lt_add_one _)
    · obtain rfl := List.mem_singleton.mp hg
      exact lt_add_one _
  case held =>
    intro id' g hg
    rw [hm] at hg
    by_cases hid : id' = s.next
    · subst hid
      simp only [Function.update_self, Option.some.injEq] at hg
      subst hg
      exact ⟨rfl, by simp⟩
    · rw [Function.update_of_ne hid] at hg
      exact ⟨(h.held id' g hg).1, List.mem_append_left _ (h.held id' g hg).2⟩
  case exhausted =>
    intro g hg hgmax
    rw [hnx]
    rcases List.mem_append.mp hg with hg | hg
    · -- the last id was handed out before, so this allocation cannot have succeeded
      have := h.exhausted g hg hgmax
      omega
    · obtain rfl := List.mem_singleton.mp hg
      rw [if_pos hgmax]

lemma resolve_eq_ok {h : Handle α} {stopped : Bool} : s.resolve id stopEpoch stopped = .ok h ↔
      s.m id = some h ∧ stopped = true ∧ h.stopEpoch = stopEpoch := by
  unfold resolve
  cases hm : s.m id with
  | none => simp
  | some g =>
    by_cases hok : stopped = true ∧ g.stopEpoch = stopEpoch
    · obtain ⟨rfl, rfl⟩ := hok
      simp only [Bool.not_true, bne_self_eq_false, Bool.or_self, Bool.false_eq_true, if_false,
        Except.ok.injEq, Option.some.injEq, true_and]
      constructor
      · rintro rfl
        exact ⟨rfl, rfl⟩
      · exact And.left
    have hbad : (!stopped || g.stopEpoch != stopEpoch) = true := by
      cases stopped <;> simp_all
    simp only [hbad, if_true, reduceCtorEq, Option.some.injEq, false_iff]
    rintro ⟨rfl, hno⟩
    exact hok hno

lemma resolve_of_none (hm : s.m id = none) (stopEpoch : UInt64) (stopped : Bool) :
    s.resolve id stopEpoch stopped = .error (.under s!"handle {id}" (.of .staleHandle)) := by
  simp [resolve, hm]

end Store

/-- A store together with the list of the handles it has minted, which no code reads. -/
structure Ledger (α : Type) where
  store : Store α := {}
  issued : List (Handle α) := []

namespace Ledger

variable {α : Type}

def alloc (l : Ledger α) (kind : Kind) (core : Int) (stopEpoch : UInt64) (value : α) :
    Ledger α × Except Error Int :=
  match l.store.alloc kind core stopEpoch value with
  | (store, .ok id) =>
    ({ store := store, issued := l.issued ++ [⟨id, kind, core, stopEpoch, value⟩] }, .ok id)
  | (store, .error err) => ({ l with store := store }, .error err)

def dropStopBound (l : Ledger α) : Ledger α := { l with store := l.store.dropStopBound }

def Balanced (l : Ledger α) : Prop := l.store.Accounts l.issued

lemma balanced_init : ({} : Ledger α).Balanced := Store.accounts_init

lemma Balanced.drop {l : Ledger α} (h : l.Balanced) : l.dropStopBound.Balanced :=
  Store.Accounts.drop h

/-- An allocation mints one new handle, or changes nothing. -/
inductive Minted (stopEpoch : UInt64) (l : Ledger α) : Ledger α → Prop where
  | refused : Minted stopEpoch l l
  | minted (h : Handle α) (hop : 0 < l.store.next) (hep : h.stopEpoch = stopEpoch)
      (hne : ∀ g ∈ l.issued, g.id < h.id)
      (l' : Ledger α) (hm : l'.store.m = Function.update l.store.m h.id (some h))
      (hiss : l'.issued = l.issued ++ [h]) (hbal : l'.Balanced) : Minted stopEpoch l l'

lemma Balanced.alloc {l : Ledger α} (h : l.Balanced) (kind : Kind) (core : Int)
    (stopEpoch : UInt64) (value : α) :
    Minted stopEpoch l (l.alloc kind core stopEpoch value).1 := by
  unfold Ledger.alloc
  cases ha : l.store.alloc kind core stopEpoch value with
  | mk _ res =>
    cases res with
    | error =>
      obtain ⟨rfl, -⟩ := Store.alloc_error ha
      exact .refused
    | ok id =>
      exact .minted ⟨id, kind, core, stopEpoch, value⟩ (Store.alloc_ok ha).1 rfl
        (Store.Accounts.fresh h ha) _ (Store.alloc_ok ha).2.2.2 rfl (Store.Accounts.alloc h ha)

end Ledger

end Handle

end MultiDap
