import MultiDap.Trace.Shutdown
import MultiDap.Machine.Fair

/-!
# Who holds a source lease

A lease is in the hands of the call that has acquired it, of the controller, or of a goroutine of
`releaseAfterReap`, and whoever holds it knows the one helper that may still be alive under it.
There are two windows in which that helper is not known: a factory that returns a helper with an
error, and an invalidation between the return of the factory and the section that records the
helper. A run that avoids both never closes a lease while a helper is alive under it.
-/

namespace MultiDap.Trace

open Machine World List Option Call Bool

/-- The helper was started under the lease. -/
def World.Under (w : World) (lease h : Nat) : Prop :=
  ∃ helper, w.helpers[h]? = some helper ∧ helper.lease = some lease

/-- Under the lease at most this helper is alive. -/
def World.Waits (w : World) (lease : Nat) (x : Option Nat) : Prop :=
  ∀ h, w.Under lease h → w.done h = true ∨ x = some h

/-- A lease that was closed has no helper that is alive. -/
def World.LeasesHeld (w : World) : Prop :=
  ∀ lease, w.leases[lease]? = some true → ∀ h, w.Under lease h → w.done h = true

/-- The factory has returned a helper, and it is not recorded yet. -/
def Call.recording (call : Call) : Bool :=
  match call.phase with
  | .record _ => true
  | _ => false

/-- Some call has a helper that it has not recorded yet. -/
def World.Unrecorded (w : World) : Prop := ∃ call ∈ w.calls, call.recording = true

instance (w : World) : Decidable w.Unrecorded :=
  inferInstanceAs (Decidable (∃ call ∈ w.calls, call.recording = true))

/-- The factory does not return a helper together with an error, and no invalidation comes before a
helper that was returned is recorded. -/
def World.Careful (w : World) : Event → Prop
  | .call k (.built failed) => failed = true → ∀ call ∈ w.calls[k]?, call.helper = none
  | .invalidate owner _ => owner = "" ∨ owner = w.c.owner → ¬ w.Unrecorded
  | .shutdown => ¬ w.Unrecorded
  | _ => True

instance decidableCareful (w : World) : (e : Event) → Decidable (w.Careful e)
  | .call k (.built failed) =>
    inferInstanceAs (Decidable (failed = true → ∀ call ∈ w.calls[k]?, call.helper = none))
  | .invalidate owner _ =>
    inferInstanceAs (Decidable (owner = "" ∨ owner = w.c.owner → ¬ w.Unrecorded))
  | .shutdown => inferInstanceAs (Decidable (¬ w.Unrecorded))
  | .call _ (.enter _) | .call _ (.acquired ..) | .call _ (.locked _) | .call _ .spawn
  | .call _ (.performed _) | .call _ (.commit ..) | .execute .. | .snapshot | .finish _ | .poison _
  | .release _ | .reap _ | .waited | .closer _ => .isTrue trivial

/-- What a call that is in progress knows about the lease. -/
def World.Custody (w : World) (call : Call) : Prop :=
  match call.phase with
  | .acquire => w.c.lease = none
  | .hold lease =>
    w.c.lease = none ∧ w.leases[lease]? = some false ∧ (∀ h, ¬ w.Under lease h) ∧
      ∀ x, (lease, x) ∉ w.releases
  | .fence =>
    ∀ l, w.c.lease = some l → call.epoch = w.c.epoch ∧ w.leases[l]? = some false ∧ w.Waits l none
  | .factory lease x =>
    w.c.factoryActive = true ∧ w.c.lease = lease ∧
      ∀ l, lease = some l → w.leases[l]? = some false ∧ w.Waits l x
  | .built lease x failed =>
    w.c.factoryActive = true ∧ (x = none ∨ failed = false) ∧ w.c.lease = lease ∧
      ∀ l, lease = some l → w.Waits l x
  | .failing x _ => x = none ∧ ∀ l, w.c.lease = some l → call.epoch = w.c.epoch ∧ w.Waits l none
  | .record h => ∀ l, w.c.lease = some l → w.Waits l (some h)
  | .perform h => call.epoch = w.c.epoch → w.c.backend = some h
  | .commit h _ err =>
    (call.epoch = w.c.epoch → w.c.backend = some h) ∧
      (call.request.op = .close → err = none → w.done h = true)
  | .entering | .returned .. => True

/-- The factory runs, or has returned and the lease is not handed over yet. -/
def Call.building (call : Call) : Bool :=
  match call.phase with
  | .factory .. | .built .. => true
  | _ => false

/-- Whoever holds a lease knows the helper that may be alive under it. -/
structure Leased (w : World) : Prop where
  bound : ∀ l h, w.Under l h → l < w.leases.length
  shut : ∀ l, w.leases[l]? = some true → w.Waits l none
  released : ∀ l x, (l, x) ∈ w.releases → l < w.leases.length ∧ w.Waits l x
  held : ∀ l, w.c.lease = some l → l < w.leases.length ∧ ∀ x, (l, x) ∉ w.releases
  custody : ∀ call ∈ w.calls, w.Custody call
  recorded : (∀ call ∈ w.calls, call.unrecorded = false) → ∀ l, w.c.lease = some l →
    w.Waits l (w.c.backend <|> w.c.retired)
  busy : w.c.status.busy = true → ∃ k call, w.Runs k call ∧ call.epoch = w.c.epoch
  active : w.c.factoryActive = true → ∃ call ∈ w.calls, call.building = true
  idle : (∀ call ∈ w.calls, call.inProgress = false) → w.c.status.needsReconciliation = false →
    w.c.backend = none → w.c.lease = none

lemma leased_new (options : Options) : Leased (World.new options) := by
  constructor <;> simp [new, World.Under]

section

variable {w w' : World} {k l : Nat} {x y : Option Nat} {call call' : Call}

lemma World.Waits.mono (hund : ∀ h, w'.Under l h → w.Under l h)
    (hdn : ∀ h, w.done h = true → w'.done h = true) (h : w.Waits l x) : w'.Waits l x :=
  fun y hy => (h y (hund y hy)).imp_left (hdn y)

lemma World.Waits.of_none (h : w.Waits l none) : w.Waits l x :=
  fun y hy => .inl ((h y hy).resolve_right (by simp))

lemma World.Waits.finished (h : w.Waits l x) (hdn : ∀ y ∈ x, w.done y = true) : w.Waits l none :=
  fun y hy => .inl ((h y hy).elim id (hdn y))

lemma getElem?_closed {leases : List Bool} {l m : Nat} (h : (leases.set m true)[l]? = some true) :
    l = m ∨ leases[l]? = some true := by
  rw [getElem?_set] at h
  split_ifs at h with hlm hlt
  · exact .inl hlm.symm
  · exact .inr h

lemma length_closeLease (w : World) (lease : Option Nat) :
    (w.closeLease lease).leases.length = w.leases.length := by
  cases lease <;> simp [closeLease]

lemma getElem?_closeLease {lease : Option Nat} (h : (w.closeLease lease).leases[l]? = some true) :
    lease = some l ∨ w.leases[l]? = some true := by
  cases lease with
  | none => exact .inr h
  | some =>
    rcases getElem?_closed h with rfl | h
    · exact .inl rfl
    · exact .inr h

lemma getElem?_acquired {leases : List Bool} {b c : Bool} {l : Nat}
    (h : (leases ++ [b])[l]? = some c) : leases[l]? = some c ∨ l = leases.length ∧ c = b := by
  rw [List.getElem?_append] at h
  split_ifs at h with hlt
  · exact .inl h
  have hlen := lt_length h
  have hc := List.mem_singleton.mp (List.mem_of_getElem? h)
  simp only [List.length_singleton] at hlen
  exact .inr ⟨by omega, hc⟩

lemma mem_releaseAfterReap {lease hlp : Option Nat}
    (h : (l, x) ∈ (w.releaseAfterReap lease hlp).releases) :
    (l, x) ∈ w.releases ∨ lease = some l ∧ x = hlp := by
  refine (List.mem_append.mp h).imp_right fun h => ?_
  cases lease with
  | none => simp at h
  | some m =>
    obtain ⟨rfl, rfl⟩ : l = m ∧ x = hlp := by simpa using h
    exact ⟨rfl, rfl⟩

lemma under_modify {l x y : Nat} {f : Helper → Helper} (hf : ∀ hlp, (f hlp).lease = hlp.lease) :
    ({ w with helpers := w.helpers.modify x f } : World).Under l y ↔ w.Under l y := by
  simp only [World.Under, getElem?_modify]
  split_ifs
  · cases w.helpers[y]? <;> simp [hf]
  · simp

lemma under_abort {l y : Nat} : (w.abort x).Under l y ↔ w.Under l y := by
  cases x with
  | none => exact Iff.rfl
  | some => exact under_modify fun _ => rfl

lemma waits_abort : (w.abort y).Waits l x ↔ w.Waits l x := by
  simp only [World.Waits, under_abort, done_abort]

lemma custody_idle (h : call.inProgress = false) : w.Custody call := by
  unfold World.Custody
  unfold inProgress at h
  split at h <;> simp_all

lemma World.Custody.frame (h : w.Custody call) (hla : w'.c.lease = w.c.lease)
    (hep : w'.c.epoch = w.c.epoch) (hac : w'.c.factoryActive = w.c.factoryActive)
    (hba : call.epoch = w.c.epoch → w'.c.backend = w.c.backend)
    (hleas : ∀ l, w.c.lease = some l ∨ call.phase = .hold l → w.leases[l]? = some false →
      w'.leases[l]? = some false) (hrele : ∀ p ∈ w'.releases, p ∈ w.releases)
    (hund : ∀ l h, w'.Under l h → w.Under l h)
    (hdn : ∀ h, w.done h = true → w'.done h = true) : w'.Custody call := by
  have hwai {l : Nat} {x : Option Nat} (hw : w.Waits l x) : w'.Waits l x :=
    hw.mono (hund l) hdn
  unfold World.Custody at h ⊢
  rw [hla, hep, hac]
  split at h
  · exact h
  case h_2 lease hph =>
    obtain ⟨hnn, hon, hno, hrel⟩ := h
    exact ⟨hnn, hleas lease (.inr hph) hon, fun y hy => hno y (hund lease y hy),
      fun y hy => hrel y (hrele _ hy)⟩
  · intro l hl
    obtain ⟨he, hon, hw⟩ := h l hl
    exact ⟨he, hleas l (.inl hl) hon, hwai hw⟩
  · refine ⟨h.1, h.2.1, fun l hl => ?_⟩
    obtain ⟨hon, hw⟩ := h.2.2 l hl
    exact ⟨hleas l (.inl (h.2.1.trans hl)) hon, hwai hw⟩
  · exact ⟨h.1, h.2.1, h.2.2.1, fun l hl => hwai (h.2.2.2 l hl)⟩
  · exact ⟨h.1, fun l hl => ⟨(h.2 l hl).1, hwai (h.2 l hl).2⟩⟩
  · exact fun l hl => hwai (h l hl)
  · exact fun he => (hba he).trans (h he)
  · exact ⟨fun he => (hba he).trans (h.1 he), fun hop hrr => hdn _ (h.2 hop hrr)⟩
  · trivial
  · trivial

lemma unrecorded_idle (h : call.inProgress = false) : call.unrecorded = false := by
  unfold unrecorded
  unfold inProgress at h
  split at h <;> simp_all

lemma inProgress_of_building (h : call.building = true) : call.inProgress = true := by
  unfold building at h
  unfold inProgress
  split at h <;> simp_all

lemma Fenced.others_idle (h : Fenced w) (hru : w.Runs k call)
    (hca : w'.calls = w.calls.set k call') {other : Call} (hother : other ∈ w'.calls) :
    other = call' ∨ other.inProgress = false := by
  obtain ⟨j, hj⟩ := List.mem_iff_getElem?.mp hother
  rcases getElem?_calls_set hru.1 hca hj with ⟨-, rfl⟩ | ⟨hne, hj⟩
  · exact .inl rfl
  · refine .inr (eq_false_iff.mpr fun hpr => hne ?_)
    exact h.unique j k other call ⟨hj, hpr⟩ hru

lemma leased_of_only (hca : w'.calls = w.calls.set k call') (hlt : k < w.calls.length)
    (honly : ∀ other ∈ w'.calls, other = call' ∨ other.inProgress = false)
    (hbou : ∀ l h, w'.Under l h → l < w'.leases.length)
    (hshut : ∀ l, w'.leases[l]? = some true → w'.Waits l none)
    (hreleas : ∀ l x, (l, x) ∈ w'.releases → l < w'.leases.length ∧ w'.Waits l x)
    (hheld : ∀ l, w'.c.lease = some l → l < w'.leases.length ∧ ∀ x, (l, x) ∉ w'.releases)
    (hcu : w'.Custody call') (hrec : call'.unrecorded = false → ∀ l, w'.c.lease = some l →
      w'.Waits l (w'.c.backend <|> w'.c.retired))
    (hbz : w'.c.status.busy = true → call'.inProgress = true ∧ call'.epoch = w'.c.epoch)
    (hac : w'.c.factoryActive = true → call'.building = true)
    (hid : call'.inProgress = false → w'.c.status.needsReconciliation = false →
      w'.c.backend = none → w'.c.lease = none) : Leased w' := by
  have hget : w'.calls[k]? = some call' := by rw [hca, getElem?_set_self hlt]
  have hme := List.mem_of_getElem? hget
  refine ⟨hbou, hshut, hreleas, hheld, fun other hother => ?_, fun hun => ?_, fun hb => ?_,
    fun ha => ⟨call', hme, hac ha⟩, fun hno => hid (hno call' hme)⟩
  · rcases honly other hother with rfl | hno
    · exact hcu
    · exact custody_idle hno
  · exact hrec (hun call' hme)
  · exact ⟨k, call', ⟨hget, (hbz hb).1⟩, (hbz hb).2⟩

namespace Leased

section

variable (h : Leased w)

include h

section

variable (hf : Fenced w)

include hf

lemma inactive (hru : w.Runs k call) (hno : call.building = false) : w.c.factoryActive = false := by
  refine eq_false_iff.mpr fun hac => ?_
  obtain ⟨other, hother, hbui⟩ := h.active hac
  obtain ⟨j, hj⟩ := List.mem_iff_getElem?.mp hother
  obtain rfl := hf.unique j k other call ⟨hj, inProgress_of_building hbui⟩ hru
  cases hj.symm.trans hru.1
  simp [hno] at hbui

lemma busy_epoch (hru : w.Runs k call) (hbz : w.c.status.busy = true) : call.epoch = w.c.epoch := by
  obtain ⟨j, other, hother, hep⟩ := h.busy hbz
  obtain rfl := hf.unique j k other call hother hru
  exact some.inj (hother.1.symm.trans hru.1) ▸ hep

lemma waits_recorded (hru : w.Runs k call)
    (hun : call.unrecorded = false) (hla : w.c.lease = some l) :
    w.Waits l (w.c.backend <|> w.c.retired) := by
  refine h.recorded (fun other hother => ?_) l hla
  obtain ⟨j, hj⟩ := List.mem_iff_getElem?.mp hother
  by_cases hpr : other.inProgress = true
  · obtain rfl := hf.unique j k other call ⟨hj, hpr⟩ hru
    exact some.inj (hru.1.symm.trans hj) ▸ hun
  · exact unrecorded_idle (eq_false_iff.mpr hpr)

lemma refreshDeath : Leased { w with c := w.c.refreshDeath w.done } := by
  obtain heq | ⟨hlp, hba, hbz, hdn, receipt, heq⟩ := w.c.death_cases w.done
  · rw [heq]
    exact h
  rw [heq]
  refine { h with
    custody := fun call hcl => ?_, recorded := fun hun l hla => ?_
    busy := fun hb => ?_, idle := fun _ hee => by simp at hee }
  · by_cases hpr : call.inProgress = true
    · obtain ⟨k, hk⟩ := List.mem_iff_getElem?.mp hcl
      refine (h.custody call hcl).frame rfl rfl rfl (fun he => ?_) (fun _ _ => id) (fun _ => id)
        (fun _ _ => id) fun _ => id
      simp [(hf.fresh k call ⟨hk, hpr⟩ he).1] at hbz
    · exact custody_idle (eq_false_iff.mpr hpr)
  · have := h.recorded hun l hla
    rw [hba] at this
    exact this
  · simp [hbz] at hb

lemma goesOn (hru : w.Runs k call) {ph : Phase}
    (hca : w'.calls = w.calls.set k { call with phase := ph })
    (hhel : w'.helpers = w.helpers) (hleas : w'.leases = w.leases)
    (hrele : w'.releases = w.releases) (hstat : w'.c.status = w.c.status)
    (hep : w'.c.epoch = w.c.epoch) (hpr : ({ call with phase := ph } : Call).inProgress = true)
    (hheld : ∀ l, w'.c.lease = some l → l < w.leases.length ∧ ∀ x, (l, x) ∉ w.releases)
    (hcu : w'.Custody { call with phase := ph })
    (hrec : ({ call with phase := ph } : Call).unrecorded = false → ∀ l,
      w'.c.lease = some l → w.Waits l (w'.c.backend <|> w'.c.retired))
    (hac : w'.c.factoryActive = true → ({ call with phase := ph } : Call).building = true) :
    Leased w' := by
  have hlt := lt_length hru.1
  have hund {l y : Nat} : w'.Under l y ↔ w.Under l y := by simp only [World.Under, hhel]
  have hwai {l : Nat} {x : Option Nat} : w'.Waits l x ↔ w.Waits l x := by
    simp only [World.Waits, hund, done, hhel]
  refine leased_of_only hca hlt (fun _ => hf.others_idle hru hca) ?_ ?_ ?_ ?_ hcu ?_ ?_
    hac ?_
  · simpa only [hund, hleas] using h.bound
  · simpa only [hwai, hleas] using h.shut
  · simpa only [hwai, hrele, hleas] using h.released
  · simpa only [hrele, hleas] using hheld
  · exact fun hun l hl => hwai.mpr (hrec hun l hl)
  · rw [hstat, hep]
    intro hbz
    have hep := h.busy_epoch hf hru hbz
    exact ⟨hpr, hep⟩
  · simp [hpr]

lemma leavesStale (hru : w.Runs k call) {ph : Phase}
    (hsa : call.epoch ≠ w.c.epoch) (hca : w'.calls = w.calls.set k { call with phase := ph })
    (hph : ({ call with phase := ph } : Call).inProgress = false)
    (hstat : w'.c.status = w.c.status) (hund : ∀ l y, w'.Under l y → w.Under l y)
    (hdn : ∀ y, w.done y = true → w'.done y = true) (hleng : w'.leases.length = w.leases.length)
    (hshut : ∀ l, w'.leases[l]? = some true → w.leases[l]? = some true ∨ w.Waits l none)
    (hrele : ∀ l x, (l, x) ∈ w'.releases → l < w.leases.length ∧ w.Waits l x)
    (hla : ∀ l, w'.c.lease = some l → (l < w.leases.length ∧ ∀ x, (l, x) ∉ w'.releases) ∧
      w.Waits l (w'.c.backend <|> w'.c.retired))
    (hac : w'.c.factoryActive = false) : Leased w' := by
  have hlt := lt_length hru.1
  refine leased_of_only hca hlt (fun _ => hf.others_idle hru hca) ?_ ?_ ?_ ?_
    (custody_idle hph) ?_ ?_ ?_ ?_
  · exact fun l y hy => hleng ▸ h.bound l y (hund l y hy)
  · intro l hl
    exact ((hshut l hl).elim (h.shut l) id).mono (hund l) hdn
  · intro l x hx
    obtain ⟨hl, hw⟩ := hrele l x hx
    exact ⟨hleng ▸ hl, hw.mono (hund l) hdn⟩
  · rw [hleng]
    exact fun l hl => (hla l hl).1
  · exact fun _ l hl => (hla l hl).2.mono (hund l) hdn
  · rw [hstat]
    exact fun hbz => absurd (h.busy_epoch hf hru hbz) hsa
  · simp [hac]
  · rw [hstat, hf.stale k call hru hsa]
    simp

end

lemma idleCalls {calls : List Call} (hto : ∀ call ∈ calls, call ∈ w.calls ∨ call.inProgress = false)
    (hfrom : ∀ j call, w.Runs j call → calls[j]? = some call) :
    Leased { w with calls := calls } := by
  have hkp {call : Call} (hcl : call ∈ w.calls) (hp : call.inProgress = true) : call ∈ calls := by
    obtain ⟨j, hj⟩ := List.mem_iff_getElem?.mp hcl
    exact List.mem_of_getElem? (hfrom j call ⟨hj, hp⟩)
  refine { h with custody := ?_, recorded := ?_, busy := ?_, active := ?_, idle := ?_ }
  · intro call hcl
    rcases hto call hcl with hcl | hno
    · exact h.custody call hcl
    · exact custody_idle hno
  · refine fun hun => h.recorded fun call hcl => ?_
    by_cases hp : call.inProgress = true
    · exact hun call (hkp hcl hp)
    · exact unrecorded_idle (eq_false_iff.mpr hp)
  · intro hbz
    obtain ⟨j, call, hru, hep⟩ := h.busy hbz
    exact ⟨j, call, ⟨hfrom j call hru, hru.2⟩, hep⟩
  · intro hac
    obtain ⟨call, hcl, hbui⟩ := h.active hac
    exact ⟨call, hkp hcl (inProgress_of_building hbui), hbui⟩
  · refine fun hno => h.idle fun call hcl => ?_
    exact eq_false_iff.mpr fun hp => by simp [hno call (hkp hcl hp)] at hp

lemma turnedAway {res : Option Result} {err : Error}
    (hcl : w.calls[k]? = some call) (hph : call.phase = .entering) :
    Leased (w.turnAway k call res err) := by
  refine h.idleCalls (fun other hother => ?_) fun j other hru => ?_
  · refine (List.mem_or_eq_of_mem_set hother).imp_right fun heq => ?_
    rw [heq]
    rfl
  have hjk : j ≠ k := by
    rintro rfl
    cases hcl.symm.trans hru.1
    simpa [inProgress, hph] using hru.2
  rw [getElem?_set_ne (Ne.symm hjk), hru.1]

lemma accepted (hf : Fenced w) {c : Controller} (hcl : w.calls[k]? = some call)
    (hee : w.c.status.needsReconciliation = false) (hbz : w.c.status.busy = false)
    (hcc : w.c.Accepted call.owner call.request c) : Leased ({ w with c := c }.accept k call) := by
  have hlt := lt_length hcl
  -- nothing was in progress
  have hid {other : Call} (hother : other ∈ w.calls) : other.inProgress = false := by
    obtain ⟨j, hj⟩ := List.mem_iff_getElem?.mp hother
    exact eq_false_iff.mpr fun hp => hf.not_runs hee hbz ⟨hj, hp⟩
  have hina : w.c.factoryActive = false := by
    refine eq_false_iff.mpr fun hac => ?_
    obtain ⟨other, hother, hbui⟩ := h.active hac
    cases (hid hother).symm.trans (inProgress_of_building hbui)
  cases hcc with
  | «open» hop hba hwn =>
    have hla := h.idle (fun _ => hid) hee hba
    refine leased_of_only rfl hlt (fun other hother => ?_) h.bound h.shut h.released
      h.held ?_ ?_ ?_ ?_ ?_
    · exact (List.mem_or_eq_of_mem_set hother).symm.imp_right hid
    · simp only [World.Custody, hop, if_true]
      split_ifs
      · exact hla
      · intro l hl
        simp [accept, Controller.beginOperation, Controller.beginOpen, hla] at hl
    · intro _ l hl
      simp [accept, Controller.beginOperation, Controller.beginOpen, hla] at hl
    · intro _
      simp only [inProgress, hop, if_true]
      split_ifs <;> exact ⟨rfl, rfl⟩
    · intro hac
      simp [accept, Controller.beginOperation, Controller.beginOpen, hina] at hac
    · intro _ _ _
      exact hla
  | other _ hop hba =>
    refine leased_of_only rfl hlt (fun other hother => ?_) h.bound h.shut h.released
      h.held ?_ ?_ ?_ ?_ ?_
    · exact (List.mem_or_eq_of_mem_set hother).symm.imp_right hid
    · simp only [World.Custody, hop, if_false]
      intro _
      simp [accept, Controller.beginOperation, hba]
    · intro _
      exact h.recorded fun _ hother => unrecorded_idle (hid hother)
    · intro _
      simp only [inProgress, hop, if_false]
      exact ⟨trivial, rfl⟩
    · intro hac
      simp [accept, Controller.beginOperation, hina] at hac
    · simp [inProgress, hop]

lemma spawn (hf : Fenced w) {lease : Option Nat} (hru : w.Runs k call)
    (hph : call.phase = .factory lease none)
    (hca : w'.calls = w.calls.set k { call with phase := .factory lease (some w.helpers.length) })
    (hhel : w'.helpers = w.helpers ++ [Helper.mk lease false false]) (hc : w'.c = w.c)
    (hleas : w'.leases = w.leases) (hrele : w'.releases = w.releases) : Leased w' := by
  have hlt := lt_length hru.1
  have hcu := h.custody call (List.mem_of_getElem? hru.1)
  simp only [World.Custody, hph] at hcu
  obtain ⟨hac, hla, hon⟩ := hcu
  -- the new helper is the last one
  have hund {l y : Nat} (hy : w'.Under l y) :
      w.Under l y ∨ lease = some l ∧ y = w.helpers.length := by
    obtain ⟨hlp, hget, hl⟩ := hy
    rw [hhel, List.getElem?_append] at hget
    split_ifs at hget with hlt
    · exact .inl ⟨hlp, hget, hl⟩
    obtain rfl := List.mem_singleton.mp (List.mem_of_getElem? hget)
    refine .inr ⟨hl, ?_⟩
    have := lt_length hget
    simp only [List.length_singleton] at this
    omega
  have hdn {y : Nat} (hy : w.done y = true) : w'.done y = true := by
    obtain ⟨hlp, hget, hfin⟩ := (any_eq_true _ _).mp hy
    rw [done, hhel, List.getElem?_append_left (lt_length hget), hget]
    exact hfin
  have hwai {l : Nat} {x : Option Nat} (hne : lease ≠ some l) (hx : w.Waits l x) :
      w'.Waits l x := by
    refine hx.mono (fun y hy => ?_) fun _ => hdn
    exact (hund hy).resolve_right fun hnew => hne hnew.1
  refine leased_of_only hca hlt (fun _ => hf.others_idle hru hca) ?_ ?_ ?_ ?_ ?_ ?_ ?_ ?_ ?_
  · intro l y hy
    rw [hleas]
    rcases hund hy with hy | ⟨hl, -⟩
    · exact h.bound l y hy
    · exact (List.getElem?_eq_some_iff.mp (hon l hl).1).1
  · intro l hl
    rw [hleas] at hl
    refine hwai (fun hne => ?_) (h.shut l hl)
    cases (hon l hne).1.symm.trans hl
  · intro l x hx
    rw [hrele] at hx
    obtain ⟨hl, hw⟩ := h.released l x hx
    refine ⟨hleas ▸ hl, hwai (fun hne => ?_) hw⟩
    exact (h.held l (hla.trans hne)).2 x hx
  · rw [hc, hleas, hrele]
    exact h.held
  · simp only [World.Custody, hc, hleas]
    refine ⟨hac, hla, fun l hl => ⟨(hon l hl).1, fun y hy => ?_⟩⟩
    rcases hund hy with hy | ⟨-, rfl⟩
    · exact .inl (hdn (((hon l hl).2 y hy).resolve_right (by simp)))
    · exact .inr rfl
  · simp [unrecorded]
  · rw [hc]
    intro hbz
    have hep := h.busy_epoch hf hru hbz
    exact ⟨rfl, hep⟩
  · exact fun _ => rfl
  · simp [inProgress]

lemma committed (hf : Fenced w) {hlp : Nat} {out : OperationResult}
    {err : Option Error} {r : Committed} (hru : w.Runs k call)
    (hph : call.phase = .commit hlp out err)
    (hsa : w.c.stale call.epoch call.owner = false) (hke : w.c.Keeps r.controller)
    (hbz : r.controller.status.busy = false) (hends : w.c.Ends call.request.op hlp err r) :
    Leased (((({ w with c := r.controller }.closeLease r.closes).releaseAfterReap r.release
      (some hlp)).abort (if r.abort then some hlp else none)).leave k call (some hlp)
      (some r.result) r.err) := by
  have hlt := lt_length hru.1
  have hina := h.inactive hf hru (by simp [building, hph])
  have hcu := h.custody call (List.mem_of_getElem? hru.1)
  simp only [World.Custody, hph] at hcu
  have hba := hcu.1 (Controller.epoch_of_fresh hsa).symm
  have hwai {l : Nat} (hl : w.c.lease = some l) : w.Waits l (some hlp) := by
    have := h.waits_recorded hf hru (by simp [unrecorded, hph]) hl
    rwa [hba] at this
  -- what becomes of the lease
  have hco {l : Nat} (hl : r.closes = some l) : w.Waits l none := by
    cases hends with
    | closed hop hrr _ _ _ _ _ hco =>
      refine (hwai (hco.symm.trans hl)).finished fun y hy => ?_
      exact some.inj hy ▸ hcu.2 hop hrr
    | stays _ _ _ hnn => cases hnn.symm.trans hl
    | takenBack _ _ _ _ _ _ hnn => cases hnn.symm.trans hl
    | givenUp _ _ _ _ _ _ hnn => cases hnn.symm.trans hl
  have hrelea {l : Nat} (hl : r.release = some l) : w.c.lease = some l := by
    cases hends with
    | takenBack _ _ _ _ _ hrelea => exact hrelea.symm.trans hl
    | stays _ _ hnn => cases hnn.symm.trans hl
    | givenUp _ _ _ _ _ hnn => cases hnn.symm.trans hl
    | closed _ _ _ _ _ _ hnn => cases hnn.symm.trans hl
  have hla {l : Nat} (hl : r.controller.lease = some l) :
      w.c.lease = some l ∧ r.release = none ∧
        w.Waits l (r.controller.backend <|> r.controller.retired) := by
    cases hends with
    | stays hhol _ hnn =>
      have hl := hhol.lease.symm.trans hl
      refine ⟨hl, hnn, ?_⟩
      rw [hhol.backend, hba]
      exact hwai hl
    | takenBack _ _ hnn => cases hnn.symm.trans hl
    | givenUp hb heq hr _ _ hnn =>
      have hl := heq.symm.trans hl
      refine ⟨hl, hnn, ?_⟩
      rw [hb, hr]
      exact hwai hl
    | closed _ _ _ _ hkp _ hnn hco' =>
      rcases hkp with hkp | ⟨heq, -⟩
      · cases hkp.symm.trans hl
      · have hl := heq.symm.trans hl
        exact ⟨hl, hnn, (hco (hco'.trans hl)).of_none⟩
  have hid (hee : r.controller.status.needsReconciliation = false)
      (hnn : r.controller.backend = none) : r.controller.lease = none := by
    cases hends with
    | stays hhol => cases hba.symm.trans (hhol.backend.symm.trans hnn)
    | takenBack _ _ hla => exact hla
    | givenUp _ _ _ hee' => cases hee.symm.trans hee'
    | closed _ _ _ _ hkp =>
      exact hkp.resolve_right fun hee' => by cases hee.symm.trans hee'.2
  refine leased_of_only rfl hlt (fun _ => hf.others_idle hru rfl) ?_ ?_ ?_ ?_
    (custody_idle rfl) ?_ ?_ ?_ (fun _ => hid)
  · intro l y hy
    exact (length_closeLease _ _).symm ▸ h.bound l y (under_abort.mp hy)
  · intro l hl
    refine waits_abort.mpr ?_
    rcases getElem?_closeLease hl with hl | hl
    · exact hco hl
    · exact h.shut l hl
  · intro l x hx
    rcases mem_releaseAfterReap hx with hx | ⟨hl, rfl⟩
    · obtain ⟨hl, hw⟩ := h.released l x hx
      exact ⟨(length_closeLease _ _).symm ▸ hl, waits_abort.mpr hw⟩
    · have hl := hrelea hl
      exact ⟨(length_closeLease _ _).symm ▸ (h.held l hl).1, waits_abort.mpr (hwai hl)⟩
  · intro l hl
    obtain ⟨hl, hnn, -⟩ := hla hl
    refine ⟨(length_closeLease _ _).symm ▸ (h.held l hl).1, fun x hx => ?_⟩
    rcases mem_releaseAfterReap hx with hx | ⟨hrel, -⟩
    · exact (h.held l hl).2 x hx
    · cases hnn.symm.trans hrel
  · exact fun _ l hl => waits_abort.mpr (hla hl).2.2
  · exact fun hb => by cases hbz.symm.trans hb
  · exact fun ha => by cases hina.symm.trans (hke.factoryActive.symm.trans ha)

theorem turned {turn : Turn} (hf : Fenced w) (hcl : w.calls[k]? = some call)
    (hcar : w.Careful (.call k turn)) (htur : Turned w k call turn w') : Leased w' := by
  have hlt := lt_length hcl
  have hme := List.mem_of_getElem? hcl
  have hcu := h.custody call hme
  unfold World.Custody at hcu
  have hru {ph : Phase} (hph : call.phase = ph)
      (hp : ({ call with phase := ph } : Call).inProgress = true) : w.Runs k call :=
    ⟨hcl, by simpa only [inProgress, hph] using hp⟩
  cases htur with
  | turnedAway _ _ _ hph hc =>
    rcases hc with rfl | rfl
    · exact h.turnedAway hcl hph
    · exact (h.refreshDeath hf).turnedAway hcl hph
  | accepted _ _ _ hee hbz _ hcc =>
    exact h.accepted hf hcl hee hbz hcc
  | spawn _ hph => exact h.spawn hf (hru hph rfl) hph rfl rfl rfl rfl rfl
  | commit _ _ _ _ hph hsa hke hbz hends =>
    exact h.committed hf (hru hph rfl) hph hsa hke hbz hends
  | acquired hph =>
    have hr := hru hph rfl
    rw [hph] at hcu
    have hina := h.inactive hf hr (by simp [building, hph])
    refine leased_of_only rfl hlt (fun _ => hf.others_idle hr rfl) ?_ ?_ ?_ ?_ ?_ ?_ ?_ ?_ ?_
    · exact fun l y hy => List.length_append ▸ Nat.lt_succ_of_lt (h.bound l y hy)
    · intro l hl
      exact h.shut l ((getElem?_acquired hl).resolve_right (by simp))
    · intro l x hx
      obtain ⟨hl, hw⟩ := h.released l x hx
      exact ⟨List.length_append ▸ Nat.lt_succ_of_lt hl, hw⟩
    · exact fun l hl => by cases hcu.symm.trans hl
    · refine ⟨hcu, by simp [put], fun y hy => ?_, fun x hx => ?_⟩
      · exact Nat.lt_irrefl _ (h.bound _ y hy)
      · exact Nat.lt_irrefl _ (h.released _ x hx).1
    · simp [unrecorded]
    · intro hbz
      have hep := h.busy_epoch hf hr hbz
      exact ⟨rfl, hep⟩
    · simp [put, hina]
    · simp [inProgress]
  | notAcquired lease hph =>
    have hr := hru hph rfl
    rw [hph] at hcu
    have hina := h.inactive hf hr (by simp [building, hph])
    have hle : w.leases.length ≤ (if lease then w.leases ++ [true] else w.leases).length := by
      split_ifs <;> simp
    refine leased_of_only rfl hlt (fun _ => hf.others_idle hr rfl) ?_ ?_ ?_ ?_ ?_ ?_ ?_ ?_ ?_
    · exact fun l y hy => Nat.lt_of_lt_of_le (h.bound l y hy) hle
    · intro l hl
      have hl : w.leases[l]? = some true ∨ l = w.leases.length := by
        simp only [put] at hl
        split_ifs at hl
        · exact (getElem?_acquired hl).imp_right And.left
        · exact .inl hl
      rcases hl with hl | rfl
      · exact h.shut l hl
      · exact fun y hy => absurd (h.bound _ y hy) (Nat.lt_irrefl _)
    · intro l x hx
      obtain ⟨hl, hw⟩ := h.released l x hx
      exact ⟨Nat.lt_of_lt_of_le hl hle, hw⟩
    · exact fun l hl => by cases hcu.symm.trans hl
    · exact ⟨rfl, fun l hl => by cases hcu.symm.trans hl⟩
    · simp [unrecorded]
    · intro hbz
      have hep := h.busy_epoch hf hr hbz
      exact ⟨rfl, hep⟩
    · simp [put, hina]
    · simp [inProgress]
  | holdStale _ hph hsa =>
    have hr := hru hph rfl
    rw [hph] at hcu
    obtain ⟨hnn, hon, hno, hrel⟩ := hcu
    refine h.leavesStale hf hr ((hf.stale_iff hr).mp hsa) rfl rfl rfl (fun _ _ => id)
      (fun _ => id) ?_ ?_ h.released ?_ (h.inactive hf hr (by simp [building, hph]))
    · exact List.length_set
    · intro l hl
      rcases getElem?_closed hl with rfl | hl
      · exact .inr fun y hy => absurd hy (hno y)
      · exact .inl hl
    · intro l hl
      cases hnn.symm.trans hl
  | hold _ hph hsa =>
    have hr := hru hph rfl
    rw [hph] at hcu
    obtain ⟨hnn, hon, hno, hrel⟩ := hcu
    have hfr := (Controller.epoch_of_fresh hsa).symm
    have hina := h.inactive hf hr (by simp [building, hph])
    refine h.goesOn hf hr rfl rfl rfl rfl rfl rfl rfl ?_ ?_ ?_ ?_
    · rintro l ⟨⟩
      exact ⟨(lt_length hon), hrel⟩
    · rintro l ⟨⟩
      exact ⟨hfr, hon, fun y hy => absurd hy (hno y)⟩
    · simp [unrecorded]
    · simp [put, hina]
  | fenceStale hph hsa =>
    have hr := hru hph rfl
    rw [hph] at hcu
    have hne := (hf.stale_iff hr).mp hsa
    refine h.leavesStale hf hr hne rfl rfl rfl (fun _ _ => id) (fun _ => id) rfl (fun _ => .inl)
      h.released (fun l hl => ?_) (h.inactive hf hr (by simp [building, hph]))
    exact absurd (hcu l hl).1 hne
  | fence hph =>
    have hr := hru hph rfl
    rw [hph] at hcu
    refine h.goesOn hf hr rfl rfl rfl rfl rfl rfl rfl h.held ?_ ?_ ?_
    · exact ⟨rfl, rfl, fun l hl => (hcu l hl).2⟩
    · simp [unrecorded]
    · exact fun _ => rfl
  | built _ hlp _ hph =>
    have hr := hru hph rfl
    rw [hph] at hcu
    refine h.goesOn hf hr rfl rfl rfl rfl rfl rfl rfl h.held ?_ ?_ ?_
    · refine ⟨hcu.1, ?_, hcu.2.1, fun l hl => (hcu.2.2 l hl).2⟩
      cases hlp with
      | none => exact .inl rfl
      | some =>
        refine .inr (eq_false_iff.mpr fun hfai => ?_)
        simpa [helper, hph] using hcar hfai call hcl
    · simp [unrecorded]
    · exact fun _ => rfl
  | builtStale _ _ _ hph hsa =>
    have hr := hru hph rfl
    rw [hph] at hcu
    obtain ⟨-, -, hla, hwai⟩ := hcu
    refine h.leavesStale hf hr ((hf.stale_iff hr).mp hsa) rfl rfl rfl (fun _ _ => under_abort.mp)
      (fun y hy => (done_abort _ _ y).trans hy) rfl (fun _ => .inl) (fun l x hx => ?_)
      (fun l hl => by cases hl) rfl
    rcases mem_releaseAfterReap hx with hx | ⟨hl, rfl⟩
    · exact h.released l x hx
    · exact ⟨(h.held l (hla.trans hl)).1, hwai l hl⟩
  | builtFailed _ hlp _ hph hsa hfai =>
    have hr := hru hph rfl
    rw [hph] at hcu
    obtain ⟨-, hnn, hla, hwai⟩ := hcu
    obtain rfl : hlp = none := by
      rcases hnn with rfl | rfl
      · rfl
      · exact hfai.resolve_right (by simp)
    refine h.goesOn hf hr rfl rfl rfl rfl rfl rfl rfl h.held ?_ ?_ ?_
    · have hfr := (Controller.epoch_of_fresh hsa).symm
      exact ⟨rfl, fun l hl => ⟨hfr, hwai l (hla.symm.trans hl)⟩⟩
    · simp [unrecorded]
    · simp [put, abort]
  | builtHelper _ _ hph =>
    have hr := hru hph rfl
    rw [hph] at hcu
    obtain ⟨-, -, hla, hwai⟩ := hcu
    refine h.goesOn hf hr rfl rfl rfl rfl rfl rfl rfl h.held ?_ ?_ ?_
    · exact fun l hl => hwai l (hla.symm.trans hl)
    · simp [unrecorded]
    · simp [put]
  | failingStale _ _ hph hsa =>
    have hr := hru hph rfl
    rw [hph] at hcu
    refine h.leavesStale hf hr (Ne.symm hsa) rfl rfl rfl (fun _ _ => id) (fun _ => id) rfl
      (fun _ => .inl) h.released (fun l hl => ?_) (h.inactive hf hr (by simp [building, hph]))
    exact absurd (hcu.2 l hl).1.symm hsa
  | failing _ why cerr hph =>
    have hr := hru hph rfl
    rw [hph] at hcu
    have hina := h.inactive hf hr (by simp [building, hph])
    obtain ⟨hke, hbz, hba, hret, hla⟩ := w.c.factoryFailed_keeps why cerr
    have hheld {l : Nat} (hl : (w.c.factoryFailed why cerr).1.lease = some l) :
        w.c.lease = some l := by
      rcases hla with hnn | ⟨heq, -⟩
      · cases hnn.symm.trans hl
      · exact heq.symm.trans hl
    refine leased_of_only rfl hlt (fun _ => hf.others_idle hr rfl) ?_ ?_ ?_ ?_
      (custody_idle rfl) ?_ ?_ ?_ ?_
    · exact fun l y hy => (length_closeLease _ _).symm ▸ h.bound l y hy
    · intro l hl
      rcases getElem?_closeLease hl with hl | hl
      · exact (hcu.2 l hl).2
      · exact h.shut l hl
    · intro l x hx
      obtain ⟨hl, hw⟩ := h.released l x hx
      exact ⟨(length_closeLease _ _).symm ▸ hl, hw⟩
    · intro l hl
      obtain ⟨hl, hx⟩ := h.held l (hheld hl)
      exact ⟨(length_closeLease _ _).symm ▸ hl, hx⟩
    · exact fun _ l hl => (hcu.2 l (hheld hl)).2.of_none
    · exact fun hb => by cases hbz.symm.trans hb
    · exact fun ha => by cases hina.symm.trans (hke.factoryActive.symm.trans ha)
    intro _ hee _
    rcases hla with hnn | ⟨-, hee'⟩
    · exact hnn
    · cases hee.symm.trans hee'
  | recordStale hlp hph hsa =>
    have hr := hru hph rfl
    rw [hph] at hcu
    refine h.leavesStale hf hr ((hf.stale_iff hr).mp hsa) rfl rfl rfl
      (fun _ _ => (under_abort (x := some hlp)).mp)
      (fun y hy => (done_abort _ (some hlp) y).trans hy) rfl (fun _ => .inl) (fun l x hx => ?_)
      (fun l hl => by cases hl) (h.inactive hf hr (by simp [building, hph]))
    rcases mem_releaseAfterReap hx with hx | ⟨hl, rfl⟩
    · exact h.released l x hx
    · exact ⟨(h.held l hl).1, hcu l hl⟩
  | record _ hph =>
    have hr := hru hph rfl
    rw [hph] at hcu
    have hina := h.inactive hf hr (by simp [building, hph])
    refine h.goesOn hf hr rfl rfl rfl rfl rfl rfl rfl h.held ?_ ?_ ?_
    · exact fun _ => rfl
    · exact fun _ => hcu
    · simp [put, note, hina]
  | performed _ _ _ hph hclos =>
    have hr := hru hph rfl
    rw [hph] at hcu
    have hina := h.inactive hf hr (by simp [building, hph])
    refine h.goesOn hf hr rfl rfl rfl rfl rfl rfl rfl h.held ?_ ?_ ?_
    · exact ⟨hcu, hclos⟩
    · exact fun _ l hl => h.waits_recorded hf hr (by simp [unrecorded, hph]) hl
    · simp [put, hina]
  | commitStale _ _ _ hph hsa =>
    have hr := hru hph rfl
    refine h.leavesStale hf hr ((hf.stale_iff hr).mp hsa) rfl rfl rfl (fun _ _ => id)
      (fun _ => id) rfl (fun _ => .inl) h.released (fun l hl => ⟨h.held l hl, ?_⟩)
      (h.inactive hf hr (by simp [building, hph]))
    exact h.waits_recorded hf hr (by simp [unrecorded, hph]) hl

end

lemma backend_unrecorded (hf : Fenced w) (hru : w.Runs k call) (hun : call.unrecorded = true) :
    w.c.backend = none := by
  by_cases hep : call.epoch = w.c.epoch
  · exact hf.unrecorded k call hru hun hep
  · exact (hf.doubt (hf.stale k call hru hep)).1

section

variable (h : Leased w)

include h

/-- While a call has not recorded its helper, the lease is free of helpers, unless the factory runs
or has just returned. -/
lemma waits_unrecorded (hcar : ¬ w.Unrecorded) (hcl : call ∈ w.calls)
    (hun : call.unrecorded = true) (hac : w.c.factoryActive = false)
    (hla : w.c.lease = some l) : call.epoch = w.c.epoch ∧ w.Waits l none := by
  have hcu := h.custody call hcl
  unfold World.Custody at hcu
  unfold unrecorded at hun
  split at hun
  case h_1 hph =>
    rw [hph] at hcu
    cases hcu.symm.trans hla
  case h_2 hph =>
    rw [hph] at hcu
    cases hcu.1.symm.trans hla
  case h_3 hph =>
    rw [hph] at hcu
    exact ⟨(hcu l hla).1, (hcu l hla).2.2⟩
  case h_4 hph =>
    rw [hph] at hcu
    cases hac.symm.trans hcu.1
  case h_5 hph =>
    rw [hph] at hcu
    cases hac.symm.trans hcu.1
  case h_6 hph =>
    rw [hph] at hcu
    exact hcu.2 l hla
  case h_7 helper hph => exact absurd ⟨call, hcl, by simp [recording, hph]⟩ hcar
  · cases hun

lemma backend_recorded (hru : w.Runs k call) (hun : call.unrecorded = false)
    (hep : call.epoch = w.c.epoch) : w.c.backend ≠ none := by
  have hcu := h.custody call (List.mem_of_getElem? hru.1)
  have hpr := hru.2
  unfold World.Custody at hcu
  unfold unrecorded at hun
  unfold inProgress at hpr
  split at hcu
  case h_8 helper hph => simp [hcu hep]
  case h_9 helper outcome err hph => simp [hcu.1 hep]
  all_goals simp_all

lemma waits_taken (hcar : ¬ w.Unrecorded)
    (hac : w.c.factoryActive = false) (hla : w.c.lease = some l) :
    (w.c.unused = true → w.Waits l w.c.retired) ∧ (w.c.unused = false → w.Waits l w.c.backend) := by
  by_cases hal : ∀ call ∈ w.calls, call.unrecorded = false
  · have hw := h.recorded hal l hla
    cases hba : w.c.backend with
    | some =>
      rw [hba] at hw
      exact ⟨by simp [Controller.unused, hba], fun _ => hw⟩
    | none =>
      rw [hba] at hw
      refine ⟨fun _ => hw, fun hused => ?_⟩
      -- an operation in progress that has recorded its helper works with it
      have hbz : w.c.status.busy = true := by simpa [Controller.unused, hba] using hused
      obtain ⟨k, call, hru, hep⟩ := h.busy hbz
      have := h.backend_recorded hru (hal call (List.mem_of_getElem? hru.1)) hep
      exact absurd hba this
  · push Not at hal
    obtain ⟨call, hcl, hun⟩ := hal
    have hw := (h.waits_unrecorded hcar hcl (by simpa using hun) hac hla).2
    exact ⟨fun _ => hw.of_none, fun _ => hw.of_none⟩

lemma custody_invalidated (hf : Fenced w) (hcar : ¬ w.Unrecorded)
    (hru : w.Runs k call) (hund : ∀ l y, w'.Under l y → w.Under l y)
    (hdn : ∀ y, w.done y = true → w'.done y = true) (hleas : w'.leases = w.leases)
    (hacti : w'.c.factoryActive = w.c.factoryActive)
    (hep : w'.c.epoch = w.c.epoch ∧ w'.c.backend = w.c.backend ∨ w'.c.epoch = w.c.epoch + 1)
    (hla : w'.c.lease = w.c.lease ∨ w'.c.lease = none ∧ w.c.factoryActive = false)
    (hrele : ∀ l x, (l, x) ∈ w'.releases → (l, x) ∈ w.releases ∨ w.c.lease = some l)
    (hfen : call.unrecorded = true → w.c.factoryActive = false → w'.c.lease = none) :
    w'.Custody call := by
  have hme := List.mem_of_getElem? hru.1
  have hcu := h.custody call hme
  have hwai {l : Nat} {x : Option Nat} (hw : w.Waits l x) : w'.Waits l x :=
    hw.mono (hund l) hdn
  have hba {hlp : Nat} (hb : call.epoch = w.c.epoch → w.c.backend = some hlp)
      (he : call.epoch = w'.c.epoch) : w'.c.backend = some hlp := by
    have hle := hf.epoch_le k call hru
    rcases hep with ⟨hsm, heq⟩ | hnx
    · exact heq.trans (hb (he.trans hsm))
    · omega
  have hnn (hun : call.unrecorded = true) (hno : call.building = false) : w'.c.lease = none :=
    hfen hun (h.inactive hf hru hno)
  unfold World.Custody at hcu ⊢
  cases hph : call.phase with
  | entering | returned => trivial
  | acquire => exact hnn (by simp [unrecorded, hph]) (by simp [building, hph])
  | hold lease =>
    rw [hph] at hcu
    obtain ⟨hla', hon, hno, hrel⟩ := hcu
    refine ⟨hnn (by simp [unrecorded, hph]) (by simp [building, hph]),
      hleas ▸ hon, fun y hy => hno y (hund lease y hy), fun x hx => ?_⟩
    rcases hrele lease x hx with hx | hl
    · exact hrel x hx
    · cases hla'.symm.trans hl
  | fence =>
    have := hnn (by simp [unrecorded, hph]) (by simp [building, hph])
    exact fun l hl => by cases this.symm.trans hl
  | factory =>
    rw [hph] at hcu
    obtain ⟨hac, hl, hon⟩ := hcu
    have hsm := hla.resolve_right fun hno => by simp [hac] at hno
    exact ⟨hacti.trans hac, hsm.trans hl, fun l hl => ⟨hleas ▸ (hon l hl).1, hwai (hon l hl).2⟩⟩
  | built =>
    rw [hph] at hcu
    obtain ⟨hac, hfai, hl, hw⟩ := hcu
    have hsm := hla.resolve_right fun hno => by simp [hac] at hno
    exact ⟨hacti.trans hac, hfai, hsm.trans hl, fun l hl => hwai (hw l hl)⟩
  | failing =>
    rw [hph] at hcu
    have := hnn (by simp [unrecorded, hph]) (by simp [building, hph])
    exact ⟨hcu.1, fun l hl => by cases this.symm.trans hl⟩
  | record => exact absurd ⟨call, hme, by simp [recording, hph]⟩ hcar
  | perform =>
    rw [hph] at hcu
    exact hba hcu
  | commit =>
    rw [hph] at hcu
    exact ⟨hba hcu.1, fun hop hrr => hdn _ (hcu.2 hop hrr)⟩

/-- An invalidation takes the lease from the controller, with the helper that may be alive under it,
or leaves it there. -/
lemma invalidateOwner (hf : Fenced w) (hcar : ¬ w.Unrecorded) (takes : Bool)
    {x : Option Nat} (hca : w'.calls = w.calls) (hund : ∀ l y, w'.Under l y → w.Under l y)
    (hdn : ∀ y, w.done y = true → w'.done y = true) (hleas : w'.leases = w.leases)
    (hac : w'.c.factoryActive = w.c.factoryActive)
    (hla : w'.c.lease = if takes then none else w.c.lease)
    (hrele : w'.releases = w.releases ++ (if takes then w.c.lease.map (·, x) else none).toList)
    (htak : takes = true → w.c.factoryActive = false ∧ ∀ l, w.c.lease = some l → w.Waits l x)
    (hep : w'.c.epoch = w.c.epoch ∧ w'.c.backend = w.c.backend ∨ w'.c.epoch = w.c.epoch + 1)
    (hret : (w'.c.backend <|> w'.c.retired) = (w.c.backend <|> w.c.retired))
    (hfen : ∀ k call, w.Runs k call → call.unrecorded = true → w.c.factoryActive = false →
      w'.c.lease = none) (hbz : w'.c.status.busy = false)
    (hee : w'.c.status.needsReconciliation = false → w'.c.backend = none →
      w.c.status.needsReconciliation = false ∧ w.c.backend = none) : Leased w' := by
  have hwai {l : Nat} {x : Option Nat} (hw : w.Waits l x) : w'.Waits l x :=
    hw.mono (hund l) hdn
  have hme {l : Nat} {y : Option Nat} (hy : (l, y) ∈ w'.releases) :
      (l, y) ∈ w.releases ∨ takes = true ∧ w.c.lease = some l ∧ y = x := by
    rw [hrele] at hy
    refine (List.mem_append.mp hy).imp_right fun hy => ?_
    split_ifs at hy with ht
    · obtain ⟨m, hm, heq⟩ := map_eq_some_iff.mp (mem_toList.mp hy)
      obtain ⟨rfl, rfl⟩ := Prod.mk.inj heq
      exact ⟨ht, hm, rfl⟩
    · simp at hy
  have hkp {l : Nat} (hl : w'.c.lease = some l) : takes = false ∧ w.c.lease = some l := by
    rw [hla] at hl
    split_ifs at hl with ht
    exact ⟨eq_false_iff.mpr ht, hl⟩
  constructor
  case bound => exact fun l y hy => hleas ▸ h.bound l y (hund l y hy)
  case shut => exact fun l hl => hwai (h.shut l (hleas ▸ hl))
  case released =>
    intro l y hy
    rw [hleas]
    rcases hme hy with hy | ⟨ht, hl, rfl⟩
    · exact ⟨(h.released l y hy).1, hwai (h.released l y hy).2⟩
    · exact ⟨(h.held l hl).1, hwai ((htak ht).2 l hl)⟩
  case held =>
    intro l hl
    obtain ⟨ht, hl⟩ := hkp hl
    refine ⟨hleas ▸ (h.held l hl).1, fun y hy => ?_⟩
    rcases hme hy with hy | ⟨ht', -⟩
    · exact (h.held l hl).2 y hy
    · simp [ht] at ht'
  case custody =>
    intro call hcl
    rw [hca] at hcl
    by_cases hpr : call.inProgress = true
    · obtain ⟨k, hk⟩ := List.mem_iff_getElem?.mp hcl
      refine h.custody_invalidated hf hcar ⟨hk, hpr⟩ hund hdn hleas hac hep ?_
        (fun l y hy => (hme hy).imp_right fun hy => hy.2.1) (hfen k call ⟨hk, hpr⟩)
      cases takes with
      | true => exact .inr ⟨hla, (htak rfl).1⟩
      | false => exact .inl hla
    · exact custody_idle (eq_false_iff.mpr hpr)
  case recorded =>
    intro hun l hl
    rw [hret]
    exact hwai (h.recorded (hca ▸ hun) l (hkp hl).2)
  case busy => simp [hbz]
  case active => simpa only [hac, hca] using h.active
  case idle =>
    intro hno hn hb
    obtain ⟨hn, hb⟩ := hee hn hb
    rw [hla, h.idle (hca ▸ hno) hn hb]
    split_ifs <;> rfl

lemma invalidate (hf : Fenced w) (ow why : String)
    (hcar : ow = "" ∨ ow = w.c.owner → ¬ w.Unrecorded) : Leased (w.invalidate ow why) := by
  by_cases hwn : ow ≠ "" ∧ ow ≠ w.c.owner
  · have heq : w.invalidate ow why = w := by
      simp [World.invalidate, Controller.invalidate, hwn, abort]
    rwa [heq]
  have hcar : ¬ w.Unrecorded := hcar (by tauto)
  have hinv : w.c.invalidate ow why = w.c.invalidateOwner why := if_neg hwn
  have hc : (w.invalidate ow why).c = (w.c.invalidateOwner why).controller :=
    hinv ▸ rfl
  have hrele : (w.invalidate ow why).releases =
      w.releases ++ (w.c.invalidateOwner why).release.toList := hinv ▸ rfl
  have hund (l y : Nat) : (w.invalidate ow why).Under l y → w.Under l y := under_abort.mp
  have hdn (y : Nat) (hy : w.done y = true) : (w.invalidate ow why).done y = true :=
    (done_abort _ _ y).trans hy
  obtain ⟨hunu, hke, -, hrelea⟩ |
    ⟨hunu, takes, htak, status, hee, hbz, -, hke, -, hrelea⟩ :=
    w.c.invalidate_cases why
  · obtain ⟨hba, hbz⟩ : w.c.backend = none ∧ w.c.status.busy = false := by
      simpa [Controller.unused] using hunu
    refine h.invalidateOwner hf hcar
      (Controller.invalidReason why == "daemon_closed" && !w.c.factoryActive)
      (x := w.c.retired) rfl hund hdn rfl ?_ ?_ ?_ (fun ht => ?_) ?_ ?_
      (fun k call hru hun hac => ?_) ?_ ?_
    · rw [hc, hke]
    · rw [hc, hke]
    · rw [hrele, hrelea]
    · have hac : w.c.factoryActive = false := by
        simp only [and_eq_true, not_eq_true'] at ht
        exact ht.2
      exact ⟨hac, fun l hl => (h.waits_taken hcar hac hl).1 hunu⟩
    · exact .inl (by rw [hc, hke]; exact ⟨rfl, rfl⟩)
    · rw [hc, hke]
    · -- an operation that was overtaken before has no lease
      have hnn : w.c.lease = none := by
        by_contra hne
        obtain ⟨l, hl⟩ := ne_none_iff_exists'.mp hne
        have hep := (h.waits_unrecorded hcar (List.mem_of_getElem? hru.1) hun hac hl).1
        cases hbz.symm.trans (hf.fresh k call hru hep).1
      rw [hc, hke, hnn]
      split_ifs <;> rfl
    · rw [hc, hke]
      exact hbz
    · rw [hc, hke]
      exact fun hn hb => ⟨hn, hb⟩
  · refine h.invalidateOwner hf hcar takes (x := w.c.backend) rfl hund hdn rfl
      ?_ ?_ ?_ (fun ht => ?_) ?_ ?_ (fun k call hru hun hac => ?_) ?_ ?_
    · rw [hc, hke]
    · rw [hc, hke]
    · rw [hrele, hrelea]
    · have hac : w.c.factoryActive = false := by
        rw [htak] at ht
        simp only [and_eq_true, not_eq_true'] at ht
        exact ht.1
      exact ⟨hac, fun l hl => (h.waits_taken hcar hac hl).2 hunu⟩
    · exact .inr (by rw [hc, hke])
    · rw [hc, hke]
      rfl
    · have hba := backend_unrecorded hf hru hun
      rw [hc, hke, htak, hac, hba]
      simp
    · rw [hc, hke]
      exact hbz
    · rw [hc, hke]
      exact fun hn => by cases hn.symm.trans hee

lemma frame (hca : w'.calls = w.calls) (hleas : w'.leases = w.leases)
    (hrele : w'.releases = w.releases)
    (hc : w'.c = { w.c with helpers := w'.c.helpers, shutdownDone := w'.c.shutdownDone })
    (hund : ∀ l y, w'.Under l y → w.Under l y)
    (hdn : ∀ y, w.done y = true → w'.done y = true) : Leased w' := by
  have hla : w'.c.lease = w.c.lease := by rw [hc]
  have hep : w'.c.epoch = w.c.epoch := by rw [hc]
  have hac : w'.c.factoryActive = w.c.factoryActive := by rw [hc]
  have hba : w'.c.backend = w.c.backend := by rw [hc]
  have hret : w'.c.retired = w.c.retired := by rw [hc]
  have hstat : w'.c.status = w.c.status := by rw [hc]
  have hwai {l : Nat} {x : Option Nat} (hw : w.Waits l x) : w'.Waits l x :=
    hw.mono (hund l) hdn
  constructor
  case bound => exact fun l y hy => hleas ▸ h.bound l y (hund l y hy)
  case shut => exact fun l hl => hwai (h.shut l (hleas ▸ hl))
  case released =>
    rw [hrele, hleas]
    exact fun l x hx => ⟨(h.released l x hx).1, hwai (h.released l x hx).2⟩
  case held => simpa only [hla, hleas, hrele] using h.held
  case custody =>
    intro call hcl
    refine (h.custody call (hca ▸ hcl)).frame hla hep hac (fun _ => hba)
      (fun l _ hl => hleas ▸ hl) (fun p hp => hrele ▸ hp) hund hdn
  case recorded =>
    rw [hca, hla, hba, hret]
    exact fun hun l hl => hwai (h.recorded hun l hl)
  case busy => simpa only [hstat, hep, World.Runs, hca] using h.busy
  case active => simpa only [hac, hca] using h.active
  case idle => simpa only [hca, hstat, hba, hla] using h.idle

/-- A goroutine of `releaseAfterReap` closes its lease when the helper has finished. -/
lemma closes {i lease : Nat} {hlp : Option Nat}
    (hi : w.releases[i]? = some (lease, hlp)) (hdn : ∀ y ∈ hlp, w.done y = true) :
    Leased { w.closeLease (some lease) with releases := w.releases.eraseIdx i } := by
  have hin := List.mem_of_getElem? hi
  have hsub {p : Nat × Option Nat} (hp : p ∈ w.releases.eraseIdx i) : p ∈ w.releases :=
    mem_of_mem_eraseIdx hp
  have hleng : (w.leases.set lease true).length = w.leases.length := List.length_set
  refine { h with bound := ?_, shut := ?_, released := ?_, held := ?_, custody := ?_ }
  · exact fun l y hy => hleng.symm ▸ h.bound l y hy
  · intro l hl
    rcases getElem?_closed hl with rfl | hl
    · exact (h.released l hlp hin).2.finished hdn
    · exact h.shut l hl
  · intro l x hx
    obtain ⟨hl, hw⟩ := h.released l x (hsub hx)
    exact ⟨hleng.symm ▸ hl, hw⟩
  · intro l hl
    obtain ⟨hl, hno⟩ := h.held l hl
    exact ⟨hleng.symm ▸ hl, fun x hx => hno x (hsub hx)⟩
  intro call hcl
  refine (h.custody call hcl).frame rfl rfl rfl (fun _ => rfl) (fun l hl hon => ?_)
    (fun _ => hsub) (fun _ _ => id) fun _ => id
  -- a lease that a call or the controller holds is another one
  have hne : lease ≠ l := by
    rintro rfl
    rcases hl with hl | hph
    · exact (h.held lease hl).2 hlp hin
    have hcu := h.custody call hcl
    simp only [World.Custody, hph] at hcu
    exact hcu.2.2.2 hlp hin
  exact (getElem?_set_ne hne).trans hon

theorem step (hf : Fenced w) {e : Event} (hcar : w.Careful e)
    (hst : w.step e = some w') : Leased w' := by
  cases stepped hst with
  | begins =>
    refine h.idleCalls (fun call hcl => ?_) fun j call hru => ?_
    · refine (List.mem_append.mp hcl).imp_right fun hcl => ?_
      rw [List.mem_singleton.mp hcl]
      rfl
    · rw [List.getElem?_append_left (lt_length hru.1), hru.1]
  | turned _ _ hcl htur => exact h.turned hf hcl hcar htur
  | invalidated ow why => exact h.invalidate hf ow why hcar
  | observed => exact h.refreshDeath hf
  | finished x =>
    refine h.frame rfl rfl rfl rfl (fun l y hy => ?_) (done_finished w x)
    exact (under_modify (by simp)).mp hy
  | poisoned x =>
    exact h.frame rfl rfl rfl rfl (fun _ _ => under_abort.mp)
      fun y hy => (done_abort w (some x) y).trans hy
  | released _ _ _ hi hdn => exact h.closes hi hdn
  | shutdown =>
    exact frame (h.invalidate hf "" "daemon_closed" fun _ => hcar) rfl rfl rfl rfl
      (fun _ _ => id) fun _ => id
  | reaped | waited | channel | freed =>
    exact h.frame rfl rfl rfl rfl (fun _ _ => id) fun _ => id

end

end Leased

end

end MultiDap.Trace
