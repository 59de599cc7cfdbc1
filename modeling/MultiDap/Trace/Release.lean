import MultiDap.Trace.Custody

/-!
# Leases are closed

After the daemon is closed, a lease that is still open is in the hands of a call that has been
overtaken, or of a goroutine that waits for a helper which was told to abort. If the goroutines keep
running, and helpers that are told to abort are reaped, it is closed in the end.
-/

namespace MultiDap.Trace

open Machine World List Option Controller

section

variable {w w' : World} {k l : Nat} {x : Option Nat} {call call' : Call}

/-- The helper has finished, or was told to. -/
def World.Doomed (w : World) (h : Nat) : Prop := w.poisoned h = true ∨ w.done h = true

lemma poisoned_abort {h : Nat} :
    (w.abort x).poisoned h = true ↔ w.poisoned h = true ∨ x = some h ∧ h < w.helpers.length := by
  cases x with
  | none => simp [abort, poisoned]
  | some y =>
    simp only [poisoned, abort, getElem?_modify, some.injEq]
    by_cases hy : y = h
    · subst hy
      cases hget : w.helpers[y]? with
      | none => simpa using hget
      | some => simp [(lt_length hget)]
    · simp [hy]

lemma doomed_abort {h : Nat} :
    (w.abort x).Doomed h ↔ w.Doomed h ∨ x = some h ∧ h < w.helpers.length := by
  simp only [World.Doomed, poisoned_abort, done_abort]
  tauto

lemma doomed_append {hlp : Helper} {h : Nat} (hh : w.Doomed h) :
    ({ w with helpers := w.helpers ++ [hlp] } : World).Doomed h := by
  have hlt : h < w.helpers.length := by
    by_contra hge
    have hnn : w.helpers[h]? = none := getElem?_eq_none (Nat.le_of_not_lt hge)
    simp [World.Doomed, poisoned, done, hnn] at hh
  simpa only [World.Doomed, poisoned, done, getElem?_append_left hlt] using hh

lemma doomed_finished {h y : Nat} (hh : w.Doomed h) :
    ({ w with helpers := w.helpers.modify y fun hlp =>
      { hlp with finished := true } } : World).Doomed h := by
  refine hh.imp (fun hp => ?_) (done_finished w y h)
  simp only [poisoned, getElem?_modify] at hp ⊢
  cases hget : w.helpers[h]? with
  | none => simp [hget] at hp
  | some =>
    rw [hget] at hp
    split_ifs <;> simpa using hp

lemma getElem?_open {leases : List Bool} {m : Nat} (h : (leases.set m true)[l]? = some false) :
    l ≠ m ∧ leases[l]? = some false := by
  by_cases hlm : m = l
  · subst hlm
    simp [getElem?_set] at h
  · exact ⟨Ne.symm hlm, (getElem?_set_ne hlm).symm.trans h⟩

lemma closed_set {leases : List Bool} {m : Nat} (h : leases[l]? = some true) :
    (leases.set m true)[l]? = some true := by
  have hlt := lt_length h
  by_cases hlm : m = l
  · subst hlm
    exact getElem?_set_self hlt
  · exact (getElem?_set_ne hlm).trans h

lemma closeLease_open {lease : Option Nat} (h : (w.closeLease lease).leases[l]? = some false) :
    lease ≠ some l ∧ w.leases[l]? = some false := by
  cases lease with
  | none => exact ⟨by simp, h⟩
  | some =>
    obtain ⟨hne, hon⟩ := getElem?_open h
    exact ⟨fun heq => hne (some.inj heq).symm, hon⟩

lemma owns_releaseAfterReap {lease hlp : Option Nat} (hla : lease = some l) :
    ∃ x, (l, x) ∈ (w.releaseAfterReap lease hlp).releases :=
  ⟨hlp, mem_append_right _ (by simp [hla])⟩

/-- Every helper that is mentioned was started. -/
structure Known (w : World) : Prop where
  backend : ∀ h, w.c.backend = some h → h < w.helpers.length
  calls : ∀ call ∈ w.calls, ∀ h, call.helper = some h → h < w.helpers.length

lemma known_new (options : Options) : Known (World.new options) := by
  constructor <;> simp [new]

namespace Known

lemma set (h : Known w) (hca : w'.calls = w.calls.set k call')
    (hlen : w.helpers.length ≤ w'.helpers.length)
    (hba : ∀ y, w'.c.backend = some y → y < w'.helpers.length)
    (hcl' : ∀ y, call'.helper = some y → y < w'.helpers.length) : Known w' := by
  refine ⟨hba, fun other hother y hy => ?_⟩
  rw [hca] at hother
  rcases mem_or_eq_of_mem_set hother with hother | rfl
  · exact Nat.lt_of_lt_of_le (h.calls other hother y hy) hlen
  · exact hcl' y hy

lemma frame (h : Known w) (hca : w'.calls = w.calls) (hlen : w'.helpers.length = w.helpers.length)
    (hba : w'.c.backend = w.c.backend ∨ w'.c.backend = none) : Known w' := by
  refine ⟨fun y hy => ?_, hca ▸ hlen ▸ h.calls⟩
  rcases hba with heq | heq
  · exact hlen ▸ h.backend y (heq.symm.trans hy)
  · simp [heq] at hy

theorem turned {turn : Turn} (h : Known w) (hcl : w.calls[k]? = some call)
    (htur : Turned w k call turn w') : Known w' := by
  have hca := h.calls call (mem_of_getElem? hcl)
  cases htur with
  | turnedAway c _ _ _ hc =>
    refine h.set rfl (Nat.le_refl _) (fun y hy => ?_) (by simp [Call.helper])
    rcases hc with rfl | rfl
    · exact h.backend y hy
    obtain heq | ⟨_, -, -, -, _, heq⟩ := w.c.death_cases w.done <;>
      simp only [turnAway, put, heq] at hy
    · exact h.backend y hy
    · cases hy
  | accepted c _ _ _ _ _ hac =>
    have hba : c.backend = w.c.backend := by cases hac <;> rfl
    refine h.set rfl (Nat.le_refl _) (fun y hy => h.backend y (hba ▸ hy)) fun y hy => ?_
    cases hac with
    | «open» hop =>
      simp only [Call.helper, hop, if_true] at hy
      split_ifs at hy
    | other hlp hop hb =>
      obtain rfl : hlp = y := by
        simpa [Call.helper, hop, beginOperation, hb] using hy
      exact h.backend hlp hb
  | acquired hph | notAcquired _ hph | hold _ hph | fence hph | holdStale _ hph
  | fenceStale hph | failingStale _ _ hph | commitStale _ _ _ hph =>
    exact h.set rfl (Nat.le_refl _) h.backend (by simp [Call.helper])
  | spawn =>
    refine h.set rfl (by simp [put]) (fun y hy => ?_) (by simp [Call.helper, put])
    exact Nat.lt_of_lt_of_le (h.backend y hy) (by simp [put])
  | built _ _ _ hph | builtHelper _ _ hph | performed _ _ _ hph =>
    refine h.set rfl (Nat.le_refl _) h.backend fun y hy => hca y ?_
    simpa [Call.helper, hph] using hy
  | builtFailed _ hlp _ hph =>
    refine h.set rfl (Nat.le_of_eq (length_abort _ _).symm) (fun y hy => ?_) fun y hy => ?_
    · exact (length_abort _ hlp).symm ▸ h.backend y hy
    · refine (length_abort _ hlp).symm ▸ hca y ?_
      simpa [Call.helper, hph] using hy
  | builtStale _ hlp _ =>
    refine h.set rfl (Nat.le_of_eq (length_abort _ _).symm) (fun y hy => ?_) (by simp [Call.helper])
    exact (length_abort _ hlp).symm ▸ h.backend y hy
  | recordStale hlp =>
    refine h.set rfl (Nat.le_of_eq (length_abort _ (some hlp)).symm) (fun y hy => ?_)
      (by simp [Call.helper])
    exact (length_abort _ (some hlp)).symm ▸ h.backend y hy
  | record hlp hph =>
    have hlt := hca hlp (by simp [Call.helper, hph])
    refine h.set rfl (Nat.le_refl _) (fun y hy => ?_) fun y hy => ?_
    · exact some.inj hy ▸ hlt
    · exact some.inj hy ▸ hlt
  | failing _ why cerr =>
    have hba := (w.c.factoryFailed_keeps why cerr).2.2.1
    exact h.set rfl (Nat.le_refl _) (fun y hy => h.backend y (hba.symm.trans hy))
      (by simp [Call.helper])
  | commit _ _ _ _ _ _ _ _ hends =>
    refine h.set rfl (Nat.le_of_eq (length_abort _ _).symm) (fun y hy => ?_) (by simp [Call.helper])
    refine (length_abort _ _).symm ▸ h.backend y ?_
    cases hends with
    | stays hhol => exact hhol.backend.symm.trans hy
    | takenBack _ hnn => cases hnn.symm.trans hy
    | givenUp hnn => cases hnn.symm.trans hy
    | closed _ _ hnn => cases hnn.symm.trans hy

lemma invalidate (h : Known w) (ow why : String) : Known (w.invalidate ow why) := by
  refine h.frame rfl (length_abort _ _) ?_
  unfold World.invalidate Controller.invalidate
  split_ifs
  · exact .inl rfl
  obtain ⟨-, hke, -⟩ | ⟨-, takes, -, status, -, -, -, hke, -⟩ :=
    w.c.invalidate_cases why
  · exact .inl (by simp [abort, hke])
  · exact .inr (by simp [abort, hke])

theorem step (h : Known w) {e : Event} (hst : w.step e = some w') : Known w' := by
  cases stepped hst with
  | begins =>
    refine ⟨h.backend, fun call hcl => ?_⟩
    rcases mem_append.mp hcl with hcl | hcl
    · exact h.calls call hcl
    · rw [mem_singleton.mp hcl]
      simp [Call.helper]
  | turned _ _ hcl htur => exact h.turned hcl htur
  | invalidated ow why => exact h.invalidate ow why
  | shutdown => exact frame (h.invalidate "" "daemon_closed") rfl rfl (.inl rfl)
  | observed =>
    obtain heq | ⟨_, -, -, -, _, heq⟩ := w.c.death_cases w.done
    · exact h.frame rfl rfl (.inl (by rw [heq]))
    · exact h.frame rfl rfl (.inr (by rw [heq]))
  | finished => exact h.frame rfl (length_modify _ _ _) (.inl rfl)
  | poisoned x => exact h.frame rfl (length_abort w (some x)) (.inl rfl)
  | _ => exact h.frame rfl rfl (.inl rfl)

end Known

/-! ### Who has to close a lease -/

def World.Owns (w : World) (lease : Nat) : Prop :=
  w.c.lease = some lease ∨ (∃ x, (lease, x) ∈ w.releases) ∨
    ∃ call ∈ w.calls, call.phase = .hold lease

/-- A lease that is open has an owner, and goroutines wait only for helpers that will finish. -/
structure Owned (w : World) : Prop where
  owns : ∀ l, w.leases[l]? = some false → w.Owns l
  aborted : ∀ l h, (l, some h) ∈ w.releases → w.Doomed h
  retired : ∀ h, w.c.retired = some h → w.Doomed h
  ended : w.c.closed = true → w.c.status.busy = false ∧
    ∀ l, w.c.lease = some l → w.c.factoryActive = true ∨ w.leases[l]? = some true

lemma owned_new (options : Options) : Owned (World.new options) := by
  constructor <;> simp [new]

namespace Owned

section

variable (h : Owned w)

include h

lemma open_of_fresh (hf : Fenced w) (hru : w.Runs k call)
    (hep : call.epoch = w.c.epoch) : w.c.closed = false := by
  refine Bool.eq_false_iff.mpr fun hco => ?_
  cases (h.ended hco).1.symm.trans (hf.fresh k call hru hep).1

lemma moved (hf : Fenced w) (hru : w.Runs k call)
    (hleas : ∀ l, w'.leases[l]? = some false → w.leases[l]? = some false ∨ w'.Owns l)
    (hla : ∀ l, w.c.lease = some l → w'.leases[l]? = some false → w'.Owns l)
    (hhold : ∀ l, call.phase = .hold l → w'.leases[l]? = some false → w'.Owns l)
    (hrel : ∀ p ∈ w.releases, p ∈ w'.releases) (hdoo : ∀ y, w.Doomed y → w'.Doomed y)
    (habor : ∀ l y, (l, some y) ∈ w'.releases → (l, some y) ∈ w.releases ∨ w'.Doomed y)
    (hret : ∀ y, w'.c.retired = some y → w.c.retired = some y ∨ w'.Doomed y)
    (hen : w'.c.closed = true → w'.c.status.busy = false ∧
      ∀ l, w'.c.lease = some l → w'.c.factoryActive = true ∨ w'.leases[l]? = some true) :
    Owned w' := by
  refine ⟨fun l hl => ?_, fun l y hy => ?_, fun y hy => ?_, hen⟩
  · rcases hleas l hl with hon | hwn
    · rcases h.owns l hon with hla' | ⟨x, hx⟩ | ⟨other, hother, hph⟩
      · exact hla l hla' hl
      · exact .inr (.inl ⟨x, hrel _ hx⟩)
      -- the call that holds it is the one in progress
      obtain ⟨j, hj⟩ := mem_iff_getElem?.mp hother
      have hpr : other.inProgress = true := by simp [Call.inProgress, hph]
      obtain rfl := hf.unique j k other call ⟨hj, hpr⟩ hru
      exact hhold l (some.inj (hru.1.symm.trans hj) ▸ hph) hl
    · exact hwn
  · exact (habor l y hy).elim (fun hy => hdoo y (h.aborted l y hy)) id
  · exact (hret y hy).elim (fun hy => hdoo y (h.retired y hy)) id

lemma frame (hleas : w'.leases = w.leases) (hrel : w'.releases = w.releases)
    (hla : w'.c.lease = w.c.lease) (hdoo : ∀ y, w.Doomed y → w'.Doomed y)
    (hret : ∀ y, w'.c.retired = some y → w.c.retired = some y ∨ w'.Doomed y)
    (hca : ∀ call ∈ w.calls, ∀ l, call.phase = .hold l → call ∈ w'.calls)
    (hco : w'.c.closed = true → w.c.closed = true)
    (hbz : w.c.closed = true → w.c.status.busy = false → w'.c.status.busy = false)
    (hac : w.c.factoryActive = true → w'.c.factoryActive = true) : Owned w' := by
  refine ⟨fun l hl => ?_, fun l y hy => ?_, fun y hy => ?_, fun hc => ?_⟩
  · rcases h.owns l (hleas ▸ hl) with hla' | ⟨x, hx⟩ | ⟨other, hother, hph⟩
    · exact .inl (hla.trans hla')
    · exact .inr (.inl ⟨x, hrel ▸ hx⟩)
    · exact .inr (.inr ⟨other, hca other hother l hph, hph⟩)
  · exact hdoo y (h.aborted l y (hrel ▸ hy))
  · exact (hret y hy).elim (fun hy => hdoo y (h.retired y hy)) id
  have hen := h.ended (hco hc)
  rw [hla, hleas]
  exact ⟨hbz (hco hc) hen.1, fun l hl => (hen.2 l hl).imp_left hac⟩

lemma refreshDeath : Owned { w with c := w.c.refreshDeath w.done } := by
  obtain heq | ⟨hlp, -, hbz, hdn, _, heq⟩ := w.c.death_cases w.done
  · rw [heq]
    exact h
  rw [heq]
  refine h.frame rfl rfl rfl (fun _ => id) (fun y hy => ?_) (fun _ hcl _ _ => hcl) id
    (fun _ => id) id
  exact .inr (some.inj hy ▸ .inr hdn)

lemma goesOn (hf : Fenced w) (hru : w.Runs k call)
    (hleas : w'.leases = w.leases) (hrel : w'.releases = w.releases)
    (hhel : w'.helpers = w.helpers) (hla : w'.c.lease = w.c.lease)
    (hret : w'.c.retired = w.c.retired) (hhold : ∀ l, call.phase ≠ .hold l)
    (hen : w'.c.closed = true → w'.c.status.busy = false ∧
      ∀ l, w'.c.lease = some l → w'.c.factoryActive = true ∨ w'.leases[l]? = some true) :
    Owned w' := by
  refine h.moved hf hru (fun l hl => .inl (hleas ▸ hl)) (fun l hl _ => .inl (hla.trans hl))
    (fun l hl => absurd hl (hhold l)) (fun p hp => hrel ▸ hp) (fun y hy => ?_)
    (fun l y hy => .inl (hrel ▸ hy)) (fun y hy => .inl (hret ▸ hy)) hen
  simpa only [World.Doomed, poisoned, done, hhel] using hy

lemma turned {turn : Turn} (hf : Fenced w) (hl : Leased w) (hk : Known w)
    (hcl : w.calls[k]? = some call) (htur : Turned w k call turn w') : Owned w' := by
  have hme := mem_of_getElem? hcl
  have hcu := hl.custody call hme
  unfold World.Custody at hcu
  have hru {ph : Phase} (hph : call.phase = ph)
      (hp : ({ call with phase := ph } : Call).inProgress = true) : w.Runs k call :=
    ⟨hcl, by simpa only [Call.inProgress, hph] using hp⟩
  -- a call that holds a lease is not changed by a step of another call
  have hkp {call' : Call} (hno : ∀ l, call.phase ≠ .hold l) (other : Call)
      (hother : other ∈ w.calls) (l : Nat) (hph : other.phase = .hold l) :
      other ∈ w.calls.set k call' := by
    obtain ⟨j, hj⟩ := mem_iff_getElem?.mp hother
    have hjk : j ≠ k := by
      rintro rfl
      exact hno l (some.inj (hcl.symm.trans hj) ▸ hph)
    refine mem_of_getElem? (i := j) ?_
    rw [getElem?_set_ne (Ne.symm hjk), hj]
  cases htur with
  | turnedAway c _ _ hph hc =>
    have hc' : Owned { w with c := c } := by
      rcases hc with rfl | rfl
      · exact h
      · exact h.refreshDeath
    refine hc'.frame rfl rfl rfl (fun _ => id) (fun _ => .inl) (hkp (by simp [hph])) id
      (fun _ => id) id
  | accepted c hph hon _ _ _ hac =>
    have hc : c.lease = w.c.lease ∧ c.retired = w.c.retired ∧ c.closed = w.c.closed := by
      cases hac <;> exact ⟨rfl, rfl, rfl⟩
    refine h.frame rfl rfl hc.1 (fun _ => id) (fun y hy => .inl (hc.2.1 ▸ hy))
      (hkp (by simp [hph])) (fun hco => ?_) (fun hco => ?_) ?_
    · exact hc.2.2.symm.trans hco
    · simp [hon] at hco
    · cases hac <;> exact id
  | acquired hph =>
    have hr := hru hph rfl
    refine h.moved hf hr (fun l hl => ?_) (fun l hl _ => .inl hl) (by simp [hph]) (fun _ => id)
      (fun _ => id) (fun _ _ => .inl) (fun _ => .inl) fun hco => ?_
    · refine (getElem?_acquired hl).imp_right fun hnew => .inr (.inr ?_)
      exact ⟨_, mem_set (lt_length hcl) _, by rw [hnew.1]⟩
    refine ⟨(h.ended hco).1, fun l hl => ?_⟩
    rw [hph] at hcu
    cases hcu.symm.trans hl
  | notAcquired _ hph =>
    have hr := hru hph rfl
    refine h.moved hf hr (fun l hl => .inl ?_) (fun l hl _ => .inl hl) (by simp [hph])
      (fun _ => id) (fun _ => id) (fun _ _ => .inl) (fun _ => .inl) fun hco => ?_
    · simp only [put] at hl
      split_ifs at hl
      · exact (getElem?_acquired hl).resolve_right (by simp)
      · exact hl
    refine ⟨(h.ended hco).1, fun l hl => ?_⟩
    rw [hph] at hcu
    cases hcu.symm.trans hl
  | holdStale _ hph =>
    have hr := hru hph rfl
    refine h.moved hf hr (fun l hl => .inl ?_) (fun l hl _ => .inl hl) (fun l hl hon => ?_)
      (fun _ => id) (fun _ => id) (fun _ _ => .inl) (fun _ => .inl) fun hco => ?_
    · exact (getElem?_open hl).2
    · obtain rfl := Phase.hold.inj (hph.symm.trans hl)
      exact absurd rfl (getElem?_open hon).1
    refine ⟨(h.ended hco).1, fun l hl => ?_⟩
    rw [hph] at hcu
    cases hcu.1.symm.trans hl
  | hold _ hph hsa =>
    have hr := hru hph rfl
    rw [hph] at hcu
    refine h.moved hf hr (fun l => .inl) (fun l hl _ => ?_) (fun l hl hon => ?_)
      (fun _ => id) (fun _ => id) (fun _ _ => .inl) (fun _ => .inl) fun hco => ?_
    · cases hcu.1.symm.trans hl
    · exact .inl (by simp_all [put])
    · have := h.open_of_fresh hf hr (epoch_of_fresh hsa).symm
      cases this.symm.trans hco
  | fenceStale hph | built _ _ _ hph | failingStale _ _ hph | record _ hph
  | performed _ _ _ hph | commitStale _ _ _ hph =>
    exact h.goesOn hf (hru hph rfl) rfl rfl rfl rfl rfl (by simp [hph]) h.ended
  | fence hph =>
    exact h.goesOn hf (hru hph rfl) rfl rfl rfl rfl rfl (by simp [hph])
      fun hco => ⟨(h.ended hco).1, fun _ _ => .inl rfl⟩
  | builtHelper _ _ hph hsa =>
    have hr := hru hph rfl
    have hon := h.open_of_fresh hf hr (epoch_of_fresh hsa).symm
    exact h.goesOn hf hr rfl rfl rfl rfl rfl (by simp [hph]) fun hco => by cases hon.symm.trans hco
  | builtFailed _ _ _ hph hsa =>
    have hr := hru hph rfl
    have hon := h.open_of_fresh hf hr (epoch_of_fresh hsa).symm
    exact h.moved hf hr (fun _ => .inl) (fun _ hl _ => .inl hl) (by simp [hph]) (fun _ => id)
      (fun _ hy => doomed_abort.mpr (.inl hy)) (fun _ _ => .inl) (fun _ => .inl)
      fun hco => by cases hon.symm.trans hco
  | spawn _ hph =>
    refine h.moved hf (hru hph rfl) (fun _ => .inl) (fun _ hl _ => .inl hl) (by simp [hph])
      (fun _ => id) (fun y hy => ?_) (fun _ _ => .inl) (fun _ => .inl) h.ended
    exact doomed_append hy
  | builtStale _ _ _ hph =>
    have hr := hru hph rfl
    rw [hph] at hcu
    refine h.moved hf hr (fun _ => .inl) (fun l hl _ => ?_) (by simp [hph])
      (fun _ => mem_append_left _) (fun _ hy => doomed_abort.mpr (.inl hy)) (fun l y hy => ?_)
      (fun _ => .inl) fun hco => ⟨(h.ended hco).1, fun l hl => by cases hl⟩
    · exact .inr (.inl (owns_releaseAfterReap (hcu.2.2.1.symm.trans hl)))
    · refine (mem_releaseAfterReap hy).imp_right fun hy => doomed_abort.mpr (.inr ⟨hy.2.symm, ?_⟩)
      exact hk.calls call hme y (by simp [Call.helper, hph, hy.2])
  | recordStale hlp hph =>
    have hr := hru hph rfl
    refine h.moved hf hr (fun _ => .inl) (fun l hl _ => ?_) (by simp [hph])
      (fun _ => mem_append_left _)
      (fun _ hy => (doomed_abort (x := some hlp)).mpr (.inl hy)) (fun l y hy => ?_)
      (fun _ => .inl) fun hco => ⟨(h.ended hco).1, fun l hl => by cases hl⟩
    · exact .inr (.inl (owns_releaseAfterReap hl))
    refine (mem_releaseAfterReap hy).imp_right fun hy => ?_
    refine (doomed_abort (x := some hlp)).mpr (.inr ⟨hy.2.symm, ?_⟩)
    exact hk.calls call hme y (by simp [Call.helper, hph, hy.2])
  | failing _ why cerr hph hsa =>
    have hr := hru hph rfl
    have hon := h.open_of_fresh hf hr hsa.symm
    obtain ⟨hke, -, -, hret, -⟩ := w.c.factoryFailed_keeps why cerr
    refine h.moved hf hr (fun l hl => .inl ?_) (fun l hl hl' => ?_) (by simp [hph])
      (fun _ => id) (fun _ => id) (fun _ _ => .inl) (fun y hy => .inl ?_) fun hco => ?_
    · exact (closeLease_open hl).2
    · exact absurd hl (closeLease_open hl').1
    · exact hret.symm.trans hy
    · cases hon.symm.trans (hke.closed.symm.trans hco)
  | commit hlp _ _ _ hph hsa hke _ hends =>
    have hr := hru hph rfl
    have hon := h.open_of_fresh hf hr (epoch_of_fresh hsa).symm
    have hlt := hk.calls call hme hlp (by simp [Call.helper, hph])
    refine h.moved hf hr (fun l hl => .inl (closeLease_open hl).2) (fun l hl hl' => ?_)
      (by simp [hph]) (fun _ => mem_append_left _)
      (fun _ hy => doomed_abort.mpr (.inl hy)) (fun l y hy => ?_) (fun y hy => ?_)
      fun hco => by cases hon.symm.trans (hke.closed.symm.trans hco)
    · cases hends with
      | stays hhol => exact .inl (hhol.lease.trans hl)
      | takenBack _ _ _ _ _ hrele =>
        exact .inr (.inl (owns_releaseAfterReap (hrele.trans hl)))
      | givenUp _ hla => exact .inl (hla.trans hl)
      | closed _ _ _ _ _ _ _ hclos =>
        exact absurd (hclos.trans hl) (closeLease_open hl').1
    · refine (mem_releaseAfterReap hy).imp_right fun hy => ?_
      obtain ⟨hrele, heq⟩ := hy
      cases heq
      cases hends with
      | takenBack _ _ _ _ habo => exact doomed_abort.mpr (.inr ⟨by simp [habo], hlt⟩)
      | stays _ _ hnn => cases hnn.symm.trans hrele
      | givenUp _ _ _ _ _ hnn => cases hnn.symm.trans hrele
      | closed _ _ _ _ _ _ hnn => cases hnn.symm.trans hrele
    cases hends with
    | stays hhol => exact .inl (hhol.retired.symm.trans hy)
    | takenBack _ _ _ hret => exact .inl (hret.symm.trans hy)
    | givenUp _ _ hret _ habo =>
      cases hret.symm.trans hy
      exact .inr (doomed_abort.mpr (.inr ⟨by simp [habo], hlt⟩))
    | closed _ _ _ hret => exact .inl (hret.symm.trans hy)

lemma invalidateOwner (takes : Bool) {x : Option Nat} (hca : w'.calls = w.calls)
    (hleas : w'.leases = w.leases) (hdoo : ∀ y, w.Doomed y → w'.Doomed y)
    (hla : w'.c.lease = if takes then none else w.c.lease)
    (hrel : w'.releases = w.releases ++ (if takes then w.c.lease.map (·, x) else none).toList)
    (hx : ∀ y, x = some y → w'.Doomed y)
    (hret : ∀ y, w'.c.retired = some y → w.c.retired = some y ∨ w'.Doomed y)
    (hen : w'.c.closed = true → w'.c.status.busy = false ∧
      ∀ l, w'.c.lease = some l → w'.c.factoryActive = true ∨ w'.leases[l]? = some true) :
    Owned w' := by
  refine ⟨fun l hl => ?_, fun l y hy => ?_, fun y hy => ?_, hen⟩
  · rcases h.owns l (hleas ▸ hl) with hl | ⟨y, hy⟩ | hhold
    · cases takes with
      | false => exact .inl (hla.trans hl)
      | true => exact .inr (.inl ⟨x, hrel ▸ mem_append_right _ (by simp [hl])⟩)
    · exact .inr (.inl ⟨y, hrel ▸ mem_append_left _ hy⟩)
    · exact .inr (.inr (hca ▸ hhold))
  · rw [hrel] at hy
    rcases mem_append.mp hy with hy | hy
    · exact hdoo y (h.aborted l y hy)
    split_ifs at hy
    · obtain ⟨m, -, heq⟩ := map_eq_some_iff.mp (mem_toList.mp hy)
      exact hx y (Prod.mk.inj heq).2
    · simp at hy
  · exact (hret y hy).elim (fun hy => hdoo y (h.retired y hy)) id

lemma invalidate (hk : Known w) (ow why : String) : Owned (w.invalidate ow why) := by
  by_cases howner : ow ≠ "" ∧ ow ≠ w.c.owner
  · have heq : w.invalidate ow why = w := by
      simp [World.invalidate, Controller.invalidate, howner, abort]
    rwa [heq]
  have hinv : w.c.invalidate ow why = w.c.invalidateOwner why := if_neg howner
  have hc : (w.invalidate ow why).c = (w.c.invalidateOwner why).controller :=
    hinv ▸ rfl
  have hrel : (w.invalidate ow why).releases =
      w.releases ++ (w.c.invalidateOwner why).release.toList := hinv ▸ rfl
  have hdoo {y : Nat} : (w.invalidate ow why).Doomed y ↔
      w.Doomed y ∨ (w.c.invalidateOwner why).abort = some y ∧ y < w.helpers.length := by
    rw [← hinv]
    exact doomed_abort
  obtain ⟨hunu, hke, -, hrele⟩ |
    ⟨hunu, takes, htak, status, hee, hbz, -, hke, habo, hrele⟩ :=
    w.c.invalidate_cases why
  · have hbz : w.c.status.busy = false := by
      simp only [unused, Bool.and_eq_true, Bool.not_eq_true'] at hunu
      exact hunu.2
    refine h.invalidateOwner (invalidReason why == "daemon_closed" && !w.c.factoryActive)
      (x := w.c.retired) rfl rfl (fun y hy => hdoo.mpr (.inl hy)) (by rw [hc, hke])
      (by rw [hrel, hrele]) (fun y hy => hdoo.mpr (.inl (h.retired y hy)))
      (fun y hy => .inl ?_) fun hco => ?_
    · rw [hc, hke] at hy
      exact hy
    rw [hc, hke] at hco ⊢
    refine ⟨hbz, fun l hl => ?_⟩
    cases hacti : w.c.factoryActive with
    | true => exact .inl rfl
    | false =>
      cases hclos : (invalidReason why == "daemon_closed") with
      | true => simp [hclos, hacti] at hl
      | false =>
        simp only [hclos, Bool.or_false, Bool.false_and, Bool.false_eq_true, if_false] at hco hl
        exact ((h.ended hco).2 l hl).imp_left fun hat => by simp [hacti] at hat
  · have hba {y : Nat} (hy : w.c.backend = some y) : (w.invalidate ow why).Doomed y :=
      hdoo.mpr (.inr ⟨habo.trans hy, hk.backend y hy⟩)
    refine h.invalidateOwner takes (x := w.c.backend) rfl rfl (fun y hy => hdoo.mpr (.inl hy))
      (by rw [hc, hke]) (by rw [hrel, hrele]) (fun y hy => hba hy)
      (fun y hy => ?_) fun hco => ?_
    · rw [hc, hke] at hy
      cases hb : w.c.backend with
      | none =>
        rw [hb] at hy
        exact .inl hy
      | some =>
        rw [hb] at hy
        exact .inr (hba (hb.trans hy))
    rw [hc, hke] at hco ⊢
    refine ⟨hbz, fun l hl => ?_⟩
    cases hacti : w.c.factoryActive with
    | true => exact .inl rfl
    | false =>
      simp only [htak, hacti, Bool.not_false, Bool.true_and] at hl
      split_ifs at hl with ht
      have hclos : (invalidReason why == "daemon_closed") = false := by
        simp only [Bool.or_eq_true, not_or, Bool.not_eq_true] at ht
        exact ht.1
      simp only [hclos, Bool.or_false] at hco
      exact ((h.ended hco).2 l hl).imp_left fun hat => by simp [hacti] at hat

/-- A goroutine of `releaseAfterReap` closes its lease. -/
lemma closes {i lease : Nat} {hlp : Option Nat} (hi : w.releases[i]? = some (lease, hlp)) :
    Owned { w.closeLease (some lease) with releases := w.releases.eraseIdx i } := by
  refine ⟨fun l hl => ?_, fun l y hy => h.aborted l y (mem_of_mem_eraseIdx hy), h.retired,
    fun hco => ⟨(h.ended hco).1, fun l hl => ?_⟩⟩
  · obtain ⟨hne, hon⟩ := getElem?_open hl
    refine (h.owns l hon).imp_right (Or.imp_left fun ⟨x, hx⟩ => ⟨x, ?_⟩)
    obtain ⟨j, hj⟩ := mem_iff_getElem?.mp hx
    refine mem_eraseIdx_iff_getElem?.mpr ⟨j, ?_, hj⟩
    rintro rfl
    exact hne (Prod.mk.inj (some.inj (hi.symm.trans hj))).1.symm
  · refine ((h.ended hco).2 l hl).imp_right fun htrue => ?_
    exact closed_set htrue

theorem step (hf : Fenced w) (hl : Leased w) (hk : Known w) {e : Event}
    (hst : w.step e = some w') : Owned w' := by
  cases stepped hst with
  | begins =>
    exact h.frame rfl rfl rfl (fun _ => id) (fun _ => .inl)
      (fun _ hcl _ _ => mem_append_left _ hcl) id (fun _ => id) id
  | turned _ _ hcl htur => exact h.turned hf hl hk hcl htur
  | invalidated ow why => exact h.invalidate hk ow why
  | observed => exact h.refreshDeath
  | finished =>
    refine h.frame rfl rfl rfl (fun y hy => ?_) (fun _ => .inl) (fun _ hcl _ _ => hcl) id
      (fun _ => id) id
    exact doomed_finished hy
  | poisoned =>
    exact h.frame rfl rfl rfl (fun y hy => doomed_abort.mpr (.inl hy)) (fun _ => .inl)
      (fun _ hcl _ _ => hcl) id (fun _ => id) id
  | released _ _ _ hi => exact h.closes hi
  | shutdown =>
    exact frame (h.invalidate hk "" "daemon_closed") rfl rfl rfl (fun _ => id) (fun _ => .inl)
      (fun _ hcl _ _ => hcl) id (fun _ => id) id
  | reaped | waited | channel | freed =>
    exact h.frame rfl rfl rfl (fun _ => id) (fun _ => .inl) (fun _ hcl _ _ => hcl) id
      (fun _ => id) id

end

end Owned

end

/-! ### Every lease is closed -/

/-- The goroutines keep running: a call in progress goes on, unless the helper does not return; a
helper that was told to abort is reaped; and a goroutine that has nothing to wait for closes its
lease. -/
structure Fair (x : Execution World.step) : Prop where
  calls : ∀ k n, ∃ m, n ≤ m ∧ ∀ call, (x.state m).Runs k call → (∀ h, call.phase ≠ .perform h) →
    ∃ turn, x.input m = .call k turn
  helpers : ∀ h n, (x.state n).poisoned h = true → ∃ m, n ≤ m ∧ (x.state m).done h = true
  releases : ∀ l h n, ∃ m, n ≤ m ∧ ((l, h) ∈ (x.state m).releases →
    (∀ y ∈ h, (x.state m).done y = true) →
      ∃ i, x.input m = .release i ∧ (x.state m).releases[i]? = some (l, h))

structure Sound (w : World) : Prop where
  fenced : Fenced w
  leased : Leased w
  known : Known w
  owned : Owned w

lemma sound_new (options : Options) : Sound (World.new options) :=
  ⟨fenced_new options, leased_new options, known_new options, owned_new options⟩

section

variable {w w' : World} {e : Event} {k l : Nat} {call : Call}

lemma Sound.step (h : Sound w) (hcar : w.Careful e) (hst : w.step e = some w') : Sound w' where
  fenced := h.fenced.step hst
  leased := h.leased.step h.fenced hcar hst
  known := h.known.step hst
  owned := h.owned.step h.fenced h.leased h.known hst

lemma done_step {y : Nat} (h : w.done y = true) (hst : w.step e = some w') : w'.done y = true := by
  cases stepped hst with
  | turned _ _ _ htur =>
    cases htur with
    | spawn =>
      obtain ⟨hlp, hget, hfin⟩ := (any_eq_true _ _).mp h
      simp only [done, put]
      rw [getElem?_append_left (lt_length hget), hget]
      exact hfin
    | builtStale _ hlp => exact (done_abort _ hlp y).trans h
    | builtFailed _ hlp => exact (done_abort _ hlp y).trans h
    | recordStale hlp => exact (done_abort _ (some hlp) y).trans h
    | commit => exact (done_abort _ _ y).trans h
    | _ => exact h
  | invalidated | shutdown => exact (done_abort _ _ y).trans h
  | poisoned x => exact (done_abort _ (some x) y).trans h
  | finished x => exact done_finished w x y h
  | _ => exact h

/-- A goroutine of `releaseAfterReap` stays until it closes its lease. -/
lemma release_step {x : Option Nat} (h : (l, x) ∈ w.releases) (hlt : l < w.leases.length)
    (hst : w.step e = some w') : w'.leases[l]? = some true ∨ (l, x) ∈ w'.releases ∧
      ¬ ∃ i, e = .release i ∧ w.releases[i]? = some (l, x) := by
  have hkp {p : Nat × Option Nat} (hp : p ∈ w.releases) {more : List (Nat × Option Nat)} :
      p ∈ w.releases ++ more := mem_append_left _ hp
  cases stepped hst with
  | released i lease _ hi =>
    by_cases hl : lease = l
    · subst hl
      exact .inl (getElem?_set_self hlt)
    have hne {j : Nat} (hj : w.releases[j]? = some (l, x)) : j ≠ i := by
      rintro rfl
      exact hl (Prod.mk.inj (some.inj (hi.symm.trans hj))).1
    obtain ⟨j, hj⟩ := mem_iff_getElem?.mp h
    refine .inr ⟨mem_eraseIdx_iff_getElem?.mpr ⟨j, hne hj, hj⟩, ?_⟩
    rintro ⟨i', heq, hi'⟩
    exact hne hi' (Event.release.inj heq).symm
  | turned _ _ _ htur =>
    refine .inr ⟨?_, by simp⟩
    cases htur with
    | builtStale | recordStale | commit => exact hkp h
    | _ => exact h
  | invalidated | shutdown => exact .inr ⟨hkp h, by simp⟩
  | _ => exact .inr ⟨h, by simp⟩

lemma call_step (hcl : w.calls[k]? = some call) (hst : w.step e = some w') :
    w'.calls[k]? = some call ∧ (∀ turn, e ≠ .call k turn) ∨
      ∃ turn, e = .call k turn ∧ Turned w k call turn w' := by
  cases stepped hst with
  | begins =>
    refine .inl ⟨?_, by simp⟩
    rw [getElem?_append_left (lt_length hcl), hcl]
  | turned j _ hother htur =>
    by_cases hjk : k = j
    · subst hjk
      exact .inr ⟨_, rfl, some.inj (hcl.symm.trans hother) ▸ htur⟩
    · refine .inl ⟨(htur.moved.others hjk).1.trans hcl, fun turn heq => ?_⟩
      exact hjk (Event.call.inj heq).1.symm
  | _ => exact .inl ⟨hcl, by simp⟩

lemma hold_step (h : Sound w) (hco : w.c.closed = true) (hcl : w.calls[k]? = some call)
    (hph : call.phase = .hold l) (hst : w.step e = some w') :
    w'.leases[l]? = some true ∨ w'.calls[k]? = some call ∧ ∀ turn, e ≠ .call k turn := by
  rcases call_step hcl hst with hsm | ⟨turn, rfl, htur⟩
  · exact .inr hsm
  refine .inl ?_
  have hru : w.Runs k call := ⟨hcl, by simp [Call.inProgress, hph]⟩
  have hcu := h.leased.custody call (mem_of_getElem? hcl)
  simp only [World.Custody, hph] at hcu
  cases htur with
  | holdStale _ hph' =>
    obtain rfl := Phase.hold.inj (hph.symm.trans hph')
    exact getElem?_set_self (lt_length hcu.2.1)
  | hold _ _ hsa =>
    have := h.owned.open_of_fresh h.fenced hru (epoch_of_fresh hsa).symm
    cases this.symm.trans hco
  | _ => simp_all

/-- The factory of the call runs with the lease, or has returned. -/
def Call.Builds (call : Call) (lease : Nat) : Prop :=
  (∃ x, call.phase = .factory (some lease) x) ∨
    ∃ x failed, call.phase = .built (some lease) x failed

/-- The steps of a call that are left before the factory has returned. -/
def Call.remaining (call : Call) : Nat :=
  match call.phase with
  | .factory _ none => 2
  | .factory _ (some _) => 1
  | _ => 0

lemma Call.Builds.building (h : call.Builds l) : call.building = true := by
  rcases h with ⟨x, hph⟩ | ⟨x, bad, hph⟩ <;> simp [Call.building, hph]

lemma building_step (h : Sound w) (hco : w.c.closed = true) (hcl : w.calls[k]? = some call)
    (hbui : call.Builds l) (hst : w.step e = some w') :
    (∃ x, (l, x) ∈ w'.releases) ∨ ∃ call', w'.calls[k]? = some call' ∧ call'.Builds l ∧
      call'.remaining ≤ call.remaining ∧
      ((∃ turn, e = .call k turn) → call'.remaining < call.remaining) := by
  rcases call_step hcl hst with ⟨hsm, hno⟩ | ⟨turn, rfl, htur⟩
  · exact .inr ⟨call, hsm, hbui, Nat.le_refl _, fun ⟨turn, heq⟩ => absurd heq (hno turn)⟩
  have hru : w.Runs k call := ⟨hcl, inProgress_of_building hbui.building⟩
  have hlt := lt_length hcl
  have hfr (hsa : w.c.stale call.epoch call.owner = false) : False := by
    have := h.owned.open_of_fresh h.fenced hru (epoch_of_fresh hsa).symm
    cases this.symm.trans hco
  cases htur with
  | spawn lease hph =>
    obtain rfl : lease = some l := by rcases hbui with ⟨x, hb⟩ | ⟨x, bad, hb⟩ <;> simp_all
    exact .inr ⟨_, getElem?_set_self hlt, .inl ⟨_, rfl⟩, by simp [Call.remaining, hph],
      fun _ => by simp [Call.remaining, hph]⟩
  | built lease hlp bad hph =>
    obtain rfl : lease = some l := by rcases hbui with ⟨x, hb⟩ | ⟨x, bad, hb⟩ <;> simp_all
    refine .inr ⟨_, getElem?_set_self hlt, .inr ⟨_, _, rfl⟩, by simp [Call.remaining], fun _ => ?_⟩
    cases hlp <;> simp [Call.remaining, hph]
  | builtStale lease _ bad =>
    obtain rfl : lease = some l := by rcases hbui with ⟨x, hb⟩ | ⟨x, bad, hb⟩ <;> simp_all
    exact .inl (owns_releaseAfterReap rfl)
  | builtFailed _ _ _ _ hsa => exact (hfr hsa).elim
  | builtHelper _ _ _ hsa => exact (hfr hsa).elim
  | _ => rcases hbui with ⟨x, hb⟩ | ⟨x, bad, hb⟩ <;> simp_all

end

section

variable {x : Execution World.step} {n l : Nat}

lemma done_stays {y m : Nat} (hdn : (x.state n).done y = true) (hnm : n ≤ m) :
    (x.state m).done y = true :=
  x.invariant (fun s => s.done y = true) (fun _ _ => True)
    (fun _ _ _ h _ hst => done_step h hst) (fun _ => trivial) hdn hnm

/-- A goroutine of `releaseAfterReap` closes its lease in the end. -/
lemma eventually_released (hfair : Fair x)
    (hcar : ∀ n, (x.state n).Careful (x.input n)) (hso : Sound (x.state n))
    {h : Option Nat} (hn : (l, h) ∈ (x.state n).releases) :
    ∃ m, n ≤ m ∧ (x.state m).leases[l]? = some true := by
  refine x.eventually (fun s => Sound s ∧ (l, h) ∈ s.releases) (fun s => s.leases[l]? = some true)
    (fun s e => ∃ i, e = .release i ∧ s.releases[i]? = some (l, h)) (fun _ => 0)
    (fun n ⟨hs, hme⟩ => ?_) (fun n => ?_) n ⟨hso, hn⟩
  · rcases release_step hme (hs.leased.released l h hme).1 (x.next n) with hQ | ⟨hme', hno⟩
    · exact .inl hQ
    · exact .inr ⟨⟨hs.step (hcar n) (x.next n), hme'⟩, Nat.le_refl _,
        fun hhelp => absurd hhelp hno⟩
  -- the helper finishes, if there is one
  by_cases hP : Sound (x.state n) ∧ (l, h) ∈ (x.state n).releases
  · obtain ⟨m₁, hm₁, hdn⟩ : ∃ m₁, n ≤ m₁ ∧ ∀ y ∈ h, (x.state m₁).done y = true := by
      cases h with
      | none => exact ⟨n, Nat.le_refl n, by simp⟩
      | some y =>
        rcases hP.1.owned.aborted l y hP.2 with hpo | hdn
        · obtain ⟨m, hm, hdn⟩ := hfair.helpers y n hpo
          exact ⟨m, hm, fun z hz => some.inj hz ▸ hdn⟩
        · exact ⟨n, Nat.le_refl n, fun z hz => some.inj hz ▸ hdn⟩
    obtain ⟨m, hm, hrele⟩ := hfair.releases l h m₁
    exact ⟨m, Nat.le_trans hm₁ hm, fun hP' =>
      hrele hP'.2 fun y hy => done_stays (hdn y hy) hm⟩
  · exact ⟨n, Nat.le_refl n, fun hP' => absurd hP' hP⟩

lemma eventually_not_held (hfair : Fair x)
    (hcar : ∀ n, (x.state n).Careful (x.input n)) (hso : Sound (x.state n))
    (hco : (x.state n).c.closed = true) {k : Nat} {call : Call}
    (hcl : (x.state n).calls[k]? = some call) (hph : call.phase = .hold l) :
    ∃ m, n ≤ m ∧ (x.state m).leases[l]? = some true := by
  refine x.eventually (fun s => Sound s ∧ s.c.closed = true ∧ s.calls[k]? = some call)
    (fun s => s.leases[l]? = some true) (fun _ e => ∃ turn, e = .call k turn) (fun _ => 0)
    (fun n ⟨hs, hc, hcl⟩ => ?_) (fun n => ?_) n ⟨hso, hco, hcl⟩
  · rcases hold_step hs hc hcl hph (x.next n) with hQ | ⟨hcl', hno⟩
    · exact .inl hQ
    · exact .inr ⟨⟨hs.step (hcar n) (x.next n), closed_step hc (x.next n), hcl'⟩,
        Nat.le_refl _, fun ⟨turn, heq⟩ => absurd heq (hno turn)⟩
  · obtain ⟨m, hm, htn⟩ := hfair.calls k n
    exact ⟨m, hm, fun hP => htn call ⟨hP.2.2, by simp [Call.inProgress, hph]⟩ (by simp [hph])⟩

lemma eventually_built (hfair : Fair x)
    (hcar : ∀ n, (x.state n).Careful (x.input n)) (hso : Sound (x.state n))
    (hco : (x.state n).c.closed = true) {k : Nat} {call : Call}
    (hcl : (x.state n).calls[k]? = some call) (hbui : call.Builds l) :
    ∃ m, n ≤ m ∧ Sound (x.state m) ∧ ∃ h, (l, h) ∈ (x.state m).releases := by
  refine x.eventually
    (fun s => Sound s ∧ s.c.closed = true ∧ ∃ call, s.calls[k]? = some call ∧ call.Builds l)
    (fun s => Sound s ∧ ∃ h, (l, h) ∈ s.releases) (fun _ e => ∃ turn, e = .call k turn)
    (fun s => s.calls[k]?.elim 0 Call.remaining)
    (fun n ⟨hs, hc, call, hcl, hb⟩ => ?_) (fun n => ?_) n ⟨hso, hco, call, hcl, hbui⟩
  · have hs' := hs.step (hcar n) (x.next n)
    rcases building_step hs hc hcl hb (x.next n) with hQ | ⟨call', hcl', hb', hle, hlt⟩
    · exact .inl ⟨hs', hQ⟩
    · refine .inr ⟨⟨hs', closed_step hc (x.next n), call', hcl', hb'⟩, ?_, ?_⟩
      · simpa only [hcl, hcl', elim_some] using hle
      · simpa only [hcl, hcl', elim_some] using hlt
  obtain ⟨m, hm, htn⟩ := hfair.calls k n
  refine ⟨m, hm, fun ⟨_, _, call, hcl, hb⟩ => htn call ⟨hcl, ?_⟩ ?_⟩
  · exact inProgress_of_building hb.building
  · rcases hb with ⟨y, hph⟩ | ⟨y, bad, hph⟩ <;> simp [hph]

/-- After the daemon is closed, every lease is closed in the end. -/
theorem eventually_closed (hfair : Fair x) (hcar : ∀ n, (x.state n).Careful (x.input n))
    (hso : Sound (x.state n)) (hco : (x.state n).c.closed = true)
    (hl : l < (x.state n).leases.length) : ∃ m, n ≤ m ∧ (x.state m).leases[l]? = some true := by
  cases hon : (x.state n).leases[l] with
  | true => exact ⟨n, Nat.le_refl n, by rw [getElem?_eq_getElem hl, hon]⟩
  | false =>
    have hon : (x.state n).leases[l]? = some false := by rw [getElem?_eq_getElem hl, hon]
    rcases hso.owned.owns l hon with hla | ⟨h, hme⟩ | ⟨call, hcl, hph⟩
    · -- the factory is running with it
      have hac := ((hso.owned.ended hco).2 l hla).resolve_right (by simp [hon])
      obtain ⟨call, hcl, hbuil⟩ := hso.leased.active hac
      have hbui : call.Builds l := by
        have hcu := hso.leased.custody call hcl
        unfold World.Custody at hcu
        unfold Call.building at hbuil
        split at hbuil
        case h_1 lease y hph =>
          rw [hph] at hcu
          exact .inl ⟨y, by rw [hph, ← hcu.2.1, hla]⟩
        case h_2 lease y failed hph =>
          rw [hph] at hcu
          exact .inr ⟨y, failed, by rw [hph, ← hcu.2.2.1, hla]⟩
        · cases hbuil
      obtain ⟨k, hk⟩ := mem_iff_getElem?.mp hcl
      obtain ⟨m₁, hm₁, hso₁, h, hme⟩ :=
        eventually_built hfair hcar hso hco hk hbui
      obtain ⟨m, hm, hQ⟩ := eventually_released hfair hcar hso₁ hme
      exact ⟨m, Nat.le_trans hm₁ hm, hQ⟩
    · exact eventually_released hfair hcar hso hme
    · obtain ⟨k, hk⟩ := mem_iff_getElem?.mp hcl
      exact eventually_not_held hfair hcar hso hco hk hph

end

/-- In a run in which no factory returns a helper together with an error, and no invalidation comes
between the return of a factory and the record of its helper, no lease is closed while a helper
that was started under it is alive; and when such a run goes on fairly, then after the daemon is
closed every lease that was acquired is closed in the end. -/
theorem lease_outlives_helpers {options : Options} {events : List Event} {w : World}
    (hrn : run World.step (World.new options) events = some w)
    (hcar : Along World.step World.Careful (World.new options) events) :
    w.LeasesHeld ∧ ∀ x : Execution World.step, x.state 0 = w →
      (∀ n, (x.state n).Careful (x.input n)) → Fair x →
      ∀ n l, (x.state n).c.closed = true → l < (x.state n).leases.length →
        ∃ m, n ≤ m ∧ (x.state m).leases[l]? = some true := by
  have hst (u : World) (e : Event) (v : World) :
      Sound u → u.Careful e → u.step e = some v → Sound v := fun h => h.step
  have hso : Sound w := along_invariant hst (sound_new options) hcar hrn
  refine ⟨fun l hl h hund => (hso.leased.shut l hl h hund).resolve_right (by simp),
    fun x hx hcar' hfair n l hco hl => ?_⟩
  have hn : Sound (x.state n) :=
    x.invariant Sound World.Careful hst hcar' (hx.symm ▸ hso) (Nat.zero_le n)
  exact eventually_closed hfair hcar' hn hco hl

/-- A factory returns a helper that is alive together with an error. -/
def startFailed : List Event :=
  [.execute "front" liveRequest, .call 0 (.enter none), .call 0 (.acquired true false),
    .call 0 (.locked false), .call 0 (.locked false), .call 0 .spawn, .call 0 (.built true),
    .call 0 (.locked false), .call 0 (.locked false)]

/-- The frontend lets go after the factory has returned, and before the helper is recorded. -/
def invalidatedEarly : List Event :=
  [.execute "front" liveRequest, .call 0 (.enter none), .call 0 (.acquired true false),
    .call 0 (.locked false), .call 0 (.locked false), .call 0 .spawn, .call 0 (.built false),
    .call 0 (.locked false), .invalidate "front" "control_released", .release 0]

/-- A run after which lease 0 is closed while helper 0, started under it, has not finished. -/
def ClosesEarly (events : List Event) : Prop :=
  ∃ w, run World.step (World.new sampleOptions) events = some w ∧
    w.leases[0]? = some true ∧ w.Under 0 0 ∧ w.done 0 = false ∧ ¬ w.LeasesHeld

lemma closesEarly_of_run {es : List Event}
    (h : ∃ w, run World.step (World.new sampleOptions) es = some w ∧ w.leases[0]? = some true ∧
      w.helpers[0]?.map Helper.lease = some (some 0) ∧ w.done 0 = false) : ClosesEarly es := by
  obtain ⟨w, hrn, hco, hla, hdn⟩ := h
  have hund : w.Under 0 0 := map_eq_some_iff.mp hla
  refine ⟨w, hrn, hco, hund, hdn, fun hheld => ?_⟩
  simp [hheld 0 hco 0 hund] at hdn

/-- In both runs the lease is closed while the helper under it is alive. -/
theorem lease_closed_early : ClosesEarly startFailed ∧ ClosesEarly invalidatedEarly :=
  ⟨closesEarly_of_run (exists_run (by decide +kernel)),
    closesEarly_of_run (exists_run (by decide +kernel))⟩

/-- The lease of an open operation that the shutdown has overtaken is closed after its helper. -/
def shutdownReleased : List Event := shutdownOpen ++ [.release 0]

/-- The world in which nothing happens any more, but for a frontend that asks for a snapshot. -/
def stillExecution (w : World) (hsti : w.c.backend = none) : Execution World.step where
  state := fun _ => w
  input := fun _ => .snapshot
  next := by simp [World.step, Controller.refreshDeath, hsti]

theorem lease_outlives_helpers_shutdown :
    ∃ w, run World.step (World.new sampleOptions) shutdownReleased = some w ∧ w.LeasesHeld ∧
      w.helpers.length = 1 ∧ ∃ x : Execution World.step, x.state 0 = w ∧ Fair x ∧
        ∃ m, (x.state m).leases[0]? = some true := by
  obtain ⟨w, hrn, hco, hba, hid, hfin, hrel, hleas, hhel⟩ : ∃ w,
      run World.step (new sampleOptions) shutdownReleased = some w ∧
        w.c.closed = true ∧ w.c.backend = none ∧ (∀ call ∈ w.calls, call.inProgress = false) ∧
        (∀ helper ∈ w.helpers, helper.finished = true) ∧ w.releases = [] ∧
        w.leases.length = 1 ∧ w.helpers.length = 1 :=
    exists_run (by decide +kernel)
  have hfair : Fair (stillExecution w hba) := by
    refine ⟨fun k n => ⟨n, Nat.le_refl n, fun call hru => ?_⟩, fun h n hh => ⟨n, Nat.le_refl n, ?_⟩,
      fun l h n => ⟨n, Nat.le_refl n, fun hme => ?_⟩⟩
    · have := hid call (mem_of_getElem? hru.1)
      cases this.symm.trans hru.2
    · obtain ⟨helper, hget, -⟩ := (any_eq_true _ _).mp hh
      exact (any_eq_true _ _).mpr ⟨helper, hget, hfin helper (mem_of_getElem? hget)⟩
    · cases hrel ▸ hme
  obtain ⟨hheld, hclose⟩ := lease_outlives_helpers hrn (by decide +kernel)
  obtain ⟨m, -, hm⟩ := hclose (stillExecution w hba) rfl (fun _ => trivial) hfair 0 0 hco
    (by simp [stillExecution, hleas])
  exact ⟨w, hrn, hheld, hhel, _, rfl, hfair, m, hm⟩

end MultiDap.Trace
