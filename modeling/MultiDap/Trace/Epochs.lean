import MultiDap.Trace.Turns

/-!
# Epochs

An operation commits only in the epoch in which it was accepted. In that epoch the controller is
busy with it and with nothing else; once the epoch is over, the controller is in doubt, and stays
so.
-/

namespace MultiDap.Trace

open Machine World List Option

/-! ### What the steps of a call have in common -/

/-- What an operation that is overtaken cannot change. -/
structure Quiet (w w' : World) : Prop where
  status : w'.c.status = w.c.status
  epoch : w'.c.epoch = w.c.epoch
  owner : w'.c.owner = w.c.owner
  nextID : w'.c.nextID = w.c.nextID

/-- The result of an operation that was overtaken. -/
def Phase.overtaken : Phase := .returned none (some (.of .traceStaleOperation))

/-- The steps of a call, as far as the epochs are concerned. -/
inductive Moved (w : World) (k : Nat) (call : Call) (w' : World) : Prop where
  | turnedAway (result : Option Result) (err : Error) (hph : call.phase = .entering)
      (hbat : ∀ r ∈ result, r.batch = none)
      (hc : w'.c = w.c ∨ w'.c = w.c.refreshDeath w.done)
      (hca : w'.calls = w.calls.set k { call with phase := .returned result (some err) })
      (hlog : w'.log = w.log)
  | accepted (c : Controller) (hph : call.phase = .entering) (hpn : w.c.closed = false)
      (hee : w.c.status.needsReconciliation = false) (hbz : w.c.status.busy = false)
      (hre : validateRequest call.request = none)
      (hac : w.c.Accepted call.owner call.request c)
      (hw' : w' = { w with c := c }.accept k call)
  | goesOn (phase : Phase) (hpr : call.inProgress = true)
      (hph : ({ call with phase := phase } : Call).inProgress = true) (hqu : Quiet w w')
      (hba : w'.c.backend = w.c.backend ∧
          (({ call with phase := phase } : Call).unrecorded = true → call.unrecorded = true) ∨
        w.c.stale call.epoch call.owner = false ∧
          ({ call with phase := phase } : Call).unrecorded = false)
      (hca : w'.calls = w.calls.set k { call with phase := phase })
      (hlog : ∀ e ∈ w'.log, e ∈ w.log ∨ e.1 = k)
  | overtaken (hpr : call.inProgress = true) (hqu : Quiet w w')
      (hsa : w.c.stale call.epoch call.owner = true) (hba : w'.c.backend = w.c.backend)
      (hca : w'.calls = w.calls.set k { call with phase := .overtaken })
      (hlog : w'.log = w.log)
  | ended (result : Option Result) (err : Option Error) (hpr : call.inProgress = true)
      (hsa : w.c.epoch = call.epoch) (hep : w'.c.epoch = w.c.epoch)
      (hnex : w'.c.nextID = w.c.nextID) (hha : w'.c.status.handle = w.c.status.handle)
      (hee : w.c.status.needsReconciliation = true → w'.c.status.needsReconciliation = true)
      (hbz : w'.c.status.busy = false)
      (hba : w'.c.backend = none ∨ w'.c.backend = w.c.backend ∧
        (call.unrecorded = true ∨ w'.c.status.needsReconciliation = w.c.status.needsReconciliation))
      (hca : w'.calls = w.calls.set k { call with phase := .returned result err })
      (hlog : w'.log = w.log)

variable {c : Controller}

lemma Controller.epoch_of_fresh {ep : Nat} {ow : String}
    (h : c.stale ep ow = false) : c.epoch = ep := by
  simp only [Controller.stale, Bool.or_eq_false_iff, decide_eq_false_iff_not, not_not] at h
  exact h.1

lemma Turned.moved {w w' : World} {k : Nat} {call : Call} {turn : Turn}
    (h : Turned w k call turn w') : Moved w k call w' := by
  have hpr {ph : Phase} (hph : call.phase = ph)
      (hp : ({ call with phase := ph } : Call).inProgress = true) : call.inProgress = true := by
    simpa only [Call.inProgress, hph] using hp
  have hun {ph : Phase} (hph : call.phase = ph)
      (hp : ({ call with phase := ph } : Call).unrecorded = true) : call.unrecorded = true := by
    simpa only [Call.unrecorded, hph] using hp
  cases h with
  | turnedAway _ res err hph hc hbat => exact .turnedAway res err hph hbat hc rfl rfl
  | accepted c hph hpn hee hbz hre hac =>
    exact .accepted c hph hpn hee hbz hre hac rfl
  | acquired hph =>
    exact .goesOn _ (hpr hph rfl) rfl ⟨rfl, rfl, rfl, rfl⟩
      (.inl ⟨rfl, fun _ => hun hph rfl⟩) rfl fun _ => .inl
  | notAcquired _ hph =>
    exact .goesOn _ (hpr hph rfl) rfl ⟨rfl, rfl, rfl, rfl⟩
      (.inl ⟨rfl, fun _ => hun hph rfl⟩) rfl fun _ => .inl
  | hold _ hph =>
    exact .goesOn _ (hpr hph rfl) rfl ⟨rfl, rfl, rfl, rfl⟩
      (.inl ⟨rfl, fun _ => hun hph rfl⟩) rfl fun _ => .inl
  | fence hph =>
    refine .goesOn _ (hpr hph rfl) rfl ⟨rfl, rfl, rfl, rfl⟩
      (.inl ⟨rfl, fun _ => hun hph rfl⟩) rfl fun e he => ?_
    exact (mem_append.mp he).imp_right fun he => by simp [mem_singleton.mp he]
  | spawn _ hph =>
    exact .goesOn _ (hpr hph rfl) rfl ⟨rfl, rfl, rfl, rfl⟩
      (.inl ⟨rfl, fun _ => hun hph rfl⟩) rfl fun _ => .inl
  | built _ _ _ hph =>
    exact .goesOn _ (hpr hph rfl) rfl ⟨rfl, rfl, rfl, rfl⟩
      (.inl ⟨rfl, fun _ => hun hph rfl⟩) rfl fun _ => .inl
  | builtFailed _ _ _ hph =>
    exact .goesOn _ (hpr hph rfl) rfl ⟨rfl, rfl, rfl, rfl⟩
      (.inl ⟨rfl, fun _ => hun hph rfl⟩) rfl fun _ => .inl
  | builtHelper _ _ hph =>
    exact .goesOn _ (hpr hph rfl) rfl ⟨rfl, rfl, rfl, rfl⟩
      (.inl ⟨rfl, fun _ => hun hph rfl⟩) rfl fun _ => .inl
  | record _ hph hsa =>
    refine .goesOn _ (hpr hph rfl) rfl ⟨rfl, rfl, rfl, rfl⟩ (.inr ⟨hsa, rfl⟩) rfl
      fun e he => ?_
    exact (mem_append.mp he).imp_right fun he => by simp [mem_singleton.mp he]
  | performed _ _ _ hph =>
    exact .goesOn _ (hpr hph rfl) rfl ⟨rfl, rfl, rfl, rfl⟩
      (.inl ⟨rfl, by simp [Call.unrecorded]⟩) rfl fun _ => .inl
  | holdStale _ hph hsa =>
    exact .overtaken (hpr hph rfl) ⟨rfl, rfl, rfl, rfl⟩ hsa rfl rfl rfl
  | fenceStale hph hsa =>
    exact .overtaken (hpr hph rfl) ⟨rfl, rfl, rfl, rfl⟩ hsa rfl rfl rfl
  | builtStale _ _ _ hph hsa =>
    exact .overtaken (hpr hph rfl) ⟨rfl, rfl, rfl, rfl⟩ hsa rfl rfl rfl
  | failingStale _ _ hph hsa =>
    refine .overtaken (hpr hph rfl) ⟨rfl, rfl, rfl, rfl⟩ ?_ rfl rfl rfl
    simp [Controller.stale, hsa]
  | recordStale _ hph hsa =>
    exact .overtaken (hpr hph rfl) ⟨rfl, rfl, rfl, rfl⟩ hsa rfl rfl rfl
  | commitStale _ _ _ hph hsa =>
    exact .overtaken (hpr hph rfl) ⟨rfl, rfl, rfl, rfl⟩ hsa rfl rfl rfl
  | failing _ why cerr hph hsa =>
    obtain ⟨hke, hbz, hba, -⟩ := w.c.factoryFailed_keeps why cerr
    exact .ended _ _ (hpr hph rfl) hsa hke.epoch hke.nextID hke.handle
      hke.needs hbz (.inr ⟨hba, .inl (hun hph rfl)⟩) rfl rfl
  | commit _ _ _ _ hph hsa hke hbz hends =>
    refine .ended _ _ (hpr hph rfl) (Controller.epoch_of_fresh hsa) hke.epoch
      hke.nextID hke.handle hke.needs hbz ?_ rfl rfl
    cases hends with
    | stays hhol => exact .inr ⟨hhol.backend, .inr hhol.needs⟩
    | takenBack _ hba => exact .inl hba
    | givenUp hba => exact .inl hba
    | closed _ _ hba => exact .inl hba

/-! ### The invariant -/

/-- An operation in progress has the controller for itself, or was overtaken. -/
structure Fenced (w : World) : Prop where
  epoch_le : ∀ k call, w.Runs k call → call.epoch ≤ w.c.epoch
  fresh : ∀ k call, w.Runs k call → call.epoch = w.c.epoch → w.c.status.busy = true ∧
    w.c.status.needsReconciliation = false ∧ w.c.owner = call.owner
  stale : ∀ k call, w.Runs k call → call.epoch ≠ w.c.epoch → w.c.status.needsReconciliation = true
  unique : ∀ j k call call', w.Runs j call → w.Runs k call' → j = k
  unrecorded : ∀ k call, w.Runs k call → call.unrecorded = true → call.epoch = w.c.epoch →
    w.c.backend = none
  doubt : w.c.status.needsReconciliation = true → w.c.backend = none ∧ w.c.status.busy = false
  current : w.c.status.handle = w.c.nextID
  handles : ∀ (k : Nat) (call : Call), w.calls[k]? = some call →
    ∀ h ∈ call.handle, 0 < h ∧ h ≤ w.c.nextID
  logged : ∀ e ∈ w.log, ∃ call : Call, w.calls[e.1]? = some call ∧ call.phase ≠ .entering

lemma fenced_new (options : Options) : Fenced (World.new options) := by
  constructor <;> simp [new, Runs]

namespace Fenced

variable {w w' : World} {k : Nat} {call : Call}

lemma frame (h : Fenced w) (hca : w'.calls = w.calls) (hlog : w'.log = w.log)
    (hstat : w'.c.status = w.c.status) (hep : w'.c.epoch = w.c.epoch)
    (hon : w'.c.owner = w.c.owner) (hnex : w'.c.nextID = w.c.nextID)
    (hba : w'.c.backend = w.c.backend) : Fenced w' := by
  constructor <;> simp only [Runs, hca, hlog, hstat, hep, hon, hnex, hba]
  exacts [h.epoch_le, h.fresh, h.stale, h.unique, h.unrecorded, h.doubt, h.current, h.handles,
    h.logged]

lemma not_runs (h : Fenced w) (hee : w.c.status.needsReconciliation = false)
    (hbz : w.c.status.busy = false) : ¬ w.Runs k call := by
  intro hru
  by_cases hep : call.epoch = w.c.epoch
  · simp [(h.fresh k call hru hep).1] at hbz
  · simp [h.stale k call hru hep] at hee

lemma stale_iff (h : Fenced w) (hru : w.Runs k call) :
    w.c.stale call.epoch call.owner = true ↔ call.epoch ≠ w.c.epoch := by
  by_cases hep : call.epoch = w.c.epoch
  · have hon := (h.fresh k call hru hep).2.2
    simp [Controller.stale, hep, hon]
  · simp [Controller.stale, hep, Ne.symm hep]

end Fenced

variable {j : Nat} {other : Call}

/-- After a step of call `k`, another call is what it was. -/
lemma runs_set {w w' : World} {k : Nat} {call call' : Call}
    (hcl : w.calls[k]? = some call) (hca : w'.calls = w.calls.set k call') (h : w'.Runs j other) :
    j = k ∧ other = call' ∧ call'.inProgress = true ∨ j ≠ k ∧ w.Runs j other := by
  obtain ⟨hother, hpr⟩ := h
  have hlt := lt_length hcl
  rw [hca, getElem?_set] at hother
  split_ifs at hother with hjk
  · cases hother
    exact .inl ⟨hjk.symm, rfl, hpr⟩
  · exact .inr ⟨Ne.symm hjk, hother, hpr⟩

/-- The record of call `k` is replaced. -/
lemma getElem?_calls_set {w w' : World} {k : Nat} {call call' : Call}
    (hcl : w.calls[k]? = some call) (hca : w'.calls = w.calls.set k call')
    (h : w'.calls[j]? = some other) : j = k ∧ other = call' ∨ j ≠ k ∧ w.calls[j]? = some other := by
  have hlt := lt_length hcl
  rw [hca, getElem?_set] at h
  split_ifs at h with hjk
  · exact .inl ⟨hjk.symm, (some.inj h).symm⟩
  · exact .inr ⟨Ne.symm hjk, h⟩

lemma getElem?_calls_append {calls : List Call} {call : Call}
    (h : (calls ++ [call])[j]? = some other) : other = call ∨ calls[j]? = some other := by
  rw [getElem?_append] at h
  split_ifs at h
  · exact .inr h
  · exact .inl (mem_singleton.mp (mem_of_getElem? h))

namespace Fenced

variable {w w' : World} {k : Nat} {call call' : Call}

section

variable (h : Fenced w)

include h

lemma logged_set (hcl : w.calls[k]? = some call)
    (hca : w'.calls = w.calls.set k call') (hph : call'.phase ≠ .entering)
    (hlog : ∀ e ∈ w'.log, e ∈ w.log ∨ e.1 = k) :
    ∀ e ∈ w'.log, ∃ call : Call, w'.calls[e.1]? = some call ∧ call.phase ≠ .entering := by
  intro e he
  have hlt := lt_length hcl
  by_cases hek : e.1 = k
  · exact ⟨call', by simp [hca, hek, hlt], hph⟩
  · obtain ⟨other, hother, hph'⟩ := h.logged e ((hlog e he).resolve_right hek)
    exact ⟨other, by rw [hca, getElem?_set_ne (Ne.symm hek), hother], hph'⟩

lemma handles_set (hcl : w.calls[k]? = some call)
    (hca : w'.calls = w.calls.set k call') (hle : w.c.nextID ≤ w'.c.nextID)
    (hha : ∀ x ∈ call'.handle, 0 < x ∧ x ≤ w'.c.nextID) :
    ∀ (j : Nat) (other : Call), w'.calls[j]? = some other →
      ∀ x ∈ other.handle, 0 < x ∧ x ≤ w'.c.nextID := by
  intro j other hother x hx
  rcases getElem?_calls_set hcl hca hother with ⟨-, rfl⟩ | ⟨-, hother⟩
  · exact hha x hx
  · exact ⟨(h.handles j other hother x hx).1, Nat.le_trans (h.handles j other hother x hx).2 hle⟩

lemma goesOn {ph : Phase} (hru : w.Runs k call)
    (hph : ({ call with phase := ph } : Call).inProgress = true) (hqu : Quiet w w')
    (hba : w'.c.backend = w.c.backend ∧
        (({ call with phase := ph } : Call).unrecorded = true → call.unrecorded = true) ∨
      w.c.stale call.epoch call.owner = false ∧
        ({ call with phase := ph } : Call).unrecorded = false)
    (hca : w'.calls = w.calls.set k { call with phase := ph })
    (hlog : ∀ e ∈ w'.log, e ∈ w.log ∨ e.1 = k) : Fenced w' := by
  obtain ⟨hstat, hep, hon, hnex⟩ := hqu
  -- the call is known by its epoch and owner, which stay
  have hback {j : Nat} {other : Call} (hother : w'.Runs j other) :
      ∃ old, w.Runs j old ∧ old.epoch = other.epoch ∧ old.owner = other.owner := by
    rcases runs_set hru.1 hca hother with ⟨rfl, rfl, -⟩ | ⟨-, hother⟩
    · exact ⟨call, hru, rfl, rfl⟩
    · exact ⟨other, hother, rfl, rfl⟩
  refine ⟨fun j other ho => ?_, fun j other ho he => ?_, fun j other ho he => ?_,
    fun i j a b ha hb => ?_, fun j other ho hun he => ?_, fun hee => ?_, ?_, ?_, ?_⟩
  · obtain ⟨old, hold, heq, -⟩ := hback ho
    rw [← heq, hep]
    exact h.epoch_le j old hold
  · obtain ⟨old, hold, heq, heq'⟩ := hback ho
    rw [hstat, hon, ← heq']
    exact h.fresh j old hold (by rw [heq, he, hep])
  · obtain ⟨old, hold, heq, -⟩ := hback ho
    rw [hstat]
    exact h.stale j old hold (by rwa [heq, ← hep])
  · obtain ⟨old, hold, -⟩ := hback ha
    obtain ⟨old', hold', -⟩ := hback hb
    exact h.unique i j old old' hold hold'
  · rcases runs_set hru.1 hca ho with ⟨rfl, rfl, -⟩ | ⟨hne, ho⟩
    · rcases hba with ⟨hba, hun'⟩ | ⟨-, hun'⟩
      · rw [hba]
        exact h.unrecorded j call hru (hun' hun) (by rw [← hep]; exact he)
      · simp [hun'] at hun
    · exact absurd (h.unique j k other call ho hru) hne
  · rw [hstat] at hee ⊢
    rcases hba with ⟨hba, -⟩ | ⟨hfr, -⟩
    · rw [hba]
      exact h.doubt hee
    · have := (h.fresh k call hru (Controller.epoch_of_fresh hfr).symm).2.1
      simp [this] at hee
  · rw [hstat, hnex]
    exact h.current
  · exact h.handles_set hru.1 hca (Nat.le_of_eq hnex.symm) (hnex ▸ h.handles k call hru.1)
  refine h.logged_set hru.1 hca (fun (heq : ph = .entering) => ?_) hlog
  subst heq
  simp [Call.inProgress] at hph

lemma returns {res : Option Result} {err : Option Error} (hru : w.Runs k call)
    (hca : w'.calls = w.calls.set k { call with phase := .returned res err })
    (hlog : w'.log = w.log) (hnex : w'.c.nextID = w.c.nextID)
    (hha : w'.c.status.handle = w.c.status.handle) (hdou : w'.c.status.needsReconciliation = true →
      w'.c.backend = none ∧ w'.c.status.busy = false) : Fenced w' := by
  have hnn {j : Nat} {other : Call} : ¬ w'.Runs j other := by
    intro hother
    rcases runs_set hru.1 hca hother with ⟨-, -, hpr⟩ | ⟨hne, hother⟩
    · simp [Call.inProgress] at hpr
    · exact hne (h.unique j k other call hother hru)
  refine ⟨fun _ _ ho => absurd ho hnn, fun _ _ ho => absurd ho hnn,
    fun _ _ ho => absurd ho hnn, fun _ _ _ _ ho => absurd ho hnn,
    fun _ _ ho => absurd ho hnn, hdou, ?_, ?_, ?_⟩
  · rw [hha, hnex]
    exact h.current
  · exact h.handles_set hru.1 hca (Nat.le_of_eq hnex.symm) (hnex ▸ h.handles k call hru.1)
  · exact h.logged_set hru.1 hca (by simp) fun e he => .inl (hlog ▸ he)

lemma refreshDeath : Fenced { w with c := w.c.refreshDeath w.done } := by
  obtain heq | ⟨hlp, -, hbz, -, receipt, heq⟩ := w.c.death_cases w.done
  · rw [heq]
    exact h
  rw [heq]
  refine ⟨h.epoch_le, fun j other ho he => ?_, fun _ _ _ _ => rfl, h.unique,
    fun _ _ _ _ _ => rfl, fun _ => ⟨rfl, hbz⟩, h.current, h.handles, h.logged⟩
  simp [(h.fresh j other ho he).1] at hbz

lemma turnedAway {res : Option Result} {err : Error} (hcl : w.calls[k]? = some call)
    (hc : w'.c = w.c ∨ w'.c = w.c.refreshDeath w.done)
    (hca : w'.calls = w.calls.set k { call with phase := .returned res (some err) })
    (hlog : w'.log = w.log) : Fenced w' := by
  have h₁ : Fenced { w with c := w'.c } := by
    rcases hc with hc | hc <;> rw [hc]
    · exact h
    · exact h.refreshDeath
  -- the call was not in progress, and is not now
  have hold {j : Nat} {other : Call} (ho : w'.Runs j other) :
    ({ w with c := w'.c }).Runs j other := by
    rcases runs_set hcl hca ho with ⟨-, -, hpr⟩ | ⟨-, ho⟩
    · simp [Call.inProgress] at hpr
    · exact ho
  refine ⟨fun _ _ ho => h₁.epoch_le _ _ (hold ho), fun _ _ ho => h₁.fresh _ _ (hold ho),
    fun _ _ ho => h₁.stale _ _ (hold ho),
    fun _ _ _ _ ha hb => h₁.unique _ _ _ _ (hold ha) (hold hb),
    fun _ _ ho => h₁.unrecorded _ _ (hold ho), h₁.doubt, h₁.current, ?_, ?_⟩
  · exact h₁.handles_set hcl hca (Nat.le_refl _) (h₁.handles k call hcl)
  · exact h.logged_set hcl hca (by simp) fun e he => .inl (hlog ▸ he)

lemma accepted (hcl : w.calls[k]? = some call)
    (hee : w.c.status.needsReconciliation = false) (hbz : w.c.status.busy = false)
    (hac : w.c.Accepted call.owner call.request c) : Fenced ({ w with c := c }.accept k call) := by
  have hc : c.status.busy = true ∧ c.status.needsReconciliation = false ∧ c.owner = call.owner ∧
      (call.request.op = .open → c.backend = none) ∧ c.status.handle = c.nextID ∧
      w.c.nextID ≤ c.nextID ∧ (call.request.op = .open → 0 < c.status.handle) := by
    cases hac with
    | «open» hop hba hon =>
      exact ⟨rfl, rfl, rfl, fun _ => hba, rfl, Nat.le_succ _, fun _ => Nat.succ_pos _⟩
    | other _ hop _ hon =>
      exact ⟨rfl, hee, hon, fun hop' => absurd hop' hop, h.current, Nat.le_refl _,
        fun hop' => absurd hop' hop⟩
  obtain ⟨hbz', hee', hon, hba, hcur, hnex, hpos⟩ := hc
  -- nothing was in progress
  have honly {j : Nat} {other : Call} (ho : ({ w with c := c }.accept k call).Runs j other) :
      j = k ∧ other.epoch = c.epoch ∧ other.owner = call.owner ∧
        (other.unrecorded = true → call.request.op = .open) := by
    rcases runs_set hcl rfl ho with ⟨rfl, rfl, -⟩ | ⟨-, ho⟩
    · refine ⟨rfl, rfl, rfl, fun hun => ?_⟩
      by_contra hop
      simp [Call.unrecorded, hop] at hun
    · exact absurd ho (h.not_runs hee hbz)
  refine ⟨fun _ _ ho => Nat.le_of_eq (honly ho).2.1, fun _ _ ho _ => ?_, fun _ _ ho he => ?_,
    fun _ _ _ _ ha hb => (honly ha).1.trans (honly hb).1.symm, fun _ _ ho hun _ => ?_,
    fun hn => ?_, hcur, ?_, ?_⟩
  · exact ⟨hbz', hee', hon.trans (honly ho).2.2.1.symm⟩
  · exact absurd (honly ho).2.1 he
  · exact hba ((honly ho).2.2.2 hun)
  · simp [accept, hee'] at hn
  · refine h.handles_set hcl rfl hnex fun x hx => ?_
    by_cases hop : call.request.op = .open
    · obtain rfl : c.status.handle = x := by simpa [hop] using hx
      exact ⟨hpos hop, Nat.le_of_eq hcur⟩
    · simp [hop] at hx
  refine h.logged_set hcl rfl ?_ fun e he => ?_
  · dsimp only
    split_ifs <;> simp
  · refine (mem_append.mp he).imp_right fun he => ?_
    split_ifs at he <;> simp_all

lemma moved (hcl : w.calls[k]? = some call) (hmov : Moved w k call w') : Fenced w' := by
  cases hmov with
  | turnedAway _ _ _ _ hc hca hlog => exact h.turnedAway hcl hc hca hlog
  | accepted _ _ _ hee hbz _ hac hw' =>
    exact hw' ▸ h.accepted hcl hee hbz hac
  | goesOn _ hpr hph hqu hba hca hlog =>
    exact h.goesOn ⟨hcl, hpr⟩ hph hqu hba hca hlog
  | overtaken hpr hqu _ hba hca hlog =>
    refine h.returns ⟨hcl, hpr⟩ hca hlog hqu.nextID (by rw [hqu.status]) ?_
    rw [hqu.status, hba]
    exact h.doubt
  | ended _ _ hpr hsa _ hnex hha _ hbz hba hca hlog =>
    refine h.returns ⟨hcl, hpr⟩ hca hlog hnex hha fun hdou => ⟨?_, hbz⟩
    rcases hba with hnn | ⟨hsm, hun | hsm'⟩
    · exact hnn
    · rw [hsm]
      exact h.unrecorded k call ⟨hcl, hpr⟩ hun hsa.symm
    · rw [hsm]
      exact (h.doubt (hsm' ▸ hdou)).1

lemma invalidate (ow why : String) : Fenced (w.invalidate ow why) := by
  unfold World.invalidate Controller.invalidate
  split_ifs
  · exact h.frame rfl rfl rfl rfl rfl rfl rfl
  obtain ⟨-, hke, -⟩ | ⟨-, takes, -, status, hee, hbz, hha, hke, -⟩ :=
    w.c.invalidate_cases why
  · refine h.frame rfl rfl ?_ ?_ ?_ ?_ ?_ <;> simp [abort, hke]
  -- whatever is in progress belongs to an epoch that is over
  simp only [hke]
  refine ⟨fun j other ho => Nat.le_succ_of_le (h.epoch_le j other ho), fun j other ho he => ?_,
    fun _ _ _ _ => hee, h.unique, fun _ _ _ _ _ => rfl, fun _ => ⟨rfl, hbz⟩,
    hha.trans h.current, h.handles, h.logged⟩
  have hle := h.epoch_le j other ho
  have he : other.epoch = w.c.epoch + 1 := he
  omega

lemma begins (owner : String) (request : Request) :
    Fenced { w with calls := w.calls ++ [{ owner, request }] } := by
  -- a call that only begins is not in progress
  have hold {j : Nat} {other : Call}
      (ho : ({ w with calls := w.calls ++ [{ owner, request }] } : World).Runs j other) :
      w.Runs j other := by
    obtain ⟨ho, hpr⟩ := ho
    rcases getElem?_calls_append ho with rfl | ho
    · simp [Call.inProgress] at hpr
    · exact ⟨ho, hpr⟩
  refine ⟨fun _ _ ho => h.epoch_le _ _ (hold ho), fun _ _ ho => h.fresh _ _ (hold ho),
    fun _ _ ho => h.stale _ _ (hold ho), fun _ _ _ _ ha hb => h.unique _ _ _ _ (hold ha) (hold hb),
    fun _ _ ho => h.unrecorded _ _ (hold ho), h.doubt, h.current, fun j other ho => ?_,
    fun e he => ?_⟩
  · rcases getElem?_calls_append ho with rfl | ho
    · simp
    · exact h.handles j other ho
  · obtain ⟨call, hcl, hph⟩ := h.logged e he
    exact ⟨call, getElem?_append_left (lt_length hcl) ▸ hcl, hph⟩

theorem step {e : Event} (hst : w.step e = some w') : Fenced w' := by
  cases stepped hst with
  | begins ow req => exact h.begins ow req
  | turned _ _ hcl htur => exact h.moved hcl htur.moved
  | invalidated ow why => exact h.invalidate ow why
  | observed => exact h.refreshDeath
  | shutdown => exact (h.invalidate "" "daemon_closed").frame rfl rfl rfl rfl rfl rfl rfl
  | _ => exact h.frame rfl rfl rfl rfl rfl rfl rfl

end

end Fenced

theorem fenced {options : Options} {es : List Event} {w : World}
    (hrn : run World.step (World.new options) es = some w) : Fenced w :=
  run_invariant (fun _ _ _ h => h.step) (fenced_new options) hrn

/-! ### Doubt -/

/-- The controller needs to be reconciled. -/
def World.InDoubt (w : World) : Prop := w.c.status.needsReconciliation = true

section

variable {w w' : World} {e : Event} {k : Nat} {call : Call}

lemma Controller.needs_refreshDeath (done : Nat → Bool) (h : c.status.needsReconciliation = true) :
    (c.refreshDeath done).status.needsReconciliation = true := by
  obtain heq | ⟨_, -, -, -, _, heq⟩ := c.death_cases done <;> rw [heq]
  exact h

lemma needs_invalidate (h : w.InDoubt) (ow why : String) : (w.invalidate ow why).InDoubt := by
  unfold World.InDoubt invalidate Controller.invalidate
  split_ifs
  · exact h
  obtain ⟨-, hke, -⟩ | ⟨-, takes, -, status, hee, -, -, hke, -⟩ :=
    w.c.invalidate_cases why
  · simpa [abort, hke, World.InDoubt] using h
  · simpa [abort, hke] using hee

lemma inDoubt_step (h : w.InDoubt) (hst : w.step e = some w') : w'.InDoubt := by
  cases stepped hst with
  | turned _ _ _ htur =>
    unfold World.InDoubt at h ⊢
    cases htur.moved with
    | turnedAway _ _ _ _ hc =>
      rcases hc with hc | hc <;> rw [hc]
      · exact h
      · exact Controller.needs_refreshDeath _ h
    | accepted _ _ _ hee => simp [hee] at h
    | goesOn _ _ _ hqu => rwa [hqu.status]
    | overtaken _ hqu => rwa [hqu.status]
    | ended _ _ _ _ _ _ _ hee => exact hee h
  | invalidated ow why => exact needs_invalidate h ow why
  | shutdown => exact needs_invalidate h "" "daemon_closed"
  | observed => exact Controller.needs_refreshDeath _ h
  | _ => exact h

lemma closed_invalidate (h : w.c.closed = true) (ow why : String) :
    (w.invalidate ow why).c.closed = true := by
  unfold invalidate Controller.invalidate
  split_ifs
  · exact h
  · obtain ⟨-, hke, -⟩ | ⟨-, takes, -, status, -, -, -, hke, -⟩ :=
      w.c.invalidate_cases why <;> simp [abort, hke, h]

lemma Controller.closed_refreshDeath (c : Controller) (done : Nat → Bool) :
    (c.refreshDeath done).closed = c.closed := by
  obtain heq | ⟨_, -, -, -, _, heq⟩ := c.death_cases done <;> rw [heq]

lemma closed_step (h : w.c.closed = true) (hst : w.step e = some w') : w'.c.closed = true := by
  cases stepped hst with
  | turned _ _ _ htur =>
    cases htur with
    | turnedAway c _ _ _ hc =>
      rcases hc with rfl | rfl
      · exact h
      · exact (w.c.closed_refreshDeath w.done).trans h
    | accepted _ _ hpn => simp [hpn] at h
    | failing _ why cerr =>
      exact (w.c.factoryFailed_keeps why cerr).1.closed.trans h
    | commit _ _ _ _ _ _ hke => exact hke.closed.trans h
    | _ => exact h
  | invalidated ow why => exact closed_invalidate h ow why
  | shutdown => exact closed_invalidate h "" "daemon_closed"
  | observed => exact (w.c.closed_refreshDeath w.done).trans h
  | _ => exact h

/-! ### Calls that come too late -/

/-- The call has not been accepted, and if it has returned, then with an error. -/
def World.Refuses (w : World) (k : Nat) : Prop :=
  ∀ call : Call, w.calls[k]? = some call → call.phase = .entering ∨
    ∃ result err, call.phase = .returned result (some err) ∧ ∀ r ∈ result, r.batch = none

/-- The controller accepts nothing any more, and has not accepted the call. -/
def World.Bars (w : World) (k : Nat) : Prop :=
  (w.InDoubt ∨ w.c.closed = true) ∧ w.Refuses k ∧ ∀ effect, (k, effect) ∉ w.log

lemma Stepped.calls_log (h : Stepped w e w') :
    (∃ owner request, w' = { w with calls := w.calls ++ [{ owner, request }] }) ∨
      (∃ k call, w.calls[k]? = some call ∧ Moved w k call w' ∧ ∃ turn, e = .call k turn) ∨
      w'.calls = w.calls ∧ w'.log = w.log := by
  cases h with
  | begins owner request => exact .inl ⟨owner, request, rfl⟩
  | turned k call hcl htur => exact .inr (.inl ⟨k, call, hcl, htur.moved, _, rfl⟩)
  | _ => exact .inr (.inr ⟨rfl, rfl⟩)

lemma Moved.others (h : Moved w j call w') (hne : k ≠ j) :
    w'.calls[k]? = w.calls[k]? ∧ ∀ eff, (k, eff) ∈ w'.log → (k, eff) ∈ w.log := by
  have hset {call' : Call} (hca : w'.calls = w.calls.set j call') : w'.calls[k]? = w.calls[k]? := by
    rw [hca, getElem?_set_ne (Ne.symm hne)]
  cases h with
  | turnedAway _ _ _ _ _ hca hlog => exact ⟨hset hca, by simp [hlog]⟩
  | accepted _ _ _ _ _ _ _ hw' =>
    subst hw'
    refine ⟨hset rfl, fun eff he => ?_⟩
    rcases mem_append.mp he with he | he
    · exact he
    · split_ifs at he <;> simp_all
  | goesOn _ _ _ _ _ hca hlog =>
    exact ⟨hset hca, fun eff he => (hlog _ he).resolve_right hne⟩
  | overtaken _ _ _ _ hca hlog => exact ⟨hset hca, by simp [hlog]⟩
  | ended _ _ _ _ _ _ _ _ _ _ hca hlog =>
    exact ⟨hset hca, by simp [hlog]⟩

lemma bars_step (h : w.Bars k) (hst : w.step e = some w') : w'.Bars k := by
  obtain ⟨hee, h, hlog⟩ := h
  refine ⟨hee.imp (inDoubt_step · hst) (closed_step · hst), ?_⟩
  rcases (stepped hst).calls_log with ⟨owner, request, rfl⟩ | ⟨j, call, hcl, hmov, -⟩ | ⟨hca, hlog'⟩
  · refine ⟨fun call hcl => ?_, hlog⟩
    rcases getElem?_calls_append hcl with rfl | hcl
    · exact .inl rfl
    · exact h call hcl
  · by_cases hjk : k = j
    · subst hjk
      have hno : call.inProgress = false := by
        rcases h call hcl with hph | ⟨_, _, hph, -⟩ <;> simp [Call.inProgress, hph]
      cases hmov with
      | turnedAway result err _ hbat _ hca hlog' =>
        refine ⟨fun call' hcl' => ?_, hlog' ▸ hlog⟩
        rcases getElem?_calls_set hcl hca hcl' with ⟨-, rfl⟩ | ⟨hne, -⟩
        · exact .inr ⟨result, err, rfl, hbat⟩
        · exact absurd rfl hne
      | accepted _ _ hpn hee' => simp [World.InDoubt, hee', hpn] at hee
      | goesOn _ hpr => simp [hno] at hpr
      | overtaken hpr => simp [hno] at hpr
      | ended _ _ hpr => simp [hno] at hpr
    · obtain ⟨hca, hlog'⟩ := hmov.others hjk
      exact ⟨fun call hcl => h call (hca ▸ hcl), fun effect he => hlog effect (hlog' effect he)⟩
  · exact ⟨fun call hcl => h call (hca ▸ hcl), hlog' ▸ hlog⟩

/-! ### Operations that are overtaken -/

def World.Overtook (w : World) (k : Nat) : Prop :=
  ∃ call : Call, w.calls[k]? = some call ∧
    (call.inProgress = true ∧ call.epoch < w.c.epoch ∨ call.phase = .overtaken)

/-- The event invalidates whatever is in progress. -/
def Event.Overtakes (w : World) : Event → Prop
  | .invalidate owner _ => owner = "" ∨ owner = w.c.owner
  | .shutdown => True
  | _ => False

lemma overtook_invalidate (h : Fenced w) (hru : w.Runs k call) {ow why : String}
    (hon : ow = "" ∨ ow = w.c.owner) : (w.invalidate ow why).Overtook k := by
  refine ⟨call, hru.1, .inl ⟨hru.2, ?_⟩⟩
  have hle := h.epoch_le k call hru
  have hmat : ¬ (ow ≠ "" ∧ ow ≠ w.c.owner) := by
    rintro ⟨hne, hne'⟩
    exact hon.elim hne hne'
  unfold invalidate Controller.invalidate
  rw [if_neg hmat]
  obtain ⟨hunu, hke, -⟩ | ⟨-, takes, -, status, hee, -, -, hke, -⟩ :=
    w.c.invalidate_cases why
  · -- nothing is open, so that the operation was overtaken before
    have hbz : w.c.status.busy = false := by
      simp only [Controller.unused, Bool.and_eq_true, Bool.not_eq_true'] at hunu
      exact hunu.2
    have hne : call.epoch ≠ w.c.epoch := fun heq => by
      simp [(h.fresh k call hru heq).1] at hbz
    simp only [hke, abort]
    omega
  · simp only [hke, abort]
    omega

lemma epoch_le_step (hst : w.step e = some w') : w.c.epoch ≤ w'.c.epoch := by
  have hinv (ow why : String) : w.c.epoch ≤ (w.invalidate ow why).c.epoch := by
    unfold invalidate Controller.invalidate
    split_ifs
    · exact Nat.le_refl _
    · obtain ⟨-, hke, -⟩ | ⟨-, takes, -, status, -, -, -, hke, -⟩ :=
        w.c.invalidate_cases why <;> simp [hke, abort]
  have href : w.c.epoch ≤ (w.c.refreshDeath w.done).epoch := by
    obtain heq | ⟨_, -, -, -, _, heq⟩ := w.c.death_cases w.done <;>
      exact Nat.le_of_eq (by rw [heq])
  cases stepped hst with
  | turned _ _ _ htur =>
    cases htur.moved with
    | turnedAway _ _ _ _ hc =>
      rcases hc with hc | hc
      · exact Nat.le_of_eq (congrArg Controller.epoch hc.symm)
      · exact Nat.le_trans href (Nat.le_of_eq (congrArg Controller.epoch hc.symm))
    | accepted _ _ _ _ _ _ hac hw' =>
      rw [hw']
      cases hac <;> exact Nat.le_succ _
    | goesOn _ _ _ hqu => exact Nat.le_of_eq hqu.epoch.symm
    | overtaken _ hqu => exact Nat.le_of_eq hqu.epoch.symm
    | ended _ _ _ _ hep => exact Nat.le_of_eq hep.symm
  | invalidated ow why => exact hinv ow why
  | shutdown => exact hinv "" "daemon_closed"
  | observed => exact href
  | _ => exact Nat.le_refl _

lemma overtook_moved (hcl : w.calls[k]? = some call)
    (h : call.inProgress = true ∧ call.epoch < w.c.epoch ∨ call.phase = .overtaken)
    (hmov : Moved w k call w') : w'.Overtook k ∧ w'.c.status = w.c.status := by
  have hlt := lt_length hcl
  have hret : call.phase = .overtaken → call.inProgress = false := by
    intro hph
    simp [Call.inProgress, hph, Phase.overtaken]
  have hen : call.phase ≠ .entering := by
    rintro hph
    rcases h with ⟨hpr, -⟩ | h
    · simp [Call.inProgress, hph] at hpr
    · simp [hph, Phase.overtaken] at h
  cases hmov with
  | turnedAway _ _ hph => exact absurd hph hen
  | accepted _ hph => exact absurd hph hen
  | goesOn ph hpr hph hqu _ hca =>
    obtain ⟨-, hep⟩ := h.resolve_right fun hph' => by simp [hret hph'] at hpr
    refine ⟨⟨{ call with phase := ph }, by simp [hca, hlt], .inl ⟨hph, ?_⟩⟩, hqu.status⟩
    rw [hqu.epoch]
    exact hep
  | overtaken _ hqu _ _ hca =>
    exact ⟨⟨{ call with phase := .overtaken }, by simp [hca, hlt], .inr rfl⟩, hqu.status⟩
  | ended _ _ hpr =>
    obtain ⟨-, hep⟩ := h.resolve_right fun hph' => by simp [hret hph'] at hpr
    omega

lemma overtook_step (h : w.Overtook k) (hst : w.step e = some w') : w'.Overtook k := by
  obtain ⟨call, hcl, h⟩ := h
  have hle := epoch_le_step hst
  have hkeep (hcl' : w'.calls[k]? = some call) : w'.Overtook k :=
    ⟨call, hcl', h.imp_left fun h => ⟨h.1, Nat.lt_of_lt_of_le h.2 hle⟩⟩
  rcases (stepped hst).calls_log with ⟨owner, request, rfl⟩ | ⟨j, call', hcl', hmov, -⟩ | ⟨hca, -⟩
  · exact hkeep (getElem?_append_left (lt_length hcl) ▸ hcl)
  · by_cases hjk : k = j
    · subst hjk
      cases hcl.symm.trans hcl'
      exact (overtook_moved hcl h hmov).1
    · exact hkeep ((hmov.others hjk).1.trans hcl)
  · exact hkeep (hca ▸ hcl)

/-! ### Handles -/

lemma handle_increases (h : Fenced w) (hcl : w.calls[k]? = some call)
    (hph : call.phase = .entering) (hmov : Moved w k call w') {call' : Call} {x : Nat}
    (hcl' : w'.calls[k]? = some call') (hx : call'.handle = some x) (hnew : call.handle ≠ some x)
    {y : Nat} (hother : w.calls[j]? = some other) (hy : other.handle = some y) : y < x := by
  have hle := (h.handles j other hother y hy).2
  have hno : call.inProgress = false := by simp [Call.inProgress, hph]
  cases hmov with
  | turnedAway _ _ _ _ _ hca =>
    rcases getElem?_calls_set hcl hca hcl' with ⟨-, rfl⟩ | ⟨hne, -⟩
    · exact absurd hx hnew
    · exact absurd rfl hne
  | accepted c _ _ _ _ _ hac hw' =>
    subst hw'
    rcases getElem?_calls_set hcl rfl hcl' with ⟨-, rfl⟩ | ⟨hne, -⟩
    · cases hac with
      | «open» hop hba hon =>
        obtain rfl : w.c.nextID + 1 = x := by
          simpa [hop, Controller.beginOperation, Controller.beginOpen] using hx
        omega
      | other _ hop => simp [hop] at hx
    · exact absurd rfl hne
  | goesOn _ hpr => simp [hno] at hpr
  | overtaken hpr => simp [hno] at hpr
  | ended _ _ hpr => simp [hno] at hpr

lemma old_handle_refused (h : Fenced w) (hcl : w.calls[k]? = some call)
    (hph : call.phase = .entering) (hmov : Moved w k call w') {i x y : Nat} {a b : Call}
    (ha : w.calls[i]? = some a) (hx : a.handle = some x) (hb : w.calls[j]? = some b)
    (hy : b.handle = some y) (hxy : x < y) (hha : call.request.handle = x) : w'.Refuses k := by
  have hpos := (h.handles i a ha x hx).1
  have hle := (h.handles j b hb y hy).2
  have hno : call.inProgress = false := by simp [Call.inProgress, hph]
  cases hmov with
  | turnedAway res err _ hbat _ hca =>
    intro call' hcl'
    rcases getElem?_calls_set hcl hca hcl' with ⟨-, rfl⟩ | ⟨hne, -⟩
    · exact .inr ⟨res, err, rfl, hbat⟩
    · exact absurd rfl hne
  | accepted _ _ _ _ _ hre hac =>
    cases hac with
    | «open» hop hba hon =>
      have : call.request.handle ≠ 0 := by omega
      simp [validateRequest, hop, this] at hre
    | other =>
      have := h.current
      omega
  | goesOn _ hpr => simp [hno] at hpr
  | overtaken hpr => simp [hno] at hpr
  | ended _ _ hpr => simp [hno] at hpr

end

/-- A controller in doubt stays in doubt and turns every later operation away before it has called
anything; an operation that is overtaken changes no status and returns neither a success nor a
batch; at most one operation is in progress; and handles increase, so that the handle of an earlier
open operation is refused. -/
theorem operations_fenced {options : Options} {events : List Event} {w : World}
    (hrn : run World.step (World.new options) events = some w) :
    (w.InDoubt → ∀ later w', run World.step w later = some w' → w'.InDoubt) ∧
    (∀ k, w.InDoubt → (∀ call : Call, w.calls[k]? = some call → call.phase = .entering) →
      ∀ later w', run World.step w later = some w' →
        w'.Refuses k ∧ ∀ effect, (k, effect) ∉ w'.log) ∧
    (∀ k call e w₁, w.Runs k call → e.Overtakes w → w.step e = some w₁ →
      ∀ later w₂, run World.step w₁ later = some w₂ → (∀ call' : Call, w₂.calls[k]? = some call' →
          call'.inProgress = true ∨ call'.phase = .overtaken) ∧
        ∀ turn w₃, w₂.step (.call k turn) = some w₃ → w₃.c.status = w₂.c.status) ∧
    (∀ j k call call', w.Runs j call → w.Runs k call' → j = k) ∧
    (∀ k turn w' call call' x, w.calls[k]? = some call → call.phase = .entering →
      w.step (.call k turn) = some w' → w'.calls[k]? = some call' → call'.handle = some x →
        call.handle ≠ some x → ∀ (j : Nat) (other : Call), w.calls[j]? = some other →
          ∀ y, other.handle = some y → y < x) ∧
    ∀ k turn w' call x y, w.calls[k]? = some call → call.phase = .entering →
      w.step (.call k turn) = some w' →
      ∀ (i j : Nat) (a b : Call), w.calls[i]? = some a → a.handle = some x →
        w.calls[j]? = some b → b.handle = some y → x < y → call.request.handle = x →
          w'.Refuses k := by
  have h := fenced hrn
  -- a step of a call is a move of it
  have hmove {w w' : World} {k : Nat} {turn : Turn} {call : Call}
      (hst : w.step (.call k turn) = some w') (hcl : w.calls[k]? = some call) :
      Moved w k call w' := by
    cases stepped hst with
    | turned _ _ hcl' htur =>
      exact some.inj (hcl.symm.trans hcl') ▸ htur.moved
  refine ⟨fun hdou later w' hrn' => ?_, fun k hdou hen later w' hrn' => ?_,
    fun k call e w₁ hru hove hst later w₂ hrn' => ?_, h.unique,
    fun k turn w' call call' x hcl hph hst hcl' hx hnew j other hother y hy => ?_,
    fun k turn w' call x y hcl hph hst i j a b ha hx hb hy hxy hha => ?_⟩
  · exact run_invariant (fun _ _ _ h => inDoubt_step h) hdou hrn'
  · have hlog : ∀ effect, (k, effect) ∉ w.log := by
      intro effect he
      obtain ⟨call, hcl, hph⟩ := h.logged _ he
      exact hph (hen call hcl)
    have hst (u : World) (e : Event) (v : World) : u.Bars k → u.step e = some v → v.Bars k :=
      bars_step
    exact (run_invariant hst ⟨.inl hdou, fun call hcl => .inl (hen call hcl), hlog⟩ hrn').2
  · have hover : w₁.Overtook k := by
      cases e with
      | invalidate =>
        exact some.inj hst ▸ overtook_invalidate h hru hove
      | shutdown => exact some.inj hst ▸ overtook_invalidate h hru (.inl rfl)
      | _ => exact hove.elim
    have hst (u : World) (e : Event) (v : World) :
        u.Overtook k → u.step e = some v → v.Overtook k := overtook_step
    obtain ⟨call', hcl', hstate⟩ := run_invariant hst hover hrn'
    refine ⟨fun other hother => ?_, fun turn w₃ hst' => ?_⟩
    · cases hcl'.symm.trans hother
      exact hstate.imp_left And.left
    · exact (overtook_moved hcl' hstate (hmove hst' hcl')).2
  · exact handle_increases h hcl hph (hmove hst hcl) hcl' hx hnew hother hy
  · exact old_handle_refused h hcl hph (hmove hst hcl) ha hx hb hy hxy hha

/-- A request that is valid for every version. -/
def liveRequest : Request where
  op := .open
  openRequest :=
    { source := { kind := .live, sessionID := 7, sourceID := "core" }
      acknowledgeUnverifiedSource := true }

def sampleOptions : Options where
  profile := ⟨"8.1.4", TimeMachine.baseABI 64 64, false, true, true⟩

/-- An open operation is overtaken while the helper executes it, and another one comes too late. -/
def overtakenOpen : List Event :=
  [.execute "front" liveRequest, .call 0 (.enter none), .call 0 (.acquired true false),
    .call 0 (.locked false), .call 0 (.locked false), .call 0 .spawn, .call 0 (.built false),
    .call 0 (.locked false), .call 0 (.locked false), .invalidate "front" "control_released",
    .execute "front" liveRequest]

theorem operations_fenced_overtaken :
    ∃ w, run World.step (World.new sampleOptions) overtakenOpen = some w ∧ w.InDoubt ∧
      (w.calls.map Call.inProgress = [true, false]) ∧ ∀ later w', run World.step w later = some w' →
        w'.Refuses 1 ∧ ∀ effect, (1, effect) ∉ w'.log := by
  obtain ⟨w, hrn, hee, hca, hph⟩ : ∃ w,
      run World.step (new sampleOptions) overtakenOpen = some w ∧
        w.c.status.needsReconciliation = true ∧ w.calls.map Call.inProgress = [true, false] ∧
        (w.calls[1]?.all fun call => call.phase.ctorIdx == 0) = true :=
    exists_run (by decide +kernel)
  refine ⟨w, hrn, hee, hca, (operations_fenced hrn).2.1 1 hee fun call hcl => ?_⟩
  rw [hcl, all_some] at hph
  cases h : call.phase with
  | entering => rfl
  | _ => simp [h, Phase.ctorIdx] at hph

/-- What a snapshot reports is right: an operation of this epoch keeps the controller busy for its
owner; in doubt it is idle and has let go of its helper; else, when idle, it runs nothing. -/
theorem status_right {options : Options} {events : List Event} {w : World}
    (hrn : run World.step (World.new options) events = some w) :
    (∀ k call, w.Runs k call → call.epoch = w.c.epoch →
      w.c.status.busy = true ∧ w.c.owner = call.owner) ∧
    (w.InDoubt → w.c.backend = none ∧ w.c.status.busy = false) ∧
    (w.c.status.needsReconciliation = false → w.c.status.busy = false →
      ∀ k call, ¬w.Runs k call) := by
  have h := fenced hrn
  exact ⟨fun k call hru hep => (h.fresh k call hru hep).imp_right And.right, h.doubt,
    fun hno hidle k call => h.not_runs hno hidle⟩

theorem status_right_overtaken :
    ∃ w, run World.step (World.new sampleOptions) overtakenOpen = some w ∧
      w.c.status.busy = false := by
  obtain ⟨w, hrn, hdoubt⟩ : ∃ w, run World.step (new sampleOptions) overtakenOpen = some w ∧
      w.c.status.needsReconciliation = true := exists_run (by decide +kernel)
  exact ⟨w, hrn, ((status_right hrn).2.1 hdoubt).2⟩

end MultiDap.Trace
