import MultiDap.Trace.World

/-!
# What a step can do

One inversion lemma for the steps of a call, in which each section of `Execute` is a case with the
state it leaves behind. What the functions of the controller can do to its state is said beside it.
-/

namespace MultiDap.Trace

open TimeMachine Option Bool World

namespace Controller

variable {done : Nat → Bool} {c c' : Controller} {owner : String} {req : Request}

lemma death_cases (done : Nat → Bool) (c : Controller) : c.refreshDeath done = c ∨
      ∃ hlp, c.backend = some hlp ∧ c.status.busy = false ∧ done hlp = true ∧
        ∃ receipt, c.refreshDeath done = { c with
          retired := some hlp, backend := none
          status := { c.status with
            state := .faulted, needsReconciliation := true, lastReceipt := receipt } } := by
  unfold refreshDeath
  split
  · exact .inl rfl
  case h_2 hlp hba =>
    split_ifs with hbz hdn
    · exact .inl rfl
    · exact .inr ⟨hlp, hba, eq_false_iff.mpr hbz, hdn, _, rfl⟩
    · exact .inl rfl

/-- The request was accepted, and the state is the one after the first section. -/
inductive Accepted (c : Controller) (owner : String) (request : Request) : Controller → Prop where
  | open (hop : request.op = .open) (hba : c.backend = none) (hon : c.owner = "") :
      Accepted c owner request (c.beginOpen owner request.openRequest.source).beginOperation
  | other (helper : Nat) (hop : request.op ≠ .open) (hba : c.backend = some helper)
      (hon : c.owner = owner) (hha : request.handle = c.status.handle) :
      Accepted c owner request c.beginOperation

lemma admission_accepted (h : c.admission done owner req = (c', .accepted)) :
    c.closed = false ∧ c.status.needsReconciliation = false ∧ c.status.busy = false ∧
      Accepted c owner req c' := by
  unfold admission at h
  dsimp only at h
  split_ifs at h with hclos hne hbz hop hpn hon hha
  all_goals first
    | (cases h; done)
    | skip
  all_goals
    obtain heq | ⟨hlp, -, -, -, receipt, heq⟩ := death_cases done c
    swap
    · simp [heq] at hne
    rw [heq] at hne hbz h
    simp only [not_eq_true] at hclos hne hbz
    refine ⟨hclos, hne, hbz, ?_⟩
  · rw [heq] at hpn
    push Not at hpn
    obtain rfl := (Prod.mk.inj h).1
    exact .open hop (by simpa using hpn.1) hpn.2.1
  rw [heq] at hon hha
  push Not at hha hon
  obtain ⟨hlp, hhel⟩ := ne_none_iff_exists'.mp (by simpa using hha.1)
  obtain rfl := (Prod.mk.inj h).1
  exact .other hlp hop hhel hon hha.2.1

lemma admission_rejected {res : Option Result} {err : Error}
    (h : c.admission done owner req = (c', .rejected res err)) :
    (c' = c ∨ c' = c.refreshDeath done) ∧ ∀ r ∈ res, r.batch = none := by
  unfold admission at h
  dsimp only at h
  split_ifs at h
  all_goals
    obtain ⟨rfl, hr⟩ := Prod.mk.inj h
    first
    | (cases hr; done)
    | (obtain ⟨rfl, -⟩ := Admission.rejected.inj hr; simp)

/-- What no section after the first one changes. -/
structure Keeps (c c' : Controller) : Prop where
  options : c'.options = c.options
  epoch : c'.epoch = c.epoch
  nextID : c'.nextID = c.nextID
  handle : c'.status.handle = c.status.handle
  factoryActive : c'.factoryActive = c.factoryActive
  closed : c'.closed = c.closed
  helpers : c'.helpers = c.helpers
  shutdownDone : c'.shutdownDone = c.shutdownDone
  needs : c.status.needsReconciliation = true → c'.status.needsReconciliation = true

/-- The controller holds the same helper and the same lease for the same owner, in no more doubt. -/
structure Holds (c c' : Controller) : Prop where
  backend : c'.backend = c.backend
  lease : c'.lease = c.lease
  retired : c'.retired = c.retired
  owner : c'.owner = c.owner
  needs : c'.status.needsReconciliation = c.status.needsReconciliation

lemma observe_keeps {status : HelperStatus} (h : c.observe status = .ok c') :
    Keeps c c' ∧ Holds c c' ∧ c'.status.busy = c.status.busy := by
  unfold observe at h
  iterate 4
    split at h
    · cases h
  cases h
  exact ⟨⟨rfl, rfl, rfl, rfl, rfl, rfl, rfl, rfl, id⟩, ⟨rfl, rfl, rfl, rfl, rfl⟩, rfl⟩

/-- The ways in which an operation can end in its own epoch. -/
inductive Ends (c : Controller) (op : Operation) (helper : Nat) (err : Option Error)
    (r : Committed) : Prop where
  /-- The helper stays. -/
  | stays (hhol : Holds c r.controller) (habo : r.abort = false) (hrel : r.release = none)
      (hco : r.closes = none)
  /-- An open operation is taken back. -/
  | takenBack (hop : op = .open) (hba : r.controller.backend = none)
      (hle : r.controller.lease = none) (hret : r.controller.retired = c.retired)
      (habo : r.abort = true) (hrel : r.release = c.lease) (hco : r.closes = none)
  /-- The helper is given up, and its lease is kept. -/
  | givenUp (hba : r.controller.backend = none) (hle : r.controller.lease = c.lease)
      (hret : r.controller.retired = some helper)
      (hne : r.controller.status.needsReconciliation = true)
      (habo : r.abort = true) (hrel : r.release = none) (hco : r.closes = none)
  /-- The helper was closed, and so is its lease. -/
  | closed (hop : op = .close) (hrr : err = none) (hba : r.controller.backend = none)
      (hret : r.controller.retired = c.retired)
      (hle : r.controller.lease = none ∨
        r.controller.lease = c.lease ∧ r.controller.status.needsReconciliation = true)
      (habo : r.abort = false) (hrel : r.release = none) (hco : r.closes = c.lease)

lemma commitSucceeded_ends (c : Controller) (op : Operation) (hlp : Nat)
    (out : OperationResult) (cerr : Bool) : Keeps c (c.commitSucceeded op out cerr).controller ∧
      (c.commitSucceeded op out cerr).controller.status.busy = c.status.busy ∧
      Ends c op hlp none (c.commitSucceeded op out cerr) := by
  unfold commitSucceeded
  cases op with
  | close =>
    dsimp only [commitClosed]
    split_ifs
    · exact ⟨⟨rfl, rfl, rfl, rfl, rfl, rfl, rfl, rfl, fun _ => rfl⟩, rfl,
        .closed rfl rfl rfl rfl (.inr ⟨rfl, rfl⟩) rfl rfl rfl⟩
    · exact ⟨⟨rfl, rfl, rfl, rfl, rfl, rfl, rfl, rfl, id⟩, rfl,
        .closed rfl rfl rfl rfl (.inl rfl) rfl rfl rfl⟩
  | start | stop =>
    dsimp only
    split <;> exact ⟨⟨rfl, rfl, rfl, rfl, rfl, rfl, rfl, rfl, id⟩, rfl,
      .stays ⟨rfl, rfl, rfl, rfl, rfl⟩ rfl rfl rfl⟩
  | _ => exact ⟨⟨rfl, rfl, rfl, rfl, rfl, rfl, rfl, rfl, id⟩, rfl,
      .stays ⟨rfl, rfl, rfl, rfl, rfl⟩ rfl rfl rfl⟩

lemma Keeps.trans {c₁ c₂ c₃ : Controller} (h : Keeps c₁ c₂) (h' : Keeps c₂ c₃) : Keeps c₁ c₃ where
  options := h'.options.trans h.options
  epoch := h'.epoch.trans h.epoch
  nextID := h'.nextID.trans h.nextID
  handle := h'.handle.trans h.handle
  factoryActive := h'.factoryActive.trans h.factoryActive
  closed := h'.closed.trans h.closed
  helpers := h'.helpers.trans h.helpers
  shutdownDone := h'.shutdownDone.trans h.shutdownDone
  needs := h'.needs ∘ h.needs

lemma Ends.of_holds {c₁ : Controller} {op : Operation} {hlp : Nat} {err err₁ : Option Error}
    {r : Committed} (hhol : Holds c c₁) (hrr : err₁ = none → err = none)
    (h : Ends c₁ op hlp err₁ r) : Ends c op hlp err r := by
  obtain ⟨hba, hle, hret, hon, hne⟩ := hhol
  cases h with
  | stays hh habo hrel hco =>
    exact .stays ⟨hh.backend.trans hba, hh.lease.trans hle, hh.retired.trans hret,
      hh.owner.trans hon, hh.needs.trans hne⟩ habo hrel hco
  | takenBack hop hb hl hr habo hrel hco =>
    exact .takenBack hop hb hl (hr.trans hret) habo (hrel.trans hle) hco
  | givenUp hb hl hr hn habo hrel hco =>
    exact .givenUp hb (hl.trans hle) hr hn habo hrel hco
  | closed hop he hb hr hl habo hrel hco =>
    exact .closed hop (hrr he) hb (hr.trans hret) (hle ▸ hl) habo hrel (hco.trans hle)

lemma commitCancelled_ends (c : Controller) (op : Operation) (hlp : Nat) (err : Option Error)
    (ended : Sentinel) : Keeps c (c.commitCancelled op ended).controller ∧
      (c.commitCancelled op ended).controller.status.busy = c.status.busy ∧
      Ends c op hlp err (c.commitCancelled op ended) := by
  by_cases hop : op = .open
  · subst hop
    exact ⟨⟨rfl, rfl, rfl, rfl, rfl, rfl, rfl, rfl, id⟩, rfl,
      .takenBack rfl rfl rfl rfl rfl rfl rfl⟩
  simp only [commitCancelled, hop, if_false, decide_false]
  exact ⟨⟨rfl, rfl, rfl, rfl, rfl, rfl, rfl, rfl, id⟩, rfl,
    .stays ⟨rfl, rfl, rfl, rfl, rfl⟩ rfl rfl rfl⟩

lemma commitFailed_ends (c : Controller) (op : Operation) (hlp : Nat) (err : Option Error) :
    Keeps c (c.commitFailed op hlp).controller ∧
      (c.commitFailed op hlp).controller.status.busy = c.status.busy ∧
      Ends c op hlp err (c.commitFailed op hlp) :=
  ⟨⟨rfl, rfl, rfl, rfl, rfl, rfl, rfl, rfl, fun _ => rfl⟩, rfl,
    .givenUp rfl rfl rfl rfl rfl rfl rfl⟩

lemma commit_ends (c : Controller) (op : Operation) (hlp : Nat) (out : OperationResult)
    (err : Option Error) (ended : Option Sentinel) (poisoned cerr : Bool) :
    Keeps c (c.commit op hlp out err ended poisoned cerr).controller ∧
      (c.commit op hlp out err ended poisoned cerr).controller.status.busy = false ∧
      Ends c op hlp err (c.commit op hlp out err ended poisoned cerr) := by
  unfold commit
  generalize hob : ({ c with
    status := { c.status with busy := false } } : Controller).observed out err = observed
  obtain ⟨c₁, err₁⟩ := observed
  -- the state in which the outcome is judged
  have h₁ : Keeps c c₁ ∧ Holds c c₁ ∧ c₁.status.busy = false ∧ (err₁ = none → err = none) := by
    unfold observed at hob
    split at hob
    · obtain ⟨rfl, rfl⟩ := Prod.mk.inj hob
      exact ⟨⟨rfl, rfl, rfl, rfl, rfl, rfl, rfl, rfl, id⟩, ⟨rfl, rfl, rfl, rfl, rfl⟩, rfl, id⟩
    split at hob
    · obtain ⟨rfl, rfl⟩ := Prod.mk.inj hob
      exact ⟨⟨rfl, rfl, rfl, rfl, rfl, rfl, rfl, rfl, id⟩, ⟨rfl, rfl, rfl, rfl, rfl⟩, rfl, by simp⟩
    case h_2 c' hc' =>
      obtain ⟨rfl, rfl⟩ := Prod.mk.inj hob
      obtain ⟨hke, hhol, hbz⟩ := observe_keeps hc'
      exact ⟨⟨hke.options, hke.epoch, hke.nextID, hke.handle, hke.factoryActive,
        hke.closed, hke.helpers, hke.shutdownDone, hke.needs⟩,
        ⟨hhol.backend, hhol.lease, hhol.retired, hhol.owner, hhol.needs⟩, hbz, id⟩
  obtain ⟨hke, hhol, hbz, hrr⟩ := h₁
  have hlift {r : Committed} (h : Keeps c₁ r.controller ∧
      r.controller.status.busy = c₁.status.busy ∧ Ends c₁ op hlp err₁ r) :
      Keeps c r.controller ∧ r.controller.status.busy = false ∧ Ends c op hlp err r :=
    ⟨hke.trans h.1, h.2.1.trans hbz, h.2.2.of_holds hhol hrr⟩
  dsimp only
  split
  · split
    · exact hlift ⟨⟨rfl, rfl, rfl, rfl, rfl, rfl, rfl, rfl, id⟩, rfl,
        .stays ⟨rfl, rfl, rfl, rfl, rfl⟩ rfl rfl rfl⟩
    split
    · split
      · exact hlift (commitCancelled_ends c₁ op hlp _ _)
      · exact hlift (commitFailed_ends c₁ op hlp _)
    · exact hlift (commitFailed_ends c₁ op hlp _)
  · exact hlift (commitSucceeded_ends c₁ op hlp out cerr)

/-- `factoryFailed` gives the lease away, or keeps it and stays in doubt. -/
lemma factoryFailed_keeps (c : Controller) (why : String) (cerr : Bool) :
    Keeps c (c.factoryFailed why cerr).1 ∧ (c.factoryFailed why cerr).1.status.busy = false ∧
      (c.factoryFailed why cerr).1.backend = c.backend ∧
      (c.factoryFailed why cerr).1.retired = c.retired ∧
      ((c.factoryFailed why cerr).1.lease = none ∨ (c.factoryFailed why cerr).1.lease = c.lease ∧
          (c.factoryFailed why cerr).1.status.needsReconciliation = true) := by
  unfold factoryFailed
  split_ifs
  · exact ⟨⟨rfl, rfl, rfl, rfl, rfl, rfl, rfl, rfl, fun _ => rfl⟩, rfl, rfl, rfl, .inr ⟨rfl, rfl⟩⟩
  · exact ⟨⟨rfl, rfl, rfl, rfl, rfl, rfl, rfl, rfl, id⟩, rfl, rfl, rfl, .inl rfl⟩

/-- The controller has nothing to invalidate. -/
def unused (c : Controller) : Bool := c.backend.isNone && !c.status.busy

/-- The ways in which an invalidation can go, for an owner that matches. -/
inductive Invalidates (c : Controller) (closes : Bool) (r : Invalidated) : Prop where
  /-- Nothing is open; a daemon that is closed gives the lease away. -/
  | idle (hunu : c.unused = true) (hke : r.controller = { c with
        closed := c.closed || closes
        lease := if closes && !c.factoryActive then none else c.lease })
      (habo : r.abort = none)
      (hrel : r.release = if closes && !c.factoryActive then c.lease.map (·, c.retired) else none)
  /-- What is open, or about to be opened, is abandoned. -/
  | abandons (hunu : c.unused = false) (takes : Bool)
      (htak : takes = (!c.factoryActive && (closes || c.backend.isNone)))
      (status : Status) (hne : status.needsReconciliation = true) (hbz : status.busy = false)
      (hha : status.handle = c.status.handle)
      (hke : r.controller = { c with
        closed := c.closed || closes
        epoch := c.epoch + 1
        retired := c.backend <|> c.retired
        backend := none
        lease := if takes then none else c.lease
        status := status })
      (habo : r.abort = c.backend)
      (hrel : r.release = if takes then c.lease.map (·, c.backend) else none)

lemma invalidate_cases (c : Controller) (why : String) :
    Invalidates c (invalidReason why == "daemon_closed") (c.invalidateOwner why) := by
  unfold invalidateOwner
  dsimp only
  split
  case isTrue hunu =>
    have hunu : c.unused = true := by simpa [unused] using hunu
    split
    case isTrue hco => exact .idle hunu (by simp [hco]) rfl (by simp [hco])
    case isFalse hco => exact .idle hunu (by simp [hco]) rfl (by simp [hco])
  case isFalse hunu =>
    refine .abandons (by simpa [unused] using hunu) _ rfl _ ?_ ?_ ?_ rfl rfl rfl <;> rfl

end Controller

/-! ### The steps of a call -/

/-- The cases of a step of a call, by the phase in which it is taken. -/
inductive Turned (w : World) (k : Nat) (call : Call) : Turn → World → Prop where
  | turnedAway {ended : Option Sentinel} (c : Controller) (result : Option Result) (err : Error)
      (hph : call.phase = .entering) (hc : c = w.c ∨ c = w.c.refreshDeath w.done)
      (hbat : ∀ r ∈ result, r.batch = none) :
      Turned w k call (.enter ended) ({ w with c := c }.turnAway k call result err)
  | accepted {ended : Option Sentinel} (c : Controller) (hph : call.phase = .entering)
      (hpn : w.c.closed = false) (hne : w.c.status.needsReconciliation = false)
      (hbz : w.c.status.busy = false) (hre : validateRequest call.request = none)
      (hac : w.c.Accepted call.owner call.request c) :
      Turned w k call (.enter ended) ({ w with c := c }.accept k call)
  | acquired {lease failed : Bool} (hph : call.phase = .acquire) :
      Turned w k call (.acquired lease failed) ({ w with leases := w.leases ++ [false] }.put k
          { call with phase := .hold w.leases.length })
  | notAcquired (lease : Bool) {failed : Bool} (hph : call.phase = .acquire) :
      Turned w k call (.acquired lease failed)
        ({ w with leases := if lease then w.leases ++ [true] else w.leases }.put k
          { call with phase := .failing none "source_lease_unavailable" })
  | holdStale {closeErr : Bool} (lease : Nat) (hph : call.phase = .hold lease)
      (hst : w.c.stale call.epoch call.owner = true) :
      Turned w k call (.locked closeErr) ((w.closeLease (some lease)).leaveStale k call none)
  | hold {closeErr : Bool} (lease : Nat) (hph : call.phase = .hold lease)
      (hst : w.c.stale call.epoch call.owner = false) :
      Turned w k call (.locked closeErr)
        ({ w with c := { w.c with lease := some lease } }.put k { call with phase := .fence })
  | fenceStale {closeErr : Bool} (hph : call.phase = .fence)
      (hst : w.c.stale call.epoch call.owner = true) :
      Turned w k call (.locked closeErr) (w.leaveStale k call none)
  | fence {closeErr : Bool} (hph : call.phase = .fence)
      (hst : w.c.stale call.epoch call.owner = false) :
      Turned w k call (.locked closeErr)
        (({ w with c := { w.c with factoryActive := true } }.note k .factory).put k
          { call with phase := .factory w.c.lease none })
  | spawn (lease : Option Nat) (hph : call.phase = .factory lease none) : Turned w k call .spawn
        ({ w with helpers := w.helpers ++ [Helper.mk lease false false] }.put k
          { call with phase := .factory lease (some w.helpers.length) })
  | built (lease helper : Option Nat) (failed : Bool) (hph : call.phase = .factory lease helper) :
      Turned w k call (.built failed) (w.put k { call with phase := .built lease helper failed })
  | builtStale {closeErr : Bool} (lease helper : Option Nat) (failed : Bool)
      (hph : call.phase = .built lease helper failed)
      (hst : w.c.stale call.epoch call.owner = true) :
      Turned w k call (.locked closeErr)
        ((({ w with c := { w.c with factoryActive := false, lease := none } }.abort
          helper).releaseAfterReap lease helper).leaveStale k call helper)
  | builtFailed {closeErr : Bool} (lease helper : Option Nat) (failed : Bool)
      (hph : call.phase = .built lease helper failed)
      (hst : w.c.stale call.epoch call.owner = false)
      (hfai : helper = none ∨ failed = true) :
      Turned w k call (.locked closeErr)
        (({ w with c := { w.c with factoryActive := false } }.abort helper).put k
          { call with phase := .failing helper "helper_start_failed" })
  | builtHelper {closeErr : Bool} (lease : Option Nat) (helper : Nat)
      (hph : call.phase = .built lease (some helper) false)
      (hst : w.c.stale call.epoch call.owner = false) :
      Turned w k call (.locked closeErr) ({ w with c := { w.c with factoryActive := false } }.put k
          { call with phase := .record helper })
  | failingStale {closeErr : Bool} (helper : Option Nat) (reason : String)
      (hph : call.phase = .failing helper reason) (hst : w.c.epoch ≠ call.epoch) :
      Turned w k call (.locked closeErr) (w.leaveStale k call helper)
  | failing (helper : Option Nat) (reason : String) (closeErr : Bool)
      (hph : call.phase = .failing helper reason) (hst : w.c.epoch = call.epoch) :
      Turned w k call (.locked closeErr)
        (({ w with c := (w.c.factoryFailed reason closeErr).1 }.closeLease w.c.lease).leave k call
          helper (some (w.c.factoryFailed reason closeErr).1.report)
          (some (w.c.factoryFailed reason closeErr).2))
  | recordStale {closeErr : Bool} (helper : Nat) (hph : call.phase = .record helper)
      (hst : w.c.stale call.epoch call.owner = true) :
      Turned w k call (.locked closeErr)
        ((({ w with c := { w.c with lease := none } }.abort (some helper)).releaseAfterReap
          w.c.lease (some helper)).leaveStale k call (some helper))
  | record {closeErr : Bool} (helper : Nat) (hph : call.phase = .record helper)
      (hst : w.c.stale call.epoch call.owner = false) :
      Turned w k call (.locked closeErr)
        (({ w with c := { w.c with backend := some helper } }.note k .backend).put k
          { call with phase := .perform helper })
  | performed {answers : Answers} (helper : Nat) (outcome : OperationResult) (err : Option Error)
      (hph : call.phase = .perform helper)
      (hclos : call.request.op = .close → err = none → w.done helper = true) :
      Turned w k call (.performed answers)
        (w.put k { call with phase := .commit helper outcome err })
  | commitStale {ended : Option Sentinel} {closeErr : Bool} (helper : Nat)
      (outcome : OperationResult) (err : Option Error)
      (hph : call.phase = .commit helper outcome err)
      (hst : w.c.stale call.epoch call.owner = true) :
      Turned w k call (.commit ended closeErr) (w.leaveStale k call (some helper))
  | commit {ended : Option Sentinel} {closeErr : Bool} (helper : Nat) (outcome : OperationResult)
      (err : Option Error) (r : Committed) (hph : call.phase = .commit helper outcome err)
      (hst : w.c.stale call.epoch call.owner = false) (hke : w.c.Keeps r.controller)
      (hbz : r.controller.status.busy = false)
      (hends : w.c.Ends call.request.op helper err r) :
      Turned w k call (.commit ended closeErr)
        (((({ w with c := r.controller }.closeLease r.closes).releaseAfterReap r.release
          (some helper)).abort (if r.abort then some helper else none)).leave k call (some helper)
          (some r.result) r.err)

variable {w : World} {call : Call}

lemma enter_turned {k : Nat} (hph : call.phase = .entering)
    (ended : Option Sentinel) : Turned w k call (.enter ended) (w.enter k call ended) := by
  have haway {ended : Option Sentinel} {err : Error} :
      Turned w k call (.enter ended) (w.turnAway k call none err) :=
    .turnedAway w.c none err hph (.inl rfl) (by simp)
  unfold enter
  split
  · exact haway
  split
  · exact haway
  split
  · exact haway
  case h_2 hre =>
  split
  · exact haway
  split
  case h_1 c result err had =>
    obtain ⟨hc, hbat⟩ := Controller.admission_rejected had
    exact .turnedAway c result err hph hc hbat
  case h_2 c had =>
    obtain ⟨hclos, hne, hbz, hac⟩ := Controller.admission_accepted had
    exact .accepted c hph hclos hne hbz hre hac

variable {w' : World}

lemma locked_turned {k : Nat} {cerr : Bool}
    (h : w.locked k call cerr = some w') : Turned w k call (.locked cerr) w' := by
  unfold locked at h
  split at h
  case h_1 lease hph =>
    split at h <;> cases h
    case isTrue hst => exact .holdStale lease hph hst
    case isFalse hst => exact .hold lease hph (eq_false_iff.mpr hst)
  case h_2 hph =>
    split at h <;> cases h
    case isTrue hst => exact .fenceStale hph hst
    case isFalse hst => exact .fence hph (eq_false_iff.mpr hst)
  case h_3 lease hlp failed hph =>
    cases h
    unfold afterFactory
    dsimp only
    split
    case isTrue hst => exact .builtStale lease hlp failed hph hst
    case isFalse hst =>
      split
      · exact .builtHelper lease _ hph (eq_false_iff.mpr hst)
      case h_2 hno =>
        refine .builtFailed lease hlp failed hph (eq_false_iff.mpr hst) ?_
        cases hlp with
        | none => exact .inl rfl
        | some hlp =>
          cases failed with
          | true => exact .inr rfl
          | false => exact absurd rfl (hno hlp rfl)
  case h_4 hlp reason hph =>
    split at h <;> cases h
    case isTrue hst => exact .failingStale hlp reason hph hst
    case isFalse hst => exact .failing hlp reason cerr hph (not_not.mp hst)
  case h_5 hlp hph =>
    split at h <;> cases h
    case isTrue hst => exact .recordStale hlp hph hst
    case isFalse hst => exact .record hlp hph (eq_false_iff.mpr hst)
  · cases h

lemma perform_close {pf : Profile} {req : Request} {src : Source} {answers : Answers}
    (hop : req.op = .close) : (perform pf req src answers).2 = answers.closed := by
  simp [perform, hop]

/-- Every step of a call is one of these. -/
theorem turned {k : Nat} {turn : Turn}
    (h : w.callTurn k call turn = some w') : Turned w k call turn w' := by
  unfold callTurn at h
  split at h
  · split at h
    · cases h
      exact enter_turned (by assumption) _
    · cases h
  case h_2 lease failed =>
    split at h
    · split at h <;> cases h
      · exact .acquired (by assumption)
      · exact .notAcquired lease (by assumption)
    · cases h
  · exact locked_turned h
  · split at h
    · cases h
      exact .spawn _ (by assumption)
    · cases h
  · split at h
    · cases h
      exact .built _ _ _ (by assumption)
    · cases h
  case h_6 answers =>
    split at h
    case h_1 helper hph =>
      split at h
      · cases h
      case isFalse hclose =>
        cases h
        refine .performed helper _ _ hph fun hop hrr => ?_
        rw [perform_close hop] at hrr
        by_contra hdn
        exact hclose ⟨hop, hrr, eq_false_iff.mpr hdn⟩
    · cases h
  · split at h
    case h_1 helper outcome err hph =>
      cases h
      unfold commitCall
      split
      case isTrue hst => exact .commitStale helper outcome err hph hst
      case isFalse hst =>
        obtain ⟨hke, hbz, hends⟩ := w.c.commit_ends call.request.op helper outcome err _
          (w.poisoned helper) _
        exact .commit helper outcome err _ hph (eq_false_iff.mpr hst) hke hbz hends
    · cases h

/-! ### The steps of the world -/

inductive Stepped (w : World) : Event → World → Prop where
  | begins (owner : String) (request : Request) :
      Stepped w (.execute owner request) { w with calls := w.calls ++ [{ owner, request }] }
  | turned {w' : World} {turn : Turn} (k : Nat) (call : Call) (hcl : w.calls[k]? = some call)
      (htur : Turned w k call turn w') : Stepped w (.call k turn) w'
  | invalidated (owner reason : String) :
      Stepped w (.invalidate owner reason) (w.invalidate owner reason)
  | observed : Stepped w .snapshot { w with c := w.c.refreshDeath w.done }
  | finished (h : Nat) : Stepped w (.finish h)
        { w with helpers := w.helpers.modify h fun helper => { helper with finished := true } }
  | poisoned (h : Nat) : Stepped w (.poison h) (w.abort (some h))
  | released (i lease : Nat) (helper : Option Nat) (hi : w.releases[i]? = some (lease, helper))
      (hdn : ∀ h ∈ helper, w.done h = true) :
      Stepped w (.release i) { w.closeLease (some lease) with releases := w.releases.eraseIdx i }
  | reaped (i helper : Nat) (hi : w.reapers[i]? = some helper) (hdn : w.done helper = true) :
      Stepped w (.reap i)
        { w with c := { w.c with helpers := w.c.helpers - 1 }, reapers := w.reapers.eraseIdx i }
  | waited (hshu : w.c.shutdownDone = some false) (hhelp : w.c.helpers = 0) :
      Stepped w .waited { w with c := { w.c with shutdownDone := some true } }
  | shutdown : Stepped w .shutdown
        { w.invalidate "" "daemon_closed" with closers := w.closers ++ [.channel] }
  | channel (i : Nat) (hi : w.closers[i]? = some .channel) :
      Stepped w (.closer i) { w with
        c := { w.c with shutdownDone := w.c.shutdownDone <|> some false }
        closers := w.closers.set i .waiting }
  | freed (i : Nat) (hi : w.closers[i]? = some .waiting) (hshu : w.c.shutdownDone = some true) :
      Stepped w (.closer i) { w with probeReleased := true, closers := w.closers.set i .released }

theorem stepped {e : Event} (h : w.step e = some w') : Stepped w e w' := by
  unfold World.step at h
  split at h
  · exact some.inj h ▸ .begins _ _
  · split at h
    · cases h
    · exact .turned _ _ (by assumption) (turned h)
  · exact some.inj h ▸ .invalidated _ _
  · exact some.inj h ▸ .observed
  · exact some.inj h ▸ .finished _
  · exact some.inj h ▸ .poisoned _
  · split at h
    · cases h
    case h_2 lease helper hi =>
      split_ifs at h with hdn
      refine some.inj h ▸ .released _ lease helper hi fun x hx => ?_
      exact (all_eq_true _ _).mp hdn x hx
  · split at h
    · cases h
    case h_2 helper hi =>
      split_ifs at h with hdn
      exact some.inj h ▸ .reaped _ helper hi hdn
  · split_ifs at h with hwait
    exact some.inj h ▸ .waited hwait.1 hwait.2
  · exact some.inj h ▸ .shutdown
  split at h
  · cases h
  case h_2 closer hi =>
    unfold closerTurn at h
    split at h
    · exact some.inj h ▸ .channel _ hi
    · split_ifs at h with hshu
      exact some.inj h ▸ .freed _ hi hshu
    · cases h

end MultiDap.Trace
