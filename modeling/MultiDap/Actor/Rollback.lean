import MultiDap.Actor.Freshness

/-!
# Rolling back a cold start

A cold start that fails after its `open` was confirmed closes the debugger again. Nothing is queued
behind that operation: once it is started the session either waits for it or has failed closed. The
dispatch goroutine compares the
generation of the executor with the one that confirmed the `open`, but it submits the operation in
another turn, and the executor does not compare again.
-/

namespace MultiDap.Actor

open Machine List

/-- The goroutine has read the generation of the executor and not submitted its operation yet. -/
def Phase.submits : Phase → Bool
  | .submitting _ => true
  | _ => false

lemma Phase.unsubmitted_of_submits {ph : Phase} (h : ph.submits = true) : ph.Unsubmitted := by
  cases ph with
  | submitting => trivial
  | _ => cases h

namespace Runtime

variable {r r' : Runtime} {i : Input} {opts : Options} {inputs : List Input}

/-- The bridge is not replaced while the rollback of a cold start is about to be submitted. -/
def Unraced (r : Runtime) : Input → Prop
  | .replace => ∀ d ∈ r.dispatchers, d.work.kind = .rollbackClose → d.phase.submits = false
  | _ => True

instance (r : Runtime) (i : Input) : Decidable (r.Unraced i) := by
  unfold Unraced
  split <;> infer_instance

/-- The worker takes up a rollback, which closes the debugger. -/
def ClosedAt (opts : Options) (inputs : List Input) (n : Nat) (job : Job) : Prop :=
  ∃ u t, At step (new opts) inputs n u (.worker .take) t ∧ u.jobs.head? = some job ∧
    job.work.kind = .rollbackClose

/-- The actor learns that an `open` has succeeded on this generation of the bridge. -/
def ConfirmedAt (opts : Options) (inputs : List Input) (n g : Nat) : Prop :=
  ∃ u b t c rest inflight reply value, At step (new opts) inputs n u (.completion b) t ∧
    u.complete = c :: rest ∧ u.inflight = some inflight ∧ inflight.work = .open reply ∧
    u.judge inflight c = .finished ∧ c.result = .ok value ∧ c.generation = g

/-! ### What is rolled back -/

/-- A caller of the run asked for the session to be opened. -/
def OpenAsked (inputs : List Input) (caller : ReplyID) : Prop :=
  ∃ k : Nat, inputs[k]? = some (.command (.open caller))

/-- A rollback answers the caller of `Open`, and undoes an open that this run has confirmed. -/
def RolledBy (opts : Options) (inputs : List Input) (w : Work) : Prop :=
  ∃ operation caller err g, w = .rollbackClose operation (some caller) err g ∧
    opts.openMode = .cold ∧ g ≠ 0 ∧ (∃ k, ConfirmedAt opts inputs k g) ∧ OpenAsked inputs caller

variable {n : Nat} {g : Nat}

lemma ConfirmedAt.append (h : ConfirmedAt opts inputs n g) (later : List Input) :
    ConfirmedAt opts (inputs ++ later) n g := by
  obtain ⟨u, b, t, c, rest, fl, rp, val, hat, h⟩ := h
  exact ⟨u, b, t, c, rest, fl, rp, val, hat.append later, h⟩

lemma ConfirmedAt.take {m : Nat} (h : ConfirmedAt opts (inputs.take m) n g) :
    n < m ∧ ConfirmedAt opts inputs n g := by
  obtain ⟨u, b, t, c, rest, fl, rp, val, hat, h⟩ := h
  exact ⟨hat.take.1, u, b, t, c, rest, fl, rp, val, hat.take.2, h⟩

variable {caller : ReplyID}

lemma OpenAsked.append (h : OpenAsked inputs caller) (later : List Input) :
    OpenAsked (inputs ++ later) caller := by
  obtain ⟨k, hk⟩ := h
  refine ⟨k, ?_⟩
  rw [getElem?_append_left (lt_length hk), hk]

lemma OpenAsked.take {m : Nat} (h : OpenAsked (inputs.take m) caller) :
    OpenAsked inputs caller := by
  rw [← take_append_drop m inputs]
  exact h.append _

variable {w : Work}

lemma RolledBy.append (h : RolledBy opts inputs w) (later : List Input) :
    RolledBy opts (inputs ++ later) w := by
  obtain ⟨op, caller, err, g, hw, hcold, hne, ⟨k, hk⟩, hask⟩ := h
  exact ⟨op, caller, err, g, hw, hcold, hne, ⟨k, hk.append later⟩, hask.append later⟩

structure Booted (opts : Options) (inputs : List Input) (r : Runtime) : Prop where
  options : r.opts = opts
  confirmed : r.openSucceeded = true → ∃ k, ConfirmedAt opts inputs k r.openGeneration
  bootstraps : r.opened = false → ∀ w ∈ r.outstanding, w.bootstraps = true →
    ∃ caller, w.reply = some caller ∧ OpenAsked inputs caller
  rollbacks : ∀ w ∈ r.outstanding, w.kind = .rollbackClose → RolledBy opts inputs w

lemma booted_new (opts : Options) : Booted opts [] (new opts) := by
  constructor <;> simp [new, outstanding]

variable {fl : Inflight}

lemma mem_outstanding (hin : r.inflight = some fl) : fl.work ∈ r.outstanding :=
  mem_append_left _ (by simp [hin])

variable {rest : List Completion} {b : Option Error} {c : Completion}

section step

variable (ho : r.Orderly) (hru : run step (new opts) inputs = some r)
  (hst : r.step i = some r')

include ho hru hst

/-- The message about an `open` that has succeeded. -/
lemma confirmedAt_last {rp : ReplyID} {val : Value} (hi : i = .completion b)
    (hc : r.complete = c :: rest) (hin : r.inflight = some fl)
    (hwk : fl.work = .open rp) (hok : r.handed c = some (.ok val)) :
    ConfirmedAt opts (inputs ++ [i]) inputs.length fl.generation ∧ r.judge fl c = .finished := by
  subst hi
  have hmat := ho.matches_of_handed hc hin hok
  obtain ⟨hv | hv, hres⟩ := ho.verdict_of_handed hc hin hok
  · exact ⟨⟨r, b, r', c, rest, fl, rp, val, at_last hru hst, hc, hin, hwk, hv,
      hres, hmat.2.2.1⟩, hv⟩
  have hio := (judge_isolated (.inl hv)).1
  rw [hwk] at hio
  cases hio

lemma Booted.confirmed_step (h : Booted opts inputs r) (hsuc : r'.openSucceeded = true) :
    ∃ k, ConfirmedAt opts (inputs ++ [i]) k r'.openGeneration := by
  rcases (advances_step hst).confirmed hsuc with ⟨hold, hge⟩ |
    ⟨b, c, rest, fl, reply, value, hi, hc, hin, hwk, hok, hge⟩
  · obtain ⟨k, hk⟩ := h.confirmed hold
    exact ⟨k, hge ▸ hk.append [i]⟩
  obtain ⟨hat, hv⟩ := confirmedAt_last ho hru hst hi hc hin hwk hok
  rcases hge with ⟨hge, -⟩ | hun
  · exact ⟨_, hge ▸ hat⟩
  · simp [hv] at hun

lemma Booted.undoes (h : Booted opts inputs r) (hi : i = .completion b)
    (hc : r.complete = c :: rest) (hin : r.inflight = some fl)
    (hund : r.Undoes fl c g) : ∃ k, ConfirmedAt opts (inputs ++ [i]) k g := by
  rcases hund with ⟨rfl, hsuc⟩ | ⟨rp, val, hwk, hok, hge⟩
  · obtain ⟨k, hk⟩ := h.confirmed hsuc
    exact ⟨k, hk.append [i]⟩
  obtain ⟨hat, hv⟩ := confirmedAt_last ho hru hst hi hc hin hwk hok
  rcases hge with ⟨rfl, -⟩ | hun
  · exact ⟨_, hat⟩
  · simp [hv] at hun

end step

/-- An operation of the bootstrap is queued by `Open`, or behind another one. -/
lemma Booted.bootstraps_given (h : Booted opts inputs r) (hope : r.opened = false)
    (hgiv : Gives i r w) (hw : w.bootstraps = true) :
    ∃ caller, w.reply = some caller ∧ OpenAsked (inputs ++ [i]) caller := by
  cases hgiv with
  | accepted _ _ hi haccep =>
    cases haccep with
    | opens rp hcom => exact ⟨rp, rfl, inputs.length, by simp [hi, hcom]⟩
    | unbound _ _ hop => simp [hope] at hop
    | inspection _ _ _ _ hbou =>
      cases w <;> simp [Work.bootstraps, Work.boundTo] at hw hbou
    | cleanup | trace => cases hw
  | tick _ _ hop => simp [hope] at hop
  | follows _ fl hin hfol =>
    have hbe := h.bootstraps hope _ (mem_outstanding hin)
    generalize fl.work = before at hfol hbe
    cases hfol with
    | cores | state =>
      obtain ⟨caller, hre, hask⟩ := hbe rfl
      exact ⟨caller, hre, hask.append [i]⟩
    | cleanup => cases hw
  | rollsBack => cases hw

lemma Gives.rollback (h : Gives i r w) (hw : w.kind = .rollbackClose) :
    ∃ b c rest fl op err g, i = .completion b ∧ r.complete = c :: rest ∧
      r.inflight = some fl ∧ fl.work.bootstraps = true ∧ r.opening = true ∧
      r.opts.openMode = .cold ∧ g ≠ 0 ∧ r.Undoes fl c g ∧
      w = .rollbackClose op fl.work.reply err g := by
  cases h with
  | accepted _ _ _ haccep =>
    cases haccep with
    | unbound _ hunb => exact absurd hw hunb.2.2
    | inspection _ _ _ _ hbou =>
      cases w <;> simp [Work.kind, Work.boundTo] at hw hbou
    | _ => cases hw
  | tick _ hunb => exact absurd hw hunb.2.2
  | follows _ _ _ hfol => exact absurd hw hfol.unbound.2.2
  | rollsBack b c rest fl op err g hi hc hin hboo hopeni hlive hcold hne hge hund =>
    exact ⟨b, c, rest, fl, op, err, g, hi, hc, hin, hboo, hopeni, hcold, hne, hund, rfl⟩

lemma Booted.step (h : Booted opts inputs r) (hb : r.Base) (ho : r.Orderly)
    (hru : run step (new opts) inputs = some r) (hst : r.step i = some r') :
    Booted opts (inputs ++ [i]) r' := by
  have hadv := advances_step hst
  refine ⟨hadv.opts.trans h.options, h.confirmed_step ho hru hst, fun hope w hw hboo => ?_,
    fun w hw hkd => ?_⟩
  · have hbe : r.opened = false :=
      Bool.eq_false_iff.mpr fun hop => by simp [hadv.opened hop] at hope
    rcases hadv.works w hw with hw | hgiv
    · obtain ⟨caller, hre, hask⟩ := h.bootstraps hbe w hw hboo
      exact ⟨caller, hre, hask.append [i]⟩
    · exact h.bootstraps_given hbe hgiv hboo
  rcases hadv.works w hw with hw | hgiv
  · exact (h.rollbacks w hw hkd).append [i]
  obtain ⟨b, c, rest, fl, operation, err, g, hi, hc, hin, hboo, hopeni, hcold, hne,
    hund, rfl⟩ := hgiv.rollback hkd
  obtain ⟨caller, hre, hask⟩ :=
    h.bootstraps (hb.unopened hopeni) _ (mem_outstanding hin) hboo
  rw [hre]
  exact ⟨operation, caller, err, g, rfl, h.options ▸ hcold, hne,
    h.undoes ho hru hst hi hc hin hund, hask.append [i]⟩

lemma orderly_run (hru : run step (new opts) inputs = some r) : r.Base ∧ r.Traffic ∧ r.Orderly :=
  traffic_invariant (G := {}) (fun _ _ _ ht h hm => h.move ht hm) (orderly_new opts)
    (Guard.admits_all _ _) hru

theorem booted (hru : run step (new opts) inputs = some r) : Booted opts inputs r :=
  run_history (H := Booted opts) (booted_new opts) (fun _ _ _ _ hru h hst => by
    obtain ⟨hb, -, ho⟩ := orderly_run hru
    exact h.step hb ho hru hst) hru

/-! ### Where it is submitted -/

/-- What was read of the executor is still true, unless the executor is closed and takes nothing. -/
structure Aimed (r : Runtime) : Prop where
  submitting : ∀ d ∈ r.dispatchers, d.work.kind = .rollbackClose →
    d.work.expectedGeneration ≠ 0 → d.phase.submits = true →
      r.executor.closed = true ∨ r.executor.generation = d.work.expectedGeneration
  accepted : ∀ job ∈ r.accepted, job.work.kind = .rollbackClose →
    job.work.expectedGeneration ≠ 0 → job.generation = job.work.expectedGeneration

lemma aimed_new (opts : Options) : (new opts).Aimed := by
  constructor <;> simp [new, Runtime.accepted]

lemma Aimed.weaken (h : r.Aimed)
    (hexe : r'.executor.generation = r.executor.generation ∨ r'.executor.closed = true)
    (hcl : r.executor.closed = true → r'.executor.closed = true)
    (hdis : ∀ d ∈ r'.dispatchers, d.phase.submits = true → d ∈ r.dispatchers)
    (hacce : ∀ job ∈ r'.accepted, job ∈ r.accepted) : r'.Aimed := by
  refine ⟨fun d hd hkd hne hph => ?_, fun job hjo => h.accepted job (hacce job hjo)⟩
  rcases hexe with hge | hc
  · rw [hge]
    exact (h.submitting d (hdis d hd hph) hkd hne hph).imp_left hcl
  · exact .inl hc

variable {d : Dispatcher}

lemma Aimed.dispatched (h : r.Aimed) (ht : r.Traffic) (hd : d ∈ r.dispatchers)
    (htn : r.Dispatched d r') : r'.Aimed := by
  have hended (d' : Dispatcher) (hd' : d' ∈ r.dispatchers.filter (·.token != d.token))
      (_ : d'.phase.submits = true) : d' ∈ r.dispatchers := mem_of_mem_filter hd'
  cases htn with
  | read _ _ hexp =>
    refine ⟨fun d' hd' hkd hne hsub => ?_, h.accepted⟩
    obtain ⟨d₀, hd₀, hto, hwk, rfl | ⟨hsm, -⟩⟩ := mem_setPhase hd'
    · exact h.submitting d' hd₀ hkd hne hsub
    -- this is the goroutine that has just compared the generations
    obtain rfl := ht.eq_of_token hd hd₀ hsm
    rw [hwk] at hne ⊢
    exact .inr (hexp hne)
  | refuse _ _ _ _ _ hexe =>
    exact h.weaken (.inl hexe.1) hexe.2.trans hended fun _ hjo => hjo
  | submit _ op exe hph _ hexe =>
    obtain ⟨hge, -, hop⟩ := hexe
    refine ⟨fun d' hd' hkd hne hsub => ?_, fun job hjo hkd hne => ?_⟩
    · obtain ⟨d₀, hd₀, -, -, rfl | ⟨-, hwai⟩⟩ := mem_setPhase hd'
      · have haim := h.submitting d' hd₀ hkd hne hsub
        exact .inr (hge.trans (haim.resolve_left (by simp [hop])))
      · simp [hwai, Phase.submits] at hsub
    have hjo : job ∈ r.accepted ∨ job = ⟨d.token, exe.generation, op, d.work⟩ := by
      simpa [Runtime.accepted, or_assoc, Runtime.setPhase, deliver] using hjo
    rcases hjo with hjo | rfl
    · exact h.accepted job hjo hkd hne
    · have haim := h.submitting d hd hkd hne (by simp [hph, Phase.submits])
      exact hge.trans (haim.resolve_left (by simp [hop]))
  | _ => exact h.weaken (.inl rfl) id hended fun _ hjo => hjo

variable {job : Job}

lemma mem_report {res : Except Error Value}
    (hd : d ∈ (r.report job res).dispatchers) (hu : d.phase.Unsubmitted) : d ∈ r.dispatchers := by
  obtain ⟨d₀, hd₀, rfl⟩ := mem_map.mp hd
  cases hph : d₀.phase with
  | waiting =>
    simp only [hph] at hu
    split_ifs at hu <;> simp [hph, Phase.Unsubmitted] at hu
  | _ => simpa [hph] using hd₀

lemma Aimed.worked (h : r.Aimed) (htn : r.Worked r') : r'.Aimed := by
  cases htn with
  | take _ _ hid hjobs =>
    exact h.weaken (.inl rfl) id (fun _ hd _ => hd) fun job' hjo => by
      simpa [Runtime.accepted, hid, hjobs] using hjo
  | transact _ _ _ _ _ hw =>
    exact h.weaken (.inl rfl) id (fun _ hd _ => hd) fun job' hjo => by
      simpa [Runtime.accepted, hw] using hjo
  | inspect _ _ _ _ _ hw =>
    rw [withLedger_eq]
    exact h.weaken (.inl rfl) id (fun _ hd _ => hd) fun job' hjo => by
      simpa [Runtime.accepted, hw] using hjo
  | report =>
    refine h.weaken (.inl rfl) id (fun d hd hsub => ?_) fun job' hjo => ?_
    · exact mem_report hd (Phase.unsubmitted_of_submits hsub)
    · exact mem_append_right _ (by simpa [Runtime.accepted, Runtime.report] using hjo)

lemma Handled.goroutines {r₁ : Runtime} (h : Handled i r r₁) :
    (∀ d ∈ r₁.startNext.dispatchers, d ∈ r.dispatchers ∨ d.phase = .reading) ∧
      r₁.startNext.accepted = r.accepted := by
  obtain ⟨r₂, hq, hen⟩ := startNext_spec r₁
  obtain ⟨-, hdisp, hac, -⟩ := accepted_of_around (hq none).around
  rcases hen with heq | ⟨work, rest, -, -, -, -, heq⟩ <;> rw [heq]
  · rw [hdisp, hac, h.dispatchers, h.accepted]
    exact ⟨fun d hd => .inl hd, rfl⟩
  refine ⟨fun d hd => ?_, hac.trans h.accepted⟩
  rcases mem_concat.mp hd with hd | rfl
  · rw [hdisp, h.dispatchers] at hd
    exact .inl hd
  · exact .inr rfl

lemma Aimed.step (h : r.Aimed) (ht : r.Traffic) (hunr : r.Unraced i)
    (hst : r.step i = some r') : r'.Aimed := by
  cases stepped hst with
  | turn r₁ hhandled =>
    obtain ⟨hdis, hacce⟩ := hhandled.goroutines
    have hold (d : Dispatcher) (hd : d ∈ r₁.startNext.dispatchers)
        (hsub : d.phase.submits = true) : d ∈ r.dispatchers :=
      (hdis d hd).resolve_right fun hph => by simp [hph, Phase.submits] at hsub
    have hboo := hhandled.startNext.toBoots
    rcases hboo.executor with hge | hcl | rfl
    · exact h.weaken (.inl hge) hboo.closed hold fun _ hjo => hacce ▸ hjo
    · exact h.weaken (.inr hcl) hboo.closed hold fun _ hjo => hacce ▸ hjo
    · refine ⟨fun d hd hkd _ hsub => ?_, hacce ▸ h.accepted⟩
      simp [hunr d (hold d hd hsub) hkd] at hsub
  | dispatch _ _ _ _ _ hd htn => exact h.dispatched ht hd htn
  | worker _ _ _ htn => exact h.worked htn
  | replace hi =>
    subst hi
    unfold replaceBridge
    split_ifs
    · exact h
    · refine ⟨fun d hd hkd _ hsub => ?_, h.accepted⟩
      simp [hunr d hd hkd] at hsub
  | receive | trace => exact { h with }

theorem aimed (hru : run step (new opts) inputs = some r)
    (hunr : Along step Unraced (new opts) inputs) : r.Aimed := by
  refine run_history (H := fun inputs r => Along step Unraced (new opts) inputs → r.Aimed)
    (fun _ => aimed_new opts) (fun inputs u i t hru h hst hunr => ?_) hru hunr
  obtain ⟨hbe, hla⟩ := (along_append hru).mp hunr
  exact (h hbe).step (orderly_run hru).2.1 hla.1 hst

/-! ### How often it is submitted -/

/-- The session waits for the rollback of this token, or has failed closed. -/
def Rolling (token : Nat) (r : Runtime) : Prop :=
  r.faulted = true ∨ ∃ inflight, r.inflight = some inflight ∧ inflight.token = token ∧
    inflight.work.kind = .rollbackClose

variable {tok : Nat}

lemma Rolling.step (h : Rolling tok r) (hst : r.step i = some r') : Rolling tok r' := by
  have hadv := advances_step hst
  rcases h with hf | ⟨fl, hin, hto, hkd⟩
  · exact .inl (hadv.faulted hf)
  rcases hadv.rolls fl hin hkd with hf | ⟨after, haft, hsm, hwk⟩
  · exact .inl hf
  · exact .inr ⟨after, haft, hsm.trans hto, hwk ▸ hkd⟩

lemma Started.rollback_unique {tok tok' : Nat} {w w' : Work}
    (h : Started opts inputs tok w) (hw : w.kind = .rollbackClose)
    (h' : Started opts inputs tok' w') (hw' : w'.kind = .rollbackClose) : tok = tok' := by
  obtain ⟨n, u, i, t, fl, hat, -, hin, hto, rfl, -, hlive⟩ := h
  obtain ⟨m, u', i', t', fl', hat', -, hin', hto', rfl, -, hlv'⟩ := h'
  -- the later of the two states is live, so that it waits for the rollback of the earlier one
  have hke {n m : Nat} {t t' : Runtime} {fl fl' : Inflight} {tok : Nat}
      (hnm : n ≤ m) (ht : run Runtime.step (new opts) (inputs.take (n + 1)) = some t)
      (ht' : run Runtime.step (new opts) (inputs.take (m + 1)) = some t')
      (hin : t.inflight = some fl) (hto : fl.token = tok)
      (hkd : fl.work.kind = .rollbackClose) (hin' : t'.inflight = some fl')
      (hlv' : t'.faulted = false) : fl'.token = tok := by
    have hroll : Rolling tok t' :=
      run_invariant (fun _ _ _ h hst => Rolling.step h hst) (.inr ⟨fl, hin, hto, hkd⟩)
        (run_between (Nat.succ_le_succ hnm) ht ht')
    rcases hroll with hf | ⟨other, hother, hsm, -⟩
    · simp [hlv'] at hf
    · obtain rfl : fl' = other := by simpa [hin'] using hother
      exact hsm
  rcases Nat.le_total n m with hnm | hmn
  · exact (hke hnm hat.run hat'.run hin hto hw hin' hlv').symm.trans hto'
  · exact hto.symm.trans (hke hmn hat'.run hat.run hin' hto' hw' hin hlive)

/-- The worker has taken up the operation of this token. -/
structure Spent (token : Nat) (r : Runtime) : Prop where
  le : token ≤ r.nextToken
  submitted : ∀ d ∈ r.dispatchers, d.phase.Unsubmitted → d.token ≠ token
  queue : ∀ job ∈ r.jobs, job.token ≠ token

lemma Spent.dispatched (h : Spent tok r) (hd : d ∈ r.dispatchers)
    (htn : r.Dispatched d r') : Spent tok r' := by
  have hended (d' : Dispatcher) (hd' : d' ∈ r.dispatchers.filter (·.token != d.token)) :
      d'.phase.Unsubmitted → d'.token ≠ tok := h.submitted d' (mem_of_mem_filter hd')
  cases htn with
  | read _ hph =>
    refine { h with submitted := fun d' hd' hu => ?_ }
    obtain ⟨d₀, hd₀, hto, -, rfl | ⟨hsm, -⟩⟩ := mem_setPhase hd'
    · exact h.submitted d' hd₀ hu
    · rw [hto, hsm]
      exact h.submitted d hd (by simp [hph, Phase.Unsubmitted])
  | submit _ _ _ hph =>
    refine ⟨h.le, fun d' hd' hu => ?_, fun job hjo => ?_⟩
    · obtain ⟨d₀, hd₀, -, -, rfl | ⟨-, hwai⟩⟩ := mem_setPhase hd'
      · exact h.submitted d' hd₀ hu
      · simp [hwai, Phase.Unsubmitted] at hu
    rcases mem_concat.mp hjo with hjo | rfl
    · exact h.queue job hjo
    · exact h.submitted d hd (by simp [hph, Phase.Unsubmitted])
  | _ => exact ⟨h.le, hended, h.queue⟩

lemma Spent.move {G : Guard} (h : Spent tok r) (hm : Move G r r') : Spent tok r' := by
  cases hm with
  | sample | bootstrap => rw [absorb_eq]; exact { h with }
  | reducerErr | reducerFault =>
    rw [actions_eq]
    exact { h with }
  | allocate => rw [withLedger_eq]; exact { h with }
  | launch =>
    refine ⟨h.le.trans (Nat.le_succ _), fun d hd hu => ?_, h.queue⟩
    rcases mem_concat.mp hd with hd | rfl
    · exact h.submitted d hd hu
    · exact (Nat.ne_of_lt (Nat.lt_succ_of_le h.le)).symm
  | dispatch _ _ hd htn => exact h.dispatched hd htn
  | worker _ htn =>
    cases htn with
    | take job _ _ hjobs =>
      exact { h with queue := fun j hj => h.queue j (hjobs ▸ mem_cons_of_mem job hj) }
    | transact => exact { h with }
    | inspect => rw [withLedger_eq]; exact { h with }
    | report =>
      exact { h with submitted := fun d hd hu => h.submitted d (mem_report hd hu) hu }
  | _ => exact { h with }

lemma spent_of_take (ht : r.Traffic) (hhead : r.jobs.head? = some job)
    (hst : r.step (.worker .take) = some r') : Spent job.token r' := by
  simp only [Runtime.step, workerTurn] at hst
  split at hst
  · rename_i job' jobs hid hjobs
    cases hst
    obtain rfl : job' = job := by simpa [hjobs] using hhead
    have hjo : job' ∈ r.accepted := by simp [Runtime.accepted, hjobs]
    refine ⟨ht.accepted_le job' hjo, fun d hd hu => (ht.unsubmitted d hd hu job' hjo).symm,
      fun j hj hto => ?_⟩
    have huni := ht.unique
    simp only [Runtime.accepted, hid, hjobs, Option.map_none, Option.toList_none, nil_append,
      map_cons, nodup_cons] at huni
    exact huni.1 (mem_map.mpr ⟨j, hj, hto⟩)
  · cases hst

/-! ### The end of a rollback -/

lemma rollback_failed {op : Operation} {err e : Error}
    (hc : r.complete = c :: rest) (hin : r.inflight = some fl)
    (hwk : fl.work = .rollbackClose op (some caller) err g)
    (hha : r.handed c = some (.error e)) (hst : r.step (.completion b) = some r') :
    ∃ told, r'.replies = r.replies ++ told ∧
      ⟨caller, .none, some (err.join (.under "actor: cold startup rollback close" e))⟩ ∈ told := by
  obtain ⟨r₁, hqu, heq⟩ := completeWork_rollback hin hwk hha rest b
  simp only [Runtime.step, hc, turn] at hst
  split_ifs at hst
  cases hst
  set both := err.join (.under "actor: cold startup rollback close" e) with hboth
  set cleared : Runtime := { r₁ with opening := false, openSucceeded := false, openGeneration := 0 }
  have hen : { r with complete := rest }.completeWork c b =
      (cleared.failClosed .rollbackClose both).respond caller .none (some both) := heq
  have hfai : Quiet none cleared (cleared.failClosed .rollbackClose both) := quiet_failClosed _ _
  obtain ⟨before, hbe, -⟩ := (hqu none).replies
  obtain ⟨drained, hdra, -⟩ := hfai.replies
  obtain ⟨-, -, -, later, hlat, -⟩ :=
    startNext_quiet ((cleared.failClosed .rollbackClose both).respond caller .none (some both))
  have hover : cleared.replies = r.replies ++ before := hbe
  rw [hen, hlat]
  refine ⟨before ++ drained ++ [⟨caller, .none, some both⟩] ++ later, ?_, by simp⟩
  simp only [respond, hdra, hover, append_assoc]

/-! ### Runs -/

lemma ClosedAt.rolledBy (h : ClosedAt opts inputs n job) :
    ∃ op caller err g, job.work = .rollbackClose op (some caller) err g ∧
      opts.openMode = .cold ∧ g ≠ 0 ∧ ∃ k < n, ConfirmedAt opts inputs k g := by
  obtain ⟨u, t, hat, hhead, hkd⟩ := h
  have hjo : job ∈ u.accepted := mem_append_right _ (mem_of_mem_head? hhead)
  obtain ⟨m, v, i, w, fl, hsa, -, hin, -, hwk, -⟩ :=
    (recorded hat.before).accepted job hjo
  obtain ⟨op, caller, err, g, hrol, hcold, hne, ⟨k, hk⟩, -⟩ :=
    (booted hsa.run).rollbacks _ (mem_outstanding hin) (hwk ▸ hkd)
  obtain ⟨hkm, hk⟩ := hk.take
  obtain ⟨hkn, hk⟩ := hk.take
  exact ⟨op, caller, err, g, hwk ▸ hrol, hcold, hne, k, hkn, hk⟩

lemma ClosedAt.unique {m : Nat} {job job' : Job} (h : ClosedAt opts inputs n job)
    (h' : ClosedAt opts inputs m job') : n = m := by
  -- both times it is the operation of one token, and a token is taken once
  have hle {n m : Nat} {job job' : Job} (h : ClosedAt opts inputs n job)
      (h' : ClosedAt opts inputs m job') : m ≤ n := by
    obtain ⟨u, t, hat, hhead, hkd⟩ := h
    obtain ⟨u', t', hat', hhead', hkd'⟩ := h'
    by_contra hlt
    have hjo' : job' ∈ u'.accepted := mem_append_right _ (mem_of_mem_head? hhead')
    have hru := run_between (Nat.lt_of_not_le hlt) hat.run hat'.before
    have hb := (orderly_run hat.run).1
    have hspe : Spent job.token u' := (run_moves hb (Guard.admits_all _ _) hru).invariant
      (fun _ _ _ h hm => h.move hm) hb (spent_of_take (orderly_run hat.before).2.1 hhead hat.after)
    refine hspe.queue job' (mem_of_mem_head? hhead') ?_
    have hjo : job ∈ u.accepted := mem_append_right _ (mem_of_mem_head? hhead)
    have hsa := ((recorded hat.before).accepted job hjo).append (inputs.drop n)
    have hsa' := ((recorded hat'.before).accepted job' hjo').append (inputs.drop m)
    rw [take_append_drop] at hsa hsa'
    exact hsa'.rollback_unique hkd' hsa hkd
  exact Nat.le_antisymm (hle h' h) (hle h h')

/-- The debugger is closed at most once, after a cold start has confirmed the `open` on the same
generation of the bridge, and an error of the rollback is added to the one it follows. -/
theorem rollback_close_once (hunr : Along step Unraced (new opts) inputs) :
    (∀ n m job job', ClosedAt opts inputs n job → ClosedAt opts inputs m job' → n = m) ∧
    (∀ n job, ClosedAt opts inputs n job → opts.openMode = .cold ∧
      ∃ k < n, ConfirmedAt opts inputs k job.generation) ∧
    ∀ n u b t c rest inflight operation reply err g e,
      At step (new opts) inputs n u (.completion b) t → u.complete = c :: rest →
      u.inflight = some inflight → inflight.work = .rollbackClose operation reply err g →
      u.handed c = some (.error e) →
      ∃ caller told both, reply = some caller ∧ OpenAsked inputs caller ∧
        t.replies = u.replies ++ told ∧ ⟨caller, .none, some both⟩ ∈ told ∧
        both = err.join (.under "actor: cold startup rollback close" e) ∧
        ∀ s, both.is s = (err.is s || e.is s) := by
  refine ⟨fun n m job job' h h' => h.unique h', fun n job h => ?_, ?_⟩
  · obtain ⟨operation, caller, err, g, hwk, hcold, hne, k, hkn, hk⟩ := h.rolledBy
    obtain ⟨u, t, hat, hhead, hkd⟩ := h
    rw [← take_append_drop n inputs] at hunr
    have haim := aimed hat.before ((along_append hat.before).mp hunr).1
    have hge := haim.accepted job (mem_append_right _ (mem_of_mem_head? hhead)) hkd
      (by rw [hwk]; exact hne)
    rw [hwk] at hge
    exact ⟨hcold, k, hkn, hge ▸ hk⟩
  intro n u b t c rest inflight operation reply err g e hat hc hin hwk hha
  obtain ⟨operation', caller, err', g', hrol, -, -, -, hask⟩ :=
    (booted hat.before).rollbacks _ (mem_outstanding hin) (by rw [hwk]; rfl)
  obtain ⟨rfl, rfl, rfl, rfl⟩ : operation = operation' ∧ reply = some caller ∧ err = err' ∧
      g = g' := by
    simpa [hwk] using hrol
  obtain ⟨told, htold, hme⟩ := rollback_failed hc hin hwk hha hat.after
  exact ⟨caller, told, _, rfl, hask.take, htold, hme, rfl,
    fun s => by simp [Error.is, Error.join, Error.under]⟩

/-- The topology cannot be read after a cold start, and the rollback fails as well. -/
def rolledBack : List Input :=
  .command (.open 0) :: perform 1 (.ok .nothing) ++ perform 2 (.error (.of .poisoned)) ++
    perform 3 (.error (.of .protocol))

/-- The worker is about to close the debugger, for a job of this generation. -/
def closes (g : Nat) (r : Runtime) : Bool :=
  r.jobs.head?.any (fun job => job.work.kind == .rollbackClose && job.generation == g) &&
    (r.step (.worker .take)).isSome

lemma closedAt_of_closes (hinp : inputs[n]? = some (.worker .take))
    (h : (run step (new opts) (inputs.take n)).any (closes g) = true) :
    ∃ job, ClosedAt opts inputs n job ∧ job.generation = g := by
  obtain ⟨u, hu, hclos⟩ := exists_run (P := fun u => closes g u = true) (by simpa using h)
  simp only [closes, Bool.and_eq_true] at hclos
  obtain ⟨hhead, hst⟩ := hclos
  obtain ⟨job, hhead, hjo⟩ := (Option.any_eq_true _ _).mp hhead
  obtain ⟨t, ht⟩ := Option.isSome_iff_exists.mp hst
  simp only [Bool.and_eq_true, beq_iff_eq] at hjo
  exact ⟨job, ⟨u, t, ⟨hinp, hu, ht⟩, hhead, hjo.1⟩, hjo.2⟩

theorem rollback_close_once_rolled : ∃ job, ClosedAt {} rolledBack 18 job ∧ job.generation = 1 ∧
    ∃ k < 18, ConfirmedAt {} rolledBack k 1 := by
  obtain ⟨job, hcl, hge⟩ : ∃ job, ClosedAt {} rolledBack 18 job ∧ job.generation = 1 :=
    closedAt_of_closes rfl (by decide +kernel)
  have hunr : Along step Unraced (new {}) rolledBack := by decide +kernel
  exact ⟨job, hcl, hge, hge ▸ ((rollback_close_once hunr).2.1 18 job hcl).2⟩

/-- The rollback of that start is about to be submitted when the bridge is replaced. -/
def racedRollback : List Input :=
  .command (.open 0) :: perform 1 (.ok .nothing) ++ perform 2 (.error (.of .poisoned)) ++
    [.dispatch 3 .read, .replace, .dispatch 3 (.submit none), .worker .take]

/-- The debugger is closed on the replacement, where nothing was ever opened. -/
theorem rollback_close_replaced : ∃ job, ClosedAt {} racedRollback 18 job ∧ job.generation = 2 ∧
    ∀ k, ¬ ConfirmedAt {} racedRollback k 2 := by
  obtain ⟨job, hcl, hge⟩ : ∃ job, ClosedAt {} racedRollback 18 job ∧ job.generation = 2 :=
    closedAt_of_closes rfl (by decide +kernel)
  -- whatever the actor hears of the replacement, it hears after the bootstrap
  have hhe : ∀ k < racedRollback.length,
      (run step (new {}) (racedRollback.take k)).all (fun u => decide (∀ c ∈ u.complete,
        c.generation = 2 → ∀ inflight ∈ u.inflight, inflight.work.kind ≠ .open)) = true := by
    decide +kernel
  refine ⟨job, hcl, hge, fun k hk => ?_⟩
  obtain ⟨u, b, t, c, rest, inflight, reply, value, hat, hc, hin, hwk, -, -, hge⟩ := hk
  have hal := hhe k hat.lt
  rw [hat.before] at hal
  refine of_decide_eq_true hal c (by simp [hc]) hge inflight (by simp [hin]) ?_
  rw [hwk]
  rfl

end Runtime

end MultiDap.Actor
